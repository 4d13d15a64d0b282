import Rebuild.Path

/-!
# Command-line arguments

A subcommand with its options. Long options take their value behind an equals sign or as the next
argument; two dashes end the options. The first thing that is wrong ends the reading, and so does a
request for help or for the version.
-/

namespace Rebuild

/-- The two sides of a classpath. -/
structure ClasspathSides where
  previous : List Path
  current : List Path
deriving DecidableEq, Repr

inductive Command
  | analyze (sides : ClasspathSides) (archive : Path) (json : Bool)
  | classpath (sides : ClasspathSides) (json : Bool)
  | baselineName (archive : Path) (json : Bool)
deriving DecidableEq, Repr

structure Invocation where
  config : Option Path
  command : Command
deriving DecidableEq, Repr

inductive CommandName
  | analyze | classpath | baselineName
deriving DecidableEq, Repr

def CommandName.text : CommandName → String
  | analyze => "analyze"
  | classpath => "classpath"
  | baselineName => "baseline-name"

def CommandName.all : List CommandName := [analyze, classpath, baselineName]

/-- Why the reading ended before all arguments were read. -/
inductive ArgumentStop
  | misuse
  | version
  /-- Help on the program or on one command. -/
  | help (topic : Option CommandName)
  /-- Help on asking for help. -/
  | helpOnHelp
deriving DecidableEq, Repr

/-- The exit code of the program. Help that is asked for is no failure. -/
def ArgumentStop.exitCode : ArgumentStop → Nat
  | misuse => 2
  | _ => 0

namespace Arguments

inductive OptionName
  | config | previous | current | archive | json
deriving DecidableEq, Repr

namespace OptionName

def text : OptionName → String
  | config => "config"
  | previous => "previous"
  | current => "current"
  | archive => "archive"
  | json => "json"

/-- A flag has no value. -/
def isFlag : OptionName → Bool
  | json => true
  | _ => false

def isRepeatable : OptionName → Bool
  | previous | current => true
  | _ => false

/-- The options that a command knows, in the order in which help lists them; `none` is the program
itself. -/
def known : Option CommandName → List OptionName
  | none => [config]
  | some .analyze => [previous, current, archive, config, json]
  | some .classpath => [previous, current, json, config]
  | some .baselineName => [json, config]

end OptionName

/-- The options that are read so far, in order, with empty values for flags. -/
abbrev Options := List (OptionName × String)

namespace Options

def values (options : Options) (name : OptionName) : List Path :=
  options.filterMap fun (other, value) => if other = name then some (.ofString value) else none

def has (options : Options) (name : OptionName) : Bool :=
  options.any fun (other, _) => other == name

end Options

/-- Adds an option; only some may stand more than once. -/
def addOption (options : Options) (name : OptionName) (value : String) :
    Except ArgumentStop Options :=
  if options.has name && !name.isRepeatable then .error .misuse
  else .ok (options ++ [(name, value)])

def startsWithDash (argument : String) : Bool := argument.toList.head? == some '-'

/-- A dash alone is a value like any other. -/
def isValue (argument : String) : Bool :=
  argument = "-" || (!argument.isEmpty && !startsWithDash argument)

/-- What one argument says. -/
inductive Token
  | endOfOptions
  | long (name : String) (value : Option String)
  | short (letter : Char)
  | operand (text : String)

def Token.ofArgument (argument : String) : Token :=
  match argument.toList with
  | ['-', '-'] => .endOfOptions
  | '-' :: '-' :: name =>
    match cutFirst? '=' name with
    | some (name, value) => .long (String.ofList name) (some (String.ofList value))
    | none => .long (String.ofList name) none
  | '-' :: letter :: _ => .short letter
  | _ => .operand argument

/-- The stop that a request for help or for the version makes; only the program has a version. -/
def requested (topic : Option CommandName) (long : String) : ArgumentStop :=
  if long = "help" then .help topic
  else if long = "version" && topic.isNone then .version
  else .misuse

def requestedShort (topic : Option CommandName) (letter : Char) : ArgumentStop :=
  if letter = 'h' then .help topic
  else if letter = 'V' && topic.isNone then .version
  else .misuse

/-- What is read of the program or of a command, in order. -/
structure Reading where
  options : Options := []
  operands : List String := []

/-- Reads options and operands. The program stops at its first operand, which names the command, and
leaves what stands behind it. A command reads all arguments, with as many operands as it has. -/
def read (topic : Option CommandName) (operandLimit : Nat) :
    List String → Reading → Except ArgumentStop (Reading × List String)
  | [], reading => .ok (reading, [])
  | argument :: rest, reading =>
    match Token.ofArgument argument with
    | .endOfOptions =>
      if reading.operands.length + rest.length ≤ operandLimit && topic.isSome then
        .ok ({ reading with operands := reading.operands ++ rest }, [])
      else if rest.isEmpty then .ok (reading, [])
      else .error .misuse
    | .short letter => .error (requestedShort topic letter)
    | .operand text =>
      if topic.isNone then .ok ({ reading with operands := [text] }, rest)
      else if reading.operands.length < operandLimit && !text.isEmpty then
        read topic operandLimit rest { reading with operands := reading.operands ++ [text] }
      else .error .misuse
    | .long text value =>
      match (OptionName.known topic).find? (·.text == text), value, rest with
      | none, none, _ => .error (requested topic text)
      | none, some _, _ => .error .misuse
      | some name, value, rest =>
        if name.isFlag then
          if value.isSome then .error .misuse
          else do
            read topic operandLimit rest
              { reading with options := ← addOption reading.options name "" }
        else match value, rest with
          | some value, rest =>
            if value.isEmpty then .error .misuse
            else do
              read topic operandLimit rest
                { reading with options := ← addOption reading.options name value }
          | none, value :: rest =>
            if isValue value then do
              read topic operandLimit rest
                { reading with options := ← addOption reading.options name value }
            else .error .misuse
          | none, [] => .error .misuse

/-- The command that the options and operands make. -/
def commandOf (reading : Reading) : CommandName → Except ArgumentStop Command
  | .analyze =>
    match reading.options.values .archive with
    | archive :: _ => .ok (.analyze (sides reading) archive (reading.options.has .json))
    | [] => .error .misuse
  | .classpath => .ok (.classpath (sides reading) (reading.options.has .json))
  | .baselineName =>
    match reading.operands with
    | archive :: _ =>
      if archive.isEmpty then .error .misuse
      else .ok (.baselineName (.ofString archive) (reading.options.has .json))
    | [] => .error .misuse
where
  sides (reading : Reading) : ClasspathSides :=
    ⟨reading.options.values .previous, reading.options.values .current⟩

def operandLimit : CommandName → Nat
  | .baselineName => 1
  | _ => 0

/-- The word that asks for help in place of a command. -/
def helpWord : String := "help"

/-- Help on a command, if it is one. -/
def helpOn : List String → ArgumentStop
  | [] => .help none
  | [text] =>
    match CommandName.all.find? (·.text == text) with
    | some name => .help (some name)
    | none => if text = helpWord then .helpOnHelp else .misuse
  | _ => .misuse

/-- The invocation that the arguments ask for. A configuration that is named behind the command
counts more than one in front of it. -/
def parse (arguments : List String) : Except ArgumentStop Invocation := do
  let (program, rest) ← read none 0 arguments {}
  match program.operands with
  | [] => throw .misuse
  | text :: _ =>
    match CommandName.all.find? (·.text == text) with
    | none => throw (if text = helpWord then helpOn rest else .misuse)
    | some name =>
      let (reading, _) ← read (some name) (operandLimit name) rest {}
      let command ← commandOf reading name
      let configs := program.options.values .config ++ reading.options.values .config
      return { config := configs.getLast?, command }

/-! ## Answers to requests -/

def versionText : String := "jarguard 0.1.0\n"

def CommandName.about : CommandName → String
  | .analyze => "Diff one archive of the current classpath against its snapshot"
  | .classpath => "Diff every archive of the current classpath"
  | .baselineName => "Print the file name a snapshot of ARCHIVE is stored under"

def OptionName.usage : OptionName → String × String
  | .config =>
    ("--config <CONFIG>", "Config file (defaults to $JARGUARD_CONFIG_PATH, then ./jarguard.toml)")
  | .previous =>
    ("--previous <PATH>", "Entry of the previous build's classpath (snapshots); repeatable")
  | .current => ("--current <PATH>", "Entry of the current classpath; repeatable")
  | .archive => ("--archive <ARCHIVE>", "The current archive to analyze")
  | .json => ("--json", "Emit JSON suitable for CI")

def helpAbout : String := "Print this message or the help of the given subcommand(s)"

/-- Two columns, the first one as wide as its widest text. -/
def columns (indent : Nat) (rows : List (String × String)) : String :=
  let width := (rows.map fun (left, _) => left.length).foldl max 0
  let blanks (n : Nat) : String := String.ofList (List.replicate n ' ')
  String.join (rows.map fun (left, right) =>
    blanks indent ++ left ++ blanks (width - left.length + 2) ++ right ++ "\n")

def programHelp : String :=
  "Decide whether changed classpath archives allow an incremental build\n\n" ++
  "Usage: jarguard [OPTIONS] <COMMAND>\n\nCommands:\n" ++
  columns 2 (CommandName.all.map (fun name => (name.text, CommandName.about name)) ++
    [(helpWord, helpAbout)]) ++
  "\nOptions:\n" ++
  columns 2 [("    " ++ OptionName.config.usage.1, OptionName.config.usage.2),
    ("-h, --help", "Print help"), ("-V, --version", "Print version")]

def commandHelp (name : CommandName) : String :=
  let operands := match name with
    | .analyze => "[OPTIONS] --archive <ARCHIVE>"
    | .classpath => "[OPTIONS]"
    | .baselineName => "[OPTIONS] <ARCHIVE>"
  CommandName.about name ++ "\n\nUsage: jarguard " ++ name.text ++ " " ++ operands ++ "\n\n" ++
  (if name = .baselineName then "Arguments:\n" ++ columns 2 [("<ARCHIVE>", "")] ++ "\n" else "") ++
  "Options:\n" ++
  columns 2 (((OptionName.known (some name)).map fun option =>
    ("    " ++ option.usage.1, option.usage.2)) ++ [("-h, --help", "Print help")])

def helpHelp : String :=
  helpAbout ++ "\n\nUsage: jarguard help [COMMAND]...\n\nArguments:\n" ++
  columns 2 [("[COMMAND]...", "Print help for the subcommand(s)")]

/-- What is printed when the reading of arguments stops. -/
def answer : ArgumentStop → String
  | .misuse => "Usage: jarguard [OPTIONS] <COMMAND>\n"
  | .version => versionText
  | .help none => programHelp
  | .help (some name) => commandHelp name
  | .helpOnHelp => helpHelp

end Arguments

end Rebuild
