import Rebuild.Pattern.Basic
import Rebuild.Text.Alphanumeric
import Rebuild.Text.Blank
import Rebuild.Text.Number
import Rebuild.Text.Scan
import Rebuild.Text.Split
import Rebuild.Text.Utf16

/-!
# Reading patterns

A pattern is read from the front, with the groups and classes that are still open kept aside. A flag
can make blanks and comments mean nothing. Counted repetitions and properties of characters are not
read: the texts that are read hold no closing brace, and there are no tables of properties.
-/

namespace Rebuild.Pattern

open Rebuild.Scan

/-! ## Blanks -/

/-- What follows blanks and comments, which end with their line. -/
def behindBlanks (inComment : Bool) : List Char → List Char
  | [] => []
  | c :: rest =>
    if inComment then behindBlanks (c ≠ '\n') rest
    else if isWhiteSpace c then behindBlanks false rest
    else if c = '#' then behindBlanks true rest
    else c :: rest

/-- Takes blanks and comments, if they are to be skipped. -/
def blanks (skips : Bool) : Scan Unit := fun text =>
  some ((), if skips then behindBlanks false text else text)

/-- The character behind blanks and at most one number sign. -/
def shown? (afterSign : Bool) : List Char → Option Char
  | [] => none
  | c :: rest =>
    if isWhiteSpace c then shown? afterSign rest
    else if c = '#' && !afterSign then shown? true rest
    else some c

/-! ## Characters -/

def hexDigits (skips : Bool) : Nat → Scan (List Char)
  | 0 => pure []
  | width + 1 => do
    let digit ← one isHexDigit
    blanks skips
    let others ← hexDigits skips width
    return digit :: others

/-- The character with a number of so many digits. -/
def numbered (skips : Bool) (width : Nat) : Scan Char := do
  blanks skips
  liftM (Utf16.char? (valueInBase 16 (← hexDigits skips width)))

/-- What a backslash and the characters behind it stand for. -/
def escape (skips : Bool) : Scan Pattern := do
  match ← one fun _ => true with
  | 'x' => return .literal (← numbered skips 2) true
  | 'u' => return .literal (← numbered skips 4) false
  | 'U' => return .literal (← numbered skips 8) false
  | 'd' | 's' | 'w' => return .shorthand false
  | 'D' | 'S' | 'W' => return .shorthand true
  | 'A' | 'z' => return .place
  | 'b' | 'B' | '<' | '>' => return .wordBoundary
  | 'a' => return .literal '\x07' false
  | 'f' => return .literal '\x0C' false
  | 't' => return .literal '\t' false
  | 'n' => return .literal '\n' false
  | 'r' => return .literal '\r' false
  | 'v' => return .literal '\x0B' false
  | c => if isAscii c && !c.isAlphanum then return .literal c false else failure

/-! ## Classes -/

/-- The names that classes of ASCII characters have. -/
def classNames : List String :=
  [
    "alnum", "alpha", "ascii", "blank", "cntrl", "digit", "graph", "lower", "print", "punct",
    "space", "upper", "word", "xdigit"
  ]

/-- A named class behind its first bracket: whether it means all else, and what follows. -/
def namedClass? (text : List Char) : Option (Bool × List Char) := do
  let text ← dropFront? [':'] text
  let (negated, text) := match dropFront? ['^'] text with
    | some rest => (true, rest)
    | none => (false, text)
  let (name, rest) ← cutFirst? ':' text
  let rest ← dropFront? [']'] rest
  guard (classNames.contains (String.ofList name))
  return (negated, rest)

/-- A class that is still open. -/
structure OpenClass where
  negated : Bool
  /-- What stands in front of the last operator. -/
  left : Option CharClass := none
  /-- The parts behind it, the last one first. -/
  parts : List CharClass

namespace OpenClass

def add (part : CharClass) (opened : OpenClass) : OpenClass :=
  { opened with parts := part :: opened.parts }

def content (opened : OpenClass) : CharClass :=
  let last := CharClass.ofParts opened.parts.reverse
  match opened.left with
  | some left => .combined left last
  | none => last

def operator (opened : OpenClass) : OpenClass :=
  { opened with left := some opened.content, parts := [] }

def close (opened : OpenClass) : CharClass := .bracketed opened.negated opened.content

end OpenClass

/-- A class behind its first bracket. Hyphens in front stand for themselves, and so does a bracket
that would leave the class empty. -/
def openClass (skips : Bool) : Scan OpenClass := do
  blanks skips
  let negated ← accept '^'
  blanks skips
  let hyphens ← loop (fun taken => do
    if ← accept '-' then
      blanks skips
      return .inl (.char '-' :: taken)
    else return .inr taken) []
  if hyphens.isEmpty then
    let bracket ← accept ']'
    return { negated, parts := if bracket then [.char ']'] else [] }
  else return { negated, parts := hyphens }

/-- A character of a class, or a shorthand. -/
def classChar (skips : Bool) : Scan Pattern := do
  if ← accept '\\' then escape skips
  else return .literal (← one fun _ => true) false

/-- Whether a hyphen comes next that makes a range. -/
def startsRange (skips : Bool) : Scan Bool := fun text =>
  match text with
  | '-' :: rest =>
    let next := if skips then shown? false rest else rest.head?
    some (next != some ']' && next != some '-', text)
  | _ => some (false, text)

def classPart (skips : Bool) : Scan CharClass := do
  let first ← classChar skips
  blanks skips
  if ← startsRange skips then
    char '-'
    blanks skips
    match first, ← classChar skips with
    | .literal first _, .literal last _ =>
      if first ≤ last then return .range first last else failure
    | _, _ => failure
  else
    match first with
    | .literal c _ => return .char c
    | .shorthand negated => return .shorthand negated
    | _ => failure

/-- The next part, operator or bracket of a class, with the classes around it. -/
def classStep (skips : Bool) :
    OpenClass × List OpenClass → Scan (OpenClass × List OpenClass ⊕ CharClass)
  | (inner, outer) => do
    blanks skips
    match ← get with
    | '[' :: rest =>
      match namedClass? rest with
      | some (negated, rest) =>
        set rest
        return .inl (inner.add (.named negated), outer)
      | none =>
        set rest
        return .inl (← openClass skips, inner :: outer)
    | ']' :: rest =>
      set rest
      match outer with
      | [] => return .inr inner.close
      | around :: outer => return .inl (around.add inner.close, outer)
    | '&' :: '&' :: rest | '-' :: '-' :: rest | '~' :: '~' :: rest =>
      set rest
      return .inl (inner.operator, outer)
    | _ => return .inl (inner.add (← classPart skips), outer)

/-- A class in brackets, behind the first one. -/
def bracketClass (skips : Bool) : Scan CharClass := do
  let opened ← openClass skips
  loop (classStep skips) (opened, [])

/-! ## Groups -/

/-- Letters of flags, at most one of each; a hyphen stands in front of those that are cleared. -/
def FlagChange.ofLetters? (letters : List Char) : Option FlagChange := do
  guard (letters.all fun c => "imsUuxR-".contains c)
  guard (letters.Nodup ∧ letters.getLast? ≠ some '-')
  let (on, off) := (cutFirst? '-' letters).getD (letters, [])
  return { on, off }

def isGroupName : List Char → Bool
  | [] => false
  | c :: rest =>
    (c = '_' || isAlphabetic c) &&
      rest.all fun c => "_.[]".contains c || isAlphanumeric c

/-- What an opening parenthesis and the characters behind it start. -/
inductive GroupStart
  | plain
  | named (name : List Char)
  | flagged (change : FlagChange)
  /-- A change of flags without a group. -/
  | onlyFlags (change : FlagChange)

def groupName : Scan GroupStart := do
  let name ← run (· ≠ '>')
  char '>'
  if isGroupName name then return .named name else failure

def groupFlags : Scan GroupStart := do
  let letters ← run fun c => c ≠ ':' && c ≠ ')'
  let change ← liftM (FlagChange.ofLetters? letters)
  if ← accept ':' then return .flagged change
  else
    char ')'
    if letters.isEmpty then failure else return .onlyFlags change

/-- The start of a group behind its parenthesis. -/
def groupStart (skips : Bool) : Scan GroupStart := do
  blanks skips
  match ← get with
  | '?' :: 'P' :: '<' :: rest | '?' :: '<' :: rest =>
    set rest
    groupName
  | '?' :: rest =>
    set rest
    groupFlags
  | _ => return .plain

/-! ## Patterns -/

/-- The inside of a group as far as it is read, the last alternative and part first. -/
structure Level where
  skips : Bool := false
  alternatives : List Pattern := []
  parts : List Pattern := []

namespace Level

def add (part : Pattern) (level : Level) : Level := { level with parts := part :: level.parts }

def last (level : Level) : Pattern := .ofParts level.parts.reverse

def nextAlternative (level : Level) : Level :=
  { level with alternatives := level.last :: level.alternatives, parts := [] }

def close (level : Level) : Pattern :=
  if level.alternatives.isEmpty then level.last
  else .alternatives (level.last :: level.alternatives).reverse

/-- Repeats the last part. There is none behind a change of flags. -/
def repeatLast? (level : Level) : Option Level :=
  match level.parts with
  | [] | .flags _ :: _ => none
  | part :: parts => some { level with parts := .repeated part :: parts }

/-- The level with other flags. -/
def change (change : FlagChange) (level : Level) : Level :=
  { level with skips := (change.state? 'x').getD level.skips }

end Level

/-- A pattern as far as it is read: the innermost level, the levels around it with the flags of the
groups between, and the names of groups. -/
structure Progress where
  level : Level := {}
  outer : List (FlagChange × Level) := []
  names : List (List Char) := []

namespace Progress

def onLevel (progress : Progress) (f : Level → Level) : Progress :=
  { progress with level := f progress.level }

def openGroup (progress : Progress) (change : FlagChange) : Progress :=
  { progress with
    level := Level.change change { skips := progress.level.skips }
    outer := (change, progress.level) :: progress.outer }

def closeGroup? (progress : Progress) : Option Progress :=
  match progress.outer with
  | [] => none
  | (change, around) :: outer =>
    some { progress with level := around.add (.group change progress.level.close), outer }

/-- Names of groups are different. -/
def start? (progress : Progress) : GroupStart → Option Progress
  | .plain => some (progress.openGroup {})
  | .named name =>
    if progress.names.contains name then none
    else some { progress.openGroup {} with names := name :: progress.names }
  | .flagged change => some (progress.openGroup change)
  | .onlyFlags change =>
    some (progress.onLevel fun level => (level.change change).add (.flags change))

/-- The pattern, if no group is open. -/
def finish? (progress : Progress) : Option Pattern :=
  if progress.outer.isEmpty then some progress.level.close else none

end Progress

/-- The next part of a pattern, or its end. -/
def step (progress : Progress) : Scan (Progress ⊕ Pattern) := do
  let skips := progress.level.skips
  let add (part : Pattern) : Progress ⊕ Pattern := .inl (progress.onLevel (Level.add part))
  blanks skips
  match ← get with
  | [] => return .inr (← liftM progress.finish?)
  | c :: rest =>
    set rest
    match c with
    | '(' => return .inl (← liftM (progress.start? (← groupStart skips)))
    | ')' => return .inl (← liftM progress.closeGroup?)
    | '|' => return .inl (progress.onLevel Level.nextAlternative)
    | '[' => return add (.charClass (← bracketClass skips))
    | '?' | '*' | '+' => do
      let _ ← accept '?'
      let level ← liftM progress.level.repeatLast?
      return .inl { progress with level }
    | '{' => failure
    | '.' => return add .any
    | '^' | '$' => return add .place
    | '\\' => return add (← escape skips)
    | _ => return add (.literal c false)

def parse? (text : String) : Option Pattern := do
  let (pattern, _) ← loop step {} text.toList
  return pattern

end Rebuild.Pattern

/-- Whether a text is a pattern that can be used. -/
def Rebuild.isPattern (text : String) : Bool :=
  match Pattern.parse? text with
  | some pattern => pattern.isUsable
  | none => false
