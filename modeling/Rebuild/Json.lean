import Rebuild.Text.Number

/-!
# JSON texts

Values are written on one line, or over several lines with two blanks for each level. Fields keep
their order.
-/

namespace Rebuild

inductive Json
  | null
  | boolean (value : Bool)
  | number (value : Nat)
  | string (text : String)
  | array (items : List Json)
  | object (fields : List (String × Json))

namespace Json

/-- A character in a string: controls are escaped, and all else but quotes and backslashes stands
for itself. -/
def escape (c : Char) : List Char :=
  if c = '"' then ['\\', '"']
  else if c = '\\' then ['\\', '\\']
  else if c = '\n' then ['\\', 'n']
  else if c = '\r' then ['\\', 'r']
  else if c = '\t' then ['\\', 't']
  else if c = '\x08' then ['\\', 'b']
  else if c = '\x0C' then ['\\', 'f']
  else if c < ' ' then "\\u".toList ++ (hexadecimal 4 c.toNat).toList
  else [c]

def writeString (text : String) : String :=
  "\"" ++ String.ofList (text.toList.flatMap escape) ++ "\""

def scalar : Json → String
  | boolean value => toString value
  | number value => toString value
  | string text => writeString text
  | _ => "null"

mutual

/-- The value on one line, without blanks. -/
def compact : Json → String
  | array items => "[" ++ compactItems items ++ "]"
  | object fields => "\x7b" ++ compactFields fields ++ "\x7d"
  | value => scalar value

def compactItems : List Json → String
  | [] => ""
  | [item] => compact item
  | item :: items => compact item ++ "," ++ compactItems items

def compactFields : List (String × Json) → String
  | [] => ""
  | [(name, value)] => writeString name ++ ":" ++ compact value
  | (name, value) :: fields =>
    writeString name ++ ":" ++ compact value ++ "," ++ compactFields fields

end

/-- The start of a line at some level. -/
def newLine (level : Nat) : String := "\n" ++ String.ofList (List.replicate (2 * level) ' ')

mutual

/-- The value over several lines, its first one standing at the given level. -/
def prettyAt (level : Nat) : Json → String
  | array [] => "[]"
  | array items => "[" ++ prettyItems (level + 1) items ++ newLine level ++ "]"
  | object [] => "\x7b\x7d"
  | object fields => "\x7b" ++ prettyFields (level + 1) fields ++ newLine level ++ "\x7d"
  | value => scalar value

def prettyItems (level : Nat) : List Json → String
  | [] => ""
  | [item] => newLine level ++ prettyAt level item
  | item :: items => newLine level ++ prettyAt level item ++ "," ++ prettyItems level items

def prettyFields (level : Nat) : List (String × Json) → String
  | [] => ""
  | [(name, value)] => newLine level ++ writeString name ++ ": " ++ prettyAt level value
  | (name, value) :: fields =>
    newLine level ++ writeString name ++ ": " ++ prettyAt level value ++ "," ++
      prettyFields level fields

end

def pretty (value : Json) : String := prettyAt 0 value

end Json

end Rebuild
