import Rebuild.Text.Number
import Rebuild.Text.Utf16
import Rebuild.Text.Scan

/-!
# Blanks, comments, strings and keys of TOML

Strings come in four forms: basic ones with escapes, literal ones without, and a form over several
lines of each.
-/

namespace Rebuild.Toml

namespace Scan

open Rebuild.Scan

def isBlank (c : Char) : Bool := c = ' ' || c = '\t'

/-- Characters that may stand in comments and strings: no controls but the tab. -/
def isPlain (c : Char) : Bool := c = '\t' || (' ' ≤ c && c ≠ '\x7F')

def blanks : Scan Unit := do let _ ← run isBlank

/-- Takes a line break if one comes next. A carriage return alone is none. -/
def newline? : Scan Bool := fun text =>
  match text with
  | '\n' :: rest => some (true, rest)
  | '\r' :: '\n' :: rest => some (true, rest)
  | _ => some (false, text)

/-- A comment, if one comes next. -/
def comment? : Scan Unit := do
  if ← accept '#' then let _ ← run isPlain

/-- What may follow the last token of a line. -/
def lineEnd : Scan Unit := do
  blanks
  comment?
  if !(← newline?) && !(← atEnd) then failure

/-- Blanks, comments and line breaks, which say nothing inside an array. -/
def spacing : Scan Unit :=
  loop (fun () => do
    blanks
    let commented := (← peek?) == some '#'
    comment?
    if ← newline? then return .inl ()
    else if commented then failure
    else return .inr ()) ()

/-! ## Strings -/

/-- The character written by so many hexadecimal digits. -/
def codePoint (width : Nat) : Scan Char := do
  match Utf16.char? (valueInBase 16 (← exactly isHexDigit width)) with
  | some c => return c
  | none => failure

/-- The rest of an escape, behind its backslash. -/
def escape : Scan Char := do
  match ← one fun _ => true with
  | 'b' => return '\x08'
  | 't' => return '\t'
  | 'n' => return '\n'
  | 'f' => return '\x0C'
  | 'r' => return '\r'
  | '"' => return '"'
  | '\\' => return '\\'
  | 'u' => codePoint 4
  | 'U' => codePoint 8
  | _ => failure

/-- Characters that stand for themselves in a string with this quote. -/
def isVerbatim (quote : Char) (escapes : Bool) (c : Char) : Bool :=
  isPlain c && c ≠ quote && !(escapes && c = '\\')

/-- The rest of a string on one line, behind its opening quote. -/
def oneLine (quote : Char) (escapes : Bool) : Scan String :=
  loop (fun taken => do
    let taken := taken ++ (← run (isVerbatim quote escapes))
    if ← accept quote then return .inr (String.ofList taken)
    else if escapes then
      char '\\'
      return .inl (taken ++ [← escape])
    else failure) []

/-- The run of quotes that comes next: three of them end a string over several lines, and up to two
in front of those belong to it. -/
def quotes (quote : Char) (taken : List Char) : Scan (List Char ⊕ String) := do
  let found := (← run (· == quote)).length
  if found < 3 then return .inl (taken ++ List.replicate found quote)
  else if found ≤ 5 then
    return .inr (String.ofList (taken ++ List.replicate (found - 3) quote))
  else failure

/-- The text behind all blanks and line breaks in front of it. -/
def dropBreaks : List Char → List Char
  | '\n' :: rest => dropBreaks rest
  | '\r' :: '\n' :: rest => dropBreaks rest
  | c :: rest => if isBlank c then dropBreaks rest else c :: rest
  | [] => []

/-- Blanks and a line break, which a backslash in front joins to the next line: all blanks and line
breaks go. -/
def continuation? : Scan Bool := fun text =>
  match (do blanks; newline?) text with
  | some (true, rest) => some (true, dropBreaks rest)
  | _ => some (false, text)

/-- The rest of a string over several lines. A line break right behind the opening quotes is
dropped, and every other one counts as one line feed. -/
def manyLines (quote : Char) (escapes : Bool) : Scan String := do
  let _ ← newline?
  loop (fun taken => do
    let taken := taken ++ (← run (isVerbatim quote escapes))
    if (← peek?) == some quote then quotes quote taken
    else if ← newline? then return .inl (taken ++ ['\n'])
    else if escapes then
      char '\\'
      if ← continuation? then return .inl taken else return .inl (taken ++ [← escape])
    else failure) []

/-- A string in any form that starts with this quote. -/
def string (quote : Char) : Scan String := do
  char quote
  if ← accept quote then
    if ← accept quote then manyLines quote (quote == '"') else return ""
  else oneLine quote (quote == '"')

/-! ## Keys -/

def isBare (c : Char) : Bool :=
  ('a' ≤ c && c ≤ 'z') || ('A' ≤ c && c ≤ 'Z') || c.isDigit || c = '-' || c = '_'

def simpleKey : Scan String := do
  match ← peek? with
  | some '"' => do char '"'; oneLine '"' true
  | some '\'' => do char '\''; oneLine '\'' false
  | _ => do
    let name ← run isBare
    if name.isEmpty then failure else return String.ofList name

/-- The most parts of a dotted key. -/
def maxKeyParts : Nat := 79

/-- Keys joined by dots, with blanks around each: the parts in front of the last one, and the last
one. -/
def key : Scan (List String × String) := do
  let parts ← loop (fun taken => do
    blanks
    let part ← simpleKey
    blanks
    if ← accept '.' then return .inl (part :: taken) else return .inr (part, taken)) []
  if parts.2.length + 1 > maxKeyParts then failure else return (parts.2.reverse, parts.1)

end Scan

end Rebuild.Toml
