/-!
# Classes of characters in patterns

A class in brackets is made of characters, ranges, shorthands and further classes, and of operators
between them. What can be matched depends on the mode: where characters are meant, there are no
tables that tell which of them are digits or differ in case only, and where bytes are meant, a class
must not hold half a character.
-/

namespace Rebuild.Pattern

/-- How characters are taken at a place of a pattern. -/
structure Mode where
  /-- Whether characters are meant and not bytes. -/
  unicode : Bool := true
  ignoresCase : Bool := false

/-- Whether a letter can be taken as it is, without a table of letters that differ in case only. -/
def Mode.takesLetters (mode : Mode) : Bool := mode.unicode && !mode.ignoresCase

def isAscii (c : Char) : Bool := c.toNat < 0x80

inductive CharClass
  | nothing
  | range (first last : Char)
  /-- A letter behind a backslash, such as the one for digits; a capital means all else. -/
  | shorthand (negated : Bool)
  /-- A name between colons, such as `[:alpha:]`. -/
  | named (negated : Bool)
  | union (parts : List CharClass)
  /-- What an operator makes of two classes. -/
  | combined (left right : CharClass)
  | bracketed (negated : Bool) (content : CharClass)

namespace CharClass

/-- The class of one character. -/
def char (c : Char) : CharClass := range c c

/-- Parts that stand side by side. -/
def ofParts : List CharClass → CharClass
  | [] => nothing
  | [part] => part
  | parts => union parts

mutual

/-- How deep brackets, operators and unions are nested. -/
def depth : CharClass → Nat
  | union parts => depthOf parts + 1
  | combined left right => max left.depth right.depth + 1
  | bracketed _ content => content.depth + 1
  | _ => 0

def depthOf : List CharClass → Nat
  | [] => 0
  | part :: parts => max part.depth (depthOf parts)

end

mutual

/-- Whether the class can be matched: all characters but some are never ASCII only. -/
def isSupported (mode : Mode) : CharClass → Bool
  | nothing => true
  | range _ last => mode.takesLetters || (!mode.unicode && isAscii last)
  | shorthand negated => !mode.unicode && !negated
  | named negated => mode.takesLetters || (!mode.unicode && !negated)
  | union parts => areSupported mode parts
  | combined left right => left.isSupported mode && right.isSupported mode
  | bracketed negated content => content.isSupported mode && (mode.unicode || !negated)

def areSupported (mode : Mode) : List CharClass → Bool
  | [] => true
  | part :: parts => part.isSupported mode && areSupported mode parts

end

end CharClass

end Rebuild.Pattern
