import Rebuild.Pattern.CharClass

/-!
# Patterns

Regular expressions as trees. A pattern can be used if it is not nested too deep and if matching it
takes no tables of characters and never ends between the bytes of one.
-/

namespace Rebuild

namespace Pattern

/-- Flags that are set and flags that are cleared, each by its letter. -/
structure FlagChange where
  on : List Char := []
  off : List Char := []

namespace FlagChange

/-- What the change makes of a flag, if it mentions it. -/
def state? (change : FlagChange) (flag : Char) : Option Bool :=
  if change.on.contains flag then some true
  else if change.off.contains flag then some false
  else none

def mode (change : FlagChange) (mode : Mode) : Mode where
  unicode := (change.state? 'u').getD mode.unicode
  ignoresCase := (change.state? 'i').getD mode.ignoresCase

end FlagChange

end Pattern

inductive Pattern
  | empty
  /-- A character, which may be written as the number of a byte. -/
  | literal (c : Char) (asByte : Bool)
  /-- Any character. -/
  | any
  /-- A letter behind a backslash that stands for a class; a capital means all else. -/
  | shorthand (negated : Bool)
  /-- The start or the end of a line or of the text. -/
  | place
  | wordBoundary
  | charClass (content : Pattern.CharClass)
  /-- A change of flags up to the end of the group around it. -/
  | flags (change : Pattern.FlagChange)
  /-- A group, in which other flags may hold. -/
  | group (change : Pattern.FlagChange) (content : Pattern)
  | repeated (content : Pattern)
  | sequence (parts : List Pattern)
  | alternatives (parts : List Pattern)

namespace Pattern

/-- Parts that follow each other. -/
def ofParts : List Pattern → Pattern
  | [] => empty
  | [part] => part
  | parts => sequence parts

/-! ## Depth -/

/-- The most levels that a pattern may have. -/
def maxDepth : Nat := 250

mutual

/-- How deep groups, repetitions, sequences, alternatives and classes are nested. -/
def depth : Pattern → Nat
  | charClass content => content.depth
  | group _ content => content.depth + 1
  | repeated content => content.depth + 1
  | sequence parts => depthOf parts + 1
  | alternatives parts => depthOf parts + 1
  | _ => 0

def depthOf : List Pattern → Nat
  | [] => 0
  | part :: parts => max part.depth (depthOf parts)

end

/-! ## Support -/

mutual

/-- The mode behind a pattern that starts in a mode, if the pattern can be matched. Flags hold on
from one alternative to the next. -/
def modeBehind? (mode : Mode) : Pattern → Option Mode
  | empty | place => some mode
  | literal c asByte =>
    if mode.takesLetters || (!mode.unicode && (!asByte || isAscii c)) then some mode else none
  | any => if mode.unicode then some mode else none
  | shorthand negated => if !mode.unicode && !negated then some mode else none
  | wordBoundary => if mode.unicode then none else some mode
  | charClass content => if content.isSupported mode then some mode else none
  | flags change => some (change.mode mode)
  | group change content => (content.modeBehind? (change.mode mode)).map fun _ => mode
  | repeated content => content.modeBehind? mode
  | sequence parts => modeBehindAll? mode parts
  | alternatives parts => modeBehindAll? mode parts

def modeBehindAll? (mode : Mode) : List Pattern → Option Mode
  | [] => some mode
  | part :: parts => do modeBehindAll? (← part.modeBehind? mode) parts

end

def isUsable (pattern : Pattern) : Bool :=
  pattern.depth ≤ maxDepth && (pattern.modeBehind? {}).isSome

end Pattern

end Rebuild
