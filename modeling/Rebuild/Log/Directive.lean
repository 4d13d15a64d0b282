import Rebuild.Log.Event
import Rebuild.Log.Field
import Rebuild.Text.Blank
import Rebuild.Text.Utf8

/-!
# Log directives

A directive gives a level to what it selects: all targets or those that start with some text, and
there everything, or only spans of some name, or only what has some field.
-/

namespace Rebuild

structure Directive where
  /-- The start of the targets that are meant; nothing for all of them. -/
  target : Option String := none
  span : Option String := none
  field : Option WantedField := none
  level : LogLevel := .trace
deriving DecidableEq, Repr

namespace Directive

/-! ## Reading -/

/-- How far a directive is read, with the position at which an open piece starts. -/
inductive Stage
  | start
  | levelOrTarget
  | span (first : Nat)
  | field (first : Nat)
  | behindField
  | behindSpan
  | level (first : Nat)

def startsName (c : Char) : Bool := c = '-' || c = ':' || c = '_' || isAlphanumeric c

/-- The bytes of the text between two positions, if they are whole characters. -/
def piece? (text : String) (first last : Nat) : Option String :=
  Utf8.text? (text.toUTF8.extract first last).toList

/-- The directive and the stage behind one more character, which stands at a position. -/
def step (text : String) (directive : Directive) (position : Nat) (c : Char) :
    Stage → Option (Directive × Stage)
  | .start =>
    if c = '[' then some (directive, .span (position + 1))
    else if startsName c then some (directive, .levelOrTarget)
    else none
  | .levelOrTarget =>
    if c = '=' then do
      return ({ directive with target := some (← piece? text 0 position) }, .level (position + 1))
    else if c = '[' then do
      return ({ directive with target := some (← piece? text 0 position) }, .span (position + 1))
    else some (directive, .levelOrTarget)
  | .span first =>
    if c = ']' then do
      return ({ directive with span := some (← piece? text first position) }, .behindSpan)
    else if c = '\x7b' then do
      let span := some (← piece? text first position)
      return ({ directive with span := span.filter (!·.isEmpty) }, .field (position + 1))
    else some (directive, .span first)
  | .field first =>
    if c = '\x7d' then do
      let field ← piece? text first position
      guard !field.isEmpty
      return ({ directive with field := some (← WantedField.parse? field) }, .behindField)
    else some (directive, .field first)
  | .behindField => if c = ']' then some (directive, .behindSpan) else none
  | .behindSpan => if c = '=' then some (directive, .level (position + 1)) else none
  | .level first => some (directive, .level first)

/-- Reads characters from a position on. -/
def read (text : String) : List Char → Nat → Directive × Stage → Option (Directive × Stage)
  | [], _, progress => some progress
  | c :: rest, position, (directive, stage) => do
    read text rest (position + c.utf8Size) (← step text directive position c stage)

/-- A word is a level, or else a target with full detail. -/
def ofWord (text : String) : Directive :=
  match LogLevel.parse? text with
  | some level => { level }
  | none => { target := some text }

/-- The directive at the end of the text. Without a level behind it, an equals sign means full
detail. -/
def finish (text : String) (directive : Directive) : Stage → Option Directive
  | .levelOrTarget => some (ofWord text)
  | .level first => do
    let level ← piece? text first text.utf8ByteSize
    if level.isEmpty then return { directive with level := .trace }
    else return { directive with level := ← LogLevel.parse? level }
  | .behindSpan => some directive
  | _ => none

/-- A level, a target, a span and a field in brackets, and a level behind an equals sign. Positions
are counted without the blanks around the text, but pieces are cut out of the text with its blanks:
behind a blank, signs and pieces do not fit together. -/
def parse? (text : String) : Option Directive := do
  let (directive, stage) ← read text (trimmed text).toList 0 ({}, .start)
  finish text directive stage

/-! ## Writing -/

def selection (directive : Directive) : String :=
  directive.target.getD "" ++
  if directive.span.isNone && directive.field.isNone then ""
  else
    "[" ++ directive.span.getD "" ++
    (match directive.field with
      | some field => "\x7b" ++ field.print ++ "\x7d"
      | none => "") ++ "]"

def print (directive : Directive) : String :=
  if directive.target.isNone && directive.selection.isEmpty then directive.level.name
  else directive.selection ++ "=" ++ directive.level.name

/-! ## What is selected -/

/-- Whether the directives select the same. -/
def hasSameSelection (a b : Directive) : Bool :=
  a.target == b.target && a.span == b.span && match a.field, b.field with
    | some a, some b => a.isSame b
    | none, none => true
    | _, _ => false

def isForSpans (directive : Directive) : Bool := directive.span.isSome || directive.field.isSome

/-- Events are in no span, and the values of their fields are not looked at. -/
def isForEvents (directive : Directive) : Bool :=
  directive.span.isNone && directive.field.all fun field => field.value.isNone

/-- Whether the directive selects the event by its target and the names of its fields. -/
def covers (directive : Directive) (event : LogEvent) : Bool :=
  (directive.target.all fun start =>
    (dropFront? start.toList event.target.toList).isSome) &&
  directive.field.all fun field => event.fieldNames.contains field.name

/-- Longer targets are more specific, and then fields. -/
def specificity (directive : Directive) : Nat × Nat :=
  ((directive.target.map fun target => target.utf8ByteSize + 1).getD 0,
    if directive.field.isSome then 1 else 0)

/-- Whether the directive goes before another one that selects the same event. Of two that are
equally specific, the one with the greater field does. -/
def goesBefore (directive other : Directive) : Bool :=
  let (target, field) := directive.specificity
  let (otherTarget, otherField) := other.specificity
  let name (directive : Directive) : String := (directive.field.map (·.name)).getD ""
  otherTarget < target ||
    (otherTarget == target && (otherField < field ||
      (otherField == field && decide (name other < name directive))))

end Directive

end Rebuild
