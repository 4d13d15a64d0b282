import Rebuild.Text.Blank
import Rebuild.Text.Number

/-! # Levels of log events -/

namespace Rebuild

/-- How much is logged, from nothing to everything. -/
inductive LogLevel
  | off | error | warn | info | debug | trace
deriving DecidableEq, Repr

namespace LogLevel

def rank : LogLevel → Nat
  | off => 0
  | error => 1
  | warn => 2
  | info => 3
  | debug => 4
  | trace => 5

def name : LogLevel → String
  | off => "off"
  | error => "error"
  | warn => "warn"
  | info => "info"
  | debug => "debug"
  | trace => "trace"

/-- The name in capitals. -/
def label (level : LogLevel) : String := String.ofList (level.name.toList.map Char.toUpper)

def all : List LogLevel := [off, error, warn, info, debug, trace]

/-- A level by name, in any case, or by number. -/
def parse? (text : String) : Option LogLevel :=
  (all.find? fun level => level.name == lowered text) <|>
    (numberBelow? all.length text.toList).bind fun rank => all[rank]?

end LogLevel

end Rebuild
