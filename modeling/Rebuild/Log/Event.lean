import Rebuild.Log.Level

/-! # What a run says about itself -/

namespace Rebuild

/-- The value of a field: text shown as it is or in quotes, a number, or a truth value. -/
inductive LogValue
  | shown (text : String)
  | quotedText (text : String)
  | number (value : Nat)
  | boolean (value : Bool)
deriving DecidableEq, Repr

structure LogEvent where
  level : LogLevel
  target : String
  message : String
  fields : List (String × LogValue)
deriving DecidableEq, Repr

namespace LogEvent

/-- The message is a field too. -/
def fieldNames (event : LogEvent) : List String :=
  "message" :: event.fields.map fun field => field.1

/-! ## Panics -/

/-- The target that panics have and nothing else. -/
def panicTarget : String := "panic"

/-- What a run says when it gives up. It goes on no further, and no log takes the event. -/
def panic (message : String) : LogEvent := ⟨.error, panicTarget, message, []⟩

def isPanic (event : LogEvent) : Bool := event.target == panicTarget

/-- The message of the first panic, if there is one. -/
def panic? (events : List LogEvent) : Option String := (events.find? isPanic).map (·.message)

end LogEvent

end Rebuild
