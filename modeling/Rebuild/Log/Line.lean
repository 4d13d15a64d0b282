import Rebuild.Json
import Rebuild.Log.Event
import Rebuild.Text.Quoted

/-! # Log lines -/

namespace Rebuild

namespace LogValue

/-- The value in a plain line. -/
def plain : LogValue → String
  | shown text => text
  | quotedText text => quoted text
  | number value => toString value
  | boolean value => toString value

def json : LogValue → Json
  | shown text | quotedText text => .string text
  | number value => .number value
  | boolean value => .boolean value

end LogValue

namespace LogEvent

/-- The level right-aligned, the target, the message and the fields. -/
def plainLine (event : LogEvent) (timestamp : String) : String :=
  let label := event.level.label
  let indent := String.ofList (List.replicate (5 - label.length) ' ')
  let fields := event.fields.map fun (name, value) => " " ++ name ++ "=" ++ value.plain
  timestamp ++ " " ++ indent ++ label ++ " " ++ event.target ++ ": " ++ event.message ++
    String.join fields

def jsonLine (event : LogEvent) (timestamp : String) : String :=
  Json.compact <| .object
    [
      ("timestamp", .string timestamp),
      ("level", .string event.level.label),
      ("fields", .object (("message", .string event.message) ::
        event.fields.map fun (name, value) => (name, value.json))),
      ("target", .string event.target)
    ]

def line (event : LogEvent) (json : Bool) (timestamp : String) : String :=
  (if json then event.jsonLine timestamp else event.plainLine timestamp) ++ "\n"

end LogEvent

end Rebuild
