import Rebuild.Text.Binary64

/-! # Values of a TOML document -/

namespace Rebuild.Toml

/-- A value. Tables keep their keys in the order in which they came to stand. -/
inductive Value
  | string (text : String)
  | integer (value : Int)
  | float (value : Binary64)
  | boolean (value : Bool)
  | dateTime
  | array (items : List Value)
  | table (entries : List (String × Value))
deriving Repr, Inhabited

end Rebuild.Toml
