/-!
# Taking text from the front

A scan takes characters from the front of a text or refuses it.
-/

namespace Rebuild

abbrev Scan := StateT (List Char) Option

namespace Scan

def peek? : Scan (Option Char) := fun text => some (text.head?, text)

def char (c : Char) : Scan Unit := fun text =>
  match text with
  | d :: rest => if c = d then some ((), rest) else none
  | [] => none

/-- One character that satisfies the test. -/
def one (test : Char → Bool) : Scan Char := fun text =>
  match text with
  | c :: rest => if test c then some (c, rest) else none
  | [] => none

/-- The longest run of characters that satisfy the test. -/
def run (test : Char → Bool) : Scan (List Char) := fun text =>
  some (text.takeWhile test, text.dropWhile test)

/-- Exactly `n` characters that satisfy the test. -/
def exactly (test : Char → Bool) : Nat → Scan (List Char)
  | 0 => pure []
  | n + 1 => do
    let c ← one test
    let others ← exactly test n
    return c :: others

/-- Takes the character if it comes next, and says whether it did. -/
def accept (c : Char) : Scan Bool := fun text =>
  match text with
  | d :: rest => if c = d then some (true, rest) else some (false, text)
  | [] => some (false, [])

def atEnd : Scan Bool := fun text => some (text.isEmpty, text)

/-- Repeats a step until it is done. A step that goes on has to take something. -/
def loop (step : σ → Scan (σ ⊕ α)) (state : σ) (text : List Char) : Option (α × List Char) :=
  match step state text with
  | none => none
  | some (.inr value, rest) => some (value, rest)
  | some (.inl next, rest) => if rest.length < text.length then loop step next rest else none
termination_by text.length

end Scan

end Rebuild
