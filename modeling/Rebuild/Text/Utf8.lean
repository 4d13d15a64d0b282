import Rebuild.Text.Utf16

/-!
# UTF-8 that may be broken

Bytes are cut into characters and broken pieces. A broken piece is as long as the start of some
character could be, so a reader that shows one mark per piece shows the usual number of marks.
-/

namespace Rebuild.Utf8

/-- A character, or bytes that no character is written with. -/
inductive Piece
  | char (c : Char)
  | broken (bytes : List UInt8)
deriving DecidableEq, Repr

/-- The bytes that the piece takes. -/
def Piece.byteLength : Piece → Nat
  | .char c => c.utf8Size
  | .broken bytes => bytes.length

/-- The ranges of the bytes that must follow a first byte; a byte that starts nothing has none.
The narrowed ranges keep out overlong forms, surrogates and points beyond U+10FFFF. -/
def followers? (first : UInt8) : Option (List (UInt8 × UInt8)) :=
  if first < 0x80 then some []
  else if first < 0xC2 then none
  else if first < 0xE0 then some [(0x80, 0xBF)]
  else if first == 0xE0 then some [(0xA0, 0xBF), (0x80, 0xBF)]
  else if first == 0xED then some [(0x80, 0x9F), (0x80, 0xBF)]
  else if first < 0xF0 then some [(0x80, 0xBF), (0x80, 0xBF)]
  else if first == 0xF0 then some [(0x90, 0xBF), (0x80, 0xBF), (0x80, 0xBF)]
  else if first < 0xF4 then some [(0x80, 0xBF), (0x80, 0xBF), (0x80, 0xBF)]
  else if first == 0xF4 then some [(0x80, 0x8F), (0x80, 0xBF), (0x80, 0xBF)]
  else none

/-- The longest start of the bytes that keeps to the ranges, and the rest. -/
def follow : List (UInt8 × UInt8) → List UInt8 → List UInt8 × List UInt8
  | (low, high) :: ranges, byte :: bytes =>
    if low ≤ byte && byte ≤ high then
      let (taken, rest) := follow ranges bytes
      (byte :: taken, rest)
    else ([], byte :: bytes)
  | _, bytes => ([], bytes)

theorem follow_rest_length_le (ranges : List (UInt8 × UInt8)) (bytes : List UInt8) :
    (follow ranges bytes).2.length ≤ bytes.length := by
  induction ranges generalizing bytes with
  | nil => simp [follow]
  | cons range ranges ih =>
    cases bytes with
    | nil => simp [follow]
    | cons byte bytes =>
      rw [follow]
      split
      · have := ih bytes
        simp only [List.length_cons]
        omega
      · simp

/-- The code point written by a first byte and its followers. -/
def point (first : UInt8) (others : List UInt8) : Nat :=
  let lead := match others.length with
    | 0 => first
    | 1 => first &&& 0x1F
    | 2 => first &&& 0x0F
    | _ => first &&& 0x07
  others.foldl (fun value byte => value * 64 + (byte &&& 0x3F).toNat) lead.toNat

/-- The piece that starts with `first`, and the bytes behind it. -/
def piece (first : UInt8) (bytes : List UInt8) : Piece × List UInt8 :=
  match followers? first with
  | none => (.broken [first], bytes)
  | some ranges =>
    let (taken, rest) := follow ranges bytes
    match taken.length == ranges.length, Utf16.char? (point first taken) with
    | true, some c => (.char c, rest)
    | _, _ => (.broken (first :: taken), rest)

theorem piece_rest_length_le (first : UInt8) (bytes : List UInt8) :
    (piece first bytes).2.length ≤ bytes.length := by
  rw [piece]
  split
  · simp
  · rename_i ranges _
    have := follow_rest_length_le ranges bytes
    dsimp only
    split <;> exact this

def pieces : List UInt8 → List Piece
  | [] => []
  | first :: bytes => (piece first bytes).1 :: pieces (piece first bytes).2
termination_by bytes => bytes.length
decreasing_by
  have := piece_rest_length_le first bytes
  simp only [List.length_cons]
  omega

/-- The character shown for a piece; a broken one shows as U+FFFD. -/
def Piece.shown : Piece → Char
  | .char c => c
  | .broken _ => '\uFFFD'

def Piece.char? : Piece → Option Char
  | .char c => some c
  | .broken _ => none

/-- The text with U+FFFD for each broken piece. -/
def shown (bytes : List UInt8) : String := String.ofList ((pieces bytes).map Piece.shown)

/-- The text, if no piece is broken. -/
def text? (bytes : List UInt8) : Option String :=
  ((pieces bytes).mapM Piece.char?).map String.ofList

end Rebuild.Utf8
