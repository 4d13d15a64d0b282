import Rebuild.Proofs.WrittenClass

/-!
# Parsers that take back what is written

A parser takes bytes back if it finds their value in front of anything and leaves the rest. What is
put together from such parsers takes back what is put together from such bytes.
-/

namespace Rebuild

variable {α β : Type}

/-- The parser makes the value of the bytes, whatever stands behind them. -/
def Parses (parser : Parser α) (bytes : List UInt8) (value : α) : Prop :=
  ∀ rest, parser (bytes ++ rest) = .ok (value, rest)

theorem Parser.bind_apply (parser : Parser α) (next : α → Parser β) (input : List UInt8) :
    (parser >>= next) input = parser input >>= fun answer => next answer.1 answer.2 := rfl

namespace Parses

theorem pure (value : α) : Parses (Pure.pure value) [] value := fun _ => rfl

theorem bind {parser : Parser α} {next : α → Parser β} {front back : List UInt8} {first : α}
    {second : β} (hfront : Parses parser front first) (hback : Parses (next first) back second) :
    Parses (parser >>= next) (front ++ back) second := by
  intro rest
  rw [List.append_assoc, Parser.bind_apply, hfront (back ++ rest)]
  exact hback rest

theorem finish {parser : Parser α} {next : α → Parser β} {bytes : List UInt8} {first : α}
    {second : β} (hfront : Parses parser bytes first) (hback : Parses (next first) [] second) :
    Parses (parser >>= next) bytes second := by
  have := hfront.bind hback
  rwa [List.append_nil] at this

theorem map {parser : Parser α} {bytes : List UInt8} {value : α} (f : α → β)
    (h : Parses parser bytes value) : Parses (f <$> parser) bytes (f value) := by
  intro rest
  change (parser (bytes ++ rest) >>= fun answer => Pure.pure (f answer.1, answer.2)) = _
  rw [h rest]
  rfl

theorem lift {known : Except ClassFileError α} {value : α} (h : known = .ok value) :
    Parses (known : Parser α) [] value := by
  intro rest
  rw [h]
  rfl

theorem known {known : Except ClassFileError α} {next : α → Parser β} {bytes : List UInt8}
    {first : α} {second : β} (h : known = .ok first) (hnext : Parses (next first) bytes second) :
    Parses ((known : Parser α) >>= next) bytes second :=
  (lift h).bind hnext

theorem exactly {parser : Parser α} {bytes : List UInt8} {value : α}
    (h : Parses parser bytes value) : Parser.exactly parser bytes = .ok value := by
  have hall := h []
  rw [List.append_nil] at hall
  unfold Parser.exactly
  rw [hall]

theorem bytes (taken : List UInt8) : Parses (Parser.bytes taken.length) taken taken := by
  intro rest
  simp [Parser.bytes]

/-! ## Numbers -/

theorem bigEndian_append_singleton (digits : List UInt8) (digit : UInt8) :
    Parser.bigEndian (digits ++ [digit]) = Parser.bigEndian digits * 256 + digit.toNat := by
  unfold Parser.bigEndian
  rw [List.foldl_append]
  rfl

theorem length_number (width n : Nat) : (Written.number width n).length = width := by
  induction width generalizing n with
  | zero => rfl
  | succ width ih => simp [Written.number, ih]

theorem bigEndian_number_succ (width n : Nat) :
    Parser.bigEndian (Written.number (width + 1) n) =
      Parser.bigEndian (Written.number width (n / 256)) * 256 + n % 256 := by
  rw [Written.number, bigEndian_append_singleton, UInt8.toNat_ofNat']

theorem digits {width : Nat} {taken : List UInt8} (f : Nat → α) (h : taken.length = width) :
    Parses (f <$> Parser.number width) taken (f (Parser.bigEndian taken)) := by
  rw [← h]
  exact ((bytes taken).map Parser.bigEndian).map f

theorem number {width n : Nat} (h : Parser.bigEndian (Written.number width n) = n) :
    Parses (Parser.number width) (Written.number width n) n := by
  have hbytes := bytes (Written.number width n)
  rw [length_number] at hbytes
  have := hbytes.map Parser.bigEndian
  rwa [h] at this

theorem bigEndian_number_zero (n : Nat) : Parser.bigEndian (Written.number 0 n) = 0 := rfl

theorem u8 (byte : UInt8) : Parses Parser.u8 [byte] byte := by
  have hdigit : [byte] = Written.number 1 byte.toNat := by simp [Written.number]
  have hvalue : Parser.bigEndian (Written.number 1 byte.toNat) = byte.toNat := by
    have := byte.toNat_lt
    simp only [bigEndian_number_succ, bigEndian_number_zero]
    omega
  have := (number hvalue).map UInt8.ofNat
  rwa [UInt8.ofNat_toNat, ← hdigit] at this

theorem u16_of_lt {n : Nat} (h : n < 65536) :
    Parses Parser.u16 (Written.number 2 n) (UInt16.ofNat n) := by
  refine (number ?_).map UInt16.ofNat
  simp only [bigEndian_number_succ, bigEndian_number_zero]
  omega

theorem u16 (value : UInt16) : Parses Parser.u16 (Written.index value) value := by
  have := u16_of_lt value.toNat_lt
  rwa [UInt16.ofNat_toNat] at this

theorem u32_of_lt {n : Nat} (h : n < 4294967296) :
    Parses Parser.u32 (Written.number 4 n) (UInt32.ofNat n) := by
  refine (number ?_).map UInt32.ofNat
  simp only [bigEndian_number_succ, bigEndian_number_zero]
  omega

theorem u32 (value : UInt32) : Parses Parser.u32 (Written.number 4 value.toNat) value := by
  have := u32_of_lt value.toNat_lt
  rwa [UInt32.ofNat_toNat] at this

theorem u64 (value : UInt64) : Parses Parser.u64 (Written.number 8 value.toNat) value := by
  have hlt := value.toNat_lt
  have : Parses Parser.u64 (Written.number 8 value.toNat) (UInt64.ofNat value.toNat) := by
    refine (number ?_).map UInt64.ofNat
    simp only [bigEndian_number_succ, bigEndian_number_zero]
    omega
  rwa [UInt64.ofNat_toNat] at this

/-! ## Rows -/

theorem times {parser : Parser α} {item : α → List UInt8 → Prop} {items : List α}
    {row : List UInt8} (hrow : Written.Row item items row)
    (h : ∀ value ∈ items, ∀ bytes, item value bytes → Parses parser bytes value) :
    Parses (Parser.times parser items.length) row items := by
  induction hrow with
  | nil => exact pure []
  | @cons first others front rest hfirst hothers ih =>
    obtain ⟨hparse, hparses⟩ := List.forall_mem_cons.1 h
    exact (hparse front hfirst).bind ((ih hparses).finish (pure (first :: others)))

theorem counted {parser : Parser α} {item : α → List UInt8 → Prop} {items : List α}
    {bytes : List UInt8} (hbytes : Written.Counted item items bytes)
    (h : ∀ value ∈ items, ∀ bytes, item value bytes → Parses parser bytes value) :
    Parses (Parser.counted parser) bytes items := by
  obtain ⟨hlength, hrow⟩ := hbytes
  refine (u16_of_lt hlength).bind ?_
  rw [UInt16.toNat_ofNat_of_lt' hlength]
  exact times hrow h

theorem indexed {lookup : UInt16 → Except ClassFileError α} {holds : UInt16 → α → Prop} {value : α}
    {bytes : List UInt8} (hbytes : Written.Indexed holds value bytes)
    (h : ∀ place, holds place value → lookup place = .ok value) :
    Parses (do lookup (← Parser.u16)) bytes value := by
  obtain ⟨hplace⟩ := hbytes
  exact (u16 _).finish (lift (h _ hplace))

theorem optional {lookup : UInt16 → Except ClassFileError α} {holds : UInt16 → α → Prop}
    {value : Option α} {bytes : List UInt8} (hbytes : Written.OptionallyIndexed holds value bytes)
    (h : ∀ place found, holds place found → place ≠ 0 ∧ lookup place = .ok found) :
    Parses (Parser.optional lookup) bytes value := by
  unfold Parser.optional
  cases hbytes with
  | none => exact (u16 0).finish (pure none)
  | @some place found hplace =>
    obtain ⟨hne, hlookup⟩ := h place found hplace
    refine (u16 place).finish ?_
    rw [if_neg hne]
    exact (lift hlookup).finish (pure (some found))

end Parses

end Rebuild
