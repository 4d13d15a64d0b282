import Rebuild.Proofs.PoolReadsBack
import Rebuild.Proofs.TextGroups

/-!
# Text that no string has

Bytes of a pool may split into groups although some surrogate lacks its other half. A string has no
such half, so the first entry of this kind ends the parse, even where nothing refers to it.
-/

namespace Rebuild

open Written

variable {α β : Type} {error : ClassFileError}

/-- The parser fails on the bytes, whatever stands behind them. -/
def Refuses (parser : Parser α) (bytes : List UInt8) (error : ClassFileError) : Prop :=
  ∀ rest, parser (bytes ++ rest) = .error error

namespace Refuses

theorem append {parser : Parser α} {front : List UInt8} (h : Refuses parser front error)
    (back : List UInt8) : Refuses parser (front ++ back) error := by
  intro rest
  rw [List.append_assoc]
  exact h (back ++ rest)

theorem bind {parser : Parser α} {bytes : List UInt8} (h : Refuses parser bytes error)
    (next : α → Parser β) : Refuses (parser >>= next) bytes error := by
  intro rest
  rw [Parser.bind_apply, h rest]
  rfl

theorem lift {known : Except ClassFileError α} (h : known = .error error) :
    Refuses (known : Parser α) [] error := by
  intro rest
  rw [h]
  rfl

theorem exactly {parser : Parser α} {bytes : List UInt8} (h : Refuses parser bytes error) :
    Parser.exactly parser bytes = .error error := by
  have hall := h []
  rw [List.append_nil] at hall
  unfold Parser.exactly
  rw [hall]

end Refuses

theorem Parses.refuses {parser : Parser α} {next : α → Parser β} {front back : List UInt8}
    {first : α} (hfront : Parses parser front first) (hback : Refuses (next first) back error) :
    Refuses (parser >>= next) (front ++ back) error := by
  intro rest
  rw [List.append_assoc, Parser.bind_apply, hfront (back ++ rest)]
  exact hback rest

theorem ModifiedUtf8.decode?_eq_none_of_unpaired {units : List UInt16}
    (h : ∀ text : String, Utf16.encode text.toList ≠ units) :
    decode? (units.flatMap ofUnit) = none := by
  rw [decode?_eq_general, general?, units?_flatMap_ofUnit, Option.bind_some, Option.map_eq_none_iff,
    Option.eq_none_iff_forall_ne_some]
  intro text htext
  refine h (String.ofList text) ?_
  rw [String.toList_ofList, ← Utf16.eq_encode_of_decode? htext]

/-! ## Pools -/

theorem Constant.refuses_of_unpaired {units : List UInt16} {bytes : List UInt8}
    (h : PoolEntry.IsWritten (.unpaired units) bytes) : Refuses parser bytes .badText := by
  cases h with
  | unpaired hunits hlength =>
    have htext : text (units.flatMap ModifiedUtf8.ofUnit) = .error .badText := by
      unfold text
      rw [ModifiedUtf8.decode?_eq_none_of_unpaired hunits]
    refine (Parses.u8 1).refuses ((Parses.u16_of_lt hlength).refuses ?_)
    rw [UInt16.toNat_ofNat_of_lt' hlength]
    intro rest
    rw [Parser.bind_apply, Parses.bytes _ rest]
    exact ((Refuses.lift htext).bind fun found => Pure.pure (utf8 found)) rest

namespace ConstantPool

open Constant

theorem refuses_slots {bytes : List UInt8} (h : Refuses Constant.parser bytes error) (count : Nat) :
    Refuses (slotParser (count + 1)) bytes error := by
  cases count with
  | zero => exact h.bind _
  | succ count => exact h.bind _

theorem refuses_slots_cons {constant : Constant} {count : Nat} {front rest : List UInt8}
    (hconstant : Parses Constant.parser front constant)
    (hothers : Refuses (slotParser count) rest error) :
    Refuses (slotParser (constant.width + count)) (front ++ rest) error := by
  -- Nothing is parsed for no slots, so it is not there that `hothers` refuses.
  have hcount : count ≠ 0 := by
    rintro rfl
    cases hothers []
  intro behind
  rw [List.append_assoc, slotParser_append hconstant (.inr hcount)]
  exact hothers.bind _ behind

/-- The entries in front of the first unpaired one are parsed, and nothing behind it is. -/
theorem refuses_row {entries : List PoolEntry} {row : List UInt8}
    (hrow : Row PoolEntry.IsWritten entries row) (h : entries.all PoolEntry.isConstant = false) :
    Refuses (slotParser (PoolEntry.slotCount entries)) row .badText := by
  induction hrow with
  | nil => exact nomatch h
  | @cons entry others front rest hfirst _ ih =>
    cases entry with
    | constant value =>
      cases hfirst with
      | constant hvalue => exact refuses_slots_cons (parses_of_isWritten hvalue) (ih h)
    | unpaired units =>
      rw [PoolEntry.slotCount, PoolEntry.width, Nat.add_comm]
      exact (refuses_slots (refuses_of_unpaired hfirst) _).append rest

theorem refuses_pool {entries : List PoolEntry} {bytes : List UInt8}
    (hbytes : PoolEntry.ArePooled entries bytes) (h : entries.all PoolEntry.isConstant = false) :
    Refuses parser bytes .badText := by
  obtain ⟨hcount, hrow⟩ := hbytes
  refine (Parses.u16_of_lt hcount).refuses (Refuses.bind ?_ _)
  rw [UInt16.toNat_ofNat_of_lt' hcount, Nat.add_sub_cancel]
  exact refuses_row hrow h

end ConstantPool

end Rebuild
