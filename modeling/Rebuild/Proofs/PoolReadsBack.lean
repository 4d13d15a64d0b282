import Rebuild.Proofs.JavaText
import Rebuild.Proofs.Parses

/-!
# A constant pool reads back

The pool that is read has each constant at the slot that the constants in front of it leave to it,
so an index finds what it was written for, wherever that lies and whatever else is there.
-/

namespace Rebuild

open Written

namespace Constant

theorem text_encode (value : String) : text (ModifiedUtf8.encode value) = .ok value := by
  unfold text
  rw [ModifiedUtf8.decode?_encode]

theorem parses_body {tag : UInt8} {contents : List UInt8} {constant : Constant}
    (h : Parses (body tag) contents constant) : Parses parser (tag :: contents) constant :=
  (Parses.u8 tag).bind h

theorem parses_utf8 {value : String} (h : (ModifiedUtf8.encode value).length < 65536) :
    Parses parser (1 :: number 2 (ModifiedUtf8.encode value).length ++ ModifiedUtf8.encode value)
      (utf8 value) := by
  refine parses_body ((Parses.u16_of_lt h).bind ?_)
  rw [UInt16.toNat_ofNat_of_lt' h]
  exact (Parses.bytes _).finish ((Parses.lift (text_encode value)).finish (Parses.pure _))

theorem parses_skipped {tag : UInt8} {constant : Constant} {length : Nat} {contents : List UInt8}
    (hkind : (tag, constant, length) ∈ skipped) (hlength : contents.length = length) :
    Parses parser (tag :: contents) constant := by
  refine parses_body ?_
  simp only [skipped, List.mem_cons, Prod.mk.injEq, List.not_mem_nil, or_false] at hkind
  rcases hkind with ⟨rfl, rfl, rfl⟩ | ⟨rfl, rfl, rfl⟩ | ⟨rfl, rfl, rfl⟩ | ⟨rfl, rfl, rfl⟩ |
    ⟨rfl, rfl, rfl⟩ | ⟨rfl, rfl, rfl⟩ | ⟨rfl, rfl, rfl⟩ | ⟨rfl, rfl, rfl⟩ | ⟨rfl, rfl, rfl⟩ |
    ⟨rfl, rfl, rfl⟩
  case inr.inr.inr.inr.inl =>
    -- A method handle is the one kind that has two numbers.
    obtain ⟨kind, rest, rfl⟩ := List.exists_cons_of_length_eq_add_one hlength
    have hrest : rest.length = 2 := by simpa using hlength
    exact (Parses.u8 kind).bind ((Parses.digits UInt16.ofNat hrest).finish (Parses.pure _))
  all_goals exact (Parses.digits _ hlength).finish (Parses.pure _)

theorem parses_of_isWritten {constant : Constant} {bytes : List UInt8}
    (h : IsWritten constant bytes) : Parses parser bytes constant := by
  cases h with
  | utf8 hlength => exact parses_utf8 hlength
  | integer value =>
    refine parses_body ((Parses.u32 value.toUInt32).finish ?_)
    exact Parses.pure (integer value)
  | float bits => exact parses_body ((Parses.u32 bits).finish (Parses.pure (float bits)))
  | long value => exact parses_body ((Parses.u64 value.toUInt64).finish (Parses.pure (long value)))
  | double bits => exact parses_body ((Parses.u64 bits).finish (Parses.pure (double bits)))
  | classRef name => exact parses_body ((Parses.u16 name).finish (Parses.pure (classRef name)))
  | string text => exact parses_body ((Parses.u16 text).finish (Parses.pure (string text)))
  | skipped hkind hlength => exact parses_skipped hkind hlength

/-! ## Slots -/

def poolSlots (constants : List Constant) : List (Option Constant) := constants.flatMap slots

theorem length_slots (constant : Constant) : constant.slots.length = constant.width := by
  unfold slots width
  cases constant.isWide <;> rfl

theorem length_poolSlots (constants : List Constant) :
    (poolSlots constants).length = slotCount constants := by
  induction constants with
  | nil => rfl
  | cons constant constants ih =>
    unfold poolSlots at ih ⊢
    rw [List.flatMap_cons, List.length_append, length_slots, ih, slotCount]

theorem eq_nil_of_slotCount_eq_zero {constants : List Constant} (h : slotCount constants = 0) :
    constants = [] := by
  cases constants with
  | nil => rfl
  | cons constant constants =>
    unfold slotCount width at h
    split at h <;> omega

theorem slotParser_append {constant : Constant} {count : Nat} {front : List UInt8}
    (hconstant : Parses parser front constant) (h : constant.isWide = true ∨ count ≠ 0)
    (rest : List UInt8) : ConstantPool.slotParser (constant.width + count) (front ++ rest) =
      (do return constant.slots ++ (← ConstantPool.slotParser count)) rest := by
  unfold width
  cases hwide : constant.isWide with
  | true =>
    rw [if_pos rfl, Nat.add_comm]
    change (Constant.parser >>= _) (front ++ rest) = _
    rw [Parser.bind_apply, hconstant rest]
    exact congrFun (if_pos hwide) rest
  | false =>
    -- A slot is left, so the parser does not stop behind the constant.
    obtain ⟨left, rfl⟩ := Nat.exists_eq_add_one_of_ne_zero (h.resolve_left (by simp [hwide]))
    rw [if_neg Bool.false_ne_true, Nat.add_comm]
    change (Constant.parser >>= _) (front ++ rest) = _
    rw [Parser.bind_apply, hconstant rest]
    exact congrFun (if_neg (by simp [hwide])) rest

theorem parses_slots_cons {constant : Constant} {count : Nat} {others : List (Option Constant)}
    {front rest : List UInt8} (hconstant : Parses parser front constant)
    (hothers : Parses (ConstantPool.slotParser count) rest others)
    (hend : count = 0 → rest = [] ∧ others = []) :
    Parses (ConstantPool.slotParser (constant.width + count)) (front ++ rest)
      (constant.slots ++ others) := by
  by_cases h : constant.isWide = true ∨ count ≠ 0
  · intro behind
    rw [List.append_assoc, slotParser_append hconstant h, Parser.bind_apply, hothers behind]
    rfl
  · -- Behind the constant in the last slot nothing is parsed.
    obtain ⟨hnarrow, hlast⟩ := not_or.1 h
    obtain rfl : count = 0 := Decidable.not_not.1 hlast
    obtain ⟨rfl, rfl⟩ := hend rfl
    rw [width, if_neg hnarrow, List.append_nil, List.append_nil]
    exact hconstant.finish (Parses.pure _)

theorem parses_slots {constants : List Constant} {row : List UInt8}
    (h : Row IsWritten constants row) :
    Parses (ConstantPool.slotParser (slotCount constants)) row (poolSlots constants) := by
  induction h with
  | nil => exact Parses.pure []
  | @cons constant others front rest hfirst hothers ih =>
    refine parses_slots_cons (parses_of_isWritten hfirst) ih ?_
    intro hzero
    obtain rfl := eq_nil_of_slotCount_eq_zero hzero
    cases hothers
    exact ⟨rfl, rfl⟩

end Constant

/-! ## Entries that are constants -/

namespace PoolEntry

theorem exists_constants {entries : List PoolEntry}
    (h : ∀ entry ∈ entries, entry.isConstant = true) :
    ∃ constants : List Constant, entries = constants.map .constant := by
  induction entries with
  | nil => exact ⟨[], rfl⟩
  | cons entry entries ih =>
    obtain ⟨hentry, hentries⟩ := List.forall_mem_cons.1 h
    obtain ⟨constants, rfl⟩ := ih hentries
    cases entry with
    | constant value => exact ⟨value :: constants, rfl⟩
    | unpaired units => exact nomatch hentry

theorem slotCount_map (constants : List Constant) :
    slotCount (constants.map .constant) = Constant.slotCount constants := by
  induction constants with
  | nil => rfl
  | cons value constants ih => rw [List.map_cons, slotCount, ih, Constant.slotCount, width]

theorem row_of_map {constants : List Constant} {row : List UInt8}
    (h : Row IsWritten (constants.map .constant) row) :
    Row Constant.IsWritten constants row := by
  induction constants generalizing row with
  | nil =>
    cases h
    exact .nil
  | cons value constants ih =>
    cases h with
    | cons hfirst hothers =>
      cases hfirst with
      | constant hvalue => exact .cons hvalue (ih hothers)

theorem heldAt_map {constants : List Constant} :
    HeldAt (constants.map .constant) = Constant.HeldAt constants := by
  funext place value
  refine propext ⟨?_, ?_⟩
  · rintro ⟨before, after, hentries, hplace⟩
    obtain ⟨front, rest, rfl, rfl, hrest⟩ := List.map_eq_append_iff.1 hentries
    obtain ⟨first, others, rfl, hfirst, -⟩ := List.map_eq_cons_iff.1 hrest
    rw [slotCount_map] at hplace
    exact ⟨front, others, by rw [PoolEntry.constant.inj hfirst], hplace⟩
  · rintro ⟨before, after, rfl, hplace⟩
    exact ⟨before.map .constant, after.map .constant, by simp, by rw [slotCount_map, hplace]⟩

end PoolEntry

/-! ## Lookups -/

namespace ConstantPool

open Constant

def Holds (pool : ConstantPool) (place : UInt16) (constant : Constant) : Prop :=
  pool.slots[place.toNat]? = some (some constant)

section Holds

variable {pool : ConstantPool} {place : UInt16}

theorem Holds.get_eq {constant : Constant} (h : pool.Holds place constant) :
    pool.get place = .ok constant := by
  unfold get
  rw [h]

theorem Holds.utf8_eq {text : String} (h : pool.Holds place (.utf8 text)) :
    pool.utf8 place = .ok text := by
  unfold utf8
  rw [h.get_eq]
  rfl

end Holds

def filledWith (constants : List Constant) : ConstantPool := ⟨(none :: poolSlots constants).toArray⟩

theorem parses_pool {constants : List Constant} {bytes : List UInt8}
    (h : PoolEntry.ArePooled (constants.map .constant) bytes) :
    Parses parser bytes (filledWith constants) := by
  obtain ⟨hcount, hrow⟩ := h
  rw [PoolEntry.slotCount_map] at hcount ⊢
  refine (Parses.u16_of_lt hcount).bind ?_
  rw [UInt16.toNat_ofNat_of_lt' hcount, Nat.add_sub_cancel]
  exact (parses_slots (PoolEntry.row_of_map hrow)).finish (Parses.pure _)

section FilledWith

variable {constants : List Constant} {place : UInt16}

theorem holds_of_heldAt {constant : Constant} (h : HeldAt constants place constant) :
    (filledWith constants).Holds place constant := by
  obtain ⟨before, after, rfl, hplace⟩ := h
  have hlength := length_poolSlots before
  unfold Holds filledWith poolSlots
  rw [List.getElem?_toArray, hplace, List.getElem?_cons_succ, List.flatMap_append,
    List.flatMap_cons]
  unfold poolSlots at hlength
  rw [List.getElem?_append_right (by omega), hlength, Nat.sub_self]
  unfold Constant.slots
  cases constant.isWide <;> rfl

theorem place_ne_zero {constant : Constant} (h : HeldAt constants place constant) : place ≠ 0 := by
  obtain ⟨before, after, -, hplace⟩ := h
  rintro rfl
  exact absurd hplace (by simp)

theorem utf8_eq_ok {value : String} (h : TextAt (HeldAt constants) place value) :
    (filledWith constants).utf8 place = .ok value :=
  (holds_of_heldAt h).utf8_eq

theorem className_eq_ok {value : String} (h : ClassAt (HeldAt constants) place value) :
    (filledWith constants).className place = .ok value := by
  obtain ⟨name, hclass, hname⟩ := h
  unfold className
  rw [(holds_of_heldAt hclass).get_eq]
  exact utf8_eq_ok hname

end FilledWith

end ConstantPool

end Rebuild
