import Mathlib.Algebra.Group.Nat.Defs
import Mathlib.Data.List.Induction
import Rebuild.Proofs.PoolReadsBack
import Rebuild.Proofs.TextGroups

/-!
# Where constants lie

A pool takes one constant after another from its bytes until their slots reach its count. An index
finds the constant whose first slot it is, and nothing if it is no first slot.
-/

namespace Rebuild

open Written

variable {α β : Type}

/-! ## What a parser takes -/

/-- All that the parser ever takes is a written form of its value. -/
def Reads (parser : Parser α) (written : α → List UInt8 → Prop) : Prop :=
  ∀ input value rest, parser input = .ok (value, rest) →
    ∃ taken, input = taken ++ rest ∧ written value taken

namespace Reads

variable {parser : Parser α} {next : α → Parser β} {front : α → List UInt8 → Prop}
  {written : β → List UInt8 → Prop}

theorem pure {value : β} (h : written value []) : Reads (Pure.pure value) written := by
  intro input found rest hparse
  cases hparse
  exact ⟨[], rfl, h⟩

theorem imp {parser : Parser β} {narrow : β → List UInt8 → Prop} (h : Reads parser narrow)
    (himp : ∀ value taken, narrow value taken → written value taken) : Reads parser written := by
  intro input value rest hparse
  obtain ⟨taken, htaken, hwritten⟩ := h input value rest hparse
  exact ⟨taken, htaken, himp value taken hwritten⟩

theorem throw (error : ClassFileError) : Reads (throw error : Parser β) written :=
  fun _ _ _ h => nomatch h

theorem bind (hfront : Reads parser front)
    (hback : ∀ first before, front first before →
      Reads (next first) fun value behind => written value (before ++ behind)) :
    Reads (parser >>= next) written := by
  intro input value rest h
  rw [Parser.bind_apply] at h
  cases hfirst : parser input with
  | error error =>
    rw [hfirst] at h
    cases h
  | ok answer =>
    obtain ⟨first, between⟩ := answer
    rw [hfirst] at h
    obtain ⟨before, rfl, hbefore⟩ := hfront input first between hfirst
    obtain ⟨behind, rfl, hbehind⟩ := hback first before hbefore between value rest h
    exact ⟨before ++ behind, (List.append_assoc ..).symm, hbehind⟩

theorem known {known : Except ClassFileError α}
    (h : ∀ first, known = .ok first → Reads (next first) written) :
    Reads ((known : Parser α) >>= next) written := by
  cases known with
  | error error => exact fun _ _ _ h => nomatch h
  | ok first => exact h first rfl

theorem bytes (n : Nat) :
    Reads (Parser.bytes n) fun value taken => taken = value ∧ value.length = n := by
  intro input value rest h
  unfold Parser.bytes at h
  dsimp only at h
  split at h
  · next hlength =>
    cases h
    exact ⟨_, (List.take_append_drop n input).symm, rfl, hlength⟩
  · cases h

/-! ### Numbers -/

theorem bigEndian_lt (taken : List UInt8) : Parser.bigEndian taken < 256 ^ taken.length := by
  induction taken using List.reverseRecOn with
  | nil => decide
  | append_singleton taken byte ih =>
    have := byte.toNat_lt
    rw [Parses.bigEndian_append_singleton, List.length_append, List.length_singleton, Nat.pow_succ]
    omega

theorem number_bigEndian (taken : List UInt8) :
    number taken.length (Parser.bigEndian taken) = taken := by
  induction taken using List.reverseRecOn with
  | nil => rfl
  | append_singleton taken byte ih =>
    have hbyte := byte.toNat_lt
    have hfront : (Parser.bigEndian taken * 256 + byte.toNat) / 256 = Parser.bigEndian taken := by
      omega
    rw [Parses.bigEndian_append_singleton, List.length_append, List.length_singleton, number,
      hfront, ih]
    congr 2
    apply UInt8.toNat_inj.1
    rw [UInt8.toNat_ofNat']
    omega

theorem digits {width : Nat} {f : Nat → α} (toNat : α → Nat)
    (h : ∀ n, n < 256 ^ width → toNat (f n) = n) :
    Reads (f <$> Parser.number width) fun found taken => taken = number width (toNat found) := by
  unfold Parser.number
  rw [← comp_map, map_eq_pure_bind]
  refine (bytes width).bind fun value before hbefore => pure ?_
  obtain ⟨rfl, rfl⟩ := hbefore
  rw [List.append_nil, Function.comp_apply, h _ (bigEndian_lt _), number_bigEndian]

theorem u8 : Reads Parser.u8 fun value taken => taken = [value] := by
  refine (digits UInt8.toNat fun _ => UInt8.toNat_ofNat_of_lt').imp ?_
  rintro value _ rfl
  rw [number, number, List.nil_append, UInt8.ofNat_toNat]

theorem u16 : Reads Parser.u16 fun value taken => taken = index value :=
  digits UInt16.toNat fun _ => UInt16.toNat_ofNat_of_lt'

theorem u32 : Reads Parser.u32 fun value taken => taken = number 4 value.toNat :=
  digits UInt32.toNat fun _ => UInt32.toNat_ofNat_of_lt'

theorem u64 : Reads Parser.u64 fun value taken => taken = number 8 value.toNat :=
  digits UInt64.toNat fun _ => UInt64.toNat_ofNat_of_lt'

end Reads

/-! ## Constants -/

namespace Constant

/-- Any way to write a constant. The text of one has to be made of groups of bytes, but each of them
may be longer than it needs to be. -/
inductive IsEncoded : Constant → List UInt8 → Prop
  | utf8 {text : String} {groups : List ModifiedUtf8.Group} :
    groups.map ModifiedUtf8.Group.unit = Utf16.encode text.toList →
      (groups.flatMap ModifiedUtf8.Group.bytes).length < 65536 →
        IsEncoded (utf8 text) (1 :: number 2 (groups.flatMap ModifiedUtf8.Group.bytes).length ++
          groups.flatMap ModifiedUtf8.Group.bytes)
  | other {constant : Constant} {bytes : List UInt8} :
    IsWritten constant bytes → IsEncoded constant bytes

theorem text_eq_ok_iff {bytes : List UInt8} {found : String} : text bytes = .ok found ↔
    ∃ groups : List ModifiedUtf8.Group, bytes = groups.flatMap ModifiedUtf8.Group.bytes ∧
      groups.map ModifiedUtf8.Group.unit = Utf16.encode found.toList := by
  rw [← ModifiedUtf8.decode?_eq_some_iff]
  unfold text
  cases ModifiedUtf8.decode? bytes <;> simp

theorem parses_of_isEncoded {constant : Constant} {bytes : List UInt8}
    (h : IsEncoded constant bytes) : Parses parser bytes constant := by
  cases h with
  | @utf8 found groups hgroups hlength =>
    refine parses_body ((Parses.u16_of_lt hlength).bind ?_)
    rw [UInt16.toNat_ofNat_of_lt' hlength]
    have htext := text_eq_ok_iff.2 ⟨groups, rfl, hgroups⟩
    exact (Parses.bytes _).finish ((Parses.lift htext).finish (Parses.pure _))
  | other hwritten => exact parses_of_isWritten hwritten

section Body

variable {tag : UInt8} {constant : Constant} {length : Nat}

theorem reads_value {value : Parser α} {make : α → Constant} {written : α → List UInt8 → Prop}
    (hvalue : Reads value written)
    (hmake : ∀ found contents, written found contents →
      IsWritten (make found) (tag :: contents)) :
    Reads (do return make (← value)) fun found contents => IsEncoded found (tag :: contents) := by
  refine hvalue.bind fun found contents hwritten => Reads.pure ?_
  rw [List.append_nil]
  exact .other (hmake found contents hwritten)

theorem reads_skipped {skip : Parser α} (hkind : (tag, constant, length) ∈ skipped)
    (hskip : Reads skip fun _ taken => taken.length = length) :
    Reads (do let _ ← skip; return constant) fun found contents =>
      IsEncoded found (tag :: contents) := by
  refine hskip.bind fun _ contents hlength => Reads.pure ?_
  rw [List.append_nil]
  exact .other (.skipped hkind hlength)

theorem length_index (value : UInt16) : (index value).length = 2 := Parses.length_number ..

theorem reads_u16_skipped (hkind : (tag, constant, 2) ∈ skipped) :
    Reads (do let _ ← Parser.u16; return constant) fun found contents =>
      IsEncoded found (tag :: contents) := by
  refine reads_skipped hkind (Reads.u16.imp ?_)
  rintro value _ rfl
  exact length_index value

theorem reads_u32_skipped (hkind : (tag, constant, 4) ∈ skipped) :
    Reads (do let _ ← Parser.u32; return constant) fun found contents =>
      IsEncoded found (tag :: contents) := by
  refine reads_skipped hkind (Reads.u32.imp ?_)
  rintro value _ rfl
  exact Parses.length_number ..

theorem tag_eq_of_toNat {n : Nat} (h : tag.toNat = n) : tag = UInt8.ofNat n := by
  rw [← h, UInt8.ofNat_toNat]

end Body

theorem reads_body (tag : UInt8) :
    Reads (body tag) fun constant contents => IsEncoded constant (tag :: contents) := by
  unfold body
  split
  case h_1 htag =>
    obtain rfl := tag_eq_of_toNat htag
    refine Reads.u16.bind fun length _ hcount => (Reads.bytes _).bind fun contents _ hcontents => ?_
    obtain ⟨rfl, hlength⟩ := hcontents
    refine Reads.known fun found hfound => Reads.pure ?_
    obtain ⟨groups, rfl, hgroups⟩ := text_eq_ok_iff.1 hfound
    subst hcount
    rw [List.append_nil, index, ← hlength]
    exact .utf8 hgroups (hlength ▸ length.toNat_lt)
  case h_2 htag =>
    obtain rfl := tag_eq_of_toNat htag
    exact reads_value Reads.u32 fun found _ hfound => hfound ▸ IsWritten.integer found.toInt32
  case h_3 htag =>
    obtain rfl := tag_eq_of_toNat htag
    exact reads_value Reads.u32 fun bits _ hfound => hfound ▸ IsWritten.float bits
  case h_4 htag =>
    obtain rfl := tag_eq_of_toNat htag
    exact reads_value Reads.u64 fun found _ hfound => hfound ▸ IsWritten.long found.toInt64
  case h_5 htag =>
    obtain rfl := tag_eq_of_toNat htag
    exact reads_value Reads.u64 fun bits _ hfound => hfound ▸ IsWritten.double bits
  case h_6 htag =>
    obtain rfl := tag_eq_of_toNat htag
    exact reads_value Reads.u16 fun name _ hfound => hfound ▸ IsWritten.classRef name
  case h_7 htag =>
    obtain rfl := tag_eq_of_toNat htag
    exact reads_value Reads.u16 fun text _ hfound => hfound ▸ IsWritten.string text
  case h_8 htag | h_9 htag | h_10 htag | h_11 htag | h_14 htag | h_15 htag =>
    obtain rfl := tag_eq_of_toNat htag
    exact reads_u32_skipped (by decide)
  case h_12 htag =>
    obtain rfl := tag_eq_of_toNat htag
    refine Reads.u8.bind fun kind _ hkind => Reads.u16.bind fun value _ hvalue => Reads.pure ?_
    subst hkind hvalue
    exact .other (.skipped (by decide : (15, methodHandle, 3) ∈ skipped) (by simp [length_index]))
  case h_13 htag | h_16 htag | h_17 htag =>
    obtain rfl := tag_eq_of_toNat htag
    exact reads_u16_skipped (by decide)
  case h_18 => exact Reads.throw _

theorem reads_constant : Reads parser IsEncoded := by
  refine Reads.u8.bind fun tag _ htag => ?_
  subst htag
  exact reads_body tag

/-! ## Slots -/

/-- The constants fill a pool of this count: they reach it, and none of them starts at it or behind.
The first constant starts at slot 1. -/
def Fills (count : Nat) (constants : List Constant) : Prop :=
  count ≤ slotCount constants + 1 ∧
    ∀ before constant after, constants = before ++ constant :: after →
      slotCount before + 1 < count

theorem fills_nil_iff {count : Nat} : Fills count [] ↔ count ≤ 1 := by
  unfold Fills slotCount
  simp

theorem fills_cons_iff {count : Nat} {constant : Constant} {constants : List Constant} :
    Fills count (constant :: constants) ↔ 1 < count ∧ Fills (count - constant.width) constants := by
  unfold Fills
  rw [slotCount]
  constructor
  · rintro ⟨hreach, hstart⟩
    refine ⟨hstart [] constant constants rfl, by omega, ?_⟩
    rintro before next after rfl
    have := hstart (constant :: before) next after rfl
    rw [slotCount] at this
    omega
  · rintro ⟨hcount, hreach, hstart⟩
    refine ⟨by omega, ?_⟩
    rintro (_ | ⟨first, before⟩) next after hsplit
    · exact hcount
    · obtain ⟨rfl, hrest⟩ := List.cons.inj hsplit
      have := hstart before next after hrest
      rw [slotCount]
      omega

theorem fills_max_iff {count : Nat} {constants : List Constant} :
    Fills (count - 1 + 1) constants ↔ Fills count constants := by
  cases count with
  | succ count => rfl
  | zero =>
    cases constants with
    | nil => simp [fills_nil_iff]
    | cons constant constants => simp [fills_cons_iff]

theorem poolSlots_singleton (constant : Constant) : poolSlots [constant] = constant.slots :=
  List.append_nil _

section Slots

variable {constant : Constant} {constants : List Constant} {count : Nat} {front row : List UInt8}

theorem slots_cons (hfront : IsEncoded constant front) (hrow : Row IsEncoded constants row)
    (hcount : 1 < count) (hfills : Fills (count - constant.width) constants) :
    ∃ all, Row IsEncoded all (front ++ row) ∧ Fills count all ∧
      constant.slots ++ poolSlots constants = poolSlots all :=
  ⟨constant :: constants, .cons hfront hrow, fills_cons_iff.2 ⟨hcount, hfills⟩,
    List.flatMap_cons.symm⟩

theorem reads_slots : ∀ n, Reads (ConstantPool.slotParser n) fun slots row =>
    ∃ constants, Row IsEncoded constants row ∧ Fills (n + 1) constants ∧
      slots = poolSlots constants
  | 0 => Reads.pure ⟨[], .nil, fills_nil_iff.2 (Nat.le_refl _), rfl⟩
  | 1 => by
    refine reads_constant.bind fun constant front hfront => Reads.pure ?_
    have hlast : Fills (2 - constant.width) [] := by
      rw [fills_nil_iff, width]
      split <;> omega
    refine ⟨[constant], .cons hfront .nil, fills_cons_iff.2 ⟨by omega, hlast⟩, ?_⟩
    exact (poolSlots_singleton constant).symm
  | n + 2 => by
    refine reads_constant.bind fun constant front hfront => ?_
    cases hwide : constant.isWide with
    | true =>
      refine (reads_slots n).bind fun _ row hslots => Reads.pure ?_
      obtain ⟨constants, hrow, hfills, rfl⟩ := hslots
      rw [List.append_nil]
      refine slots_cons hfront hrow (by omega) ?_
      rwa [width, hwide]
    | false =>
      refine (reads_slots (n + 1)).bind fun _ row hslots => Reads.pure ?_
      obtain ⟨constants, hrow, hfills, rfl⟩ := hslots
      rw [List.append_nil]
      refine slots_cons hfront hrow (by omega) ?_
      rwa [width, hwide]

theorem eq_nil_of_fills (h : Fills count constants) (hcount : count ≤ 1) : constants = [] := by
  cases constants with
  | nil => rfl
  | cons constant constants =>
    have := (fills_cons_iff.1 h).1
    omega

theorem parses_slots_of_fills (hrow : Row IsEncoded constants row) :
    ∀ n, Fills (n + 1) constants →
      Parses (ConstantPool.slotParser n) row (poolSlots constants) := by
  induction hrow with
  | nil =>
    intro n hfills
    obtain rfl : n = 0 := by
      have := fills_nil_iff.1 hfills
      omega
    exact Parses.pure []
  | @cons constant others front row hfirst hothers ih =>
    intro n hfills
    obtain ⟨hcount, hfills⟩ := fills_cons_iff.1 hfills
    have hparse := parses_of_isEncoded hfirst
    by_cases hwidth : constant.width ≤ n
    · -- Behind the constant there are as many slots as the others fill.
      obtain ⟨left, rfl⟩ := Nat.exists_eq_add_of_le hwidth
      rw [show constant.width + left + 1 - constant.width = left + 1 by omega] at hfills
      refine parses_slots_cons hparse (ih left hfills) fun hleft => ?_
      obtain rfl := eq_nil_of_fills hfills (by omega)
      cases hothers
      exact ⟨rfl, rfl⟩
    · -- A wide constant lies in the last slot and passes the end.
      obtain rfl := eq_nil_of_fills hfills (by omega)
      obtain rfl : n = 1 := by
        unfold width at hwidth
        split at hwidth <;> omega
      cases hothers
      rw [List.append_nil, poolSlots_singleton]
      exact hparse.finish (Parses.pure _)

end Slots

/-! ## Places -/

/-- The place is the second slot of a wide constant. -/
def FollowsWide (constants : List Constant) (place : UInt16) : Prop :=
  ∃ before constant after, constants = before ++ constant :: after ∧ constant.isWide = true ∧
    place.toNat = slotCount before + 2

theorem slot_cases {constants : List Constant} {slot : Nat} (h : slot < slotCount constants) :
    ∃ before constant after, constants = before ++ constant :: after ∧
      (slot = slotCount before ∨ constant.isWide = true ∧ slot = slotCount before + 1) := by
  induction constants generalizing slot with
  | nil => exact absurd h (Nat.not_lt_zero _)
  | cons first others ih =>
    rw [slotCount] at h
    by_cases hbehind : first.width ≤ slot
    · have hlt : slot - first.width < slotCount others := by omega
      obtain ⟨before, constant, after, rfl, hslot⟩ := ih hlt
      refine ⟨first :: before, constant, after, rfl, hslot.imp ?_ (And.imp_right ?_)⟩
      · rw [slotCount]
        omega
      · rw [slotCount]
        omega
    · refine ⟨[], first, others, rfl, ?_⟩
      rw [slotCount]
      cases hwide : first.isWide with
      | true =>
        rw [width, hwide, if_pos rfl] at hbehind
        simp
        omega
      | false =>
        rw [width, hwide, if_neg Bool.false_ne_true] at hbehind
        exact Or.inl (by omega)

theorem place_cases (constants : List Constant) (place : UInt16) :
    (∃ constant, HeldAt constants place constant) ∨ place = 0 ∨ FollowsWide constants place ∨
      slotCount constants < place.toNat := by
  by_cases hzero : place = 0
  · exact Or.inr (Or.inl hzero)
  by_cases hbehind : slotCount constants < place.toNat
  · exact Or.inr (Or.inr (Or.inr hbehind))
  have hpositive : place.toNat ≠ 0 := fun h => hzero (UInt16.toNat_inj.1 h)
  have hlt : place.toNat - 1 < slotCount constants := by omega
  obtain ⟨before, constant, after, rfl, hslot | ⟨hwide, hslot⟩⟩ := slot_cases hlt
  · exact Or.inl ⟨constant, before, after, rfl, by omega⟩
  · exact Or.inr (Or.inr (Or.inl ⟨before, constant, after, rfl, hwide, by omega⟩))

theorem lt_of_heldAt {constants : List Constant} {count place : UInt16} {constant : Constant}
    (hfills : Fills count.toNat constants) (h : HeldAt constants place constant) :
    place < count := by
  obtain ⟨before, after, hsplit, hplace⟩ := h
  rw [UInt16.lt_iff_toNat_lt, hplace]
  exact hfills.2 before constant after hsplit

end Constant

namespace ConstantPool

open Constant

theorem reads_pool : Reads parser fun pool bytes => ∃ (count : UInt16) (constants : List Constant)
    (row : List UInt8), bytes = index count ++ row ∧ Row IsEncoded constants row ∧
      Fills count.toNat constants ∧ pool = filledWith constants := by
  refine Reads.u16.bind fun count _ hcount => (reads_slots _).bind fun _ row hslots => Reads.pure ?_
  obtain ⟨constants, hrow, hfills, rfl⟩ := hslots
  subst hcount
  rw [List.append_nil]
  exact ⟨count, constants, row, rfl, hrow, fills_max_iff.1 hfills, rfl⟩

theorem parses_pool_of_fills {count : UInt16} {constants : List Constant} {row : List UInt8}
    (hrow : Row IsEncoded constants row) (hfills : Fills count.toNat constants) :
    Parses parser (index count ++ row) (filledWith constants) :=
  (Parses.u16 count).bind
    ((parses_slots_of_fills hrow _ (fills_max_iff.2 hfills)).finish (Parses.pure _))

theorem get_eq_error {pool : ConstantPool} {place : UInt16}
    (h : ∀ constant, pool.slots[place.toNat]? ≠ some (some constant)) :
    pool.get place = .error (.badIndex place) := by
  unfold get
  split
  · next constant hslot => exact absurd hslot (h constant)
  · rfl

section FilledWith

variable {constants : List Constant} {place : UInt16}

theorem get_of_followsWide (h : FollowsWide constants place) :
    (filledWith constants).get place = .error (.badIndex place) := by
  obtain ⟨before, constant, after, rfl, hwide, hplace⟩ := h
  have hlength := length_poolSlots before
  unfold poolSlots at hlength
  have hslot : (filledWith (before ++ constant :: after)).slots[place.toNat]? = some none := by
    unfold filledWith poolSlots
    rw [List.getElem?_toArray, hplace, List.getElem?_cons_succ, List.flatMap_append,
      List.flatMap_cons, List.getElem?_append_right (by omega), hlength, Nat.add_sub_cancel_left,
      Constant.slots, hwide]
    rfl
  refine get_eq_error fun other hother => ?_
  exact nomatch hslot.symm.trans hother

theorem get_of_slotCount_lt (h : slotCount constants < place.toNat) :
    (filledWith constants).get place = .error (.badIndex place) := by
  have hslot : (filledWith constants).slots[place.toNat]? = none := by
    unfold filledWith
    rw [List.getElem?_toArray, List.getElem?_eq_none_iff, List.length_cons, length_poolSlots]
    omega
  refine get_eq_error fun other hother => ?_
  exact nomatch hslot.symm.trans hother

theorem get_of_count_le {count : UInt16} (hfills : Fills count.toNat constants)
    (h : count ≤ place) : (filledWith constants).get place = .error (.badIndex place) := by
  rcases place_cases constants place with ⟨constant, hheld⟩ | rfl | hfollows | hbehind
  · exact absurd (lt_of_heldAt hfills hheld) (UInt16.not_lt.2 h)
  · rfl
  · exact get_of_followsWide hfollows
  · exact get_of_slotCount_lt hbehind

theorem filterMap_poolSlots (constants : List Constant) :
    (poolSlots constants).filterMap id = constants := by
  unfold poolSlots
  induction constants with
  | nil => rfl
  | cons constant constants ih =>
    rw [List.flatMap_cons, List.filterMap_append, ih, Constant.slots]
    cases constant.isWide <;> rfl

theorem filledWith_inj {others : List Constant} (h : filledWith constants = filledWith others) :
    constants = others := by
  have hslots := congrArg (fun pool => pool.slots.toList.tail) h
  rw [← filterMap_poolSlots constants, ← filterMap_poolSlots others]
  exact congrArg (List.filterMap id) hslots

end FilledWith

/-- A pool is read from a count and the written forms of constants that fill it, and from nothing
else. An index is the first slot of a constant, and then it is below the count and finds the
constant, or it finds nothing: index zero, the second slot of a wide constant, and every index from
the count on. -/
theorem parser_lays_out {input rest : List UInt8} {pool : ConstantPool}
    (h : parser input = .ok (pool, rest)) :
    ∃ (count : UInt16) (constants : List Constant) (row : List UInt8),
      input = index count ++ (row ++ rest) ∧ Row IsEncoded constants row ∧
      Fills count.toNat constants ∧
      (∀ place constant, HeldAt constants place constant →
        place < count ∧ pool.get place = .ok constant) ∧
      (∀ place, place = 0 ∨ FollowsWide constants place ∨ count ≤ place →
        pool.get place = .error (.badIndex place)) ∧
      (∀ place, (∃ constant, HeldAt constants place constant) ∨
        place = 0 ∨ FollowsWide constants place ∨ count ≤ place) ∧
      ∀ (count' : UInt16) (constants' : List Constant) (row' rest' : List UInt8),
        input = index count' ++ (row' ++ rest') → Row IsEncoded constants' row' →
          Fills count'.toNat constants' →
            count' = count ∧ constants' = constants ∧ row' = row ∧ rest' = rest := by
  obtain ⟨_, htaken, count, constants, row, rfl, hrow, hfills, rfl⟩ := reads_pool input pool rest h
  rw [List.append_assoc] at htaken
  refine ⟨count, constants, row, htaken, hrow, hfills, ?_, ?_, ?_, ?_⟩
  · intro place constant hheld
    exact ⟨lt_of_heldAt hfills hheld, (holds_of_heldAt hheld).get_eq⟩
  · rintro place (rfl | hfollows | hcount)
    · rfl
    · exact get_of_followsWide hfollows
    · exact get_of_count_le hfills hcount
  · intro place
    rcases place_cases constants place with hheld | hzero | hfollows | hbehind
    · exact Or.inl hheld
    · exact Or.inr (Or.inl hzero)
    · exact Or.inr (Or.inr (Or.inl hfollows))
    · refine Or.inr (Or.inr (Or.inr (UInt16.le_iff_toNat_le.2 ?_)))
      have := hfills.1
      omega
  · intro count' constants' row' rest' hinput hrow' hfills'
    have hparse := parses_pool_of_fills hrow' hfills' rest'
    rw [List.append_assoc, ← hinput, h] at hparse
    obtain ⟨hpool, rfl⟩ := Prod.mk.inj (Except.ok.inj hparse)
    obtain rfl := filledWith_inj hpool
    have hcount := Parses.u16 count' (row' ++ rest)
    rw [← hinput, htaken, Parses.u16 count] at hcount
    obtain ⟨rfl, hrows⟩ := Prod.mk.inj (Except.ok.inj hcount)
    exact ⟨rfl, rfl, (List.append_cancel_right hrows).symm, rfl⟩

theorem long_passes_end :
    let input : List UInt8 := [0, 2, 5, 0, 0, 0, 0, 0, 0, 0, 42, 99]
    ∃ pool, parser input = .ok (pool, [99]) ∧ pool.get 1 = .ok (.long 42) ∧
      pool.get 0 = .error (.badIndex 0) ∧ pool.get 2 = .error (.badIndex 2) ∧
      pool.get 3 = .error (.badIndex 3) := by
  intro input
  have hfills : Fills 2 [.long 42] :=
    fills_cons_iff.2 ⟨by decide, fills_nil_iff.2 (by decide)⟩
  have hlong : IsEncoded (.long 42) [5, 0, 0, 0, 0, 0, 0, 0, 42] := .other (IsWritten.long 42)
  have hrow : Row IsEncoded [.long 42] [5, 0, 0, 0, 0, 0, 0, 0, 42] := Row.cons hlong .nil
  have hparse : parser input = .ok (⟨#[none, some (.long 42), none]⟩, [99]) := rfl
  obtain ⟨count, constants, row, -, -, -, hheld, hnone, -, hunique⟩ := parser_lays_out hparse
  obtain ⟨rfl, rfl, -, -⟩ := hunique 2 [.long 42] _ [99] rfl hrow hfills
  refine ⟨_, hparse, (hheld 1 _ ⟨[], [], rfl, rfl⟩).2, hnone 0 (Or.inl rfl), ?_, ?_⟩
  · exact hnone 2 (Or.inr (Or.inl ⟨[], .long 42, [], rfl, rfl, rfl⟩))
  · exact hnone 3 (Or.inr (Or.inr (by decide)))

end ConstantPool

end Rebuild
