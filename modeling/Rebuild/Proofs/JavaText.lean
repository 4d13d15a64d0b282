import Rebuild.Text.ModifiedUtf8

/-!
# The text of class files reads back

Each character is one UTF-16 unit or a pair of surrogates, and each unit one group of bytes, so no
text is lost when it is written.
-/

namespace Rebuild

/-! ## UTF-16 -/

namespace Utf16

theorem char?_toNat (c : Char) : char? c.toNat = some c := by
  have hvalid : c.toNat.isValidChar := c.valid
  unfold char?
  rw [dif_pos hvalid]
  rfl

theorem not_isHigh_ofNat {c : Char} (h : c.toNat < 0x10000) : isHigh c.toNat.toUInt16 = false := by
  have hvalid : c.toNat < 0xD800 ∨ 0xDFFF < c.toNat ∧ c.toNat < 0x110000 := c.valid
  unfold isHigh
  rw [Bool.and_eq_false_iff, decide_eq_false_iff_not, decide_eq_false_iff_not,
    UInt16.le_iff_toNat_le, UInt16.le_iff_toNat_le]
  simp
  omega

theorem decode?_ofChar_one {c : Char} (h : c.toNat < 0x10000) (rest : List UInt16) :
    decode? (ofChar c ++ rest) = (decode? rest).map (c :: ·) := by
  have hunit : c.toNat.toUInt16.toNat = c.toNat := by
    simp
    omega
  unfold ofChar
  rw [if_pos h]
  cases rest with
  | nil => simp [decode?, hunit, char?_toNat]
  | cons next rest =>
    simp only [List.cons_append, List.nil_append, decode?, not_isHigh_ofNat h, Bool.false_and,
      Bool.false_eq_true, ↓reduceIte, hunit, char?_toNat]
    cases decode? (next :: rest) <;> rfl

theorem decode?_ofChar_pair {c : Char} (h : ¬ c.toNat < 0x10000) (rest : List UInt16) :
    decode? (ofChar c ++ rest) = (decode? rest).map (c :: ·) := by
  have hvalid : c.toNat < 0xD800 ∨ 0xDFFF < c.toNat ∧ c.toNat < 0x110000 := c.valid
  have hhigh : (0xD800 + (c.toNat - 0x10000) / 0x400).toUInt16.toNat =
      0xD800 + (c.toNat - 0x10000) / 0x400 := by
    simp
    omega
  have hlow : (0xDC00 + (c.toNat - 0x10000) % 0x400).toUInt16.toNat =
      0xDC00 + (c.toNat - 0x10000) % 0x400 := by
    simp
    omega
  have hpair : isHigh (0xD800 + (c.toNat - 0x10000) / 0x400).toUInt16 &&
      isLow (0xDC00 + (c.toNat - 0x10000) % 0x400).toUInt16 := by
    unfold isHigh isLow
    simp only [Bool.and_eq_true, decide_eq_true_eq, UInt16.le_iff_toNat_le, hhigh, hlow]
    simp
    omega
  have hpoint : pairPoint (0xD800 + (c.toNat - 0x10000) / 0x400).toUInt16
      (0xDC00 + (c.toNat - 0x10000) % 0x400).toUInt16 = c.toNat := by
    unfold pairPoint
    rw [hhigh, hlow]
    omega
  unfold ofChar
  rw [if_neg h]
  simp only [List.cons_append, List.nil_append, decode?, hpair, ↓reduceIte, hpoint, char?_toNat]
  cases decode? rest <;> rfl

theorem decode?_ofChar_append (c : Char) (rest : List UInt16) :
    decode? (ofChar c ++ rest) = (decode? rest).map (c :: ·) := by
  by_cases h : c.toNat < 0x10000
  · exact decode?_ofChar_one h rest
  · exact decode?_ofChar_pair h rest

theorem decode?_encode (text : List Char) : decode? (encode text) = some text := by
  unfold encode
  induction text with
  | nil => rfl
  | cons c text ih => rw [List.flatMap_cons, decode?_ofChar_append, ih, Option.map_some]

end Utf16

/-! ## Groups of bytes -/

namespace ModifiedUtf8

/-! Bytes are told apart by their highest bits, so these facts are about few of them. -/

theorem lead_one : ∀ n, n < 128 → (UInt8.ofNat n &&& 0x80 == 0) = true := by decide

theorem ofUnit_plain : ∀ n, n < 128 → n ≠ 0 → ofUnit n.toUInt16 = [UInt8.ofNat n] := by decide

theorem lead_two : ∀ n, n < 32 →
    (UInt8.ofNat (0xC0 + n) &&& 0x80 == 0) = false ∧
      (UInt8.ofNat (0xC0 + n) &&& 0xE0 == 0xC0) = true ∧
        (UInt8.ofNat (0xC0 + n) &&& 0x1F).toUInt16 = UInt16.ofNat n := by decide

theorem lead_three : ∀ n, n < 16 →
    (UInt8.ofNat (0xE0 + n) &&& 0x80 == 0) = false ∧
      (UInt8.ofNat (0xE0 + n) &&& 0xE0 == 0xC0) = false ∧
        (UInt8.ofNat (0xE0 + n) &&& 0xF0 == 0xE0) = true ∧
          (UInt8.ofNat (0xE0 + n) &&& 0x0F).toUInt16 = UInt16.ofNat n := by decide

theorem isFollower_ofNat : ∀ n, n < 64 →
    isFollower (UInt8.ofNat (0x80 + n)) = true ∧
      payload (UInt8.ofNat (0x80 + n)) = UInt16.ofNat n := by decide

theorem or_lead_two : ∀ n, n < 32 → UInt8.ofNat n ||| 0xC0 = UInt8.ofNat (0xC0 + n) := by decide

theorem or_lead_three : ∀ n, n < 16 → UInt8.ofNat n ||| 0xE0 = UInt8.ofNat (0xE0 + n) := by decide

theorem or_follower : ∀ n, n < 64 → UInt8.ofNat n ||| 0x80 = UInt8.ofNat (0x80 + n) := by decide

theorem follower_eq (unit : UInt16) : follower unit = UInt8.ofNat (0x80 + unit.toNat % 64) := by
  have hlow : (unit &&& 0x3F).toUInt8 = UInt8.ofNat (unit.toNat % 64) := by
    apply UInt8.toNat_inj.1
    have := Nat.and_two_pow_sub_one_eq_mod unit.toNat 6
    simp only [UInt16.toNat_toUInt8, UInt16.toNat_and, UInt8.toNat_ofNat']
    simp at this ⊢
    rw [this]
  unfold follower
  rw [hlow, or_follower _ (Nat.mod_lt _ (by decide))]

theorem shiftRight_six_toUInt8 (unit : UInt16) :
    (unit >>> 6).toUInt8 = UInt8.ofNat (unit.toNat / 64) := by
  apply UInt8.toNat_inj.1
  simp [Nat.shiftRight_eq_div_pow]

theorem shiftRight_twelve_toUInt8 (unit : UInt16) :
    (unit >>> 12).toUInt8 = UInt8.ofNat (unit.toNat / 4096) := by
  apply UInt8.toNat_inj.1
  simp [Nat.shiftRight_eq_div_pow]

theorem shiftLeft_six_or {front low : Nat} (hfront : front < 1024) (hlow : low < 64) :
    (UInt16.ofNat front <<< 6 ||| UInt16.ofNat low) = UInt16.ofNat (front * 64 + low) := by
  apply UInt16.toNat_inj.1
  have hor := Nat.two_pow_add_eq_or_of_lt (i := 6) hlow front
  have hmod : front % 65536 = front := Nat.mod_eq_of_lt (by omega)
  have hmod' : low % 65536 = low := Nat.mod_eq_of_lt (by omega)
  have hmod'' : front * 64 % 65536 = front * 64 := Nat.mod_eq_of_lt (by omega)
  simp [Nat.shiftLeft_eq, hmod, hmod', hmod'']
  rw [Nat.mul_comm, ← hor]
  omega

/-! ## One group for each unit -/

section Groups

variable {unit : UInt16} (rest : List UInt8)

theorem units?_ofUnit_one (hone : (unit != 0 && unit < 0x80) = true) :
    units? (ofUnit unit ++ rest) = (units? rest).map (unit :: ·) := by
  obtain ⟨hzero, hlt⟩ := Bool.and_eq_true_iff.1 hone
  have hlt : unit.toNat < 128 := UInt16.lt_iff_toNat_lt.1 (of_decide_eq_true hlt)
  have hbyte : unit.toUInt8.toUInt16 = unit := by
    apply UInt16.toNat_inj.1
    simp
    omega
  have hnonzero : (unit.toUInt8 == 0) = false := by
    rw [beq_eq_false_iff_ne]
    intro heq
    rw [heq] at hbyte
    exact absurd hbyte.symm (bne_iff_ne.1 hzero)
  have hlead : (unit.toUInt8 &&& 0x80 == 0) = true := lead_one _ hlt
  unfold ofUnit
  rw [if_pos hone, List.singleton_append]
  conv => lhs; unfold units?
  simp only [hlead, hnonzero, hbyte, Bool.false_eq_true, ↓reduceIte]

theorem units?_ofUnit_two (hone : ¬ (unit != 0 && unit < 0x80) = true) (htwo : unit < 0x800) :
    units? (ofUnit unit ++ rest) = (units? rest).map (unit :: ·) := by
  have hfront : unit.toNat / 64 < 32 := by
    have := UInt16.lt_iff_toNat_lt.1 htwo
    simp at this
    omega
  have hlow : unit.toNat % 64 < 64 := Nat.mod_lt _ (by decide)
  obtain ⟨hwide, hlead, hbits⟩ := lead_two _ hfront
  obtain ⟨hfollows, hpayload⟩ := isFollower_ofNat _ hlow
  unfold ofUnit
  rw [if_neg hone, if_pos htwo, shiftRight_six_toUInt8, or_lead_two _ hfront, follower_eq]
  simp only [List.cons_append, List.nil_append, units?, hwide, hlead, hfollows, hbits, hpayload,
    Bool.false_eq_true, ↓reduceIte]
  rw [shiftLeft_six_or (by omega) hlow]
  rw [show unit.toNat / 64 * 64 + unit.toNat % 64 = unit.toNat by omega, UInt16.ofNat_toNat]

theorem units?_ofUnit_three (hone : ¬ (unit != 0 && unit < 0x80) = true)
    (htwo : ¬ unit < 0x800) :
    units? (ofUnit unit ++ rest) = (units? rest).map (unit :: ·) := by
  have hunit : unit.toNat < 65536 := unit.toNat_lt
  have hfront : unit.toNat / 4096 < 16 := by omega
  have hmiddle : (unit >>> 6).toNat % 64 < 64 := Nat.mod_lt _ (by decide)
  have hlow : unit.toNat % 64 < 64 := Nat.mod_lt _ (by decide)
  have hshift : (unit >>> 6).toNat = unit.toNat / 64 := by simp [Nat.shiftRight_eq_div_pow]
  obtain ⟨hwide, hnarrow, hlead, hbits⟩ := lead_three _ hfront
  obtain ⟨hfollows, hpayload⟩ := isFollower_ofNat _ hmiddle
  obtain ⟨hfollows', hpayload'⟩ := isFollower_ofNat _ hlow
  unfold ofUnit
  rw [if_neg hone, if_neg htwo, shiftRight_twelve_toUInt8, or_lead_three _ hfront, follower_eq,
    follower_eq]
  simp only [List.cons_append, List.nil_append, units?, hwide, hnarrow, hlead, hfollows,
    hfollows', Bool.and_self, hbits, hpayload, hpayload', Bool.false_eq_true, ↓reduceIte]
  have hpieces : (unit.toNat / 4096 * 64 + (unit >>> 6).toNat % 64) * 64 + unit.toNat % 64 =
      unit.toNat := by omega
  rw [show (12 : UInt16) = 6 + 6 from rfl,
    UInt16.shiftLeft_add (by decide) (by decide) (by decide), ← UInt16.shiftLeft_or,
    shiftLeft_six_or (by omega) hmiddle, shiftLeft_six_or (by omega) hlow, hpieces,
    UInt16.ofNat_toNat]

theorem units?_ofUnit_append (unit : UInt16) :
    units? (ofUnit unit ++ rest) = (units? rest).map (unit :: ·) := by
  by_cases hone : (unit != 0 && unit < 0x80) = true
  · exact units?_ofUnit_one rest hone
  by_cases htwo : unit < 0x800
  · exact units?_ofUnit_two rest hone htwo
  · exact units?_ofUnit_three rest hone htwo

end Groups

theorem units?_flatMap_ofUnit (units : List UInt16) :
    units? (units.flatMap ofUnit) = some units := by
  induction units with
  | nil => rfl
  | cons unit units ih => rw [List.flatMap_cons, units?_ofUnit_append, ih, Option.map_some]

/-! ## Whole texts -/

theorem general?_encode (text : String) : general? (encode text) = some text.toList := by
  unfold general? encode
  rw [units?_flatMap_ofUnit, Option.bind_some, Utf16.decode?_encode]

section Plain

variable {bytes : List UInt8} (h : ∀ byte ∈ bytes, (byte != 0 && byte < 0x80) = true)

include h

theorem encode_of_plain : encode (String.ofList (bytes.map Char.ofUInt8)) = bytes := by
  unfold encode Utf16.encode
  rw [String.toList_ofList]
  induction bytes with
  | nil => rfl
  | cons byte bytes ih =>
    obtain ⟨hbyte, hbytes⟩ := List.forall_mem_cons.1 h
    obtain ⟨hzero, hlt⟩ := Bool.and_eq_true_iff.1 hbyte
    have hcode : (Char.ofUInt8 byte).toNat = byte.toNat := rfl
    have hsmall : byte.toNat < 128 := UInt8.lt_iff_toNat_lt.1 (of_decide_eq_true hlt)
    have hunit : Utf16.ofChar (Char.ofUInt8 byte) = [byte.toNat.toUInt16] := by
      unfold Utf16.ofChar
      rw [hcode, if_pos (by omega)]
    have hnonzero : byte.toNat ≠ 0 := by
      intro heq
      exact absurd (UInt8.toNat_inj.1 heq) (bne_iff_ne.1 hzero)
    have hgroup := ofUnit_plain _ hsmall hnonzero
    rw [UInt8.ofNat_toNat] at hgroup
    rw [List.map_cons, List.flatMap_cons, hunit, List.flatMap_append, ih hbytes,
      List.flatMap_singleton, hgroup]
    rfl

theorem general?_of_plain : general? bytes = some (bytes.map Char.ofUInt8) := by
  have hgeneral := general?_encode (String.ofList (bytes.map Char.ofUInt8))
  rwa [encode_of_plain h, String.toList_ofList] at hgeneral

end Plain

theorem general?_of_plain? {bytes : List UInt8} {text : List Char} (h : plain? bytes = some text) :
    general? bytes = some text := by
  unfold plain? at h
  split at h
  · next hplain => rw [general?_of_plain (List.all_eq_true.1 hplain), h]
  · cases h

theorem decode?_eq_general (bytes : List UInt8) :
    decode? bytes = (general? bytes).map String.ofList := by
  unfold decode?
  cases hplain : plain? bytes with
  | none => rfl
  | some text =>
    rw [general?_of_plain? hplain]
    rfl

theorem decode?_encode (text : String) : decode? (encode text) = some text := by
  rw [decode?_eq_general, general?_encode, Option.map_some, String.ofList_toList]

end ModifiedUtf8

end Rebuild
