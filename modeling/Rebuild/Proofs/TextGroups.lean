import Rebuild.Proofs.JavaText

/-!
# Which bytes are texts of class files

Bytes are a text exactly if they split into groups of one to three whose units are UTF-16 without a
lone surrogate, and then the text has these units. A text can be written in more than one way, but
no bytes stand for two texts.
-/

namespace Rebuild

/-! ## UTF-16 -/

namespace Utf16

/-- Surrogates stand in pairs, the high one first. -/
inductive IsWellFormed : List UInt16 → Prop
  | nil : IsWellFormed []
  | single {unit : UInt16} {rest : List UInt16} :
    isHigh unit = false → isLow unit = false → IsWellFormed rest → IsWellFormed (unit :: rest)
  | pair {high low : UInt16} {rest : List UInt16} :
    isHigh high = true → isLow low = true → IsWellFormed rest → IsWellFormed (high :: low :: rest)

theorem isHigh_iff (unit : UInt16) :
    isHigh unit = true ↔ 0xD800 ≤ unit.toNat ∧ unit.toNat ≤ 0xDBFF := by
  simp [isHigh, UInt16.le_iff_toNat_le]

theorem isLow_iff (unit : UInt16) :
    isLow unit = true ↔ 0xDC00 ≤ unit.toNat ∧ unit.toNat ≤ 0xDFFF := by
  simp [isLow, UInt16.le_iff_toNat_le]

theorem char?_eq_some_iff {point : Nat} {c : Char} : char? point = some c ↔ c.toNat = point := by
  constructor
  · intro h
    unfold char? at h
    by_cases hvalid : point.isValidChar
    · rw [dif_pos hvalid] at h
      obtain rfl := Option.some.inj h
      rfl
    · rw [dif_neg hvalid] at h
      exact nomatch h
  · rintro rfl
    exact char?_toNat c

theorem exists_char?_eq_some {point : Nat} (h : point.isValidChar) :
    ∃ c, char? point = some c := by
  unfold char?
  rw [dif_pos h]
  exact ⟨_, rfl⟩

/-! ### Characters and their units -/

section Units

variable {unit high low : UInt16} {c : Char}

theorem ofChar_of_char? (h : char? unit.toNat = some c) : ofChar c = [unit] := by
  have hpoint := char?_eq_some_iff.1 h
  have hunit := unit.toNat_lt
  unfold ofChar
  rw [if_pos (by omega), hpoint, Nat.toUInt16_eq, UInt16.ofNat_toNat]

theorem ofChar_of_pairPoint (hhigh : isHigh high = true) (hlow : isLow low = true)
    (h : char? (pairPoint high low) = some c) : ofChar c = [high, low] := by
  have hpoint := char?_eq_some_iff.1 h
  rw [isHigh_iff] at hhigh
  rw [isLow_iff] at hlow
  unfold pairPoint at hpoint
  have hfront : 0xD800 + (c.toNat - 0x10000) / 0x400 = high.toNat := by omega
  have hback : 0xDC00 + (c.toNat - 0x10000) % 0x400 = low.toNat := by omega
  unfold ofChar
  rw [if_neg (by omega)]
  dsimp only
  rw [hfront, hback, Nat.toUInt16_eq, Nat.toUInt16_eq, UInt16.ofNat_toNat, UInt16.ofNat_toNat]

theorem exists_ofChar_single (hhigh : isHigh unit = false) (hlow : isLow unit = false) :
    ∃ c, ofChar c = [unit] := by
  have hunit := unit.toNat_lt
  rw [Bool.eq_false_iff, ne_eq, isHigh_iff] at hhigh
  rw [Bool.eq_false_iff, ne_eq, isLow_iff] at hlow
  have hvalid : unit.toNat.isValidChar := by
    unfold Nat.isValidChar
    omega
  obtain ⟨c, hc⟩ := exists_char?_eq_some hvalid
  exact ⟨c, ofChar_of_char? hc⟩

theorem exists_ofChar_pair (hhigh : isHigh high = true) (hlow : isLow low = true) :
    ∃ c, ofChar c = [high, low] := by
  have hvalid : (pairPoint high low).isValidChar := by
    rw [isHigh_iff] at hhigh
    rw [isLow_iff] at hlow
    unfold pairPoint Nat.isValidChar
    omega
  obtain ⟨c, hc⟩ := exists_char?_eq_some hvalid
  exact ⟨c, ofChar_of_pairPoint hhigh hlow hc⟩

end Units

theorem IsWellFormed.ofChar_append {rest : List UInt16} (h : IsWellFormed rest) (c : Char) :
    IsWellFormed (ofChar c ++ rest) := by
  have hvalid : c.toNat < 0xD800 ∨ 0xDFFF < c.toNat ∧ c.toNat < 0x110000 := c.valid
  unfold ofChar
  split
  · next hsmall =>
    refine .single (not_isHigh_ofNat hsmall) ?_ h
    rw [Bool.eq_false_iff, ne_eq, isLow_iff]
    simp
    omega
  · refine .pair ?_ ?_ h
    · rw [isHigh_iff]
      simp
      omega
    · rw [isLow_iff]
      simp
      omega

/-! ### Whole texts -/

theorem encode_cons (c : Char) (text : List Char) : encode (c :: text) = ofChar c ++ encode text :=
  List.flatMap_cons

theorem eq_encode_of_decode? {units : List UInt16} {text : List Char}
    (h : decode? units = some text) : units = encode text := by
  fun_induction decode? units generalizing text with
  | case1 =>
    cases h
    rfl
  | case2 unit =>
    obtain ⟨c, hc, rfl⟩ := Option.map_eq_some_iff.1 h
    rw [encode_cons, ofChar_of_char? hc]
    rfl
  | case3 unit next rest hpair ih =>
    obtain ⟨hhigh, hlow⟩ := Bool.and_eq_true_iff.1 hpair
    obtain ⟨c, hc, h⟩ := Option.bind_eq_some_iff.1 h
    obtain ⟨others, hothers, heq⟩ := Option.bind_eq_some_iff.1 h
    cases heq
    rw [encode_cons, ofChar_of_pairPoint hhigh hlow hc, ← ih hothers]
    rfl
  | case4 unit next rest hpair ih =>
    obtain ⟨c, hc, h⟩ := Option.bind_eq_some_iff.1 h
    obtain ⟨others, hothers, heq⟩ := Option.bind_eq_some_iff.1 h
    cases heq
    rw [encode_cons, ofChar_of_char? hc, ← ih hothers]
    rfl

theorem decode?_eq_some_iff {units : List UInt16} {text : List Char} :
    decode? units = some text ↔ units = encode text :=
  ⟨eq_encode_of_decode?, fun h => h ▸ decode?_encode text⟩

theorem isWellFormed_iff {units : List UInt16} :
    IsWellFormed units ↔ ∃ text, units = encode text := by
  constructor
  · intro h
    induction h with
    | nil => exact ⟨[], rfl⟩
    | single hhigh hlow _ ih =>
      obtain ⟨c, hc⟩ := exists_ofChar_single hhigh hlow
      obtain ⟨text, rfl⟩ := ih
      exact ⟨c :: text, by rw [encode_cons, hc]; rfl⟩
    | pair hhigh hlow _ ih =>
      obtain ⟨c, hc⟩ := exists_ofChar_pair hhigh hlow
      obtain ⟨text, rfl⟩ := ih
      exact ⟨c :: text, by rw [encode_cons, hc]; rfl⟩
  · rintro ⟨text, rfl⟩
    induction text with
    | nil => exact .nil
    | cons c text ih => exact encode_cons c text ▸ ih.ofChar_append c

end Utf16

/-! ## Groups -/

namespace ModifiedUtf8

/-- The bits that a group of bytes holds. A single byte is not zero. -/
inductive Group
  | one (bits : BitVec 7) (nonzero : bits ≠ 0)
  | two (front : BitVec 5) (back : BitVec 6)
  | three (front : BitVec 4) (middle back : BitVec 6)

namespace Group

/-- The byte `10xxxxxx`. -/
def behind (bits : BitVec 6) : UInt8 := ⟨0b10#2 ++ bits⟩

/-- `0xxxxxxx`, `110xxxxx 10xxxxxx` or `1110xxxx 10xxxxxx 10xxxxxx`. -/
def bytes : Group → List UInt8
  | one bits _ => [⟨0b0#1 ++ bits⟩]
  | two front back => [⟨0b110#3 ++ front⟩, behind back]
  | three front middle back => [⟨0b1110#4 ++ front⟩, behind middle, behind back]

def unit : Group → UInt16
  | one bits _ => ⟨bits.setWidth 16⟩
  | two front back => ⟨(front ++ back).setWidth 16⟩
  | three front middle back => ⟨(front ++ middle ++ back).setWidth 16⟩

end Group

/-! ### Bytes by their highest bits -/

theorem exists_of_lead_one {byte : UInt8} (h : (byte &&& 0x80 == 0) = true) :
    ∃ bits : BitVec 7, byte = ⟨0b0#1 ++ bits⟩ := by
  have hall : ∀ all : BitVec 8, ((⟨all⟩ : UInt8) &&& 0x80 == 0) = true →
      all = 0b0#1 ++ all.setWidth 7 := by decide
  exact ⟨_, congrArg UInt8.ofBitVec (hall byte.toBitVec h)⟩

theorem exists_of_lead_two {byte : UInt8} (h : (byte &&& 0xE0 == 0xC0) = true) :
    ∃ bits : BitVec 5, byte = ⟨0b110#3 ++ bits⟩ := by
  have hall : ∀ all : BitVec 8, ((⟨all⟩ : UInt8) &&& 0xE0 == 0xC0) = true →
      all = 0b110#3 ++ all.setWidth 5 := by decide
  exact ⟨_, congrArg UInt8.ofBitVec (hall byte.toBitVec h)⟩

theorem exists_of_lead_three {byte : UInt8} (h : (byte &&& 0xF0 == 0xE0) = true) :
    ∃ bits : BitVec 4, byte = ⟨0b1110#4 ++ bits⟩ := by
  have hall : ∀ all : BitVec 8, ((⟨all⟩ : UInt8) &&& 0xF0 == 0xE0) = true →
      all = 0b1110#4 ++ all.setWidth 4 := by decide
  exact ⟨_, congrArg UInt8.ofBitVec (hall byte.toBitVec h)⟩

theorem exists_of_isFollower {byte : UInt8} (h : isFollower byte = true) :
    ∃ bits : BitVec 6, byte = Group.behind bits := by
  have hall : ∀ all : BitVec 8, isFollower ⟨all⟩ = true → all = 0b10#2 ++ all.setWidth 6 := by
    decide
  exact ⟨_, congrArg UInt8.ofBitVec (hall byte.toBitVec h)⟩

theorem one_holds : ∀ bits : BitVec 7, bits ≠ 0 →
    ((⟨0b0#1 ++ bits⟩ : UInt8) &&& 0x80 == 0) = true ∧
      ((⟨0b0#1 ++ bits⟩ : UInt8) == 0) = false ∧
        (⟨0b0#1 ++ bits⟩ : UInt8).toUInt16 = ⟨bits.setWidth 16⟩ := by decide

theorem two_holds : ∀ bits : BitVec 5,
    ((⟨0b110#3 ++ bits⟩ : UInt8) &&& 0x80 == 0) = false ∧
      ((⟨0b110#3 ++ bits⟩ : UInt8) &&& 0xE0 == 0xC0) = true ∧
        ((⟨0b110#3 ++ bits⟩ : UInt8) &&& 0x1F).toUInt16 = ⟨bits.setWidth 16⟩ := by decide

theorem three_holds : ∀ bits : BitVec 4,
    ((⟨0b1110#4 ++ bits⟩ : UInt8) &&& 0x80 == 0) = false ∧
      ((⟨0b1110#4 ++ bits⟩ : UInt8) &&& 0xE0 == 0xC0) = false ∧
        ((⟨0b1110#4 ++ bits⟩ : UInt8) &&& 0xF0 == 0xE0) = true ∧
          ((⟨0b1110#4 ++ bits⟩ : UInt8) &&& 0x0F).toUInt16 = ⟨bits.setWidth 16⟩ := by decide

theorem behind_holds : ∀ bits : BitVec 6,
    isFollower (Group.behind bits) = true ∧
      payload (Group.behind bits) = ⟨bits.setWidth 16⟩ := by decide

theorem ofBitVec_setWidth {n : Nat} (bits : BitVec n) :
    (⟨bits.setWidth 16⟩ : UInt16) = UInt16.ofNat bits.toNat :=
  UInt16.toBitVec_inj.1 (BitVec.ofNat_toNat 16 bits).symm

theorem shiftLeft_six_or_append {n : Nat} (hn : n ≤ 10) (front : BitVec n) (back : BitVec 6) :
    ((⟨front.setWidth 16⟩ : UInt16) <<< 6 ||| ⟨back.setWidth 16⟩) =
      ⟨(front ++ back).setWidth 16⟩ := by
  have hfront : front.toNat < 1024 :=
    Nat.lt_of_lt_of_le front.isLt (Nat.pow_le_pow_right (by decide) hn)
  have hback : back.toNat < 2 ^ 6 := back.isLt
  rw [ofBitVec_setWidth, ofBitVec_setWidth, ofBitVec_setWidth, shiftLeft_six_or hfront hback,
    BitVec.toNat_append, ← Nat.shiftLeft_add_eq_or_of_lt hback, Nat.shiftLeft_eq]

/-! ### Groups in a row -/

theorem units?_group_append (group : Group) (rest : List UInt8) :
    units? (group.bytes ++ rest) = (units? rest).map (group.unit :: ·) := by
  cases group with
  | one bits nonzero =>
    obtain ⟨hlead, hzero, hbits⟩ := one_holds bits nonzero
    rw [Group.bytes, List.singleton_append]
    conv => lhs; unfold units?
    simp only [hlead, hzero, hbits, Bool.false_eq_true, ↓reduceIte, Group.unit]
  | two front back =>
    obtain ⟨hwide, hlead, hfront⟩ := two_holds front
    obtain ⟨hfollows, hback⟩ := behind_holds back
    rw [Group.bytes, List.cons_append, List.singleton_append]
    conv => lhs; unfold units?
    simp only [hwide, hlead, hfollows, hfront, hback, Bool.false_eq_true, ↓reduceIte, Group.unit,
      shiftLeft_six_or_append (show 5 ≤ 10 by decide)]
  | three front middle back =>
    obtain ⟨hwide, hnarrow, hlead, hfront⟩ := three_holds front
    obtain ⟨hfollows, hmiddle⟩ := behind_holds middle
    obtain ⟨hfollows', hback⟩ := behind_holds back
    rw [Group.bytes, List.cons_append, List.cons_append, List.singleton_append]
    conv => lhs; unfold units?
    simp only [hwide, hnarrow, hlead, hfollows, hfollows', hfront, hmiddle, hback, Bool.and_self,
      Bool.false_eq_true, ↓reduceIte, Group.unit]
    rw [show (12 : UInt16) = 6 + 6 from rfl,
      UInt16.shiftLeft_add (by decide) (by decide) (by decide), ← UInt16.shiftLeft_or,
      shiftLeft_six_or_append (show 4 ≤ 10 by decide),
      shiftLeft_six_or_append (show 10 ≤ 10 by decide)]

theorem units?_flatMap_bytes (groups : List Group) :
    units? (groups.flatMap Group.bytes) = some (groups.map Group.unit) := by
  induction groups with
  | nil => rfl
  | cons group groups ih =>
    rw [List.flatMap_cons, units?_group_append, ih, Option.map_some, List.map_cons]

theorem exists_groups_of_units? {bytes : List UInt8} {units : List UInt16}
    (h : units? bytes = some units) :
    ∃ groups : List Group, bytes = groups.flatMap Group.bytes := by
  -- One case for each length of the first group; the other cases have no units.
  fun_induction units? bytes generalizing units with
  | case1 => exact ⟨[], rfl⟩
  | case3 byte rest hlead hzero ih =>
    obtain ⟨others, hothers, -⟩ := Option.map_eq_some_iff.1 h
    obtain ⟨groups, rfl⟩ := ih hothers
    obtain ⟨bits, rfl⟩ := exists_of_lead_one hlead
    have hbits : bits ≠ 0 := by
      rintro rfl
      exact hzero rfl
    exact ⟨.one bits hbits :: groups, rfl⟩
  | case4 byte _ hlead follower rest hfollows ih =>
    obtain ⟨others, hothers, -⟩ := Option.map_eq_some_iff.1 h
    obtain ⟨groups, rfl⟩ := ih hothers
    obtain ⟨front, rfl⟩ := exists_of_lead_two hlead
    obtain ⟨back, rfl⟩ := exists_of_isFollower hfollows
    exact ⟨.two front back :: groups, rfl⟩
  | case7 byte _ _ hlead first second rest hfollows ih =>
    obtain ⟨others, hothers, -⟩ := Option.map_eq_some_iff.1 h
    obtain ⟨groups, rfl⟩ := ih hothers
    obtain ⟨hfirst, hsecond⟩ := Bool.and_eq_true_iff.1 hfollows
    obtain ⟨front, rfl⟩ := exists_of_lead_three hlead
    obtain ⟨middle, rfl⟩ := exists_of_isFollower hfirst
    obtain ⟨back, rfl⟩ := exists_of_isFollower hsecond
    exact ⟨.three front middle back :: groups, rfl⟩
  | case2 | case5 | case6 | case8 | case9 | case10 => cases h

theorem units?_eq_some_iff {bytes : List UInt8} {units : List UInt16} :
    units? bytes = some units ↔
      ∃ groups : List Group,
        bytes = groups.flatMap Group.bytes ∧ units = groups.map Group.unit := by
  constructor
  · intro h
    obtain ⟨groups, rfl⟩ := exists_groups_of_units? h
    rw [units?_flatMap_bytes, Option.some.injEq] at h
    exact ⟨groups, rfl, h.symm⟩
  · rintro ⟨groups, rfl, rfl⟩
    exact units?_flatMap_bytes groups

/-! ### Texts -/

theorem decode?_eq_some_iff {bytes : List UInt8} {text : String} :
    decode? bytes = some text ↔
      ∃ groups : List Group, bytes = groups.flatMap Group.bytes ∧
        groups.map Group.unit = Utf16.encode text.toList := by
  have hgeneral : decode? bytes = some text ↔ general? bytes = some text.toList := by
    rw [decode?_eq_general, Option.map_eq_some_iff]
    constructor
    · rintro ⟨chars, hchars, rfl⟩
      rwa [String.toList_ofList]
    · intro h
      exact ⟨_, h, String.ofList_toList⟩
  rw [hgeneral, general?, Option.bind_eq_some_iff]
  simp only [units?_eq_some_iff, Utf16.decode?_eq_some_iff]
  constructor
  · rintro ⟨units, ⟨groups, hbytes, rfl⟩, htext⟩
    exact ⟨groups, hbytes, htext⟩
  · rintro ⟨groups, hbytes, htext⟩
    exact ⟨_, ⟨groups, hbytes, rfl⟩, htext⟩

/-- Bytes are read as a text exactly if they split into groups whose units are the text in UTF-16,
so they are refused exactly if they do not split, or into groups of units that are none. What is
plain reads the same in groups, and each text is read from its shortest form. -/
theorem decode?_exact (bytes : List UInt8) (text : String) :
    (decode? bytes = some text ↔
      ∃ groups : List Group, bytes = groups.flatMap Group.bytes ∧
        groups.map Group.unit = Utf16.encode text.toList) ∧
    ((decode? bytes).isSome = true ↔
      ∃ groups : List Group, bytes = groups.flatMap Group.bytes ∧
        Utf16.IsWellFormed (groups.map Group.unit)) ∧
    (∀ plain, plain? bytes = some plain → general? bytes = some plain) ∧
    decode? (encode text) = some text := by
  refine ⟨decode?_eq_some_iff, ?_, fun _ => general?_of_plain?, decode?_encode text⟩
  rw [Option.isSome_iff_exists]
  simp only [decode?_eq_some_iff, Utf16.isWellFormed_iff]
  constructor
  · rintro ⟨found, groups, hbytes, hunits⟩
    exact ⟨groups, hbytes, found.toList, hunits⟩
  · rintro ⟨groups, hbytes, found, hunits⟩
    exact ⟨String.ofList found, groups, hbytes, by rw [hunits, String.toList_ofList]⟩

end ModifiedUtf8

end Rebuild
