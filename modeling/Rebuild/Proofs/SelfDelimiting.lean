import Rebuild.Proofs.ClassReadsBack

/-!
# A class file tells where it ends

A parser that takes bytes from the front decides by these bytes alone how many they are. With other
bytes behind them it takes the same ones, and with fewer of them it comes to the end of its input
before it finds anything else wrong. So no class file is the beginning of another one.
-/

namespace Rebuild

variable {α β : Type}

/-- The parser wants more than any beginning of the bytes. -/
def RunsOut (parser : Parser α) (bytes : List UInt8) : Prop :=
  ∀ front, front <+: bytes → front ≠ bytes → parser front = .error .unexpectedEnd

/-- What the parser takes it takes whatever stands behind, and less is not enough. -/
def SelfDelimiting (parser : Parser α) : Prop :=
  ∀ (input : List UInt8) (value : α) (rest : List UInt8), parser input = .ok (value, rest) →
    ∃ taken, input = taken ++ rest ∧ Parses parser taken value ∧ RunsOut parser taken

namespace RunsOut

theorem nil (parser : Parser α) : RunsOut parser [] :=
  fun _ hfront hne => absurd (List.prefix_nil.1 hfront) hne

theorem bytes (taken : List UInt8) : RunsOut (Parser.bytes taken.length) taken := by
  intro front hfront hne
  have hlength : front.length < taken.length := by
    refine Nat.lt_of_le_of_ne hfront.length_le ?_
    exact fun hlength => hne (hfront.eq_of_length hlength)
  have htake : (front.take taken.length).length ≠ taken.length := by
    rw [List.length_take]
    omega
  unfold Parser.bytes
  rw [if_neg htake]

theorem bind {parser : Parser α} {next : α → Parser β} {front back : List UInt8} {first : α}
    (htaken : Parses parser front first) (hfront : RunsOut parser front)
    (hback : RunsOut (next first) back) : RunsOut (parser >>= next) (front ++ back) := by
  rintro cut ⟨missing, hcut⟩ hne
  have hbehind : ∀ more, cut = front ++ more → more ++ missing = back →
      (parser >>= next) cut = .error .unexpectedEnd := by
    rintro more rfl rfl
    rw [Parser.bind_apply, htaken more]
    refine hback more ⟨missing, rfl⟩ ?_
    rintro heq
    rw [← heq] at hne
    exact hne rfl
  rcases List.append_eq_append_iff.1 hcut with ⟨more, hfrontEq, hmissing⟩ | ⟨more, hcutEq, hbackEq⟩
  · by_cases hmore : more = []
    · subst hmore
      rw [List.append_nil] at hfrontEq
      refine hbehind [] ?_ hmissing
      rw [hfrontEq, List.append_nil]
    · have hshort : parser cut = .error .unexpectedEnd := by
        refine hfront cut ⟨more, hfrontEq.symm⟩ ?_
        rintro rfl
        exact hmore (List.self_eq_append_right.1 hfrontEq)
      rw [Parser.bind_apply, hshort]
      rfl
  · exact hbehind more hcutEq hbackEq.symm

end RunsOut

namespace SelfDelimiting

theorem pure (value : α) : SelfDelimiting (Pure.pure value) := by
  intro input found rest h
  cases h
  exact ⟨[], rfl, Parses.pure _, RunsOut.nil _⟩

theorem lift (known : Except ClassFileError α) : SelfDelimiting (known : Parser α) := by
  intro input value rest h
  cases known with
  | error error => cases h
  | ok found =>
    cases h
    exact ⟨[], rfl, Parses.lift rfl, RunsOut.nil _⟩

theorem throw (error : ClassFileError) : SelfDelimiting (throw error : Parser α) :=
  fun _ _ _ h => nomatch h

theorem bind {parser : Parser α} {next : α → Parser β} (hfront : SelfDelimiting parser)
    (hback : ∀ first, SelfDelimiting (next first)) : SelfDelimiting (parser >>= next) := by
  intro input value rest h
  rw [Parser.bind_apply] at h
  cases hfirst : parser input with
  | error error =>
    rw [hfirst] at h
    cases h
  | ok answer =>
    obtain ⟨first, between⟩ := answer
    rw [hfirst] at h
    obtain ⟨front, rfl, htaken, hshort⟩ := hfront input first between hfirst
    obtain ⟨back, rfl, htakenBack, hshortBack⟩ := hback first between value rest h
    refine ⟨front ++ back, (List.append_assoc ..).symm, htaken.bind htakenBack, ?_⟩
    exact hshort.bind htaken hshortBack

theorem map {parser : Parser α} (f : α → β) (h : SelfDelimiting parser) :
    SelfDelimiting (f <$> parser) := by
  rw [map_eq_pure_bind]
  exact h.bind fun _ => pure _

/-! ## Numbers and rows -/

theorem bytes (n : Nat) : SelfDelimiting (Parser.bytes n) := by
  intro input value rest h
  unfold Parser.bytes at h
  dsimp only at h
  split at h
  · next hlength =>
    cases h
    have hbytes := Parses.bytes (input.take n)
    have hshort := RunsOut.bytes (input.take n)
    rw [hlength] at hbytes hshort
    exact ⟨input.take n, (List.take_append_drop n input).symm, hbytes, hshort⟩
  · cases h

theorem number (width : Nat) : SelfDelimiting (Parser.number width) := (bytes width).map _

theorem u8 : SelfDelimiting Parser.u8 := (number 1).map _

theorem u16 : SelfDelimiting Parser.u16 := (number 2).map _

theorem u32 : SelfDelimiting Parser.u32 := (number 4).map _

theorem u64 : SelfDelimiting Parser.u64 := (number 8).map _

theorem times {item : Parser α} (h : SelfDelimiting item) (n : Nat) :
    SelfDelimiting (Parser.times item n) := by
  induction n with
  | zero => exact pure []
  | succ n ih => exact h.bind fun first => ih.bind fun others => pure (first :: others)

theorem counted {item : Parser α} (h : SelfDelimiting item) :
    SelfDelimiting (Parser.counted item) :=
  u16.bind fun count => h.times count.toNat

theorem indexed (lookup : UInt16 → Except ClassFileError α) :
    SelfDelimiting (do lookup (← Parser.u16)) :=
  u16.bind fun index => lift (lookup index)

theorem optional (lookup : UInt16 → Except ClassFileError α) :
    SelfDelimiting (Parser.optional lookup) := by
  refine u16.bind fun index => ?_
  split
  · exact pure none
  · exact (lift _).bind fun found => pure (some found)

/-! ## The parts of a class file -/

theorem constantBody (tag : UInt8) : SelfDelimiting (Constant.body tag) := by
  unfold Constant.body
  split
  · refine u16.bind fun length => (bytes length.toNat).bind fun written => ?_
    exact (lift (Constant.text written)).bind fun _ => pure _
  -- All other kinds have numbers of fixed widths behind their tag, or are not known.
  all_goals first
    | exact u16.bind fun _ => pure _
    | exact u32.bind fun _ => pure _
    | exact u64.bind fun _ => pure _
    | exact u8.bind fun _ => u16.bind fun _ => pure _
    | exact throw _

theorem constant : SelfDelimiting Constant.parser := u8.bind constantBody

theorem slots : ∀ n, SelfDelimiting (ConstantPool.slotParser n)
  | 0 => pure []
  | 1 => constant.bind fun _ => pure _
  | n + 2 => by
    refine constant.bind fun constant => ?_
    split
    · exact (slots n).bind fun _ => pure _
    · exact (slots (n + 1)).bind fun _ => pure _

theorem pool : SelfDelimiting ConstantPool.parser :=
  u16.bind fun _ => (slots _).bind fun _ => pure _

theorem attributeItem (pool : ConstantPool) (owner : AttributeOwner) :
    SelfDelimiting (Attribute.parser pool owner) := by
  have hraw : SelfDelimiting (Attribute.rawParser pool) :=
    u16.bind fun name => u32.bind fun length => (bytes length.toNat).bind fun body =>
      (lift (pool.utf8 name)).bind fun _ => pure _
  exact hraw.bind fun raw => lift (Attribute.ofBody pool owner raw.1 raw.2)

theorem attributes (pool : ConstantPool) (owner : AttributeOwner) :
    SelfDelimiting (Attributes.parser pool owner) :=
  (attributeItem pool owner).counted

theorem classMember (pool : ConstantPool) (kind : MemberKind) :
    SelfDelimiting (ClassMember.parser pool kind) := by
  refine u16.bind fun _ => u16.bind fun name => (lift (pool.utf8 name)).bind fun _ => ?_
  refine u16.bind fun descriptor => (lift (pool.utf8 descriptor)).bind fun text => ?_
  exact (lift (kind.owner text)).bind fun owner => (attributes pool owner).bind fun _ => pure _

theorem classBody (pool : ConstantPool) (minorVersion majorVersion : UInt16) :
    SelfDelimiting (ClassFile.bodyParser pool minorVersion majorVersion) := by
  refine u16.bind fun _ => u16.bind fun name => (lift (pool.className name)).bind fun _ => ?_
  refine (optional pool.className).bind fun _ => (indexed pool.className).counted.bind fun _ => ?_
  refine (classMember pool .field).counted.bind fun _ => ?_
  refine (classMember pool .method).counted.bind fun _ => ?_
  exact (attributes pool .type).bind fun _ => pure _

theorem classFile : SelfDelimiting ClassFile.parser := by
  have hbehind : SelfDelimiting (do
      let minorVersion ← Parser.u16
      let majorVersion ← Parser.u16
      let pool ← ConstantPool.parser
      ClassFile.bodyParser pool minorVersion majorVersion) :=
    u16.bind fun _ => u16.bind fun _ => pool.bind fun _ => classBody _ _ _
  refine u32.bind fun found => ?_
  split
  · exact (throw _).bind fun _ => hbehind
  · exact hbehind

end SelfDelimiting

theorem SelfDelimiting.exactly {parser : Parser α} (hparser : SelfDelimiting parser)
    {bytes : List UInt8} {value : α} (h : Parser.exactly parser bytes = .ok value) :
    (∀ front, front <+: bytes → front ≠ bytes →
      Parser.exactly parser front = .error .unexpectedEnd) ∧
    ∀ extra, extra ≠ [] →
      Parser.exactly parser (bytes ++ extra) = .error (.trailingBytes extra.length) := by
  have hall : parser bytes = .ok (value, []) := by
    unfold Parser.exactly at h
    split at h
    · next found => rw [found, Except.ok.inj h]
    · cases h
    · cases h
  obtain ⟨taken, htaken, hparses, hshort⟩ := hparser bytes value [] hall
  rw [List.append_nil] at htaken
  subst htaken
  refine ⟨fun front hfront hne => ?_, fun extra hextra => ?_⟩
  · unfold Parser.exactly
    rw [hshort front hfront hne]
  · unfold Parser.exactly
    rw [hparses extra]
    cases extra with
    | nil => exact absurd rfl hextra
    | cons byte extra => rfl

namespace ClassFile

/-- A class file that is cut short ends unexpectedly, wherever it is cut, and what follows a whole
one is counted as trailing bytes. -/
theorem parse_delimits {bytes : List UInt8} {file : ClassFile} (h : parse bytes = .ok file) :
    (∀ front, front <+: bytes → front ≠ bytes → parse front = .error .unexpectedEnd) ∧
    ∀ extra, extra ≠ [] → parse (bytes ++ extra) = .error (.trailingBytes extra.length) :=
  SelfDelimiting.classFile.exactly h

theorem box_delimits :
    parse Box.bytes = .ok Box.file ∧
    parse (Box.bytes.take 140) = .error .unexpectedEnd ∧
    parse (Box.bytes ++ [0x00, 0x00]) = .error (.trailingBytes 2) := by
  have hbox : parse Box.bytes = .ok Box.file := (parses_of_isWritten Box.isWritten rfl).exactly
  obtain ⟨hcut, hextra⟩ := parse_delimits hbox
  exact ⟨hbox, hcut _ (List.take_prefix ..) (by decide), hextra _ (by decide)⟩

end ClassFile

end Rebuild
