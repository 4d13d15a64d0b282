import Rebuild.Analysis.ArchiveUnit

/-!
# Which entries a lookup by class name reads

A class is looked up under its qualified name, and its dots become slashes on the way. So an entry
is read under its own name exactly if nothing stands in front of the class name and no dot in it.
-/

namespace Rebuild

namespace ClassName

/-- The name starts with a separator: as the way to a file it starts at the root. -/
def IsRooted (name : String) : Prop :=
  name.toList.head? = some '.' ∨ name.toList.head? = some '/'

instance (name : String) : Decidable (IsRooted name) :=
  inferInstanceAs (Decidable (_ ∨ _))

theorem slashed_dotted (c : Char) : slashed (dotted c) = slashed c := by
  unfold slashed dotted
  by_cases h : c = '/'
  · simp [h]
  · simp [h]

theorem slashed_eq_self_iff (c : Char) : slashed c = c ↔ c ≠ '.' := by
  unfold slashed
  by_cases h : c = '.'
  · simp [h]
  · simp [h]

theorem slashed_eq_slash_iff (c : Char) : slashed c = '/' ↔ c = '.' ∨ c = '/' := by
  unfold slashed
  split
  · next hdot => simp [hdot]
  · next hdot => simp [hdot]

theorem slashed_ne_dot (c : Char) : slashed c ≠ '.' := by
  unfold slashed
  split
  · decide
  · assumption

theorem toList_unqualify_qualify (internal : String) :
    (unqualify (qualify internal)).toList = internal.toList.map slashed := by
  simp [unqualify, qualify, slashed_dotted]

theorem map_slashed_eq_self_iff (name : List Char) : name.map slashed = name ↔ '.' ∉ name := by
  induction name with
  | nil => simp
  | cons c rest ih =>
    rw [List.map_cons, List.cons.injEq, slashed_eq_self_iff, ih, List.mem_cons, not_or]
    exact and_congr_left fun _ => ne_comm

end ClassName

namespace EntryName

open ClassName

/-! ## Entries and the classes they are named for -/

def ofQualified (qualified : String) : String := ofInternal (unqualify qualified)

/-- A lookup of the class that the entry is named for reads this entry. -/
def IsReached (entry : String) : Prop :=
  ∃ qualified, qualified? entry = some qualified ∧ ofQualified qualified = entry

/-- The class that the entry is named for has a dot in its internal name. -/
def IsDotted (entry : String) : Prop :=
  ∃ internal, internal? entry = some internal ∧ '.' ∈ internal.toList

instance (entry : String) : Decidable (IsDotted entry) :=
  inferInstanceAs (Decidable (∃ internal ∈ internal? entry, '.' ∈ internal.toList))

theorem isLoadable_iff (entry : String) :
    isLoadable entry = true ↔ ∃ internal, internal? entry = some internal ∧
      entry = ofInternal internal := by
  unfold isLoadable
  cases internal? entry with
  | none => simp
  | some internal => simp

theorem toList_ofInternal (internal : String) :
    (ofInternal internal).toList = internal.toList ++ classSuffix := by
  simp [ofInternal]

theorem toList_ofQualified (name : String) :
    (ofQualified name).toList = name.toList.map slashed ++ classSuffix := by
  rw [ofQualified, toList_ofInternal, unqualify, String.toList_ofList]

theorem head?_ofQualified_eq_slash_iff (name : String) :
    (ofQualified name).toList.head? = some '/' ↔ IsRooted name := by
  unfold IsRooted
  rw [toList_ofQualified]
  cases name.toList with
  | nil => decide
  | cons c rest => simp [slashed_eq_slash_iff]

theorem toList_of_internal? {entry internal : String} (h : internal? entry = some internal) :
    entry.toList = internal.toList ++ classSuffix ∨
      entry.toList = '/' :: (internal.toList ++ classSuffix) := by
  obtain ⟨name, hname, rfl⟩ := Option.map_eq_some_iff.1 h
  have hback := (Option.filter_eq_some_iff.1 hname).1
  rw [dropBack?_eq_some] at hback
  rw [String.toList_ofList]
  cases hfront : dropFront? ['/'] entry.toList with
  | none =>
    rw [hfront, Option.getD_none] at hback
    exact Or.inl hback
  | some rest =>
    rw [hfront, Option.getD_some] at hback
    rw [dropFront?_eq_some.1 hfront, hback]
    exact Or.inr rfl

theorem qualified?_of_internal? {entry internal : String} (h : internal? entry = some internal) :
    qualified? entry = some (qualify internal) := by
  rw [qualified?, h, Option.map_some]

theorem toList_ofQualified_qualify (internal : String) :
    (ofQualified (qualify internal)).toList = internal.toList.map slashed ++ classSuffix := by
  rw [ofQualified, toList_ofInternal, toList_unqualify_qualify]

/-- What a lookup reads is always named for the class, so it depends on the dots alone whether it is
the entry that the name came from. -/
theorem ofQualified_qualify_eq_iff {entry internal : String} (h : internal? entry = some internal) :
    ofQualified (qualify internal) = entry ↔
      entry = ofInternal internal ∧ '.' ∉ internal.toList := by
  rw [← map_slashed_eq_self_iff, ← String.toList_inj, ← String.toList_inj, toList_ofInternal,
    toList_ofQualified_qualify]
  rcases toList_of_internal? h with hentry | hentry
  · rw [hentry]
    simp
  · -- The slash in front makes the entry longer than what the lookup asks for.
    rw [hentry]
    constructor
    · intro heq
      have := congrArg List.length heq
      simp at this
    · rintro ⟨heq, -⟩
      have := congrArg List.length heq
      simp at this

theorem isReached_iff (entry : String) :
    IsReached entry ↔ isLoadable entry = true ∧ ¬ IsDotted entry := by
  rw [isLoadable_iff]
  constructor
  · rintro ⟨qualified, hqualified, hreads⟩
    obtain ⟨internal, hinternal, rfl⟩ := Option.map_eq_some_iff.1 hqualified
    obtain ⟨hentry, hdot⟩ := (ofQualified_qualify_eq_iff hinternal).1 hreads
    refine ⟨⟨internal, hinternal, hentry⟩, ?_⟩
    rintro ⟨other, hother, hmem⟩
    rw [hinternal, Option.some.injEq] at hother
    exact hdot (hother ▸ hmem)
  · rintro ⟨⟨internal, hinternal, hentry⟩, hdot⟩
    refine ⟨qualify internal, qualified?_of_internal? hinternal, ?_⟩
    exact (ofQualified_qualify_eq_iff hinternal).2
      ⟨hentry, fun hmem => hdot ⟨internal, hinternal, hmem⟩⟩

/-- The entry passes for loadable, but a lookup of its class reads another entry. -/
def IsMisread (entry : String) : Prop := isLoadable entry = true ∧ IsDotted entry

theorem isReached_iff_of_isLoadable {entry : String} (h : isLoadable entry = true) :
    IsReached entry ↔ ¬ IsMisread entry := by
  rw [isReached_iff, IsMisread, not_and]
  exact ⟨fun hreached _ => hreached.2, fun hmisread => ⟨h, hmisread h⟩⟩

theorem isLoadable_iff_isReached_iff (entry : String) :
    (isLoadable entry = true ↔ IsReached entry) ↔ ¬ IsMisread entry := by
  constructor
  · rintro hiff ⟨hloadable, hdotted⟩
    exact ((isReached_iff entry).1 (hiff.1 hloadable)).2 hdotted
  · intro hmisread
    refine ⟨fun hloadable => (isReached_iff_of_isLoadable hloadable).2 hmisread, fun hreached => ?_⟩
    exact ((isReached_iff entry).1 hreached).1

theorem IsReached.ofQualified_eq {entry qualified : String} (h : IsReached entry)
    (hqualified : qualified? entry = some qualified) : ofQualified qualified = entry := by
  obtain ⟨found, hfound, hreads⟩ := h
  rw [hfound, Option.some.injEq] at hqualified
  rw [← hqualified, hreads]

theorem IsReached.eq_of_qualified?_eq {a b : String} (ha : IsReached a) (hb : IsReached b)
    (h : qualified? a = qualified? b) : a = b := by
  obtain ⟨qualified, hqualified, hreads⟩ := ha
  rw [← hreads, hb.ofQualified_eq (h ▸ hqualified)]

theorem isMisread_or_isMisread {a b : String} (ha : isLoadable a = true) (hb : isLoadable b = true)
    (h : qualified? a = qualified? b) (hne : a ≠ b) : IsMisread a ∨ IsMisread b := by
  by_cases hfirst : IsMisread a
  · exact Or.inl hfirst
  by_cases hsecond : IsMisread b
  · exact Or.inr hsecond
  rw [← isReached_iff_of_isLoadable ha] at hfirst
  rw [← isReached_iff_of_isLoadable hb] at hsecond
  exact absurd (hfirst.eq_of_qualified?_eq hsecond h) hne

end EntryName

end Rebuild
