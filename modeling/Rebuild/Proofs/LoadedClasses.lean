import Mathlib.Data.List.Dedup
import Rebuild.Proofs.DirectoryReads

/-!
# Loaded classes stay

The disk may become any other between two loads. A class that was loaded once is given again all the
same, a load that fails adds nothing, and what is kept under a name is a class of that name.
-/

namespace Rebuild

/-- The class was asked for by this name and bears it. -/
structure LoadedClass.IsOf (name : String) (found : LoadedClass) : Prop where
  binaryName_eq : found.binaryName = name
  thisClass_eq : found.file.thisClass = ClassName.unqualify name

theorem LoadedClass.isOf_of_define {name : String} {origin : Path} {bytes : ByteArray}
    {found : LoadedClass} (h : define name origin bytes = .ok found) : found.IsOf name := by
  unfold define at h
  split at h
  · exact nomatch h
  · next file _ =>
    split at h
    · next hname =>
      obtain rfl := Except.ok.inj h
      exact ⟨rfl, hname⟩
    · exact nomatch h

namespace ClassContext

/-- The answers to requests, each with the name that was asked for. -/
def answersOn : List (String × Disk) → ClassContext →
    List (String × Except ClasspathError LoadedClass)
  | [], _ => []
  | (name, disk) :: requests, context =>
    (name, (context.load name disk).value.1) ::
      answersOn requests (context.load name disk).value.2

def answeredNames (told : List (String × Except ClasspathError LoadedClass)) : List String :=
  told.filterMap fun (name, answer) => if answer.isOk then some name else none

theorem mem_answeredNames_iff {told : List (String × Except ClasspathError LoadedClass)}
    {name : String} : name ∈ answeredNames told ↔ ∃ found, (name, .ok found) ∈ told := by
  unfold answeredNames
  rw [List.mem_filterMap]
  constructor
  · rintro ⟨⟨other, error | found⟩, hmem, hname⟩
    · exact nomatch hname
    · obtain rfl := Option.some.inj hname
      exact ⟨found, hmem⟩
  · rintro ⟨found, hmem⟩
    exact ⟨_, hmem, rfl⟩

/-! ## One load -/

section Load

variable {context : ClassContext} {name : String}

theorem isOf_of_outcome {label : String} {found : LoadedClass}
    {search : Except ClasspathError (Option (Path × ByteArray))}
    (h : outcome label name search = .ok found) : found.IsOf name := by
  rcases search with error | (_ | ⟨origin, bytes⟩)
  · exact nomatch h
  · exact nomatch h
  · exact LoadedClass.isOf_of_define h

theorem load_eq_pure {found : LoadedClass} (h : context.loaded.lookup name = some found) :
    context.load name = pure (.ok found, context) := by
  unfold load
  rw [h]

theorem load_cases (context : ClassContext) (name : String) (disk : Disk) :
    let step := (context.load name disk).value
    (∃ found, context.loaded.lookup name = some found ∧ step = (.ok found, context)) ∨
    (∃ error, step.1 = .error error ∧ step.2.loaded = context.loaded) ∨
    ∃ found, context.loaded.lookup name = none ∧ found.IsOf name ∧ step.1 = .ok found ∧
      step.2.loaded = (name, found) :: context.loaded := by
  cases hlookup : context.loaded.lookup name with
  | some found =>
    rw [load_eq_pure hlookup]
    exact Or.inl ⟨found, rfl, rfl⟩
  | none =>
    rw [load_of_lookup hlookup]
    cases hresult : outcome context.label name
        (ClassSource.firstWith (EntryName.ofQualified name) context.sources disk).value.1 with
    | error error => exact Or.inr (Or.inl ⟨error, rfl, rfl⟩)
    | ok found => exact Or.inr (Or.inr ⟨found, rfl, isOf_of_outcome hresult, rfl, rfl⟩)

theorem loaded_of_load_error {disk : Disk} {error : ClasspathError}
    (h : (context.load name disk).value.1 = .error error) :
    (context.load name disk).value.2.loaded = context.loaded := by
  rcases load_cases context name disk with
    ⟨found, -, hstep⟩ | ⟨_, -, hloaded⟩ | ⟨found, -, -, hstep, -⟩
  · rw [hstep] at h
    exact nomatch h
  · exact hloaded
  · exact nomatch hstep.symm.trans h

theorem loadedCount_le_load (context : ClassContext) (name : String) (disk : Disk) :
    context.loadedCount ≤ (context.load name disk).value.2.loadedCount := by
  unfold loadedCount
  rcases load_cases context name disk with
    ⟨found, -, hstep⟩ | ⟨_, -, hloaded⟩ | ⟨found, -, -, -, hloaded⟩
  · exact Nat.le_of_eq (by rw [hstep])
  · exact Nat.le_of_eq (by rw [hloaded])
  · rw [hloaded]
    exact Nat.le_succ _

end Load

/-! ## Many loads -/

/-- What is kept is what was answered, once for each name. -/
structure Keeps (told : List (String × Except ClasspathError LoadedClass))
    (context : ClassContext) : Prop where
  nodup : (context.loaded.map Prod.fst).Nodup
  lookup_iff : ∀ name found,
    context.loaded.lookup name = some found ↔ (name, .ok found) ∈ told
  isOf : ∀ name found, context.loaded.lookup name = some found → found.IsOf name

section Keeps

variable {told : List (String × Except ClasspathError LoadedClass)} {context : ClassContext}

theorem keeps_create (label : String) (resources : ResourceSet) (disk : Disk) :
    Keeps [] (create label resources disk).value where
  nodup := .nil
  lookup_iff _ _ := ⟨nofun, nofun⟩
  isOf _ _ := nofun

theorem Keeps.of_loaded_eq {later : ClassContext} (h : Keeps told context)
    (hloaded : later.loaded = context.loaded) : Keeps told later := by
  obtain ⟨hnodup, hlookup, hisOf⟩ := h
  rw [← hloaded] at hnodup hlookup hisOf
  exact ⟨hnodup, hlookup, hisOf⟩

theorem Keeps.tell {name : String} {answer : Except ClasspathError LoadedClass}
    (h : Keeps told context) (hknown : ∀ found, answer = .ok found → (name, .ok found) ∈ told) :
    Keeps (told ++ [(name, answer)]) context := by
  refine ⟨h.nodup, fun other found => ?_, h.isOf⟩
  rw [h.lookup_iff, List.mem_append, List.mem_singleton]
  constructor
  · exact Or.inl
  · rintro (hmem | heq)
    · exact hmem
    · obtain ⟨rfl, hanswer⟩ := Prod.mk.inj heq
      exact hknown found hanswer.symm

theorem Keeps.add {later : ClassContext} {name : String} {found : LoadedClass}
    (h : Keeps told context) (hfresh : context.loaded.lookup name = none)
    (hisOf : found.IsOf name) (hloaded : later.loaded = (name, found) :: context.loaded) :
    Keeps (told ++ [(name, .ok found)]) later := by
  have hnew (other : String) (kept : LoadedClass) : later.loaded.lookup other = some kept ↔
      context.loaded.lookup other = some kept ∨ (other, kept) = (name, found) := by
    rw [hloaded, List.lookup_cons]
    cases heq : other == name with
    | true =>
      obtain rfl := beq_iff_eq.1 heq
      simp [hfresh, eq_comm]
    | false => simp [beq_eq_false_iff_ne.1 heq]
  refine ⟨?_, fun other kept => ?_, fun other kept hkept => ?_⟩
  · have hnotMem : name ∉ context.loaded.map Prod.fst := by
      intro hmem
      obtain ⟨entry, hentry, rfl⟩ := List.mem_map.1 hmem
      exact absurd (List.lookup_eq_none_iff.1 hfresh entry hentry) (by simp)
    rw [hloaded]
    exact List.nodup_cons.2 ⟨hnotMem, h.nodup⟩
  · rw [hnew, h.lookup_iff, List.mem_append, List.mem_singleton, Prod.mk.injEq, Prod.mk.injEq,
      Except.ok.injEq]
  · rcases (hnew other kept).1 hkept with hbefore | heq
    · exact h.isOf other kept hbefore
    · obtain ⟨rfl, rfl⟩ := Prod.mk.inj heq
      exact hisOf

theorem Keeps.load (h : Keeps told context) (name : String) (disk : Disk) :
    Keeps (told ++ [(name, (context.load name disk).value.1)])
      (context.load name disk).value.2 := by
  rcases load_cases context name disk with
    ⟨found, hlookup, hstep⟩ | ⟨error, herror, hloaded⟩ | ⟨found, hfresh, hisOf, hfound, hloaded⟩
  · rw [hstep]
    refine h.tell fun other hother => ?_
    rw [← Except.ok.inj hother]
    exact (h.lookup_iff name found).1 hlookup
  · rw [herror]
    refine (h.tell ?_).of_loaded_eq hloaded
    exact fun _ => nofun
  · rw [hfound]
    exact h.add hfresh hisOf hloaded

theorem Keeps.loadOn (h : Keeps told context) (requests : List (String × Disk)) :
    Keeps (told ++ answersOn requests context) (loadOn requests context) := by
  induction requests generalizing told context with
  | nil =>
    unfold answersOn
    rwa [List.append_nil]
  | cons request requests ih =>
    have hlater := ih (h.load request.1 request.2)
    rwa [List.append_assoc, List.singleton_append] at hlater

theorem Keeps.isLoaded_iff (h : Keeps told context) (name : String) :
    context.isLoaded name = true ↔ ∃ found, (name, .ok found) ∈ told := by
  unfold isLoaded
  rw [Option.isSome_iff_exists]
  exact exists_congr (h.lookup_iff name)

theorem Keeps.loadedCount_eq (h : Keeps told context) :
    context.loadedCount = (answeredNames told).dedup.length := by
  have hperm : (context.loaded.map Prod.fst).Perm (answeredNames told).dedup := by
    rw [List.perm_ext_iff_of_nodup h.nodup (List.nodup_dedup _)]
    intro name
    rw [List.mem_dedup, mem_answeredNames_iff, ← h.isLoaded_iff, isLoaded,
      List.lookup_isSome_iff, List.mem_map]
    exact exists_congr fun entry => and_congr_right fun _ => by rw [beq_iff_eq, eq_comm]
  rw [← hperm.length_eq, List.length_map, loadedCount]

end Keeps

/-- After any loads, with the disk anything at each of them, a name that was answered with a class
is answered with the same class, from its origin, on any disk. The names that are loaded are those
that were answered with a class, and they are counted once each. A load that fails loads no name,
the count never falls, and a class that is kept for a name bears this name. -/
theorem loaded_classes_stay (label : String) (resources : ResourceSet) (start : Disk)
    (past : List (String × Disk)) :
    let fresh := (create label resources start).value
    let told := answersOn past fresh
    let now := loadOn past fresh
    (∀ name found, (name, .ok found) ∈ told → now.load name = pure (.ok found, now)) ∧
    (∀ name, now.isLoaded name = true ↔ ∃ found, (name, .ok found) ∈ told) ∧
    (∀ name disk error, (now.load name disk).value.1 = .error error →
      ∀ other, (now.load name disk).value.2.isLoaded other = now.isLoaded other) ∧
    now.loadedCount = (answeredNames told).dedup.length ∧
    (∀ name disk, now.loadedCount ≤ (now.load name disk).value.2.loadedCount) ∧
    ∀ name found, now.loaded.lookup name = some found → found.binaryName = name ∧
      found.file.thisClass = ClassName.unqualify name := by
  intro fresh told now
  have hkeeps : Keeps told now := (keeps_create label resources start).loadOn past
  refine ⟨?_, hkeeps.isLoaded_iff, ?_, hkeeps.loadedCount_eq, now.loadedCount_le_load, ?_⟩
  · intro name found htold
    exact load_eq_pure ((hkeeps.lookup_iff name found).2 htold)
  · intro name disk error herror other
    unfold isLoaded
    rw [loaded_of_load_error herror]
  · intro name found hkept
    obtain ⟨hbinary, hthis⟩ := hkeeps.isOf name found hkept
    exact ⟨hbinary, hthis⟩

end ClassContext

theorem repaired_class_stays :
    let bare := (FileSystem.empty []).makeDirectory (.ofString "/d")
    let mistaken := bare.writeFile (.ofString "/d/com/A.class") rootedClass
    let repaired := bare.writeFile (.ofString "/d/com/A.class") emptyClass
    let past := [("com.A", Disk.still mistaken), ("com.A", Disk.still repaired)]
    let now := ClassContext.loadOn past
      (ClassContext.create "current" ⟨[.ofString "/d"]⟩ (.still bare)).value
    now.loadedCount = 1 ∧ now.isLoaded "com.A" = true ∧
      (now.load "com.B" (.still repaired)).value.2.isLoaded "com.B" = false ∧
      ∃ found, found.origin = .ofString "/d" ∧ found.file.thisClass = "com/A" ∧
        (now.load "com.A" (.still bare)).value.1 = .ok found := by
  intro bare mistaken repaired past now
  let told := ClassContext.answersOn past
    (ClassContext.create "current" ⟨[.ofString "/d"]⟩ (.still bare)).value
  have hnames : ClassContext.answeredNames told = ["com.A"] := by decide +kernel
  have hother : (now.load "com.B" (.still repaired)).value.1.toOption.isSome = false := by
    decide +kernel
  have hkept : (now.loaded.lookup "com.A").map LoadedClass.origin = some (.ofString "/d") := by
    decide +kernel
  obtain ⟨hstays, hloaded, hfails, hcount, -, hisOf⟩ :=
    ClassContext.loaded_classes_stay "current" ⟨[.ofString "/d"]⟩ (.still bare) past
  have htold : ∃ found, ("com.A", .ok found) ∈ told := by
    rw [← ClassContext.mem_answeredNames_iff, hnames]
    exact List.mem_singleton_self _
  refine ⟨?_, (hloaded "com.A").2 htold, ?_, ?_⟩
  · rw [hcount, hnames]
    rfl
  · cases herror : (now.load "com.B" (.still repaired)).value.1 with
    | ok found =>
      rw [herror] at hother
      exact nomatch hother
    | error error =>
      rw [hfails "com.B" _ error herror]
      decide +kernel
  · obtain ⟨found, hlookup, horigin⟩ := Option.map_eq_some_iff.1 hkept
    obtain ⟨given, hgiven⟩ := htold
    have hstay := hstays "com.A" given hgiven
    have hsame : found = given := by
      have hload := (ClassContext.load_eq_pure hlookup).symm.trans hstay
      exact Except.ok.inj (congrArg (fun answer => answer.value.1) (congrFun hload (.still bare)))
    subst hsame
    refine ⟨found, horigin, (hisOf "com.A" found hlookup).2, ?_⟩
    rw [hstay]
    rfl

end Rebuild
