import Rebuild.Proofs.ClassSearch
import Rebuild.Proofs.Panics

/-!
# Loading after other classes

On files that do not change it makes no difference what a context was asked before. The first entry
that has the class, or fails to say so, decides, and what is wrong with it is not passed over. If
it is a jar that states a size for the class that no buffer has, the load panics.
-/

namespace Rebuild

/-! ## Sizes that no buffer has -/

namespace Jar

variable {files : FileSystem} {name : String} {jar : Jar}

/-- The jar has an entry of this name that can be read as far as to its data, and states a size for
it that no buffer has. -/
def Overstates (files : FileSystem) (name : String) (jar : Jar) : Prop :=
  ∃ entry start stored, (jar.archive files).find? name = some entry ∧ entry.isEncrypted = false ∧
    (jar.archive files).dataOffset entry = .ok start ∧
    (jar.archive files).storedAt entry start = .ok stored ∧ maxCapacity < entry.size

theorem contentAt_eq_overflow_iff {entry : Zip.Entry} {start : Nat} :
    jar.contentAt files entry start = .error .overflow ↔
      ∃ stored, (jar.archive files).storedAt entry start = .ok stored ∧
        maxCapacity < entry.size := by
  have hother {α : Type} {ε : Type} {result : Except ε α} {fault : ε → ArchiveFault}
      (hfault : ∀ error, fault error ≠ .overflow) : result.mapError fault ≠ .error .overflow := by
    cases result with
    | error error => exact fun h => hfault error (Except.error.inj h)
    | ok value => exact nofun
  unfold contentAt
  cases (jar.archive files).storedAt entry start with
  | error fault =>
    refine iff_of_false nofun ?_
    rintro ⟨_, h, -⟩
    exact nomatch h
  | ok stored =>
    by_cases hsize : maxCapacity < entry.size
    · simp only [hsize, ↓reduceIte]
      exact ⟨fun _ => ⟨stored, rfl, trivial⟩, fun _ => rfl⟩
    · simp only [hsize, ↓reduceIte, and_false, exists_false, iff_false]
      exact hother nofun

/-- A read is given up exactly over a size that no buffer has. -/
theorem stopsBy_read_iff :
    stopsBy ArchiveError.isPanic (jar.read files name).1 = true ↔ jar.Overstates files name := by
  unfold read Overstates
  cases hfind : (jar.archive files).find? name with
  | none => simp [stopsBy]
  | some entry =>
    simp only [Option.some.injEq, exists_eq_left', exists_and_left]
    cases entry.isEncrypted with
    | true => simp [stopsBy, ArchiveError.isPanic]
    | false =>
      simp only [Bool.false_eq_true, ↓reduceIte, true_and]
      unfold withData
      cases (jar.archive files).dataOffset entry with
      | error fault => simp [stopsBy, ArchiveError.isPanic]
      | ok start =>
        simp only [Except.ok.injEq, exists_eq_left']
        rw [← contentAt_eq_overflow_iff]
        cases jar.contentAt files entry start with
        | error fault =>
          rw [Except.error.injEq]
          exact decide_eq_true_iff
        | ok bytes =>
          refine iff_of_false Bool.false_ne_true ?_
          rintro ⟨⟩

end Jar

/-! ## Which entry decides -/

namespace ClasspathEntry

variable {files : FileSystem} {label name : String}

/-- The entry can be read and does not have the name. -/
def IsWithout (files : FileSystem) (name : String) (entry : ClasspathEntry) : Prop :=
  entry.read files name = .ok none

/-- The entry is a jar that is given up over this name. -/
def Overstates (files : FileSystem) (name : String) : ClasspathEntry → Prop
  | classDirectory _ => False
  | jar path => ∃ fresh, Jar.load files path = .ok fresh ∧ fresh.Overstates files name

theorem stopsBy_read_iff (entry : ClasspathEntry) :
    stopsBy ClasspathError.isPanic (entry.read files name) = true ↔
      entry.Overstates files name := by
  cases entry with
  | classDirectory path =>
    exact iff_of_false (ne_true_of_eq_false (ClassSource.readDirectory_stopsBy files path name)) id
  | jar path =>
    have hopen := Jar.load_stopsBy files path
    simp only [read, Overstates]
    cases hload : Jar.load files path with
    | error error =>
      rw [hload] at hopen
      refine iff_of_false (ne_true_of_eq_false hopen) ?_
      rintro ⟨_, h, -⟩
      cases h
    | ok fresh =>
      simp only [Except.ok.injEq, exists_eq_left', ← Jar.stopsBy_read_iff]
      cases (fresh.read files name).1 <;> rfl

/-- The first entry that is not without the name is given up over it. -/
def IsGivenUp (files : FileSystem) (name : String) (entries : List ClasspathEntry) : Prop :=
  ∃ before deciding after, entries = before ++ deciding :: after ∧
    (∀ entry ∈ before, entry.IsWithout files name) ∧ deciding.Overstates files name

theorem firstWith_append {before : List ClasspathEntry}
    (h : ∀ entry ∈ before, entry.IsWithout files name) (others : List ClasspathEntry) :
    firstWith files name (before ++ others) = firstWith files name others := by
  induction before with
  | nil => rfl
  | cons entry before ih =>
    obtain ⟨hentry, hbefore⟩ := List.forall_mem_cons.1 h
    unfold IsWithout at hentry
    rw [List.cons_append, firstWith, hentry]
    exact ih hbefore

theorem firstWith_eq_ok_none_iff {entries : List ClasspathEntry} :
    firstWith files name entries = .ok none ↔ ∀ entry ∈ entries, entry.IsWithout files name := by
  induction entries with
  | nil => exact ⟨fun _ => nofun, fun _ => rfl⟩
  | cons entry entries ih =>
    rw [List.forall_mem_cons, ← ih, firstWith]
    unfold IsWithout
    rcases entry.read files name with error | (_ | bytes) <;> simp

theorem isGivenUp_cons_iff {entry : ClasspathEntry} {entries : List ClasspathEntry} :
    IsGivenUp files name (entry :: entries) ↔
      entry.Overstates files name ∨
        entry.IsWithout files name ∧ IsGivenUp files name entries := by
  constructor
  · rintro ⟨before, deciding, after, heq, hbefore, hdeciding⟩
    cases before with
    | nil =>
      obtain ⟨rfl, -⟩ := List.cons.inj heq
      exact Or.inl hdeciding
    | cons first before =>
      obtain ⟨rfl, rfl⟩ := List.cons.inj heq
      obtain ⟨hfirst, hbefore⟩ := List.forall_mem_cons.1 hbefore
      exact Or.inr ⟨hfirst, before, deciding, after, rfl, hbefore, hdeciding⟩
  · rintro (h | ⟨hentry, before, deciding, after, rfl, hbefore, hdeciding⟩)
    · exact ⟨[], entry, entries, rfl, nofun, h⟩
    · exact ⟨entry :: before, deciding, after, rfl, List.forall_mem_cons.2 ⟨hentry, hbefore⟩,
        hdeciding⟩

theorem stopsBy_firstWith_iff {entries : List ClasspathEntry} :
    stopsBy ClasspathError.isPanic (firstWith files name entries) = true ↔
      IsGivenUp files name entries := by
  induction entries with
  | nil => simp [firstWith, stopsBy, IsGivenUp]
  | cons entry entries ih =>
    rw [isGivenUp_cons_iff, ← ih, ← stopsBy_read_iff, firstWith]
    unfold IsWithout
    rcases entry.read files name with error | (_ | bytes) <;> simp [stopsBy]

theorem stopsBy_findClass_iff {entries : List ClasspathEntry} :
    stopsBy ClasspathError.isPanic (findClass files label name entries) = true ↔
      IsGivenUp files (EntryName.ofQualified name) entries := by
  rw [← stopsBy_firstWith_iff]
  unfold findClass
  rcases firstWith files (EntryName.ofQualified name) entries with error | (_ | ⟨origin, bytes⟩)
  · rfl
  · rfl
  · rw [LoadedClass.define_stopsBy]
    rfl

theorem read_ne_classNotFound (entry : ClasspathEntry) (missing context : String) :
    entry.read files name ≠ .error (.classNotFound missing context) := by
  cases entry with
  | classDirectory path =>
    simp only [read, ClassSource.readDirectory]
    split <;> simp
  | jar path =>
    simp only [read]
    split
    · simp
    · next fresh hload =>
      intro h
      cases hread : (fresh.read files name).1 with
      | error error => rw [hread] at h; cases h
      | ok bytes => rw [hread] at h; cases h

theorem firstWith_ne_classNotFound (entries : List ClasspathEntry) (missing context : String) :
    firstWith files name entries ≠ .error (.classNotFound missing context) := by
  induction entries with
  | nil => simp [firstWith]
  | cons entry entries ih =>
    rw [firstWith]
    cases hread : entry.read files name with
    | error error =>
      intro h
      exact entry.read_ne_classNotFound missing context
        (hread.trans (congrArg _ (Except.error.inj h)))
    | ok bytes =>
      cases bytes with
      | none => exact ih
      | some bytes => simp

theorem define_ne_classNotFound (origin : Path) (bytes : ByteArray) (missing context : String) :
    LoadedClass.define name origin bytes ≠ .error (.classNotFound missing context) := by
  rcases LoadedClass.define_cases name origin bytes with ⟨_, h, -⟩ | ⟨_, h⟩ | ⟨_, h⟩ <;>
    exact h ▸ nofun

theorem findClass_eq_classNotFound_iff (entries : List ClasspathEntry) (missing context : String) :
    findClass files label name entries = .error (.classNotFound missing context) ↔
      (missing = name ∧ context = label) ∧
        ∀ entry ∈ entries, entry.IsWithout files (EntryName.ofQualified name) := by
  rw [← firstWith_eq_ok_none_iff]
  unfold findClass
  cases hfound : firstWith files (EntryName.ofQualified name) entries with
  | error error =>
    -- An entry that fails has another error, so this one comes from the end of the search only.
    refine ⟨fun h => ?_, fun h => nomatch h.2⟩
    exact absurd (hfound.trans (congrArg _ (Except.error.inj h)))
      (firstWith_ne_classNotFound entries missing context)
  | ok found =>
    cases found with
    | none => simp [eq_comm]
    | some found =>
      exact ⟨fun h => absurd h (define_ne_classNotFound _ _ missing context), fun h => nomatch h.2⟩

end ClasspathEntry

/-! ## After other loads -/

namespace ClassContext

/-- Asks for these classes, whatever comes of it. -/
def loadAll : List String → ClassContext → Inquiry ClassContext
  | [], context => return context
  | name :: names, context => do
    let (_, context) ← context.load name
    loadAll names context

theorem loadAll_on {files : FileSystem} {label : String} {entries : List ClasspathEntry}
    (names : List String) {context : ClassContext} (h : SameSearch files label entries context) :
    SameSearch files label entries ((loadAll names context).on files).value := by
  induction names generalizing context with
  | nil => exact h
  | cons name names ih =>
    unfold loadAll
    rw [Inquiry.on_bind]
    exact ih (load_on h name).2

/-- A context that was asked for these classes, whatever came of it. -/
def createAfter (label : String) (resources : ResourceSet) (earlier : List String) :
    Inquiry ClassContext := do
  loadAll earlier (← create label resources)

theorem createAfter_on (files : FileSystem) (label : String) (resources : ResourceSet)
    (earlier : List String) :
    SameSearch files label (ClasspathEntry.kept files resources.paths)
      ((createAfter label resources earlier).on files).value := by
  unfold createAfter
  rw [Inquiry.on_bind]
  exact loadAll_on earlier (create_on files label resources)

/-- A context that was asked for any classes before answers like a search from the left, and panics
exactly if the first entry that is not without the class states a size for it that no buffer has.
Otherwise that entry decides, whether it fails or has the class, and the class is not found exactly
if no entry decides. -/
theorem load_eq_first_deciding (files : FileSystem) (label : String) (resources : ResourceSet)
    (earlier : List String) (name : String) :
    let entries := ClasspathEntry.kept files resources.paths
    let entryName := EntryName.ofInternal (ClassName.unqualify name)
    let context := ((createAfter label resources earlier).on files).value
    let answer := (context.load name).on files
    (answer.panics = true ↔ ∃ before deciding after, entries = before ++ deciding :: after ∧
      (∀ entry ∈ before, entry.IsWithout files entryName) ∧
        deciding.Overstates files entryName) ∧
    (answer.panics = false →
      (∀ before deciding after, entries = before ++ deciding :: after →
        (∀ entry ∈ before, entry.IsWithout files entryName) →
          (∀ error, deciding.read files entryName = .error error →
            answer.value.1 = .error error) ∧
          (∀ bytes, deciding.read files entryName = .ok (some bytes) →
            answer.value.1 = match ClassFile.parse bytes.toList with
              | .error error => .error (.classFile name deciding.path error)
              | .ok file =>
                if file.thisClass = ClassName.unqualify name then .ok ⟨name, deciding.path, file⟩
                else .error
                  (.nameMismatch deciding.path (ClassName.unqualify name) file.thisClass))) ∧
      (∀ missing context, answer.value.1 = .error (.classNotFound missing context) ↔
        (missing = name ∧ context = label) ∧
          ∀ entry ∈ entries, entry.IsWithout files entryName)) := by
  intro entries entryName context answer
  have hanswer : answer.value.1 = ClasspathEntry.findClass files label name entries :=
    (load_on (createAfter_on files label resources earlier) name).1
  have hpanics : answer.panics = stopsBy ClasspathError.isPanic answer.value.1 :=
    context.load_tells name (.still files)
  rw [hpanics, hanswer]
  refine ⟨ClasspathEntry.stopsBy_findClass_iff, fun _ =>
    ⟨?_, ClasspathEntry.findClass_eq_classNotFound_iff entries⟩⟩
  intro before deciding after hentries hbefore
  have hfirst : ClasspathEntry.firstWith files entryName entries =
      ClasspathEntry.firstWith files entryName (deciding :: after) := by
    rw [hentries]
    exact ClasspathEntry.firstWith_append hbefore _
  unfold ClasspathEntry.findClass EntryName.ofQualified
  rw [hfirst, ClasspathEntry.firstWith]
  constructor
  · intro error hread
    rw [hread]
  · intro bytes hread
    rw [hread]
    rfl

end ClassContext

theorem damaged_class_decides :
    let files := (((FileSystem.empty []).makeDirectory (.ofString "/none")).writeFile
      (.ofString "/damaged/A.class") .empty).writeFile (.ofString "/more/A.class") .empty
    let resources : ResourceSet :=
      ⟨[.ofString "/gone", .ofString "/none", .ofString "/damaged", .ofString "/more"]⟩
    ((((ClassContext.createAfter "current" resources ["B", "A"]).on files).value.load "A").on
      files).value.1 = .error (.classFile "A" (.ofString "/damaged") .unexpectedEnd) := by
  intro files resources
  have hentries : ClasspathEntry.kept files resources.paths =
      [.classDirectory (.ofString "/none"), .classDirectory (.ofString "/damaged"),
        .classDirectory (.ofString "/more")] := by
    decide +kernel
  have hnone : (ClasspathEntry.classDirectory (.ofString "/none")).IsWithout files "A.class" := rfl
  have hdamaged : (ClasspathEntry.classDirectory (.ofString "/damaged")).read files "A.class" =
      .ok (some .empty) := rfl
  have hempty : ByteArray.empty.toList = [] := by decide +kernel
  have hparse : ClassFile.parse ByteArray.empty.toList = .error .unexpectedEnd := by
    rw [hempty]
    rfl
  obtain ⟨-, hdecides⟩ :=
    ClassContext.load_eq_first_deciding files "current" resources ["B", "A"] "A"
  obtain ⟨hfirst, -⟩ := hdecides (by decide +kernel)
  obtain ⟨-, hbytes⟩ := hfirst [_] _ _ hentries (List.forall_mem_singleton.2 hnone)
  have hanswer := hbytes _ hdamaged
  rw [hparse] at hanswer
  exact hanswer

/-- A jar with the class `A`, whose size is stated in these eight bytes. -/
def statedClassArchive (size : List UInt8) : ByteArray :=
  ⟨#[0x50, 0x4B, 3, 4, 20, 0, 0, 0, 0, 0, 0, 0, 0, 0, 0x61, 2, 0xCE, 0x52, 31, 0, 0, 0, 31, 0, 0, 0,
      7, 0, 0, 0, 0x41, 0x2E, 0x63, 0x6C, 0x61, 0x73, 0x73,
      0xCA, 0xFE, 0xBA, 0xBE, 0, 0, 0, 0x34, 0, 3, 1, 0, 1, 0x41, 7, 0, 1, 0, 0x21, 0, 2, 0, 0, 0,
      0, 0, 0, 0, 0, 0, 0,
      0x50, 0x4B, 1, 2, 20, 0, 20, 0, 0, 0, 0, 0, 0, 0, 0, 0, 0x61, 2, 0xCE, 0x52, 31, 0, 0, 0,
      0xFF, 0xFF, 0xFF, 0xFF, 7, 0, 12, 0, 0, 0, 0, 0, 0, 0, 0, 0, 0, 0, 0, 0, 0, 0,
      0x41, 0x2E, 0x63, 0x6C, 0x61, 0x73, 0x73, 1, 0, 8, 0] ++ size.toArray ++
    #[0x50, 0x4B, 5, 6, 0, 0, 0, 0, 1, 0, 1, 0, 65, 0, 0, 0, 68, 0, 0, 0, 0, 0]⟩

/-- The class is there and sound, but a load panics over the size that is stated. -/
theorem stated_size_panics :
    let load (size : List UInt8) :=
      let files := (FileSystem.empty []).writeFile (.ofString "/a.jar") (statedClassArchive size)
      (((ClassContext.createAfter "current" ⟨[.ofString "/a.jar"]⟩ []).on files).value.load "A").on
        files
    (load [31, 0, 0, 0, 0, 0, 0, 0]).value.1.toOption.map LoadedClass.binaryName = some "A" ∧
      (load (List.replicate 8 0xFF)).panics = true := by
  decide +kernel

end Rebuild
