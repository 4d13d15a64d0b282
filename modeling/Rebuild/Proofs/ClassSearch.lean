import Rebuild.Classpath.Context
import Rebuild.Proofs.ClassLookup
import Rebuild.Proofs.Evaluation
import Rebuild.Proofs.OpenJar
import Rebuild.Proofs.SteadyDisk

/-!
# Loading a class is a search

What a context keeps, opened jars and loaded classes, saves work and decides nothing: on files that
do not change each load answers like a search of the classpath from the left that starts anew.
-/

namespace Rebuild

/-! ## The search -/

namespace ClasspathEntry

/-- What the path of an entry has for an entry name, looked up anew. -/
def read (files : FileSystem) (name : String) :
    ClasspathEntry → Except ClasspathError (Option ByteArray)
  | classDirectory path => ClassSource.readDirectory files path name
  | jar path =>
    match Jar.load files path with
    | .error error => .error (.archive error)
    | .ok fresh => (fresh.read files name).1.mapError .archive

/-- The first entry that has the name or fails decides. -/
def firstWith (files : FileSystem) (name : String) :
    List ClasspathEntry → Except ClasspathError (Option (Path × ByteArray))
  | [] => .ok none
  | entry :: entries =>
    match entry.read files name with
    | .error error => .error error
    | .ok (some bytes) => .ok (some (entry.path, bytes))
    | .ok none => firstWith files name entries

/-- The class of a qualified name on a classpath; the label names the classpath in errors. -/
def findClass (files : FileSystem) (label name : String) (entries : List ClasspathEntry) :
    Except ClasspathError LoadedClass :=
  match firstWith files (EntryName.ofQualified name) entries with
  | .error error => .error error
  | .ok none => .error (.classNotFound name label)
  | .ok (some (origin, bytes)) => LoadedClass.define name origin bytes

/-- The entries that are searched: directories, and files for jars. -/
def kept (files : FileSystem) (paths : List Path) : List ClasspathEntry :=
  paths.filterMap fun path =>
    if files.isDirectory path then some (classDirectory path)
    else if files.isFile path then some (jar path)
    else none

theorem path_mem_of_mem_kept {files : FileSystem} {paths : List Path} {entry : ClasspathEntry}
    (h : entry ∈ kept files paths) : entry.path ∈ paths := by
  obtain ⟨path, hmem, hentry⟩ := List.mem_filterMap.1 h
  split at hentry
  · exact Option.some.inj hentry ▸ hmem
  · split at hentry
    · exact Option.some.inj hentry ▸ hmem
    · exact nomatch hentry

theorem kept_note (disk : Disk) (event : LogEvent) (paths : List Path) :
    kept (disk.note event).files paths = kept disk.files paths := by
  have hdirectory (path : Path) :=
    FileSystem.isDirectory_eq_of_find_eq (disk.find_note event path)
  have hfile (path : Path) := FileSystem.isFile_eq_of_find_eq (disk.find_note event path)
  simp only [kept, hdirectory, hfile]

end ClasspathEntry

theorem LoadedClass.define_cases (name : String) (origin : Path) (bytes : ByteArray) :
    (∃ found, define name origin bytes = .ok found ∧ found.origin = origin) ∨
      (∃ error, define name origin bytes = .error (.classFile name origin error)) ∨
      ∃ found, define name origin bytes =
        .error (.nameMismatch origin (ClassName.unqualify name) found) := by
  unfold define
  cases ClassFile.parse bytes.toList with
  | error error => exact Or.inr (Or.inl ⟨error, rfl⟩)
  | ok file =>
    simp only
    split
    · exact Or.inl ⟨_, rfl, rfl⟩
    · exact Or.inr (Or.inr ⟨file.thisClass, rfl⟩)

/-! ## Sources -/

namespace ClassSource

def entry : ClassSource → ClasspathEntry
  | directory path => .classDirectory path
  | jar path _ => .jar path

theorem path_entry (source : ClassSource) : source.entry.path = source.path := by
  cases source <;> rfl

/-- A jar that is open is the one that opening it again would give, after some questions. -/
def IsFaithful (files : FileSystem) : ClassSource → Prop
  | directory _ => True
  | jar path opened =>
    ∀ jar, opened = some jar → ∃ fresh, Jar.load files path = .ok fresh ∧
      Jar.IsFaithful files fresh jar

/-- An answer of a source that keeps the source faithful. -/
def AnswersLike (files : FileSystem) (source : ClassSource)
    (expected : Except ClasspathError (Option ByteArray))
    (answer : Except ClasspathError (Option ByteArray) × ClassSource) : Prop :=
  answer.1 = expected ∧ answer.2.entry = source.entry ∧ answer.2.IsFaithful files

theorem readJar_answersLike {files : FileSystem} {path : Path} {fresh opened : Jar}
    (hload : Jar.load files path = .ok fresh) (h : Jar.IsFaithful files fresh opened)
    (name : String) (kept : Option Jar) :
    AnswersLike files (jar path kept) ((fresh.read files name).1.mapError .archive)
      ((readJar path name opened).on files).value := by
  obtain ⟨hanswer, hfaithful⟩ := h.read name
  refine ⟨congrArg (Except.mapError ClasspathError.archive) hanswer, rfl, ?_⟩
  intro jar hjar
  rw [Option.some.injEq] at hjar
  exact ⟨fresh, hload, hjar ▸ hfaithful⟩

theorem read_on {files : FileSystem} {source : ClassSource} (h : source.IsFaithful files)
    (name : String) :
    AnswersLike files source (source.entry.read files name)
      ((source.read name).on files).value := by
  cases source with
  | directory path =>
    unfold read
    simp only [Inquiry.on_bind, Inquiry.on_files, Inquiry.on_pure]
    exact ⟨rfl, rfl, trivial⟩
  | jar path opened =>
    cases opened with
    | some opened =>
      obtain ⟨fresh, hload, hfaithful⟩ := h opened rfl
      unfold read
      have := readJar_answersLike hload hfaithful name (some opened)
      simpa only [entry, ClasspathEntry.read, hload] using this
    | none =>
      unfold read Jar.acquire
      simp only [Inquiry.on_bind, Inquiry.on_files]
      cases hload : Jar.load files path with
      | error error =>
        simp only [Inquiry.on_pure]
        exact ⟨by simp only [entry, ClasspathEntry.read, hload], rfl, h⟩
      | ok fresh =>
        simp only [Inquiry.on_bind, Inquiry.on_pure]
        have := readJar_answersLike hload (Jar.isFaithful_self files fresh) name none
        simpa only [entry, ClasspathEntry.read, hload] using this

theorem firstWith_on {files : FileSystem} (name : String) :
    ∀ {sources : List ClassSource}, (∀ source ∈ sources, source.IsFaithful files) →
      let answer := ((firstWith name sources).on files).value
      answer.1 = ClasspathEntry.firstWith files name (sources.map entry) ∧
        answer.2.map entry = sources.map entry ∧
        ∀ source ∈ answer.2, source.IsFaithful files := by
  intro sources
  induction sources with
  | nil =>
    intro h
    exact ⟨rfl, rfl, h⟩
  | cons source others ih =>
    intro h
    obtain ⟨hsource, hothers⟩ := List.forall_mem_cons.1 h
    obtain ⟨hfound, hentry, hfaithful⟩ := read_on hsource name
    have hstop := List.forall_mem_cons.2 ⟨hfaithful, hothers⟩
    unfold firstWith
    simp only [List.map_cons, ClasspathEntry.firstWith, Inquiry.on_bind]
    rw [← hfound, ← hentry, path_entry]
    cases ((source.read name).on files).value.1 with
    | error error =>
      simp only [Inquiry.on_pure]
      exact ⟨trivial, rfl, hstop⟩
    | ok bytes =>
      cases bytes with
      | some bytes =>
        simp only [Inquiry.on_pure]
        exact ⟨trivial, rfl, hstop⟩
      | none =>
        obtain ⟨hrest, hentries, hkept⟩ := ih hothers
        simp only [Inquiry.on_bind, Inquiry.on_pure]
        refine ⟨hrest, ?_, List.forall_mem_cons.2 ⟨hfaithful, hkept⟩⟩
        rw [List.map_cons, hentries]

end ClassSource

/-! ## Contexts -/

namespace ClassContext

def entries (context : ClassContext) : List ClasspathEntry := context.sources.map ClassSource.entry

/-- What a context keeps is what it would find anew. -/
structure IsFaithful (files : FileSystem) (context : ClassContext) : Prop where
  source : ∀ source ∈ context.sources, source.IsFaithful files
  loaded : ∀ name found, context.loaded.lookup name = some found →
    ClasspathEntry.findClass files context.label name context.entries = .ok found

/-- The contexts answer alike, now and later. -/
structure SameSearch (files : FileSystem) (label : String) (entries : List ClasspathEntry)
    (context : ClassContext) : Prop where
  label_eq : context.label = label
  entries_eq : context.entries = entries
  isFaithful : context.IsFaithful files

theorem sourcesOf_entries (label : String) (paths : List Path) (disk : Disk) :
    let sources := (sourcesOf label paths disk).value
    sources.map ClassSource.entry = ClasspathEntry.kept disk.files paths ∧
      ∀ files, ∀ source ∈ sources, source.IsFaithful files := by
  induction paths generalizing disk with
  | nil => exact ⟨rfl, fun _ _ => nofun⟩
  | cons path paths ih =>
    have hlook (next : FileSystem → Inquiry (List ClassSource)) :
        (Inquiry.files >>= next) disk = next disk.files disk := rfl
    obtain ⟨hentries, hfaithful⟩ := ih disk
    unfold sourcesOf ClasspathEntry.ofPath ClasspathEntry.kept
    rw [hlook, List.filterMap_cons]
    by_cases hdirectory : disk.files.isDirectory path = true
    · simp only [hdirectory, ↓reduceIte]
      exact ⟨congrArg (List.cons _) hentries,
        fun files => List.forall_mem_cons.2 ⟨trivial, hfaithful files⟩⟩
    by_cases hfile : disk.files.isFile path = true
    · simp only [hdirectory, hfile, Bool.false_eq_true, ↓reduceIte]
      exact ⟨congrArg (List.cons _) hentries,
        fun files => List.forall_mem_cons.2 ⟨nofun, hfaithful files⟩⟩
    · simp only [hdirectory, hfile, Bool.false_eq_true, ↓reduceIte]
      obtain ⟨hlater, hfaithful⟩ := ih (disk.note _)
      exact ⟨hlater.trans (ClasspathEntry.kept_note disk _ paths), hfaithful⟩

theorem create_on (files : FileSystem) (label : String) (resources : ResourceSet) :
    SameSearch files label (ClasspathEntry.kept files resources.paths)
      ((create label resources).on files).value := by
  obtain ⟨hentries, hfaithful⟩ := sourcesOf_entries label resources.paths (.still files)
  exact ⟨rfl, hentries, hfaithful files, fun name found h => nomatch h⟩

/-- What a search comes to, once the class is defined. -/
def outcome (label name : String) :
    Except ClasspathError (Option (Path × ByteArray)) → Except ClasspathError LoadedClass
  | .error error => .error error
  | .ok none => .error (.classNotFound name label)
  | .ok (some (origin, bytes)) => LoadedClass.define name origin bytes

theorem findClass_eq_outcome (files : FileSystem) (label name : String)
    (entries : List ClasspathEntry) :
    ClasspathEntry.findClass files label name entries =
      outcome label name (ClasspathEntry.firstWith files (EntryName.ofQualified name) entries) := by
  unfold ClasspathEntry.findClass
  rcases ClasspathEntry.firstWith files (EntryName.ofQualified name) entries with
    error | (_ | ⟨origin, bytes⟩) <;> rfl

def remember (name : String) (loaded : List (String × LoadedClass)) :
    Except ClasspathError LoadedClass → List (String × LoadedClass)
  | .error _ => loaded
  | .ok found => (name, found) :: loaded

theorem lookup_remember {name other : String} {loaded : List (String × LoadedClass)}
    {result : Except ClasspathError LoadedClass} {found : LoadedClass}
    (h : (remember name loaded result).lookup other = some found) :
    loaded.lookup other = some found ∨ other = name ∧ result = .ok found := by
  cases result with
  | error error => exact Or.inl h
  | ok added =>
    rw [remember, List.lookup_cons] at h
    cases heq : other == name with
    | true =>
      rw [heq] at h
      exact Or.inr ⟨beq_iff_eq.1 heq, congrArg Except.ok (Option.some.inj h)⟩
    | false =>
      rw [heq] at h
      exact Or.inl h

theorem load_of_lookup {context : ClassContext} {name : String}
    (h : context.loaded.lookup name = none) (disk : Disk) :
    let search := (ClassSource.firstWith (EntryName.ofQualified name) context.sources disk).value
    let result := outcome context.label name search.1
    (context.load name disk).value =
      (result, ⟨context.label, search.2, remember name context.loaded result⟩) := by
  unfold load EntryName.ofQualified
  simp only [h, Inquiry.value_bind]
  generalize (ClassSource.firstWith (EntryName.ofInternal (ClassName.unqualify name))
    context.sources disk).value = search
  obtain ⟨found, sources⟩ := search
  rcases found with error | (_ | ⟨origin, bytes⟩)
  · rfl
  · rfl
  · simp only [outcome]
    cases LoadedClass.define name origin bytes with
    | error error => rfl
    | ok loaded => rfl

/-- Each load answers like a search from the left that starts anew, and so does the next one. -/
theorem load_on {files : FileSystem} {label : String} {entries : List ClasspathEntry}
    {context : ClassContext} (h : SameSearch files label entries context) (name : String) :
    ((context.load name).on files).value.1 =
        ClasspathEntry.findClass files label name entries ∧
      SameSearch files label entries ((context.load name).on files).value.2 := by
  obtain ⟨rfl, rfl, hfaithful⟩ := h
  cases hlookup : context.loaded.lookup name with
  | some found =>
    unfold load
    simp only [hlookup, Inquiry.on_pure]
    exact ⟨(hfaithful.loaded name found hlookup).symm, rfl, rfl, hfaithful⟩
  | none =>
    obtain ⟨hfound, hentries, hsources⟩ :=
      ClassSource.firstWith_on (EntryName.ofQualified name) hfaithful.source
    have hresult := findClass_eq_outcome files context.label name context.entries
    unfold entries at hresult
    rw [← hfound] at hresult
    unfold Inquiry.on at hresult hentries hsources ⊢
    rw [load_of_lookup hlookup]
    refine ⟨hresult.symm, rfl, hentries, hsources, ?_⟩
    intro other found hkept
    unfold entries
    rw [hentries]
    rcases lookup_remember hkept with hbefore | ⟨rfl, hnew⟩
    · exact hfaithful.loaded other found hbefore
    · exact hresult.trans hnew

end ClassContext

end Rebuild
