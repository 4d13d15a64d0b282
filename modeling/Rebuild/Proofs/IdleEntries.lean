import Rebuild.Proofs.LoadHistory
import Rebuild.Proofs.Scan
import Rebuild.Proofs.SteadyAnswers

/-!
# Entries that do not have a class

A path of a classpath that does not have a class is passed over when the class is loaded, wherever
it stands. There is one exception: a directory in which the way to the class is blocked, by a file
that stands where a folder should be, for one. It fails the search, and the paths behind it are not
asked.
-/

namespace Rebuild

/-! ## Paths that do not have a class -/

namespace Path

/-- A relative name below a directory, with one slash in between. -/
def below (directory : Path) (name : String) : Path :=
  if directory.places.getLast? = some slash then ⟨directory.places ++ name.toList.map .char⟩
  else ⟨directory.places ++ slash :: name.toList.map .char⟩

theorem isAbsolute_ofString (text : String) :
    (ofString text).isAbsolute = (text.toList.head? == some '/') := by
  unfold isAbsolute ofString slash
  cases text.toList with
  | nil => rfl
  | cons c rest =>
    rw [Bool.eq_iff_iff]
    simp

theorem join_eq_below {directory : Path} {name : String} (hdirectory : directory.places ≠ [])
    (hname : name.toList.head? ≠ some '/') :
    directory.join (.ofString name) = directory.below name := by
  unfold join below
  rw [isAbsolute_ofString, beq_false_of_ne hname, List.isEmpty_eq_false_iff.2 hdirectory]
  by_cases hlast : directory.places.getLast? = some slash
  · simp [hlast, ofString]
  · simp [hlast, ofString]

/-- The path says nothing about the entry: it is a directory in which nothing exists at the name, a
jar that can be read and does not have the name, or it is not there. -/
inductive IsIdle (files : FileSystem) (entryName : String) (path : Path) : Prop
  | directory (isDirectory : files.isDirectory path = true)
      (free : files.doesExist (path.below entryName) = false)
  | jar {jar : Jar} (load : Jar.load files path = .ok jar)
      (free : ∀ entry ∈ jar.entries, entry.name ≠ entryName)
  | missing (gone : files.doesExist path = false)

/-- The path is a directory, and following the name in it fails, but not because a name on the way
is missing. -/
structure IsBlocked (files : FileSystem) (entryName : String) (path : Path) (error : FileError) :
    Prop where
  isDirectory : files.isDirectory path = true
  find : files.find (path.below entryName) = .error error
  ne_notFound : error ≠ .notFound

end Path

/-! ## What the files say of a path -/

namespace FileSystem

variable {files : FileSystem} {path : Path}

theorem places_ne_nil_of_isDirectory (h : files.isDirectory path = true) : path.places ≠ [] := by
  intro hempty
  have hrefusal : refusal? path = some .notFound := by
    unfold refusal?
    rw [hempty]
    rfl
  unfold isDirectory find at h
  rw [hrefusal] at h
  exact nomatch h

theorem find_of_not_doesExist (h : files.doesExist path = false) :
    ∃ error, files.find path = .error error := by
  unfold doesExist at h
  cases hfind : files.find path with
  | error error => exact ⟨error, rfl⟩
  | ok node => rw [hfind] at h; exact nomatch h

theorem read_of_find_error {error : FileError} (h : files.find path = .error error) :
    files.read path = .error error := by
  unfold read findFile
  rw [h]
  rfl

end FileSystem

/-! ## Entries between others -/

namespace ClasspathEntry

variable {files : FileSystem} {label name : String}

theorem kept_append (files : FileSystem) (before after : List Path) :
    kept files (before ++ after) = kept files before ++ kept files after :=
  List.filterMap_append

theorem kept_insert (files : FileSystem) (before : List Path) (path : Path) (after : List Path) :
    kept files (before ++ path :: after) =
      kept files before ++ (kept files [path] ++ kept files after) := by
  rw [← List.singleton_append, kept_append, kept_append]

theorem kept_directory {path : Path} (h : files.isDirectory path = true) :
    kept files [path] = [classDirectory path] := by
  simp [kept, h]

theorem kept_missing {path : Path} (h : files.doesExist path = false) : kept files [path] = [] := by
  obtain ⟨error, hfind⟩ := FileSystem.find_of_not_doesExist h
  simp [kept, FileSystem.isDirectory, FileSystem.isFile, hfind]

theorem kept_jar {path : Path} {opened : Jar} (h : Jar.load files path = .ok opened) :
    kept files [path] = [jar path] := by
  have hfind : files.find path = .ok (.file opened.file) :=
    FileSystem.lookup?_eq_some_iff.1 (Jar.load_eq_ok_iff.1 h).2.1
  simp [kept, FileSystem.isDirectory, FileSystem.isFile, hfind]

theorem findClass_append_of_without {before : List ClasspathEntry}
    (h : ∀ entry ∈ before, entry.IsWithout files (EntryName.ofQualified name))
    (others : List ClasspathEntry) :
    findClass files label name (before ++ others) = findClass files label name others := by
  unfold findClass
  rw [firstWith_append h]

theorem findClass_append_of_decided {before : List ClasspathEntry}
    (h : ¬ ∀ entry ∈ before, entry.IsWithout files (EntryName.ofQualified name))
    (others : List ClasspathEntry) :
    findClass files label name (before ++ others) = findClass files label name before := by
  have hfirst : firstWith files (EntryName.ofQualified name) (before ++ others) =
      firstWith files (EntryName.ofQualified name) before := by
    induction before with
    | nil => exact absurd (fun _ => nofun) h
    | cons entry before ih =>
      rw [List.forall_mem_cons] at h
      unfold IsWithout at h
      rw [List.cons_append, firstWith, firstWith]
      rcases hread : entry.read files (EntryName.ofQualified name) with error | (_ | bytes)
      · rfl
      · exact ih fun hbefore => h ⟨hread, hbefore⟩
      · rfl
  unfold findClass
  rw [hfirst]

theorem findClass_insert_of_without {between : List ClasspathEntry}
    (h : ∀ entry ∈ between, entry.IsWithout files (EntryName.ofQualified name))
    (before after : List ClasspathEntry) :
    findClass files label name (before ++ (between ++ after)) =
      findClass files label name (before ++ after) := by
  by_cases hbefore : ∀ entry ∈ before, entry.IsWithout files (EntryName.ofQualified name)
  · rw [findClass_append_of_without hbefore, findClass_append_of_without hbefore,
      findClass_append_of_without h]
  · rw [findClass_append_of_decided hbefore, findClass_append_of_decided hbefore]

/-! ## One path between others -/

variable {path : Path} {entryName : String}

theorem read_directory (hdirectory : files.isDirectory path = true)
    (hname : entryName.toList.head? ≠ some '/') {error : FileError}
    (hfind : files.find (path.below entryName) = .error error) :
    (classDirectory path).read files entryName =
      if error = .notFound then .ok none else .error (.file (path.below entryName) error) := by
  have hjoin := Path.join_eq_below (FileSystem.places_ne_nil_of_isDirectory hdirectory) hname
  unfold read ClassSource.readDirectory
  simp only [hjoin, FileSystem.read_of_find_error hfind]
  cases error <;> rfl

theorem isWithout_jar {opened : Jar} (hload : Jar.load files path = .ok opened)
    (hfree : ∀ entry ∈ opened.entries, entry.name ≠ entryName) :
    (jar path).IsWithout files entryName := by
  have hfind : (opened.archive files).find? entryName = none := by
    refine List.find?_eq_none.2 fun entry hmem => ?_
    simpa using hfree entry hmem
  unfold IsWithout read
  simp only [hload, Jar.read, hfind]
  rfl

theorem isWithout_of_isIdle (hidle : path.IsIdle files entryName)
    (hname : entryName.toList.head? ≠ some '/')
    (hopen : ¬ ∃ error, path.IsBlocked files entryName error) :
    ∀ entry ∈ kept files [path], entry.IsWithout files entryName := by
  cases hidle with
  | directory hdirectory hfree =>
    obtain ⟨error, hfind⟩ := FileSystem.find_of_not_doesExist hfree
    have herror : error = .notFound :=
      Decidable.byContradiction fun hne => hopen ⟨error, hdirectory, hfind, hne⟩
    rw [kept_directory hdirectory, List.forall_mem_singleton]
    unfold IsWithout
    rw [read_directory hdirectory hname hfind, if_pos herror]
  | jar hload hfree =>
    rw [kept_jar hload, List.forall_mem_singleton]
    exact isWithout_jar hload hfree
  | missing hgone =>
    rw [kept_missing hgone]
    exact fun _ => nofun

theorem findClass_blocked {error : FileError}
    (hblocked : path.IsBlocked files (EntryName.ofQualified name) error)
    (hname : (EntryName.ofQualified name).toList.head? ≠ some '/') (after : List ClasspathEntry) :
    findClass files label name (kept files [path] ++ after) =
      .error (.file (path.below (EntryName.ofQualified name)) error) := by
  have hread := read_directory hblocked.isDirectory hname hblocked.find
  rw [if_neg hblocked.ne_notFound] at hread
  rw [kept_directory hblocked.isDirectory]
  unfold findClass
  rw [List.cons_append, firstWith, hread]

end ClasspathEntry

theorem EntryName.head?_ofQualified_ne_slash {name : String} (hdot : name.toList.head? ≠ some '.')
    (hslash : name.toList.head? ≠ some '/') : (ofQualified name).toList.head? ≠ some '/' := by
  rw [Ne, head?_ofQualified_eq_slash_iff]
  exact not_or.2 ⟨hdot, hslash⟩

/-! ## Loading past them -/

namespace ClassContext

open Stateless (loadClass)

theorem load_past_blocked {files : FileSystem} {label name : String} {path : Path}
    {error : FileError} (hblocked : path.IsBlocked files (EntryName.ofQualified name) error)
    (hname : (EntryName.ofQualified name).toList.head? ≠ some '/') (before after : List Path) :
    (loadClass files label ⟨before⟩ name = .error (.classNotFound name label) →
      loadClass files label ⟨before ++ path :: after⟩ name =
        .error (.file (path.below (EntryName.ofQualified name)) error)) ∧
    (loadClass files label ⟨before⟩ name ≠ .error (.classNotFound name label) →
      loadClass files label ⟨before ++ path :: after⟩ name =
        loadClass files label ⟨before⟩ name) := by
  simp only [Stateless.loadClass_eq, ClasspathEntry.kept_insert]
  rw [ne_eq, ClasspathEntry.findClass_eq_classNotFound_iff]
  constructor
  · rintro ⟨-, hbefore⟩
    rw [ClasspathEntry.findClass_append_of_without hbefore]
    exact ClasspathEntry.findClass_blocked hblocked hname _
  · intro hdecided
    exact ClasspathEntry.findClass_append_of_decided
      (fun hbefore => hdecided ⟨⟨rfl, rfl⟩, hbefore⟩) _

/-- A path that does not have a class can be put anywhere on a classpath and loads of the class come
to the same, exactly if the way to the class is not blocked in it. A path in which it is blocked
fails each load that no path in front of it decides. -/
theorem load_past_idle_unless_blocked (files : FileSystem) (label : String) {name : String}
    {path : Path} (hdot : name.toList.head? ≠ some '.') (hslash : name.toList.head? ≠ some '/')
    (hidle : path.IsIdle files (EntryName.ofInternal (ClassName.unqualify name))) :
    let entryName := EntryName.ofInternal (ClassName.unqualify name)
    ((∀ before after, loadClass files label ⟨before ++ path :: after⟩ name =
        loadClass files label ⟨before ++ after⟩ name) ↔
      ¬ ∃ error, path.IsBlocked files entryName error) ∧
    ∀ error, path.IsBlocked files entryName error → ∀ before after,
      (loadClass files label ⟨before⟩ name = .error (.classNotFound name label) →
        loadClass files label ⟨before ++ path :: after⟩ name =
          .error (.file (path.below entryName) error)) ∧
      (loadClass files label ⟨before⟩ name ≠ .error (.classNotFound name label) →
        loadClass files label ⟨before ++ path :: after⟩ name =
          loadClass files label ⟨before⟩ name) := by
  have hname := EntryName.head?_ofQualified_ne_slash hdot hslash
  refine ⟨⟨?_, ?_⟩, fun _ hblocked => load_past_blocked hblocked hname⟩
  · -- On the empty classpath the class is not found; the blocked path alone gives another error.
    rintro hsame ⟨error, hblocked⟩
    have hnone : loadClass files label ⟨[]⟩ name = .error (.classNotFound name label) := by
      rw [Stateless.loadClass_eq]
      rfl
    have hfails := (load_past_blocked hblocked hname [] []).1 hnone
    rw [hsame [] [], List.append_nil, hnone] at hfails
    exact nomatch hfails
  · intro hopen before after
    simp only [Stateless.loadClass_eq]
    rw [ClasspathEntry.kept_insert, ClasspathEntry.kept_append]
    exact ClasspathEntry.findClass_insert_of_without
      (ClasspathEntry.isWithout_of_isIdle hidle hname hopen) _ _

end ClassContext

def emptyClass : ByteArray :=
  ⟨#[0xCA, 0xFE, 0xBA, 0xBE, 0, 0, 0, 0x41, 0, 3, 1, 0, 5, 0x63, 0x6F, 0x6D, 0x2F, 0x41, 7, 0, 1,
    0, 0x21, 0, 2, 0, 0, 0, 0, 0, 0, 0, 0, 0, 0]⟩

/-- A file in the place of the folder `com` blocks the way to `com/A.class`. Nothing exists there,
and still the class is not loaded from the directory behind it. -/
theorem blocked_folder_hides_class :
    let files := ((FileSystem.empty []).writeFile (.ofString "/d/com") .empty).writeFile
      (.ofString "/good/com/A.class") emptyClass
    (Path.ofString "/d").IsIdle files "com/A.class" ∧
      (Stateless.loadClass files "current" ⟨[.ofString "/good"]⟩ "com.A").toOption.map
        LoadedClass.origin = some (.ofString "/good") ∧
      Stateless.loadClass files "current" ⟨[.ofString "/d", .ofString "/good"]⟩ "com.A" =
        .error (.file (.ofString "/d/com/A.class") .notDirectory) := by
  intro files
  refine ⟨.directory (by decide +kernel) (by decide +kernel), by decide +kernel, ?_⟩
  rw [Stateless.loadClass_eq]
  rfl

theorem empty_directory_is_passed :
    let files := (((FileSystem.empty []).makeDirectory (.ofString "/bare")).writeFile
      (.ofString "/d/com") .empty).writeFile (.ofString "/good/com/A.class") emptyClass
    Stateless.loadClass files "current" ⟨[.ofString "/bare", .ofString "/good"]⟩ "com.A" =
        Stateless.loadClass files "current" ⟨[.ofString "/good"]⟩ "com.A" ∧
      Stateless.loadClass files "current" ⟨[.ofString "/bare", .ofString "/d", .ofString "/good"]⟩
        "com.A" = .error (.file (.ofString "/d/com/A.class") .notDirectory) := by
  intro files
  have hdot : "com.A".toList.head? ≠ some '.' := by decide
  have hslash : "com.A".toList.head? ≠ some '/' := by decide
  have hbare : (Path.ofString "/bare").IsIdle files "com/A.class" :=
    .directory (by decide +kernel) (by decide +kernel)
  have hblocked : (Path.ofString "/d").IsBlocked files "com/A.class" .notDirectory :=
    ⟨by decide +kernel, by rfl, by decide⟩
  have hopen : ¬ ∃ error, (Path.ofString "/bare").IsBlocked files "com/A.class" error := by
    rintro ⟨error, -, hfind, hne⟩
    have hmissing : files.find ((Path.ofString "/bare").below "com/A.class") = .error .notFound :=
      rfl
    exact hne (Except.error.inj (hfind.symm.trans hmissing))
  refine ⟨(ClassContext.load_past_idle_unless_blocked files "current" hdot hslash hbare).1.2 hopen
    [] [.ofString "/good"], ?_⟩
  refine ((ClassContext.load_past_idle_unless_blocked files "current" hdot hslash
    (.directory (by decide +kernel) (by decide +kernel))).2 _ hblocked [.ofString "/bare"] _).1 ?_
  rw [Stateless.loadClass_eq]
  rfl

end Rebuild
