import Rebuild.Proofs.BelowDirectory

/-!
# What class directories are read for

Between two loads of a context the disk may become any other, and within one the log on it grows.
A class that comes from a class directory was all the same read there, when it was first loaded:
below the directory, unless its name starts at the root.
-/

namespace Rebuild

/-! ## Files while an inquiry runs -/

namespace Disk

/-- The files are those of the disk after something was said. -/
def Sees (disk : Disk) (files : FileSystem) : Prop :=
  ∃ events, files = (disk.after events).files

theorem sees_self (disk : Disk) : disk.Sees disk.files := ⟨[], rfl⟩

theorem sees_of_after {disk : Disk} {events : List LogEvent} {files : FileSystem}
    (h : (disk.after events).Sees files) : disk.Sees files := by
  obtain ⟨later, rfl⟩ := h
  exact ⟨events ++ later, by rw [after_append]⟩

end Disk

theorem FileSystem.hasBelow_of_read {files : FileSystem} {directory path : Path}
    {bytes : ByteArray} (hbelow : path.IsBelow directory) (h : files.read path = .ok bytes) :
    files.HasBelow directory path := by
  unfold read at h
  cases hfile : files.findFile path with
  | error error => rw [hfile] at h; exact nomatch h
  | ok identity =>
    have hfind := lookup?_eq_some_iff.1 (findFile_eq_ok_iff.1 hfile)
    exact hasBelow_of_find hbelow hfind

/-! ## Sources -/

namespace ClasspathEntry

variable {sees more : FileSystem → Prop} {entryName : String} {entries : List ClasspathEntry}

/-- The entry may give this answer: a class directory reads one path of files that it sees, and a
jar fails with errors of its own. -/
def Answers (sees : FileSystem → Prop) (entryName : String) (entry : ClasspathEntry)
    (answer : Except ClasspathError (Option ByteArray)) : Prop :=
  match entry with
  | classDirectory path =>
    ∃ files, sees files ∧ answer = ClassSource.readDirectory files path entryName
  | jar _ => ∀ path error, answer ≠ .error (.file path error)

theorem Answers.mono (hsees : ∀ files, sees files → more files) {entry : ClasspathEntry}
    {answer : Except ClasspathError (Option ByteArray)} (h : entry.Answers sees entryName answer) :
    entry.Answers more entryName answer := by
  cases entry with
  | classDirectory path =>
    obtain ⟨files, hseen, hanswer⟩ := h
    exact ⟨files, hsees files hseen, hanswer⟩
  | jar path => exact h

/-- What is found, or the error, is the answer of one of the entries. -/
def Finds (sees : FileSystem → Prop) (entryName : String) (entries : List ClasspathEntry) :
    Except ClasspathError (Option (Path × ByteArray)) → Prop
  | .error error => ∃ entry ∈ entries, entry.Answers sees entryName (.error error)
  | .ok none => True
  | .ok (some (origin, bytes)) => ∃ entry ∈ entries, entry.path = origin ∧
      entry.Answers sees entryName (.ok (some bytes))

theorem Finds.mono (hsees : ∀ files, sees files → more files) {larger : List ClasspathEntry}
    (hsub : entries ⊆ larger) {found : Except ClasspathError (Option (Path × ByteArray))}
    (h : Finds sees entryName entries found) : Finds more entryName larger found := by
  rcases found with error | (_ | ⟨origin, bytes⟩)
  · obtain ⟨entry, hmem, hanswer⟩ := h
    exact ⟨entry, hsub hmem, hanswer.mono hsees⟩
  · trivial
  · obtain ⟨entry, hmem, horigin, hanswer⟩ := h
    exact ⟨entry, hsub hmem, horigin, hanswer.mono hsees⟩

theorem mem_kept_of_isDirectory {files : FileSystem} {paths : List Path} {entry : ClasspathEntry}
    (hmem : entry ∈ kept files paths) (hdirectory : files.isDirectory entry.path = true) :
    entry = classDirectory entry.path := by
  obtain ⟨path, -, hkept⟩ := List.mem_filterMap.1 hmem
  split at hkept
  · exact Option.some.inj hkept ▸ rfl
  · next hother =>
    split at hkept
    · obtain rfl := Option.some.inj hkept
      exact absurd hdirectory hother
    · exact nomatch hkept

theorem classDirectory_mem_kept {files : FileSystem} {paths : List Path} {path : Path}
    (hmem : classDirectory path ∈ kept files paths) :
    path ∈ paths ∧ files.isDirectory path = true := by
  obtain ⟨other, hother, hkept⟩ := List.mem_filterMap.1 hmem
  split at hkept
  · next hdirectory =>
    obtain rfl := classDirectory.inj (Option.some.inj hkept)
    exact ⟨hother, hdirectory⟩
  · split at hkept
    · exact nomatch Option.some.inj hkept
    · exact nomatch hkept

end ClasspathEntry

namespace ClassSource

section ReadDirectory

variable {files : FileSystem} {directory : Path} {name : String}

theorem read_of_readDirectory_ok {bytes : ByteArray}
    (h : readDirectory files directory (EntryName.ofQualified name) = .ok (some bytes)) :
    files.read (directory.classFile name) = .ok bytes := by
  unfold readDirectory at h
  simp only at h
  split at h
  · next hread => exact hread.trans (congrArg _ (Option.some.inj (Except.ok.inj h)))
  · exact nomatch h
  · exact nomatch h

theorem path_of_readDirectory_error {path : Path} {error : FileError}
    (h : readDirectory files directory (EntryName.ofQualified name) = .error (.file path error)) :
    path = directory.classFile name := by
  unfold readDirectory at h
  simp only at h
  split at h
  · exact nomatch h
  · exact nomatch h
  · exact (ClasspathError.file.inj (Except.error.inj h)).1.symm

theorem readDirectory_of_error {error : FileError}
    (h : files.read (directory.classFile name) = .error error) (hne : error ≠ .notFound) :
    readDirectory files directory (EntryName.ofQualified name) =
      .error (.file (directory.classFile name) error) := by
  unfold Path.classFile at h
  unfold readDirectory
  simp only [h]
  cases error with
  | notFound => exact absurd rfl hne
  | notDirectory | isDirectory | nameTooLong | nulInName => rfl

end ReadDirectory

theorem mapError_archive_ne_file (result : Except ArchiveError (Option ByteArray)) (path : Path)
    (error : FileError) :
    result.mapError ClasspathError.archive ≠ .error (.file path error) := by
  cases result <;> exact nofun

theorem read_answers (entryName : String) (source : ClassSource) (disk : Disk) :
    let answer := (source.read entryName disk).value
    source.entry.Answers disk.Sees entryName answer.1 ∧ answer.2.entry = source.entry := by
  cases source with
  | directory path => exact ⟨⟨disk.files, disk.sees_self, rfl⟩, rfl⟩
  | jar path opened =>
    cases opened with
    | some opened => exact ⟨mapError_archive_ne_file _, rfl⟩
    | none =>
      unfold read
      simp only [Inquiry.value_bind]
      cases (Jar.acquire path disk).value with
      | error error => exact ⟨fun _ _ => nofun, rfl⟩
      | ok opened => exact ⟨mapError_archive_ne_file _, rfl⟩

theorem firstWith_finds (entryName : String) (sources : List ClassSource) (disk : Disk) :
    let answer := (firstWith entryName sources disk).value
    ClasspathEntry.Finds disk.Sees entryName (sources.map entry) answer.1 ∧
      answer.2.map entry = sources.map entry := by
  induction sources generalizing disk with
  | nil => exact ⟨trivial, rfl⟩
  | cons source others ih =>
    obtain ⟨hanswer, hentry⟩ := read_answers entryName source disk
    unfold firstWith
    simp only [Inquiry.value_bind]
    cases hfound : (source.read entryName disk).value.1 with
    | error error =>
      rw [hfound] at hanswer
      exact ⟨⟨source.entry, List.mem_cons_self, hanswer⟩, congrArg (· :: others.map entry) hentry⟩
    | ok bytes =>
      cases bytes with
      | some bytes =>
        rw [hfound] at hanswer
        refine ⟨⟨source.entry, List.mem_cons_self, ?_, hanswer⟩,
          congrArg (· :: others.map entry) hentry⟩
        exact (congrArg ClasspathEntry.path hentry).symm.trans (path_entry _)
      | none =>
        -- The other sources are asked on the disk that the first one leaves.
        obtain ⟨hrest, hentries⟩ := ih (disk.after (source.read entryName disk).events)
        exact ⟨hrest.mono (fun _ => Disk.sees_of_after) (List.subset_cons_self _ _),
          congrArg₂ List.cons hentry hentries⟩

end ClassSource

/-! ## Contexts -/

/-- The class was read from one of the entries, which is its origin. -/
def LoadedClass.IsFrom (sees : FileSystem → Prop) (entries : List ClasspathEntry) (name : String)
    (found : LoadedClass) : Prop :=
  ∃ entry ∈ entries, entry.path = found.origin ∧ ∃ bytes,
    entry.Answers sees (EntryName.ofQualified name) (.ok (some bytes)) ∧
      LoadedClass.define name found.origin bytes = .ok found

namespace ClassContext

/-- What a context found so far was read from its entries. -/
structure IsAccounted (sees : FileSystem → Prop) (entries : List ClasspathEntry)
    (context : ClassContext) : Prop where
  entries_eq : context.entries = entries
  loaded : ∀ name found, context.loaded.lookup name = some found →
    found.IsFrom sees entries name

theorem create_accounted (sees : FileSystem → Prop) (label : String) (resources : ResourceSet)
    (disk : Disk) :
    IsAccounted sees (ClasspathEntry.kept disk.files resources.paths)
      (create label resources disk).value :=
  ⟨(sourcesOf_entries label resources.paths disk).1, fun _ _ => nofun⟩

/-- What a load may come to: a class that was read from an entry, or the error of an entry. -/
structure MayAnswer (sees : FileSystem → Prop) (entries : List ClasspathEntry) (name : String)
    (answer : Except ClasspathError LoadedClass) : Prop where
  ok : ∀ found, answer = .ok found → found.IsFrom sees entries name
  file : ∀ path error, answer = .error (.file path error) → ∃ entry ∈ entries,
    entry.Answers sees (EntryName.ofQualified name) (.error (.file path error))

section Outcome

variable {sees : FileSystem → Prop} {entries : List ClasspathEntry} {name : String}

theorem MayAnswer.of_error {error : ClasspathError}
    (h : ∀ path fault, error = .file path fault → ∃ entry ∈ entries,
      entry.Answers sees (EntryName.ofQualified name) (.error (.file path fault))) :
    MayAnswer sees entries name (.error error) := by
  constructor
  · intro found hfound
    cases hfound
  · intro path fault hfault
    exact h path fault (Except.error.inj hfault)

theorem outcome_mayAnswer {found : Except ClasspathError (Option (Path × ByteArray))}
    (h : ClasspathEntry.Finds sees (EntryName.ofQualified name) entries found) (label : String) :
    MayAnswer sees entries name (outcome label name found) := by
  rcases found with error | (_ | ⟨origin, bytes⟩)
  · refine .of_error ?_
    rintro path fault rfl
    exact h
  · refine .of_error ?_
    rintro _ _ ⟨⟩
  · rcases LoadedClass.define_cases name origin bytes with
      ⟨loaded, hdefine, rfl⟩ | ⟨error, hdefine⟩ | ⟨other, hdefine⟩
    · obtain ⟨entry, hmem, hpath, hanswer⟩ := h
      rw [outcome, hdefine]
      constructor
      · intro found hfound
        obtain rfl := Except.ok.inj hfound
        exact ⟨entry, hmem, hpath, bytes, hanswer, hdefine⟩
      · intro _ _ herror
        cases herror
    · rw [outcome, hdefine]
      refine .of_error ?_
      rintro _ _ ⟨⟩
    · rw [outcome, hdefine]
      refine .of_error ?_
      rintro _ _ ⟨⟩

end Outcome

theorem load_accounted {sees : FileSystem → Prop} {entries : List ClasspathEntry}
    {context : ClassContext} (h : IsAccounted sees entries context) (name : String) {disk : Disk}
    (hdisk : ∀ files, disk.Sees files → sees files) :
    MayAnswer sees entries name (context.load name disk).value.1 ∧
      IsAccounted sees entries (context.load name disk).value.2 := by
  cases hlookup : context.loaded.lookup name with
  | some found =>
    unfold load
    simp only [hlookup]
    refine ⟨⟨?_, fun _ _ => nofun⟩, h⟩
    intro other hother
    exact Except.ok.inj hother ▸ h.loaded name found hlookup
  | none =>
    obtain ⟨hfound, hentries⟩ :=
      ClassSource.firstWith_finds (EntryName.ofQualified name) context.sources disk
    obtain ⟨rfl, hloaded⟩ := h
    have hresult := outcome_mayAnswer (hfound.mono hdisk (List.Subset.refl _)) context.label
    rw [load_of_lookup hlookup]
    refine ⟨hresult, hentries, ?_⟩
    intro other found hkept
    rcases lookup_remember hkept with hbefore | ⟨rfl, hnew⟩
    · exact hloaded other found hbefore
    · exact hresult.ok found hnew

/-- Asks for each class on a disk of its own, whatever comes of it. -/
def loadOn : List (String × Disk) → ClassContext → ClassContext
  | [], context => context
  | (name, disk) :: requests, context => loadOn requests (context.load name disk).value.2

theorem loadOn_accounted {sees : FileSystem → Prop} {entries : List ClasspathEntry}
    {requests : List (String × Disk)}
    (hdisks : ∀ request ∈ requests, ∀ files, request.2.Sees files → sees files)
    {context : ClassContext} (h : IsAccounted sees entries context) :
    IsAccounted sees entries (loadOn requests context) := by
  induction requests generalizing context with
  | nil => exact h
  | cons request requests ih =>
    obtain ⟨hdisk, hothers⟩ := List.forall_mem_cons.1 hdisks
    exact ih hothers (load_accounted h request.1 hdisk).2

/-- A context that was asked for any classes before, on any disks, gives a class for a class
directory only if it read it, now or before, at the path that is joined from the directory and the
name of the class, and it fails at no other path of a class directory. The path leads below each
directory exactly if the name is not rooted. A rooted name leads to one path for all directories. -/
theorem directory_serves_below_unless_rooted (label : String) (resources : ResourceSet)
    (start : Disk) (requests : List (String × Disk)) (name : String) (disk : Disk) :
    let sees := fun files => ∃ seen ∈ disk :: requests.map Prod.snd, seen.Sees files
    let context := loadOn requests (create label resources start).value
    let answer := (context.load name disk).value.1
    ((∀ directory : Path, (directory.classFile name).IsBelow directory) ↔
        ¬ ClassName.IsRooted name) ∧
    (ClassName.IsRooted name → ∀ directory : Path,
      directory.classFile name = .ofString (EntryName.ofQualified name)) ∧
    (∀ entry, EntryName.IsReached entry → EntryName.qualified? entry = some name →
      ¬ ClassName.IsRooted name) ∧
    (∀ found, answer = .ok found → start.files.isDirectory found.origin = true →
      ∃ files bytes, sees files ∧ files.read (found.origin.classFile name) = .ok bytes ∧
        LoadedClass.define name found.origin bytes = .ok found ∧
        (¬ ClassName.IsRooted name →
          files.HasBelow found.origin (found.origin.classFile name))) ∧
    ∀ path error, answer = .error (.file path error) →
      ∃ directory ∈ resources.paths, start.files.isDirectory directory = true ∧
        path = directory.classFile name := by
  intro sees context answer
  have hcontext : IsAccounted sees (ClasspathEntry.kept start.files resources.paths) context := by
    refine loadOn_accounted ?_ (create_accounted sees label resources start)
    intro request hmem files hseen
    exact ⟨request.2, List.mem_cons_of_mem _ (List.mem_map_of_mem hmem), hseen⟩
  have hanswer : MayAnswer sees (ClasspathEntry.kept start.files resources.paths) name answer :=
    (load_accounted hcontext name fun files hseen => ⟨disk, List.mem_cons_self, hseen⟩).1
  refine ⟨Path.forall_classFile_isBelow_iff name, Path.classFile_of_isRooted,
    fun entry => EntryName.IsReached.not_isRooted, ?_, ?_⟩
  · intro found hfound hdirectory
    obtain ⟨entry, hmem, hpath, bytes, hread, hdefine⟩ := hanswer.ok found hfound
    rw [ClasspathEntry.mem_kept_of_isDirectory hmem (hpath ▸ hdirectory), hpath] at hread
    obtain ⟨files, hseen, hread⟩ := hread
    have hread := ClassSource.read_of_readDirectory_ok hread.symm
    refine ⟨files, bytes, hseen, hread, hdefine, fun hrooted => ?_⟩
    exact FileSystem.hasBelow_of_read (Path.classFile_isBelow hrooted _) hread
  · intro path error herror
    obtain ⟨entry, hmem, hfails⟩ := hanswer.file path error herror
    cases entry with
    | jar jarPath => exact absurd rfl (hfails path error)
    | classDirectory directory =>
      obtain ⟨files, -, hfails⟩ := hfails
      obtain ⟨hpath, hdirectory⟩ := ClasspathEntry.classDirectory_mem_kept hmem
      exact ⟨directory, hpath, hdirectory, ClassSource.path_of_readDirectory_error hfails.symm⟩

end ClassContext

theorem class_is_read_below_directory :
    let bare := (FileSystem.empty []).makeDirectory (.ofString "/d")
    let files := bare.writeFile (.ofString "/d/com/A.class") emptyClass
    let context := ClassContext.loadOn [("com.A", .still bare)]
      (ClassContext.create "current" ⟨[.ofString "/d"]⟩ (.still bare)).value
    let answer := (context.load "com.A" (.still files)).value.1
    answer.toOption.map LoadedClass.origin = some (.ofString "/d") ∧
      files.HasBelow (.ofString "/d") (.ofString "/d/com/A.class") := by
  intro bare files context answer
  have horigin : answer.toOption.map LoadedClass.origin = some (.ofString "/d") := by
    decide +kernel
  refine ⟨horigin, ?_⟩
  obtain ⟨found, hfound, hpath⟩ := Option.map_eq_some_iff.1 horigin
  have hdirectory : bare.isDirectory found.origin = true := by
    rw [hpath]
    decide +kernel
  obtain ⟨seen, bytes, ⟨disk, hmem, hseen⟩, hread, -, hbelow⟩ :=
    (ClassContext.directory_serves_below_unless_rooted "current" ⟨[.ofString "/d"]⟩ (.still bare)
      [("com.A", .still bare)] "com.A" (.still files)).2.2.2.1 found
      (toOption_eq_some_iff.1 hfound) hdirectory
  rw [hpath] at hread hbelow
  obtain ⟨events, rfl⟩ := hseen
  rcases List.mem_cons.1 hmem with rfl | hbefore
  · rw [Disk.after_still] at hbelow
    exact hbelow (by decide)
  · obtain rfl := List.mem_singleton.1 hbefore
    rw [Disk.after_still] at hread
    have hmissing : bare.read ((Path.ofString "/d").classFile "com.A") = .error .notFound := rfl
    exact nomatch hmissing.symm.trans hread

/-- The class `/etc/A`, which is empty. -/
def rootedClass : ByteArray :=
  ⟨#[0xCA, 0xFE, 0xBA, 0xBE, 0, 0, 0, 0x41, 0, 3, 1, 0, 6, 0x2F, 0x65, 0x74, 0x63, 0x2F, 0x41, 7, 0,
    1, 0, 0x21, 0, 2, 0, 0, 0, 0, 0, 0, 0, 0, 0, 0]⟩

/-- The directory is empty, and still the class is said to come from it. The name is that of an
entry that passes for loadable. A name that is too long for any file is looked for at the root,
too. -/
theorem rooted_name_leaves_directory :
    let files := ((FileSystem.empty []).makeDirectory (.ofString "/d")).writeFile
      (.ofString "/etc/A.class") rootedClass
    let directory := Path.ofString "/d"
    let long := List.replicate 256 'x'
    EntryName.isLoadable ".etc/A.class" = true ∧
      EntryName.qualified? ".etc/A.class" = some ".etc.A" ∧
      (Stateless.loadClass files "current" ⟨[directory]⟩ ".etc.A").toOption.map
        LoadedClass.origin = some directory ∧
      directory.classFile ".etc.A" = .ofString "/etc/A.class" ∧
      ¬ (directory.classFile ".etc.A").IsBelow directory ∧
      ¬ files.HasBelow directory (directory.classFile ".etc.A") ∧
      Stateless.loadClass files "current" ⟨[directory]⟩ (String.ofList ('.' :: long)) =
        .error (.file (.ofString (String.ofList ('/' :: long ++ EntryName.classSuffix)))
          .nameTooLong) := by
  intro files directory long
  refine ⟨by decide +kernel, by decide +kernel, by decide +kernel, by decide +kernel, ?_, ?_, ?_⟩
  · intro hbelow
    obtain ⟨inner, -, -, hnames⟩ := hbelow.names
    exact absurd (List.cons.inj hnames).1 (by decide)
  · rintro ⟨place, inner, -, -, hplace, hfile, -⟩
    have hd : files.walk [] directory.segments = .ok [['d'].map .char] := rfl
    obtain rfl := Except.ok.inj (hd.symm.trans hplace)
    exact absurd (List.cons.inj (Except.ok.inj hfile)).1 (by decide)
  · have hrooted : ClassName.IsRooted (String.ofList ('.' :: long)) := by
      unfold ClassName.IsRooted
      rw [String.toList_ofList]
      exact Or.inl rfl
    have hentry : EntryName.ofQualified (String.ofList ('.' :: long)) =
        String.ofList ('/' :: long ++ EntryName.classSuffix) := by
      rw [← String.toList_inj, EntryName.toList_ofQualified, String.toList_ofList,
        String.toList_ofList]
      decide +kernel
    have hfind : files.find (directory.classFile (String.ofList ('.' :: long))) =
        .error .nameTooLong := by
      rw [Path.classFile_of_isRooted hrooted, hentry, Path.ofString, String.toList_ofList]
      decide +kernel
    have hread := ClassSource.readDirectory_of_error (FileSystem.read_of_find_error hfind)
      (by decide)
    rw [Path.classFile_of_isRooted hrooted, hentry] at hread
    have hkept : ClasspathEntry.kept files [directory] = [.classDirectory directory] :=
      ClasspathEntry.kept_directory (by decide +kernel)
    rw [Stateless.loadClass_eq, hkept, ClasspathEntry.findClass, ClasspathEntry.firstWith,
      ClasspathEntry.read, hentry, hread]

end Rebuild
