import Rebuild.Proofs.Evaluation
import Rebuild.Proofs.SteadyAnswers

/-!
# A log has no say in an answer

Two runs on the same files may write different logs, so they go on with different disks. As long as
the log is none of the files that are read, there is one answer on all of these disks.
-/

namespace Rebuild

variable {ω α β : Type}

/-! ## Disks that show the same -/

/-- The paths lead to the same in both file systems, and those that are read to the same content. -/
structure FileSystem.LooksLike (paths : List Path) (files seen : FileSystem) : Prop where
  agreesOn : FileSystem.AgreesOn paths files seen
  find_eq : ∀ path, seen.find path = files.find path

/-- The disk has the entries of the files, and its log is none of the files that the paths lead
to. -/
structure Disk.Shows (files : FileSystem) (paths : List Path) (disk : Disk) : Prop where
  isSteady : disk.IsSteady files paths
  find_eq : ∀ path, disk.files.find path = files.find path

namespace Disk.Shows

variable {files : FileSystem} {paths : List Path} {disk : Disk}

theorem looksLike (h : disk.Shows files paths) : FileSystem.LooksLike paths files disk.files :=
  ⟨h.isSteady.agrees, h.find_eq⟩

theorem still (files : FileSystem) (paths : List Path) : (Disk.still files).Shows files paths :=
  ⟨⟨FileSystem.AgreesOn.refl paths files, fun _ _ h => nomatch h⟩, fun _ => rfl⟩

theorem note (h : disk.Shows files paths) (event : LogEvent) :
    (disk.note event).Shows files paths := by
  exact ⟨h.isSteady.note event, fun path => (disk.find_note event path).trans (h.find_eq path)⟩

theorem after (h : disk.Shows files paths) (events : List LogEvent) :
    (disk.after events).Shows files paths := by
  induction events generalizing disk with
  | nil => exact h
  | cons event events ih => exact ih (h.note event)

end Disk.Shows

namespace FileSystem.LooksLike

variable {paths : List Path} {files seen : FileSystem} {path : Path}

theorem isDirectory_eq (h : LooksLike paths files seen) (path : Path) :
    seen.isDirectory path = files.isDirectory path :=
  isDirectory_eq_of_find_eq (h.find_eq path)

theorem isFile_eq (h : LooksLike paths files seen) (path : Path) :
    seen.isFile path = files.isFile path :=
  isFile_eq_of_find_eq (h.find_eq path)

theorem doesExist_eq (h : LooksLike paths files seen) : seen.doesExist = files.doesExist :=
  funext fun path => doesExist_eq_of_find_eq (h.find_eq path)

theorem findFile_eq (h : LooksLike paths files seen) (path : Path) :
    seen.findFile path = files.findFile path :=
  findFile_eq_of_find_eq (h.find_eq path)

theorem content_eq (h : LooksLike paths files seen) (hmem : path ∈ paths) {identity : FileIdentity}
    (hfile : files.lookup? path = some (.file identity)) :
    seen.content identity = files.content identity :=
  ((h.agreesOn path hmem).2 identity hfile).symm

theorem read_eq (h : LooksLike paths files seen) (hmem : path ∈ paths) :
    seen.read path = files.read path := by
  unfold read
  rw [h.findFile_eq]
  cases hfile : files.findFile path with
  | error error => rfl
  | ok identity => exact congrArg Except.ok (h.content_eq hmem (findFile_eq_ok_iff.1 hfile))

theorem load_eq (h : LooksLike paths files seen) (hmem : path ∈ paths) :
    Jar.load seen path = Jar.load files path :=
  (Jar.load_eq_of_content_eq (h.find_eq path).symm (h.agreesOn path hmem).2).symm

end FileSystem.LooksLike

/-! ## One answer on all disks -/

/-- There is one answer on all disks that show the files, and it is as wanted. -/
def Inquiry.Determines (files : FileSystem) (paths : List Path) (x : Inquiry α)
    (wanted : α → Prop) : Prop :=
  ∃ value, wanted value ∧ ∀ disk : Disk, disk.Shows files paths → (x disk).value = value

namespace Inquiry.Determines

variable {files : FileSystem} {paths : List Path} {wanted : α → Prop}

theorem pure {value : α} (h : wanted value) :
    Determines files paths (Pure.pure value : Inquiry α) wanted :=
  ⟨value, h, fun _ _ => rfl⟩

theorem bind {x : Inquiry α} {f : α → Inquiry β} {between : α → Prop} {wanted : β → Prop}
    (hx : Determines files paths x between)
    (hf : ∀ value, between value → Determines files paths (f value) wanted) :
    Determines files paths (x >>= f) wanted := by
  obtain ⟨first, hfirst, hx⟩ := hx
  obtain ⟨second, hsecond, hf⟩ := hf first hfirst
  refine ⟨second, hsecond, fun disk hdisk => ?_⟩
  rw [value_bind, hx disk hdisk]
  exact hf _ (hdisk.after _)

theorem said (x : Inquiry Unit) : Determines files paths x fun _ => True :=
  ⟨(), trivial, fun _ _ => rfl⟩

theorem look {f : FileSystem → Inquiry α}
    (hsame : ∀ seen, FileSystem.LooksLike paths files seen → f seen = f files)
    (hf : Determines files paths (f files) wanted) :
    Determines files paths (Inquiry.files >>= f) wanted := by
  obtain ⟨value, hvalue, hf⟩ := hf
  refine ⟨value, hvalue, fun disk hdisk => ?_⟩
  have hseen : f disk.files = f files := hsame _ hdisk.looksLike
  exact (congrArg (fun x => (x disk).value) hseen).trans (hf disk hdisk)

end Inquiry.Determines

/-- An action has one answer, in whatever world it starts, and leaves one world. -/
def Act.Determines (files : FileSystem) (paths : List Path) (x : Act ω α) (wanted : α → Prop) :
    Prop :=
  ∀ w : ω, Inquiry.Determines files paths (x.run w) fun answer => wanted answer.1

namespace Act.Determines

variable {files : FileSystem} {paths : List Path} {wanted : α → Prop}

theorem pure {value : α} (h : wanted value) :
    Determines files paths (Pure.pure value : Act ω α) wanted :=
  fun _ => Inquiry.Determines.pure h

theorem inquiry {x : Inquiry α} (hx : Inquiry.Determines files paths x wanted) :
    Determines files paths (x : Act ω α) wanted :=
  fun w => hx.bind (f := fun value => Pure.pure (value, w)) fun _ h => Inquiry.Determines.pure h

theorem said (x : Inquiry Unit) : Determines files paths (x : Act ω Unit) fun _ => True :=
  inquiry (Inquiry.Determines.said x)

theorem bind {x : Act ω α} {f : α → Act ω β} {between : α → Prop} {wanted : β → Prop}
    (hx : Determines files paths x between)
    (hf : ∀ value, between value → Determines files paths (f value) wanted) :
    Determines files paths (x >>= f) wanted :=
  fun w => (hx w).bind fun answer h => hf answer.1 h answer.2

theorem look {f : FileSystem → Act ω α}
    (hsame : ∀ seen, FileSystem.LooksLike paths files seen → f seen = f files)
    (hf : Determines files paths (f files) wanted) :
    Determines files paths ((Inquiry.files : Act ω FileSystem) >>= f) wanted := by
  intro w
  exact Inquiry.Determines.look (f := fun seen => (f seen).run w)
    (fun seen hseen => by rw [hsame seen hseen]) (hf w)

end Act.Determines

/-! ## Jars -/

namespace Jar

variable {files seen : FileSystem} {paths : List Path} {path : Path} {jar : Jar}

theorem acquire_determines (hmem : path ∈ paths) :
    Inquiry.Determines files paths (acquire path) fun result => result = load files path := by
  unfold acquire
  refine Inquiry.Determines.look (fun seen hseen => by rw [hseen.load_eq hmem]) ?_
  cases load files path with
  | error error => exact Inquiry.Determines.pure rfl
  | ok jar => exact (Inquiry.Determines.said _).bind fun _ _ => Inquiry.Determines.pure rfl

theorem memberAt_determines (hmem : path ∈ paths) (hload : load files path = .ok jar)
    (index : Nat) :
    Act.Determines files paths ((ArchiveAccess.jars ω).memberAt jar index) fun result =>
      result = (jar.memberAt files index).1 := by
  refine Act.Determines.look (fun seen hseen => ?_) (Act.Determines.pure rfl)
  unfold memberAt
  simp only [record_eq_of_agreesOn (archive_eq_of_agreesOn hseen.agreesOn hmem hload)]

theorem member_determines (hmem : path ∈ paths) (hload : load files path = .ok jar)
    (name : String) :
    Act.Determines files paths ((ArchiveAccess.jars ω).member jar name) fun _ => True := by
  refine Act.Determines.look (fun seen hseen => ?_) (Act.Determines.pure trivial)
  have harchive := archive_eq_of_agreesOn hseen.agreesOn hmem hload
  unfold member
  simp only [harchive, record_eq_of_agreesOn harchive]

theorem read_eq_of_content_eq (h : seen.content jar.file = files.content jar.file)
    (name : String) : jar.read seen name = jar.read files name := by
  have harchive : jar.archive seen = jar.archive files := by
    unfold archive
    rw [h]
  unfold read withData contentAt
  rw [harchive]

theorem file_read (name : String) : (jar.read files name).2.file = jar.file := by
  unfold read withData
  split
  · rfl
  · split
    · rfl
    · split <;> rfl

theorem fetch_determines
    (hcontent : ∀ seen, FileSystem.LooksLike paths files seen →
      seen.content jar.file = files.content jar.file) (name : String) :
    Inquiry.Determines files paths (jar.fetch name) fun answer => answer = jar.read files name := by
  unfold fetch
  refine Inquiry.Determines.look (fun seen hseen => ?_) ?_
  · rw [read_eq_of_content_eq (hcontent seen hseen)]
  · exact (Inquiry.Determines.said _).bind fun _ _ => Inquiry.Determines.pure rfl

end Jar

/-! ## Classes -/

namespace ClassSource

variable {files : FileSystem} {paths asked : List Path} {source : ClassSource} {entry : String}

/-- All that the source reads when it is asked for these entries lies at the paths. -/
def ReadsFrom (files : FileSystem) (paths asked : List Path) : ClassSource → Prop
  | directory path => ∀ entry ∈ asked, path.join entry ∈ paths
  | jar path none => path ∈ paths
  | jar path (some opened) => path ∈ paths ∧ files.lookup? path = some (.file opened.file)

theorem readDirectory_eq {seen : FileSystem} {path : Path}
    (hseen : FileSystem.LooksLike paths files seen) (hmem : path.join (.ofString entry) ∈ paths) :
    readDirectory seen path entry = readDirectory files path entry := by
  unfold readDirectory
  simp only [hseen.read_eq hmem]

theorem readJar_determines {path : Path} {opened : Jar} (hmem : path ∈ paths)
    (hfile : files.lookup? path = some (.file opened.file)) (entry : String) :
    Inquiry.Determines files paths (readJar path entry opened)
      fun answer => answer.2.ReadsFrom files paths asked := by
  refine (Jar.fetch_determines (fun _ hseen => hseen.content_eq hmem hfile) entry).bind ?_
  rintro _ rfl
  have hkept : (opened.read files entry).2.file = opened.file := Jar.file_read entry
  exact Inquiry.Determines.pure
    ⟨hmem, hfile.trans (congrArg (fun file => some (FileNode.file file)) hkept.symm)⟩

theorem read_determines (h : source.ReadsFrom files paths asked)
    (hentry : .ofString entry ∈ asked) :
    Inquiry.Determines files paths (source.read entry)
      fun answer => answer.2.ReadsFrom files paths asked := by
  cases source with
  | directory path =>
    refine Inquiry.Determines.look (fun seen hseen => ?_) (Inquiry.Determines.pure h)
    rw [readDirectory_eq hseen (h _ hentry)]
  | jar path opened =>
    cases opened with
    | some opened => exact readJar_determines h.1 h.2 entry
    | none =>
      refine (Jar.acquire_determines h).bind fun result hresult => ?_
      cases result with
      | error error => exact Inquiry.Determines.pure h
      | ok opened =>
        exact readJar_determines h (Jar.load_eq_ok_iff.1 hresult.symm).2.1 entry

theorem firstWith_determines {sources : List ClassSource} (hentry : .ofString entry ∈ asked)
    (h : ∀ source ∈ sources, source.ReadsFrom files paths asked) :
    Inquiry.Determines files paths (firstWith entry sources)
      fun answer => ∀ source ∈ answer.2, source.ReadsFrom files paths asked := by
  induction sources with
  | nil => exact Inquiry.Determines.pure h
  | cons source sources ih =>
    obtain ⟨hsource, hothers⟩ := List.forall_mem_cons.1 h
    refine (read_determines hsource hentry).bind fun answer hanswer => ?_
    obtain ⟨found, source⟩ := answer
    -- The sources behind the one that decides are not asked, and stay as they are.
    rcases found with error | (_ | bytes)
    · exact Inquiry.Determines.pure (List.forall_mem_cons.2 ⟨hanswer, hothers⟩)
    · exact (ih hothers).bind fun rest hrest =>
        Inquiry.Determines.pure (List.forall_mem_cons.2 ⟨hanswer, hrest⟩)
    · exact Inquiry.Determines.pure (List.forall_mem_cons.2 ⟨hanswer, hothers⟩)

end ClassSource

namespace ClassContext

variable {files : FileSystem} {paths asked : List Path} {context : ClassContext}

def ReadsFrom (files : FileSystem) (paths asked : List Path) (context : ClassContext) : Prop :=
  ∀ source ∈ context.sources, source.ReadsFrom files paths asked

theorem load_determines (h : context.ReadsFrom files paths asked) {name : String}
    (hname : .ofString (EntryName.ofInternal (ClassName.unqualify name)) ∈ asked) :
    Inquiry.Determines files paths (context.load name)
      fun answer => answer.2.ReadsFrom files paths asked := by
  unfold load
  cases context.loaded.lookup name with
  | some found => exact Inquiry.Determines.pure h
  | none =>
    refine (ClassSource.firstWith_determines hname h).bind fun answer hanswer => ?_
    obtain ⟨found, sources⟩ := answer
    rcases found with error | (_ | ⟨origin, bytes⟩)
    · exact Inquiry.Determines.pure hanswer
    · exact Inquiry.Determines.pure hanswer
    · simp only
      cases LoadedClass.define name origin bytes with
      | error error => exact Inquiry.Determines.pure hanswer
      | ok loaded =>
        exact (Inquiry.Determines.said _).bind fun _ _ => Inquiry.Determines.pure hanswer

theorem sourcesOf_determines (label : String) {resources : List Path}
    (hmem : ∀ path ∈ resources, path ∈ paths)
    (hjoin : ∀ path ∈ resources, files.isDirectory path = true →
      ∀ entry ∈ asked, path.join entry ∈ paths) :
    Inquiry.Determines files paths (sourcesOf label resources)
      fun sources => ∀ source ∈ sources, source.ReadsFrom files paths asked := by
  induction resources with
  | nil => exact Inquiry.Determines.pure nofun
  | cons path resources ih =>
    obtain ⟨hpath, hmem⟩ := List.forall_mem_cons.1 hmem
    obtain ⟨hentries, hjoin⟩ := List.forall_mem_cons.1 hjoin
    have hrest := ih hmem hjoin
    unfold sourcesOf ClasspathEntry.ofPath
    refine Inquiry.Determines.look
      (fun seen hseen => by simp only [hseen.isDirectory_eq, hseen.isFile_eq]) ?_
    cases hdirectory : files.isDirectory path with
    | true =>
      exact hrest.bind fun sources hsources =>
        Inquiry.Determines.pure (List.forall_mem_cons.2 ⟨hentries hdirectory, hsources⟩)
    | false =>
      simp only [Bool.false_eq_true, ↓reduceIte]
      cases files.isFile path with
      | true =>
        exact hrest.bind fun sources hsources =>
          Inquiry.Determines.pure (List.forall_mem_cons.2 ⟨hpath, hsources⟩)
      | false => exact (Inquiry.Determines.said _).bind fun _ _ => hrest

theorem create_determines (label : String) {resources : ResourceSet}
    (hmem : ∀ path ∈ resources.paths, path ∈ paths)
    (hjoin : ∀ path ∈ resources.paths, files.isDirectory path = true →
      ∀ entry ∈ asked, path.join entry ∈ paths) :
    Inquiry.Determines files paths (create label resources)
      fun context => context.ReadsFrom files paths asked :=
  (sourcesOf_determines label hmem hjoin).bind fun _ hsources => Inquiry.Determines.pure hsources

end ClassContext

end Rebuild
