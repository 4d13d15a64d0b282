import Rebuild.Proofs.QuietLog
import Rebuild.Proofs.Scan

/-!
# Disks that differ in some files

Two disks have the same entries, and some files on them differ in content. A class is loaded alike
from both, as long as these files are archives that hold its entry alike and no class directory has
one of them in the place of the class.
-/

namespace Rebuild

/-! ## What a jar holds -/

/-- What an archive holds under a name: the checksum that its directory states, and the content or
why it cannot be had. -/
structure HeldEntry where
  name : String
  checksum : UInt32
  content : Except ArchiveFault ByteArray
deriving DecidableEq

/-- The entry is named for a class. -/
def Zip.Entry.isClass (entry : Zip.Entry) : Bool := EntryName.isClass entry.name

namespace Jar

variable {files : FileSystem}

/-- The content of an entry, or why it cannot be had. -/
def contentOf (files : FileSystem) (jar : Jar) (entry : Zip.Entry) :
    Except ArchiveFault ByteArray := do
  if entry.isEncrypted then throw (.zip .encrypted)
  let start ← ((jar.archive files).dataOffset entry).mapError .zip
  jar.contentAt files entry start

/-- An entry as a reader of the jar gets to see it. -/
def held (files : FileSystem) (jar : Jar) (entry : Zip.Entry) : HeldEntry :=
  ⟨entry.name, entry.checksum, jar.contentOf files entry⟩

/-- What the jar holds under a name, if anything. -/
def held? (files : FileSystem) (jar : Jar) (name : String) : Option HeldEntry :=
  ((jar.archive files).find? name).map (jar.held files)

/-- The entries that are named for classes, in order. -/
def classes (files : FileSystem) (jar : Jar) : List HeldEntry :=
  (jar.entries.filter Zip.Entry.isClass).map (jar.held files)

theorem read_eq (jar : Jar) (name : String) :
    (jar.read files name).1 = match jar.held? files name with
      | none => .ok none
      | some held => (held.content.map some).mapError fun fault => ⟨jar.path, fault⟩ := by
  unfold read held? held contentOf withData
  cases (jar.archive files).find? name with
  | none => rfl
  | some entry =>
    simp only [Option.map_some]
    cases entry.isEncrypted with
    | true => rfl
    | false =>
      simp only [Bool.false_eq_true, ↓reduceIte]
      cases (jar.archive files).dataOffset entry with
      | error fault => rfl
      | ok start =>
        have hstart : (Except.ok start).mapError ArchiveFault.zip = .ok start := rfl
        simp only [bind, Except.bind, hstart]
        cases jar.contentAt files entry start <;> rfl

/-- The archive at the path can be read on both disks and holds the same under the name, or nothing
on both. -/
def HoldsAlike (first second : FileSystem) (name : String) (path : Path) : Prop :=
  ∃ before after : Jar, Jar.load first path = .ok before ∧ Jar.load second path = .ok after ∧
    before.held? first name = after.held? second name

end Jar

/-! ## Disks with the same entries -/

namespace FileSystem

def IsSameFile (files : FileSystem) (a b : Path) : Prop :=
  ∃ identity, files.lookup? a = some (.file identity) ∧ files.lookup? b = some (.file identity)

instance (files : FileSystem) (a b : Path) : Decidable (files.IsSameFile a b) :=
  decidable_of_iff
    (∃ identity ∈ (files.findFile a).toOption, identity ∈ (files.findFile b).toOption) <| by
      simp [IsSameFile, toOption_eq_some_iff, findFile_eq_ok_iff]

/-- The disks have the same entries, and only the files at these paths may differ in content. -/
structure DiffersOnlyAt (paths : List Path) (first second : FileSystem) : Prop where
  find_eq : ∀ path, first.find path = second.find path
  content_eq : ∀ identity, (∀ path ∈ paths, first.lookup? path ≠ some (.file identity)) →
    first.content identity = second.content identity

theorem differsOnlyAt_putFile {files : FileSystem} {paths : List Path} {path : Path} {place : Place}
    {identity : FileIdentity} (hmem : path ∈ paths)
    (hlookup : files.lookup? path = some (.file identity))
    (hnode : files.node? place = some (.file identity)) (content : ByteArray) :
    DiffersOnlyAt paths files (files.putFile place content) := by
  unfold putFile
  rw [hnode]
  refine ⟨fun other => (find_setContents files _ other).symm, fun other hother => ?_⟩
  have hne : identity ≠ other := fun heq => hother path hmem (heq ▸ hlookup)
  unfold FileSystem.content
  rw [Array.getElem?_setIfInBounds_ne hne]

namespace DiffersOnlyAt

variable {paths : List Path} {first second : FileSystem}

theorem lookup?_eq (h : DiffersOnlyAt paths first second) (path : Path) :
    first.lookup? path = second.lookup? path := by
  unfold lookup?
  rw [h.find_eq]

theorem read_eq (h : DiffersOnlyAt paths first second) {path : Path}
    (hapart : ∀ other ∈ paths, ¬ first.IsSameFile path other) :
    first.read path = second.read path := by
  unfold read
  rw [← findFile_eq_of_find_eq (h.find_eq path)]
  cases hfile : first.findFile path with
  | error error => rfl
  | ok identity =>
    refine congrArg Except.ok (h.content_eq identity fun other hmem hother => ?_)
    exact hapart other hmem ⟨identity, findFile_eq_ok_iff.1 hfile, hother⟩

theorem kept_eq (h : DiffersOnlyAt paths first second) (searched : List Path) :
    ClasspathEntry.kept first searched = ClasspathEntry.kept second searched := by
  unfold ClasspathEntry.kept
  congr 1
  funext path
  rw [isDirectory_eq_of_find_eq (h.find_eq path), isFile_eq_of_find_eq (h.find_eq path)]

end DiffersOnlyAt

end FileSystem

/-! ## Loading from both disks -/

section Loading

variable {paths : List Path} {first second : FileSystem} {name : String}

theorem ClasspathEntry.firstWith_congr {entries : List ClasspathEntry}
    (h : ∀ entry ∈ entries, entry.read first name = entry.read second name) :
    firstWith first name entries = firstWith second name entries := by
  induction entries with
  | nil => rfl
  | cons entry entries ih =>
    obtain ⟨hentry, hentries⟩ := List.forall_mem_cons.1 h
    unfold firstWith
    rw [hentry, ih hentries]

theorem Jar.HoldsAlike.read_eq {path other : Path} {identity : FileIdentity}
    (hfirst : first.lookup? path = some (.file identity))
    (hsecond : second.lookup? path = some (.file identity))
    (hother : first.lookup? other = some (.file identity))
    (hother' : second.lookup? other = some (.file identity))
    (h : Jar.HoldsAlike first second name other) :
    (ClasspathEntry.jar path).read first name = (ClasspathEntry.jar path).read second name := by
  obtain ⟨before, after, hbefore, hafter, hheld⟩ := h
  obtain ⟨-, hfile, hentries⟩ := Jar.load_eq_ok_iff.1 hbefore
  obtain ⟨-, hfile', hentries'⟩ := Jar.load_eq_ok_iff.1 hafter
  obtain rfl : before.file = identity := by simpa [hother] using hfile.symm
  obtain heq : after.file = before.file := by simpa [hother'] using hfile'.symm
  have hload : Jar.load first path = .ok { before with path } :=
    Jar.load_eq_ok_iff.2 ⟨rfl, hfirst, hentries⟩
  have hload' : Jar.load second path = .ok { after with path } :=
    Jar.load_eq_ok_iff.2 ⟨rfl, heq ▸ hsecond, hentries'⟩
  have hsame : Jar.held? first { before with path } name =
      Jar.held? second { after with path } name := hheld
  unfold ClasspathEntry.read
  simp only [hload, hload', Jar.read_eq, hsame]

namespace FileSystem.DiffersOnlyAt

theorem readJar_eq (h : DiffersOnlyAt paths first second)
    (halike : ∀ path ∈ paths, Jar.HoldsAlike first second name path) (path : Path) :
    (ClasspathEntry.jar path).read first name = (ClasspathEntry.jar path).read second name := by
  -- The path need not be one of those at which the disks differ to lead to such a file.
  by_cases hdiffers : ∃ other ∈ paths, first.IsSameFile path other
  · obtain ⟨other, hmem, identity, hpath, hother⟩ := hdiffers
    exact Jar.HoldsAlike.read_eq hpath (h.lookup?_eq path ▸ hpath) hother
      (h.lookup?_eq other ▸ hother) (halike other hmem)
  · have hcontent : ∀ identity, first.lookup? path = some (.file identity) →
        first.content identity = second.content identity := by
      intro identity hpath
      refine h.content_eq identity fun other hmem hother => ?_
      exact hdiffers ⟨other, hmem, identity, hpath, hother⟩
    unfold ClasspathEntry.read
    cases hload : Jar.load first path with
    | error error => simp only [← Jar.load_eq_of_content_eq (h.find_eq path) hcontent, hload]
    | ok jar =>
      have hsame := hcontent jar.file (Jar.load_eq_ok_iff.1 hload).2.1
      simp only [← Jar.load_eq_of_content_eq (h.find_eq path) hcontent, hload,
        Jar.read_eq_of_content_eq hsame]

theorem readDirectory_eq (h : DiffersOnlyAt paths first second) {directory : Path}
    (hapart : ∀ path ∈ paths, ¬ first.IsSameFile (directory.join (.ofString name)) path) :
    (ClasspathEntry.classDirectory directory).read first name =
      (ClasspathEntry.classDirectory directory).read second name := by
  unfold ClasspathEntry.read ClassSource.readDirectory
  simp only [h.read_eq hapart]

/-- A class is loaded alike from both disks, if the differing files hold its entry alike and no
class directory that is searched has one of them in its place. -/
theorem loadClass_eq (h : DiffersOnlyAt paths first second) {qualified : String}
    (halike : ∀ path ∈ paths,
      Jar.HoldsAlike first second (EntryName.ofQualified qualified) path)
    {resources : ResourceSet}
    (hapart : ∀ directory ∈ resources.paths, first.isDirectory directory = true →
      ∀ path ∈ paths, ¬ first.IsSameFile
        (directory.join (.ofString (EntryName.ofQualified qualified))) path)
    (label : String) :
    Stateless.loadClass first label resources qualified =
      Stateless.loadClass second label resources qualified := by
  have hread : ∀ entry ∈ ClasspathEntry.kept first resources.paths,
      entry.read first (EntryName.ofQualified qualified) =
        entry.read second (EntryName.ofQualified qualified) := by
    intro entry hentry
    obtain ⟨path, hpath, hsource⟩ := List.mem_filterMap.1 hentry
    split at hsource
    · next hdirectory =>
      obtain rfl := Option.some.inj hsource
      exact h.readDirectory_eq (hapart path hpath hdirectory)
    · split at hsource
      · obtain rfl := Option.some.inj hsource
        exact h.readJar_eq halike path
      · exact nomatch hsource
  rw [Stateless.loadClass_eq, Stateless.loadClass_eq, ← h.kept_eq]
  unfold ClasspathEntry.findClass
  rw [ClasspathEntry.firstWith_congr hread]

end FileSystem.DiffersOnlyAt

end Loading

end Rebuild
