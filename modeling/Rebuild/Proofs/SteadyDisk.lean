import Rebuild.Analysis.ArchiveUnit
import Rebuild.Log.Setup

/-!
# A log that is no input

A run may write its log to the disk that it looks at. As long as the log is none of the files that
the run reads, it sees the files as they were at its start.
-/

namespace Rebuild

variable {α β : Type}

/-! ## Equal at some paths -/

namespace FileSystem

def lookup? (files : FileSystem) (path : Path) : Option FileNode := (files.find path).toOption

theorem lookup?_eq_some_iff {files : FileSystem} {path : Path} {node : FileNode} :
    files.lookup? path = some node ↔ files.find path = .ok node := by
  unfold lookup?
  cases files.find path <;> simp [Except.toOption]

theorem findFile_eq_ok_iff {files : FileSystem} {path : Path} {identity : FileIdentity} :
    files.findFile path = .ok identity ↔ files.lookup? path = some (.file identity) := by
  rw [lookup?_eq_some_iff]
  unfold findFile
  cases files.find path with
  | error error => exact ⟨nofun, nofun⟩
  | ok node =>
    cases node with
    | directory => exact ⟨nofun, nofun⟩
    | file found => exact ⟨fun h => by rw [Except.ok.inj h], fun h => by cases h; rfl⟩

theorem lookup?_eq (files : FileSystem) (path : Path) :
    files.lookup? path = match refusal? path with
      | some _ => none
      | none => (files.walk (files.start path) path.segments).toOption.bind files.node? := by
  unfold lookup? find
  cases refusal? path with
  | some refusal => rfl
  | none =>
    simp only [bind, Except.bind]
    cases files.walk (files.start path) path.segments with
    | error error => rfl
    | ok found => simp only [Except.toOption, Option.bind_some]; cases files.node? found <;> rfl

section FindEq

variable {a b : FileSystem} {path : Path} (h : a.find path = b.find path)

include h

theorem isDirectory_eq_of_find_eq : a.isDirectory path = b.isDirectory path := by
  unfold isDirectory
  rw [h]

theorem isFile_eq_of_find_eq : a.isFile path = b.isFile path := by
  unfold isFile
  rw [h]

theorem doesExist_eq_of_find_eq : a.doesExist path = b.doesExist path := by
  unfold doesExist
  rw [h]

theorem findFile_eq_of_find_eq : a.findFile path = b.findFile path := by
  unfold findFile
  rw [h]

end FindEq

/-- The paths lead to the same in both file systems, or to nothing in both. -/
def AgreesOn (paths : List Path) (a b : FileSystem) : Prop :=
  ∀ path ∈ paths, a.lookup? path = b.lookup? path ∧
    ∀ identity, a.lookup? path = some (.file identity) → a.content identity = b.content identity

theorem AgreesOn.refl (paths : List Path) (files : FileSystem) : AgreesOn paths files files :=
  fun _ _ => ⟨rfl, fun _ _ => rfl⟩

section Agreement

variable {paths : List Path} {a b c : FileSystem} {path : Path}

theorem AgreesOn.trans (hab : AgreesOn paths a b) (hbc : AgreesOn paths b c) :
    AgreesOn paths a c := by
  intro path hmem
  obtain ⟨hnode, hcontent⟩ := hab path hmem
  obtain ⟨hnode', hcontent'⟩ := hbc path hmem
  refine ⟨hnode.trans hnode', ?_⟩
  intro identity hfile
  exact (hcontent identity hfile).trans (hcontent' identity (hnode ▸ hfile))

theorem doesExist_eq_isSome (files : FileSystem) (path : Path) :
    files.doesExist path = (files.lookup? path).isSome := by
  unfold doesExist lookup?
  cases files.find path <;> rfl

theorem AgreesOn.doesExist_eq (h : AgreesOn paths a b) (hmem : path ∈ paths) :
    a.doesExist path = b.doesExist path := by
  rw [doesExist_eq_isSome, doesExist_eq_isSome, (h path hmem).1]

end Agreement

/-! ## Appending to a file -/

theorem walk_setContents (files : FileSystem) (contents : Array ByteArray) (place : Place)
    (segments : List (List Utf8.Piece)) :
    walk { files with contents } place segments = walk files place segments := by
  induction segments generalizing place with
  | nil => rfl
  | cons segment segments ih =>
    unfold walk
    simp only [ih]
    rfl

theorem find_setContents (files : FileSystem) (contents : Array ByteArray) (path : Path) :
    find { files with contents } path = files.find path := by
  unfold find start
  simp only [walk_setContents]
  rfl

theorem node?_append (files : FileSystem) (place : Place) (added : ByteArray) (other : Place) :
    (files.append place added).node? other = files.node? other := by
  unfold append putFile
  cases hnode : files.node? place with
  | none => rfl
  | some node => cases node <;> rfl

theorem find_append (files : FileSystem) (place : Place) (added : ByteArray) (path : Path) :
    (files.append place added).find path = files.find path := by
  unfold append
  cases hnode : files.node? place with
  | none => rfl
  | some node =>
    cases node with
    | directory => rfl
    | file identity =>
      simp only [putFile, hnode]
      exact find_setContents files _ path

theorem content_append {files : FileSystem} {place : Place} {identity : FileIdentity}
    (hother : files.node? place ≠ some (.file identity)) (added : ByteArray) :
    (files.append place added).content identity = files.content identity := by
  unfold append
  cases hnode : files.node? place with
  | none => rfl
  | some node =>
    cases node with
    | directory => rfl
    | file written =>
      have hne : written ≠ identity := by
        intro heq
        exact hother (heq ▸ hnode)
      simp only [putFile, hnode]
      unfold content
      rw [Array.getElem?_setIfInBounds_ne hne]

/-! ## Making a file -/

theorem lookup_filter_ne {entries : List (Place × FileNode)} {place other : Place}
    (hne : other ≠ place) :
    (entries.filter fun entry => entry.1 != place).lookup other = entries.lookup other := by
  induction entries with
  | nil => rfl
  | cons entry entries ih =>
    by_cases heq : entry.1 = place
    · have hother : (other == entry.1) = false := beq_false_of_ne (heq ▸ hne)
      rw [List.filter_cons_of_neg (by simp [heq]), ih]
      rw [List.lookup_cons, hother]
    · simp only [bne_iff_ne, ne_eq, heq, not_false_eq_true, List.filter_cons_of_pos]
      rw [List.lookup_cons, List.lookup_cons, ih]

section NewFile

variable {files : FileSystem} {place : Place} (hnode : files.node? place = none)
  (content : ByteArray)

include hnode

theorem node?_putFile_self :
    (files.putFile place content).node? place = some (.file files.contents.size) := by
  have hne : place.isEmpty = false := by
    cases hempty : place.isEmpty with
    | false => rfl
    | true => simp [node?, hempty] at hnode
  simp only [putFile, hnode]
  simp [node?, put, hne]

theorem node?_putFile_of_ne {other : Place} (hne : other ≠ place) :
    (files.putFile place content).node? other = files.node? other := by
  simp only [putFile, hnode]
  unfold node? put
  simp only [List.lookup_cons, beq_false_of_ne hne, lookup_filter_ne hne]

theorem walk_putFile (segments : List (List Utf8.Piece)) (origin : Place) :
    (files.putFile place content).walk origin segments = .ok place ∨
      ((files.putFile place content).walk origin segments).toOption =
        (files.walk origin segments).toOption := by
  induction segments generalizing origin with
  | nil => exact Or.inr rfl
  | cons segment segments ih =>
    unfold walk
    by_cases horigin : origin = place
    · rw [horigin, node?_putFile_self hnode, hnode]
      exact Or.inr rfl
    rw [node?_putFile_of_ne hnode content horigin]
    cases files.node? origin with
    | none => exact Or.inr rfl
    | some node =>
      cases node with
      | file identity => exact Or.inr rfl
      | directory =>
        simp only
        split
        · exact ih origin
        split
        · exact ih origin.dropLast
        split
        · exact Or.inr rfl
        by_cases hnext : origin ++ [segment] = place
        · rw [hnext, node?_putFile_self hnode, hnode]
          cases segments with
          | nil => exact Or.inl rfl
          | cons next segments =>
            refine Or.inr ?_
            unfold walk
            rw [node?_putFile_self hnode]
            rfl
        · rw [node?_putFile_of_ne hnode content hnext]
          split
          · exact Or.inr rfl
          · exact ih (origin ++ [segment])

theorem lookup?_putFile (path : Path) :
    (files.putFile place content).lookup? path = some (.file files.contents.size) ∨
      (files.putFile place content).lookup? path = files.lookup? path := by
  have hstart : (files.putFile place content).start path = files.start path := by
    simp only [putFile, hnode]
    rfl
  rw [lookup?_eq, lookup?_eq, hstart]
  cases refusal? path with
  | some refusal => exact Or.inr rfl
  | none =>
    rcases walk_putFile hnode content path.segments (files.start path) with hplace | hsame
    · rw [hplace]
      exact Or.inl (node?_putFile_self hnode content)
    · simp only [hsame]
      cases (files.walk (files.start path) path.segments).toOption with
      | none => exact Or.inr rfl
      | some found =>
        by_cases hfound : found = place
        · exact Or.inl (hfound ▸ node?_putFile_self hnode content)
        · exact Or.inr (node?_putFile_of_ne hnode content hfound)

theorem content_putFile {identity : FileIdentity} (hne : identity ≠ files.contents.size) :
    (files.putFile place content).content identity = files.content identity := by
  simp only [putFile, hnode]
  unfold FileSystem.content
  rw [Array.getElem?_push]
  simp [hne]

theorem agreesOn_putFile {paths : List Path}
    (hother : ∀ path ∈ paths,
      (files.putFile place content).lookup? path ≠ some (.file files.contents.size)) :
    AgreesOn paths files (files.putFile place content) := by
  intro path hmem
  have hsame : (files.putFile place content).lookup? path = files.lookup? path :=
    (lookup?_putFile hnode content path).resolve_left (hother path hmem)
  refine ⟨hsame.symm, ?_⟩
  intro identity hfile
  have hne : identity ≠ files.contents.size := by
    intro heq
    exact hother path hmem (hsame.trans (heq ▸ hfile))
  exact (content_putFile hnode content hne).symm

end NewFile

theorem openForAppend_cases {files opened : FileSystem} {path : Path} {place : Place}
    (h : files.openForAppend path = .ok (opened, place)) :
    (opened = files ∧ ∃ identity, files.node? place = some (.file identity)) ∨
      (files.node? place = none ∧ opened = files.putFile place .empty) := by
  unfold openForAppend at h
  cases hplace : files.writablePlace path with
  | error error => rw [hplace] at h; exact nomatch h
  | ok found =>
    rw [hplace] at h
    simp only [bind, Except.bind] at h
    cases hnode : files.node? found with
    | none =>
      rw [hnode] at h
      obtain ⟨rfl, rfl⟩ := Prod.mk.inj (Except.ok.inj h)
      exact Or.inr ⟨hnode, rfl⟩
    | some node =>
      rw [hnode] at h
      cases node with
      | directory => exact nomatch h
      | file identity =>
        obtain ⟨rfl, rfl⟩ := Prod.mk.inj (Except.ok.inj h)
        exact Or.inl ⟨rfl, identity, hnode⟩

end FileSystem

/-! ## The disk of a run -/

/-- The disk has the paths as the files have them, and its log is none of the files they lead to. -/
structure Disk.IsSteady (files : FileSystem) (paths : List Path) (disk : Disk) : Prop where
  agrees : FileSystem.AgreesOn paths files disk.files
  apart : ∀ log identity, disk.log = some log →
    disk.files.node? log.place = some (.file identity) →
      ∀ path ∈ paths, disk.files.lookup? path ≠ some (.file identity)

theorem Disk.find_note (disk : Disk) (event : LogEvent) (path : Path) :
    (disk.note event).files.find path = disk.files.find path := by
  unfold note
  split
  · rfl
  · exact FileSystem.find_append _ _ _ path

namespace Disk.IsSteady

variable {files : FileSystem} {paths : List Path} {disk : Disk}

theorem note (h : disk.IsSteady files paths) (event : LogEvent) :
    (disk.note event).IsSteady files paths := by
  unfold Disk.note
  cases hlog : disk.log with
  | none => exact h
  | some log =>
    have hlookup (path : Path) : (disk.files.append log.place (log.written event)).lookup? path =
        disk.files.lookup? path := by
      unfold FileSystem.lookup?
      rw [FileSystem.find_append]
    refine ⟨h.agrees.trans ?_, ?_⟩
    · intro path hmem
      refine ⟨(hlookup path).symm, ?_⟩
      intro identity hfile
      refine (FileSystem.content_append ?_ _).symm
      exact fun hnode => h.apart log identity hlog hnode path hmem hfile
    · intro other identity hother hnode path hmem
      rw [hlookup path]
      rw [FileSystem.node?_append] at hnode
      exact h.apart other identity (hlog.trans hother) hnode path hmem

theorem after (h : disk.IsSteady files paths) (events : List LogEvent) :
    (disk.after events).IsSteady files paths := by
  induction events generalizing disk with
  | nil => exact h
  | cons event events ih => exact ih (h.note event)

end Disk.IsSteady

/-- The log does not go into a file that one of the paths leads to. -/
def LoggingConfig.IsApart (files : FileSystem) (paths : List Path) (logging : LoggingConfig) :
    Prop :=
  ∀ path opened place identity, logging.file = some path →
    files.openForAppend path = .ok (opened, place) →
      opened.node? place = some (.file identity) →
        ∀ input ∈ paths, opened.find input ≠ .ok (.file identity)

theorem LoggingConfig.IsApart.isSteady {files : FileSystem} {paths : List Path}
    {logging : LoggingConfig} (h : logging.IsApart files paths) (environment : Option String)
    (timestamp : String) :
    let (setup, opened, _) := LogSetup.create logging environment files
    (setup.disk timestamp opened).IsSteady files paths := by
  have hunlogged (setup : LogSetup) (hnone : setup.file = none) :
      (setup.disk timestamp files).IsSteady files paths := by
    refine ⟨FileSystem.AgreesOn.refl paths files, ?_⟩
    intro log identity hlog
    unfold LogSetup.disk at hlog
    rw [hnone] at hlog
    exact nomatch hlog
  unfold LogSetup.create
  cases hfile : logging.file with
  | none => exact hunlogged _ rfl
  | some path =>
    cases hopen : files.openForAppend path with
    | error error =>
      simp only [hopen]
      exact hunlogged _ rfl
    | ok opening =>
      obtain ⟨opened, place⟩ := opening
      have hother := fun identity => h path opened place identity hfile hopen
      simp only [hopen]
      refine ⟨?_, ?_⟩
      · rcases FileSystem.openForAppend_cases hopen with ⟨rfl, -⟩ | ⟨hnode, rfl⟩
        · exact FileSystem.AgreesOn.refl paths _
        · refine FileSystem.agreesOn_putFile hnode _ ?_
          intro input hmem hlookup
          exact hother _ (FileSystem.node?_putFile_self hnode _) input hmem
            (FileSystem.lookup?_eq_some_iff.1 hlookup)
      · intro log identity hlog hnode input hmem hlookup
        obtain rfl := Option.some.inj hlog
        exact hother identity hnode input hmem (FileSystem.lookup?_eq_some_iff.1 hlookup)

end Rebuild
