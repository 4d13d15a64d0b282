import Rebuild.Proofs.ChangedMembers
import Rebuild.Proofs.DifferingFiles
import Rebuild.Proofs.ExitCode

/-!
# What a verdict depends on

The verdict on an archive depends on the classes of its snapshot, in their order, and on what the
archive holds under their names. It makes no difference in which order the archive holds them, which
classes came in, and what either archive holds that is no class.
-/

namespace Rebuild

variable {ω : Type}

/-! ## The scan of an archive that can be read -/

namespace Zip.Entry

theorem not_isClass_of_isDirectory {entry : Zip.Entry} (h : entry.isDirectory = true) :
    ¬ entry.isClass = true := by
  intro hclass
  obtain ⟨internal, hinternal⟩ := Option.isSome_iff_exists.1 hclass
  have hlast : entry.name.toList.getLast? = some 's' := by
    rcases EntryName.toList_of_internal? hinternal with hname | hname
    · rw [hname, List.getLast?_append]
      rfl
    · rw [hname, ← List.cons_append, List.getLast?_append]
      rfl
  unfold isDirectory at h
  rw [hlast] at h
  exact absurd h (by decide)

end Zip.Entry

def Zip.Entry.member (entry : Zip.Entry) : Member := ⟨entry.name, entry.checksum⟩

namespace Jar

/-- The jar is the archive at the path, and the header in front of each entry is in order. -/
structure IsReadable (files : FileSystem) (path : Path) (jar : Jar) : Prop where
  load : Jar.load files path = .ok jar
  locate : ∀ entry ∈ jar.entries, jar.CanLocate files entry

instance (files : FileSystem) (path : Path) (jar : Jar) :
    Decidable (jar.IsReadable files path) :=
  decidable_of_iff (Jar.load files path = .ok jar ∧ ∀ entry ∈ jar.entries,
    jar.CanLocate files entry) ⟨fun h => ⟨h.1, h.2⟩, fun h => ⟨h.load, h.locate⟩⟩

theorem IsReadable.record_eq {files : FileSystem} {path : Path} {jar : Jar}
    (h : jar.IsReadable files path) {entry : Zip.Entry} (hmem : entry ∈ jar.entries) :
    (jar.record files entry).1 = .ok (if entry.isDirectory then none else some entry.member) :=
  record_eq_ok_iff.2 ⟨h.locate entry hmem, rfl⟩

end Jar

/-- The classes of a snapshot, judged in order up to the first one that does not pass. -/
def Stateless.weighAll (files : FileSystem) (unit : ArchiveUnit) (compare : Comparator ω)
    (after : Jar) : List Member → ω → Option Judgement × ω
  | [], w => (none, w)
  | member :: others, w =>
    match weighMember files unit compare member (after.member files member.name).1 w with
    | (judgement, w) =>
      if Judgement.passes judgement then weighAll files unit compare after others w
      else (some judgement, w)

namespace ArchiveUnit

section Scan

variable {files : FileSystem} {unit : ArchiveUnit} {snapshot : Path} {before : Jar}

theorem memberAt_on {index : Nat} {entry : Zip.Entry} (hbefore : before.IsReadable files snapshot)
    (hentry : before.entries[index]? = some entry) (w : ω) :
    Act.on ((ArchiveAccess.jars ω).memberAt before index) files w =
      (.ok (if entry.isDirectory then none else some entry.member), w) := by
  have hmember : (before.memberAt files index).1 = (before.record files entry).1 := by
    unfold Jar.memberAt
    rw [hentry]
  rw [← hbefore.record_eq (List.mem_of_getElem? hentry), ← hmember]
  rfl

theorem acquire_on {path : Path} {jar : Jar} (hload : Jar.load files path = .ok jar) (w : ω) :
    Act.on ((ArchiveAccess.jars ω).acquire path) files w = (.ok jar, w) := by
  unfold ArchiveAccess.jars Jar.acquire
  simp only [Act.on_inquiry, Inquiry.on_bind, Inquiry.on_files, hload, Inquiry.on_pure]

variable (compare : Comparator ω) (after : Jar)

theorem settle_class_on {contexts : Contexts} (h : contexts.Serve files unit) {member : Member}
    (hclass : member.isClass = true) (w : ω) :
    let judged :=
      Stateless.weighMember files unit compare member (after.member files member.name).1 w
    AnswersWith files unit
      (Walk.on (unit.settle ⟨.jars ω, compare⟩ after (.ok member)) files contexts w)
      (if Judgement.passes judged.1 then none else some judged.1, judged.2) :=
  settle_on (judge_on ⟨.jars ω, compare⟩ h after hclass w)

theorem settle_other_on {member : Member} (hclass : ¬ member.isClass = true) (contexts : Contexts)
    (w : ω) :
    Walk.on (unit.settle ⟨.jars ω, compare⟩ after (.ok member)) files contexts w =
      ((none, contexts), w) := by
  unfold settle
  simp only [Walk.on_bind, judge_on_of_not_isClass _ after hclass, Walk.on_pure]

theorem visit_range_on (hbefore : before.IsReadable files snapshot) :
    ∀ (rest : List Zip.Entry) (start : Nat), before.entries.drop start = rest →
      ∀ {contexts : Contexts}, contexts.Serve files unit → ∀ w : ω,
        AnswersWith files unit
          (Walk.on ((ArchiveAccess.jars ω).visit before (unit.settle ⟨.jars ω, compare⟩ after)
            (List.range' start rest.length)) files contexts w)
          (Stateless.weighAll files unit compare after
            ((rest.filter Zip.Entry.isClass).map Zip.Entry.member) w) := by
  intro rest
  induction rest with
  | nil =>
    intro start _ contexts h w
    exact ⟨contexts, h, rfl⟩
  | cons entry rest ih =>
    intro start hdrop contexts h w
    -- The contexts that an entry leaves are others than it found, but serve as well.
    have hentry : before.entries[start]? = some entry := by
      rw [← List.head?_drop, hdrop]
      rfl
    have hrest : before.entries.drop (start + 1) = rest := by
      rw [← List.tail_drop, hdrop]
      rfl
    rw [List.length_cons, List.range'_succ, ArchiveAccess.visit_cons, Walk.on_bind, Walk.on_act,
      memberAt_on hbefore hentry]
    by_cases hclass : entry.isClass = true
    · have hfile : entry.isDirectory = false :=
        Bool.eq_false_iff.2 fun h => Zip.Entry.not_isClass_of_isDirectory h hclass
      have hmember : entry.member.isClass = true := hclass
      obtain ⟨kept, hkept, hsettle⟩ := settle_class_on compare after h hmember w
      rw [List.filter_cons_of_pos hclass, List.map_cons, Stateless.weighAll]
      simp only [hfile, Bool.false_eq_true, ↓reduceIte, ArchiveAccess.shown?, Option.map_some]
      rw [Walk.on_bind, hsettle]
      obtain ⟨judgement, w⟩ := Stateless.weighMember files unit compare entry.member _ w
      by_cases hpasses : Judgement.passes judgement = true
      · simp only [hpasses, ↓reduceIte]
        exact ih (start + 1) hrest hkept w
      · simp only [hpasses, Bool.false_eq_true, ↓reduceIte]
        exact ⟨kept, hkept, rfl⟩
    · have hmember : ¬ entry.member.isClass = true := hclass
      rw [List.filter_cons_of_neg hclass]
      cases hfile : entry.isDirectory with
      | true => exact ih (start + 1) hrest h w
      | false =>
        simp only [Bool.false_eq_true, ↓reduceIte, ArchiveAccess.shown?, Option.map_some]
        rw [Walk.on_bind, settle_other_on compare after hmember]
        exact ih (start + 1) hrest h w

theorem compareReaders_jars_on (hbefore : before.IsReadable files snapshot) {contexts : Contexts}
    (h : contexts.Serve files unit) (w : ω) :
    let settled := Stateless.weighAll files unit compare after
      ((before.entries.filter Zip.Entry.isClass).map Zip.Entry.member) w
    AnswersWith files unit
      (Walk.on (unit.compareReaders ⟨.jars ω, compare⟩ before after) files contexts w)
      (settled.1.getD (.ok .incremental), settled.2) := by
  obtain ⟨kept, hkept, hvisit⟩ := visit_range_on compare after hbefore before.entries 0 rfl h w
  have hindices : (ArchiveAccess.jars ω).indices before = List.range' 0 before.entries.length :=
    List.range_eq_range'
  refine ⟨kept, hkept, ?_⟩
  unfold compareReaders
  simp only [hindices, Walk.on_bind, Walk.on_say, hvisit, Walk.on_get, Walk.on_pure]

theorem run_jars_on (hsnapshot : unit.snapshot = some snapshot)
    (hbefore : before.IsReadable files snapshot) (hafter : Jar.load files unit.archive = .ok after)
    (w : ω) :
    let settled := Stateless.weighAll files unit compare after
      ((before.entries.filter Zip.Entry.isClass).map Zip.Entry.member) w
    Act.on (unit.run ⟨.jars ω, compare⟩) files w =
      (settled.1.getD (.ok .incremental), settled.2) := by
  have hexists : files.doesExist snapshot = true := by
    rw [FileSystem.doesExist_eq_isSome, (Jar.load_eq_ok_iff.1 hbefore.load).2.1]
    rfl
  rw [run_on_of_exists _ w hsnapshot hexists]
  exact compareWith_on_of_readers ⟨.jars ω, compare⟩ (acquire_on hbefore.load w)
    (acquire_on hafter w) fun _ hserve => compareReaders_jars_on compare after hbefore hserve w

end Scan

end ArchiveUnit

/-! ## Two disks with the same classes -/

namespace Jar

variable {first second : FileSystem} {path other : Path} {before after : Jar} {name : String}

theorem held?_eq_of_isClass (files : FileSystem) (jar : Jar)
    (hclass : EntryName.isClass name = true) :
    jar.held? files name = (jar.classes files).find? fun held => held.name == name := by
  unfold held? classes Zip.Archive.find? archive
  rw [List.find?_map, List.find?_filter]
  congr 2
  funext entry
  simp only [Function.comp_apply, held, Zip.Entry.isClass]
  by_cases hname : entry.name = name
  · simp [hname, hclass]
  · simp [hname]

theorem isClass_of_mem_classes {files : FileSystem} {jar : Jar} {held : HeldEntry}
    (h : held ∈ jar.classes files) : EntryName.isClass held.name = true := by
  obtain ⟨entry, hentry, rfl⟩ := List.mem_map.1 h
  exact (List.mem_filter.1 hentry).2

theorem IsReadable.member_eq (hbefore : before.IsReadable first path)
    (hafter : after.IsReadable second other)
    (hheld : before.held? first name = after.held? second name) :
    (before.member first name).1 = (after.member second name).1 := by
  unfold held? at hheld
  unfold member
  cases hfind : (before.archive first).find? name with
  | none =>
    rw [hfind, Option.map_none, eq_comm, Option.map_eq_none_iff] at hheld
    rw [hheld]
  | some entry =>
    rw [hfind, Option.map_some, eq_comm, Option.map_eq_some_iff] at hheld
    obtain ⟨entry', hfind', hheld⟩ := hheld
    obtain ⟨hname, hchecksum, -⟩ := HeldEntry.mk.inj hheld
    simp only [hfind', hbefore.record_eq (List.mem_of_find?_eq_some hfind),
      hafter.record_eq (List.mem_of_find?_eq_some hfind')]
    rw [Zip.Entry.isDirectory_eq_of_name_eq hname, Zip.Entry.member, Zip.Entry.member, hname,
      hchecksum]

end Jar

namespace Stateless

variable {first second : FileSystem} {unit : ArchiveUnit} {compare : Comparator ω}

theorem weighClass_eq {qualified : String}
    (hprevious : loadClass first "previous" unit.previous qualified =
      loadClass second "previous" unit.previous qualified)
    (hcurrent : loadClass first "current" unit.current qualified =
      loadClass second "current" unit.current qualified)
    (hcompare : ∀ pair w, Act.on (compare pair) first w = Act.on (compare pair) second w) (w : ω) :
    weighClass first unit compare qualified w = weighClass second unit compare qualified w := by
  unfold weighClass
  simp only [hprevious, hcurrent, hcompare]

theorem weighAll_eq {after after' : Jar} {members : List Member}
    (h : ∀ member ∈ members, ∀ w : ω,
      weighMember first unit compare member (after.member first member.name).1 w =
        weighMember second unit compare member (after'.member second member.name).1 w) (w : ω) :
    weighAll first unit compare after members w =
      weighAll second unit compare after' members w := by
  induction members generalizing w with
  | nil => rfl
  | cons member others ih =>
    obtain ⟨hmember, hothers⟩ := List.forall_mem_cons.1 h
    unfold weighAll
    simp only [hmember, ih hothers]

end Stateless

/-- Judges a pair by what it has in mind, and notes that it was asked. -/
def Comparator.noting (judge : ClassPair → ω → Except String Verdict × ω) :
    Comparator (List ClassPair × ω) := fun pair => do
  let (calls, w) ← get
  let (answer, w) := judge pair w
  set (calls ++ [pair], w)
  return answer

theorem Jar.map_classes (files : FileSystem) (jar : Jar) :
    (jar.entries.filter Zip.Entry.isClass).map Zip.Entry.member =
      (jar.classes files).map fun held => ⟨held.name, held.checksum⟩ := by
  unfold Jar.classes
  rw [List.map_map]
  rfl

namespace ArchiveUnit

/-- Two disks differ at most in the archive and its snapshot. Both can be read on both disks, the
snapshot has the same classes, none of them with a dot in its name, and under their names the
archive holds the same. -/
structure HasSameClasses (unit : ArchiveUnit) (snapshot : Path) (first second : FileSystem)
    (before before' after after' : Jar) : Prop where
  files : FileSystem.DiffersOnlyAt [snapshot, unit.archive] first second
  reads_before : before.IsReadable first snapshot
  reads_before' : before'.IsReadable second snapshot
  reads_after : after.IsReadable first unit.archive
  reads_after' : after'.IsReadable second unit.archive
  classes : before.classes first = before'.classes second
  undotted : ∀ held ∈ before.classes first, ¬ EntryName.IsDotted held.name
  counterparts : ∀ held ∈ before.classes first,
    after.held? first held.name = after'.held? second held.name

/-- No class directory of either side has the archive or its snapshot in the place of a class of the
snapshot. -/
def IsApart (unit : ArchiveUnit) (snapshot : Path) (files : FileSystem)
    (classes : List HeldEntry) : Prop :=
  ∀ directory ∈ unit.previous.paths ++ unit.current.paths, files.isDirectory directory = true →
    ∀ held ∈ classes, ∀ path ∈ [snapshot, unit.archive],
      ¬ files.IsSameFile (directory.join (.ofString held.name)) path

instance (unit : ArchiveUnit) (snapshot : Path) (files : FileSystem) (classes : List HeldEntry) :
    Decidable (unit.IsApart snapshot files classes) :=
  inferInstanceAs (Decidable (∀ directory ∈ unit.previous.paths ++ unit.current.paths, _ → _))

section SameClasses

variable {unit : ArchiveUnit} {snapshot : Path} {first second : FileSystem}
  {before before' after after' : Jar}

theorem HasSameClasses.holdsAlike
    (h : unit.HasSameClasses snapshot first second before before' after after')
    {held : HeldEntry} (hheld : held ∈ before.classes first) :
    ∀ path ∈ [snapshot, unit.archive], Jar.HoldsAlike first second held.name path := by
  have hclass := Jar.isClass_of_mem_classes hheld
  rw [List.forall_mem_cons, List.forall_mem_singleton]
  refine ⟨⟨before, before', h.reads_before.load, h.reads_before'.load, ?_⟩,
    ⟨after, after', h.reads_after.load, h.reads_after'.load, h.counterparts held hheld⟩⟩
  rw [Jar.held?_eq_of_isClass first before hclass, Jar.held?_eq_of_isClass second before' hclass,
    h.classes]

theorem HasSameClasses.loadClass_eq
    (h : unit.HasSameClasses snapshot first second before before' after after')
    (hapart : unit.IsApart snapshot first (before.classes first)) {held : HeldEntry}
    (hheld : held ∈ before.classes first) {qualified : String}
    (hname : EntryName.ofQualified qualified = held.name) {resources : ResourceSet}
    (hside : ∀ path ∈ resources.paths, path ∈ unit.previous.paths ++ unit.current.paths)
    (label : String) :
    Stateless.loadClass first label resources qualified =
      Stateless.loadClass second label resources qualified := by
  refine h.files.loadClass_eq (hname.symm ▸ h.holdsAlike hheld) ?_ label
  intro directory hmem hdirectory
  rw [hname]
  exact hapart directory (hside directory hmem) hdirectory held hheld

theorem HasSameClasses.weighMember_eq
    (h : unit.HasSameClasses snapshot first second before before' after after')
    (hapart : unit.IsApart snapshot first (before.classes first)) {compare : Comparator ω}
    (hcompare : ∀ pair w, Act.on (compare pair) first w = Act.on (compare pair) second w)
    {held : HeldEntry} (hheld : held ∈ before.classes first) (w : ω) :
    Stateless.weighMember first unit compare ⟨held.name, held.checksum⟩
        (after.member first held.name).1 w =
      Stateless.weighMember second unit compare ⟨held.name, held.checksum⟩
        (after'.member second held.name).1 w := by
  rw [← h.reads_after.member_eq h.reads_after' (h.counterparts held hheld)]
  unfold Stateless.weighMember
  cases hqualified : Member.qualified? ⟨held.name, held.checksum⟩ with
  | none => rfl
  | some qualified =>
    rcases (after.member first held.name).1 with error | (_ | counterpart)
    · rfl
    · rfl
    · simp only
      split
      · rfl
      cases hcause : nameCause? ⟨held.name, held.checksum⟩ with
      | some cause => rfl
      | none =>
        -- Only a class that a lookup reads under its own name gets as far as the contexts.
        have hreached : EntryName.IsReached held.name :=
          (EntryName.isReached_iff _).2
            ⟨((nameCause?_eq_none_iff _).1 hcause).2, h.undotted held hheld⟩
        have hname : EntryName.ofQualified qualified = held.name :=
          hreached.ofQualified_eq hqualified
        exact Stateless.weighClass_eq
          (h.loadClass_eq hapart hheld hname (fun _ => List.mem_append_left _) "previous")
          (h.loadClass_eq hapart hheld hname (fun _ => List.mem_append_right _) "current")
          hcompare w

theorem HasSameClasses.run_eq
    (h : unit.HasSameClasses snapshot first second before before' after after')
    (hapart : unit.IsApart snapshot first (before.classes first))
    (hsnapshot : unit.snapshot = some snapshot) {compare : Comparator ω}
    (hcompare : ∀ pair w, Act.on (compare pair) first w = Act.on (compare pair) second w) (w : ω) :
    Act.on (unit.run ⟨.jars ω, compare⟩) first w =
      Act.on (unit.run ⟨.jars ω, compare⟩) second w := by
  have hmembers : ∀ member ∈ (before.classes first).map fun held => ⟨held.name, held.checksum⟩,
      ∀ w : ω,
        Stateless.weighMember first unit compare member (after.member first member.name).1 w =
          Stateless.weighMember second unit compare member
            (after'.member second member.name).1 w := by
    intro member hmember w
    obtain ⟨held, hheld, rfl⟩ := List.mem_map.1 hmember
    exact h.weighMember_eq hapart hcompare hheld w
  rw [run_jars_on compare after hsnapshot h.reads_before h.reads_after.load,
    run_jars_on compare after' hsnapshot h.reads_before' h.reads_after'.load,
    Jar.map_classes first before, Jar.map_classes second before', ← h.classes,
    Stateless.weighAll_eq hmembers]

theorem analyze_on_congr {bench : Workbench ω ρ} {w : ω} (hfresh : unit.verdict = none)
    (hrun : Act.on (unit.run bench) first w = Act.on (unit.run bench) second w) :
    Act.on (unit.analyze bench) first w = Act.on (unit.analyze bench) second w := by
  unfold analyze
  simp only [hfresh, Act.on_bind, hrun]
  obtain ⟨judgement, w⟩ := Act.on (unit.run bench) second w
  rcases judgement with error | (_ | cause)
  · rfl
  · rfl
  · simp only [Verdict.cause?, Act.on_bind, Act.on_inquiry, Act.on_pure]

/-- A fresh unit comes to the same verdict on two disks with the same classes, and asks its
comparator for the same pairs in the same order, as long as no class directory has one of the two
archives in the place of a class. -/
theorem analyze_eq_of_same_classes (hfresh : unit.verdict = none)
    (hsnapshot : unit.snapshot = some snapshot)
    (hsame : unit.HasSameClasses snapshot first second before before' after after')
    (hapart : unit.IsApart snapshot first (before.classes first))
    (judge : ClassPair → ω → Except String Verdict × ω) (world : List ClassPair × ω) :
    Act.on (unit.analyze ⟨.jars _, .noting judge⟩) first world =
      Act.on (unit.analyze ⟨.jars _, .noting judge⟩) second world :=
  analyze_on_congr hfresh (hsame.run_eq hapart hsnapshot (fun _ _ => rfl) world)

end SameClasses

end ArchiveUnit

/-! ## Two runs -/

/-- The archive of one class with another class in it. -/
def otherClassArchive : ByteArray :=
  ⟨#[0x50, 0x4B, 3, 4, 20, 0, 0, 0, 0, 0, 0, 0, 0, 0, 0x8D, 0xEF, 2, 0xD2, 1, 0, 0, 0, 1, 0, 0, 0,
    7, 0, 0, 0, 0x41, 0x2E, 0x63, 0x6C, 0x61, 0x73, 0x73, 0, 0x50, 0x4B, 1, 2, 20, 0, 20, 0, 0, 0,
    0, 0, 0, 0, 0, 0, 0x8D, 0xEF, 2, 0xD2, 1, 0, 0, 0, 1, 0, 0, 0, 7, 0, 0, 0, 0, 0, 0, 0, 0, 0, 0,
    0, 0, 0, 0, 0, 0, 0, 0x41, 0x2E, 0x63, 0x6C, 0x61, 0x73, 0x73, 0x50, 0x4B, 5, 6, 0, 0, 0, 0, 1,
    0, 1, 0, 0x35, 0, 0, 0, 0x26, 0, 0, 0, 0, 0]⟩

/-- The archive of one class, and another class in front of it. -/
def twoClassArchive : ByteArray :=
  ⟨#[0x50, 0x4B, 3, 4, 20, 0, 0, 0, 0, 0, 0, 0, 0, 0, 0x8D, 0xEF, 2, 0xD2, 1, 0, 0, 0, 1, 0, 0, 0,
    7, 0, 0, 0, 0x42, 0x2E, 0x63, 0x6C, 0x61, 0x73, 0x73, 0, 0x50, 0x4B, 3, 4, 20, 0, 0, 0, 0, 0, 0,
    0, 0, 0, 0, 0, 0, 0, 0, 0, 0, 0, 0, 0, 0, 0, 7, 0, 0, 0, 0x41, 0x2E, 0x63, 0x6C, 0x61, 0x73,
    0x73, 0x50, 0x4B, 1, 2, 20, 0, 20, 0, 0, 0, 0, 0, 0, 0, 0, 0, 0x8D, 0xEF, 2, 0xD2, 1, 0, 0, 0,
    1, 0, 0, 0, 7, 0, 0, 0, 0, 0, 0, 0, 0, 0, 0, 0, 0, 0, 0, 0, 0, 0, 0x42, 0x2E, 0x63, 0x6C, 0x61,
    0x73, 0x73, 0x50, 0x4B, 1, 2, 20, 0, 20, 0, 0, 0, 0, 0, 0, 0, 0, 0, 0, 0, 0, 0, 0, 0, 0, 0, 0,
    0, 0, 0, 7, 0, 0, 0, 0, 0, 0, 0, 0, 0, 0, 0, 0, 0, 0x26, 0, 0, 0, 0x41, 0x2E, 0x63, 0x6C, 0x61,
    0x73, 0x73, 0x50, 0x4B, 5, 6, 0, 0, 0, 0, 2, 0, 2, 0, 0x6A, 0, 0, 0, 0x4B, 0, 0, 0, 0, 0]⟩

/-- The class `A` with these bytes in an attribute that nobody knows. -/
def classAround (bytes : ByteArray) : ByteArray :=
  ⟨#[0xCA, 0xFE, 0xBA, 0xBE, 0, 0, 0, 0x41, 0, 3, 1, 0, 1, 0x41, 7, 0, 1, 0, 0x21, 0, 2, 0, 0, 0, 0,
    0, 0, 0, 0, 0, 1, 0, 1, 0, 0, 0, UInt8.ofNat bytes.size]⟩ ++ bytes

def listedClass (checksum : UInt32) (size offset : Nat) : Zip.Entry where
  name := "A.class"
  nameBytes := ⟨#[0x41, 0x2E, 0x63, 0x6C, 0x61, 0x73, 0x73]⟩
  comment := ""
  isEncrypted := false
  method := 0
  checksum
  size
  compressedSize := size
  headerOffset := offset

/-- Takes each change for unsafe and notes that it was asked. -/
def Comparator.wary : Comparator (List ClassPair × Unit) :=
  .noting fun _ () => (.ok (.fullRebuild "changed"), ())

namespace Misplaced

/-! An archive in a class directory of the current side, in the place of the class `A`. -/

def archive : Path := .ofString "x/A.class"

def snapshot : Path := .ofString "prev/1427518309-A.class"

def unit : ArchiveUnit where
  previous := ⟨[.ofString "old", snapshot]⟩
  current := ⟨[.ofString "x"]⟩
  archive := archive
  snapshot := some snapshot

/-- The archive is no class. -/
def disk : FileSystem :=
  (((FileSystem.empty []).writeFile (.ofString "old/A.class") (classAround .empty)).writeFile
    snapshot otherClassArchive).writeFile archive oneClassArchive

/-- The archive is a class that holds what it was in an attribute. -/
def diskAfter : FileSystem := disk.putFile (disk.placeOf archive) (classAround oneClassArchive)

/-- As an archive it has not changed, and still the verdict is another one. -/
theorem misplaced_archive_counts :
    unit.HasSameClasses snapshot disk diskAfter
        ⟨snapshot, 1, [listedClass 0xD202EF8D 1 0]⟩ ⟨snapshot, 1, [listedClass 0xD202EF8D 1 0]⟩
        ⟨archive, 2, [listedClass 0 0 0]⟩ ⟨archive, 2, [listedClass 0 0 37]⟩ ∧
      (Act.on (unit.analyze ⟨.jars _, .wary⟩) disk ([], ())).1.1 =
        .error (.classpath (.classFile "A" (.ofString "x") (.wrongMagic 0x504B0304))) ∧
      (Act.on (unit.analyze ⟨.jars _, .wary⟩) diskAfter ([], ())).1.1 =
        .ok (.fullRebuild "changed") := by
  have hlookup : disk.lookup? archive = some (.file 2) := by decide +kernel
  have hfiles : FileSystem.DiffersOnlyAt [snapshot, archive] disk diskAfter :=
    FileSystem.differsOnlyAt_putFile (by simp) hlookup (by decide +kernel) _
  refine ⟨⟨hfiles, ?_, ?_, ?_, ?_, ?_, ?_, ?_⟩, ?_, ?_⟩
  all_goals decide +kernel

end Misplaced

namespace Grown

/-! An archive that gets another class, with the definitions of `A` in class directories. -/

def archive : Path := .ofString "/app.jar"

def snapshot : Path := .ofString "/488532946-app.jar"

def unit : ArchiveUnit where
  previous := ⟨[.ofString "/old", snapshot]⟩
  current := ⟨[.ofString "/new", archive]⟩
  archive := archive
  snapshot := some snapshot

def disk : FileSystem :=
  ((((FileSystem.empty []).writeFile (.ofString "/old/A.class") (classAround .empty)).writeFile
    (.ofString "/new/A.class") (classAround .empty)).writeFile snapshot otherClassArchive).writeFile
      archive oneClassArchive

def diskAfter : FileSystem := disk.putFile (disk.placeOf archive) twoClassArchive

theorem added_class_changes_nothing :
    Act.on (unit.analyze ⟨.jars _, .wary⟩) disk ([], ()) =
        Act.on (unit.analyze ⟨.jars _, .wary⟩) diskAfter ([], ()) ∧
      (Act.on (unit.analyze ⟨.jars _, .wary⟩) disk ([], ())).1.1 =
        .ok (.fullRebuild "changed") := by
  have hlookup : disk.lookup? archive = some (.file 3) := by decide +kernel
  have hfiles : FileSystem.DiffersOnlyAt [snapshot, archive] disk diskAfter :=
    FileSystem.differsOnlyAt_putFile (by simp) hlookup (by decide +kernel) _
  have hsame : unit.HasSameClasses snapshot disk diskAfter
      ⟨snapshot, 2, [listedClass 0xD202EF8D 1 0]⟩ ⟨snapshot, 2, [listedClass 0xD202EF8D 1 0]⟩
      ⟨archive, 3, [listedClass 0 0 0]⟩
      ⟨archive, 3, [{ listedClass 0xD202EF8D 1 0 with
        name := "B.class", nameBytes := ⟨#[0x42, 0x2E, 0x63, 0x6C, 0x61, 0x73, 0x73]⟩ },
        listedClass 0 0 38]⟩ := by
    refine ⟨hfiles, ?_, ?_, ?_, ?_, ?_, ?_, ?_⟩
    all_goals decide +kernel
  refine ⟨ArchiveUnit.analyze_eq_of_same_classes rfl rfl hsame ?_ _ _, by decide +kernel⟩
  decide +kernel

end Grown

end Rebuild
