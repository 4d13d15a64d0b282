import Rebuild.Command.Run
import Rebuild.Proofs.SteadyAnswers

/-!
# When an archive is up to date

An archive is judged safe exactly if it has each class of its snapshot as it was. What else lies on
the classpath has no say in that: a class that changed is never judged safe, whatever loading it
comes to.
-/

namespace Rebuild

variable {files : FileSystem} {paths : List Path}

/-! ## Snapshots that are kept -/

namespace Jar

/-- The header in front of the entry's data is in order. -/
def CanLocate (files : FileSystem) (jar : Jar) (entry : Zip.Entry) : Prop :=
  ∃ start, (jar.archive files).dataOffset entry = .ok start

instance (files : FileSystem) (jar : Jar) (entry : Zip.Entry) :
    Decidable (jar.CanLocate files entry) :=
  match h : (jar.archive files).dataOffset entry with
  | .ok start => isTrue ⟨start, h⟩
  | .error _ => isFalse fun ⟨_, hstart⟩ => nomatch h.symm.trans hstart

/-- Each entry of the snapshot can be read, and each class of it is in the archive as it was. -/
structure IsKeptBy (files : FileSystem) (before after : Jar) : Prop where
  readable : ∀ entry ∈ before.entries, before.CanLocate files entry
  unchanged : ∀ entry ∈ before.entries, entry.isDirectory = false →
    (EntryName.qualified? entry.name).isSome = true →
      ∃ other, (after.archive files).find? entry.name = some other ∧
        after.CanLocate files other ∧ other.checksum = entry.checksum

theorem record_eq_ok_iff {jar : Jar} {entry : Zip.Entry} {item : Option Member} :
    (jar.record files entry).1 = .ok item ↔ jar.CanLocate files entry ∧
      item = if entry.isDirectory then none else some ⟨entry.name, entry.checksum⟩ := by
  unfold record withData CanLocate
  cases (jar.archive files).dataOffset entry with
  | error fault => exact ⟨nofun, fun h => nomatch h.1⟩
  | ok start =>
    constructor
    · intro h
      exact ⟨⟨start, rfl⟩, (Except.ok.inj h).symm⟩
    · rintro ⟨-, rfl⟩
      rfl

theorem exists_entry_of_memberAt {jar : Jar} {index : Nat} {member : Member}
    (h : (jar.memberAt files index).1 = .ok (some member)) :
    ∃ entry ∈ jar.entries, entry.name = member.name := by
  unfold memberAt at h
  cases hentry : jar.entries[index]? with
  | none =>
    rw [hentry] at h
    exact nomatch h
  | some entry =>
    rw [hentry] at h
    obtain ⟨-, hitem⟩ := record_eq_ok_iff.1 h
    refine ⟨entry, List.mem_of_getElem? hentry, ?_⟩
    split at hitem
    · exact nomatch hitem
    · rw [Option.some.inj hitem]

theorem member_eq_ok_some_iff {jar : Jar} {name : String} {found : Member} :
    (jar.member files name).1 = .ok (some found) ↔ ∃ entry,
      (jar.archive files).find? name = some entry ∧ jar.CanLocate files entry ∧
        entry.isDirectory = false ∧ found = ⟨entry.name, entry.checksum⟩ := by
  unfold member
  cases hfind : (jar.archive files).find? name with
  | none => exact ⟨nofun, fun ⟨_, h, _⟩ => nomatch h⟩
  | some entry =>
    simp only [record_eq_ok_iff, Option.some.injEq, exists_eq_left']
    cases entry.isDirectory <;> simp

end Jar

def Member.IsKept (files : FileSystem) (after : Jar) (member : Member) : Prop :=
  member.qualified?.isSome = true →
    ∃ other, (after.member files member.name).1 = .ok (some other) ∧
      other.checksum = member.checksum

/-- An entry of the snapshot does not stop the comparison. -/
def Jar.Passes (files : FileSystem) (before after : Jar) (index : Nat) : Prop :=
  ∃ item, (before.memberAt files index).1 = .ok item ∧
    ∀ member, item = some member → member.IsKept files after

namespace ArchiveAccess

def shown? : Except ArchiveError (Option Member) → Option Item
  | .ok member => member.map .ok
  | .error error => some (.error error)

theorem eq_of_shown?_eq_ok {entry : Except ArchiveError (Option Member)} {member : Member}
    (h : shown? entry = some (.ok member)) : entry = .ok (some member) := by
  rcases entry with error | (_ | found)
  · exact nomatch h
  · exact nomatch h
  · rw [Except.ok.inj (Option.some.inj h)]

theorem visit_cons {ω ρ σ β : Type} (access : ArchiveAccess ω ρ) (reader : ρ)
    (visitor : Item → StateT σ (Act ω) (Option β)) (index : Nat) (indices : List Nat) :
    access.visit reader visitor (index :: indices) = (do
      match shown? (← (access.memberAt reader index : Act ω _)) with
      | none => access.visit reader visitor indices
      | some item =>
        match ← visitor item with
        | some answer => return some answer
        | none => access.visit reader visitor indices) := by
  rw [visit]
  refine bind_congr fun entry => ?_
  rcases entry with error | (_ | member) <;> rfl

end ArchiveAccess

theorem Jar.passes_iff_shown {before after : Jar} {index : Nat} :
    before.Passes files after index ↔
      ∀ item, ArchiveAccess.shown? (before.memberAt files index).1 = some item →
        ∃ member, item = .ok member ∧ member.IsKept files after := by
  unfold Passes
  rcases (before.memberAt files index).1 with error | (_ | member) <;>
    simp [ArchiveAccess.shown?]

theorem Zip.Entry.isDirectory_eq_of_name_eq {a b : Zip.Entry} (h : a.name = b.name) :
    a.isDirectory = b.isDirectory := by
  unfold isDirectory
  rw [h]

theorem Member.isKept_iff {after : Jar} {entry : Zip.Entry} (hfile : entry.isDirectory = false) :
    Member.IsKept files after ⟨entry.name, entry.checksum⟩ ↔
      ((EntryName.qualified? entry.name).isSome = true →
        ∃ other, (after.archive files).find? entry.name = some other ∧
          after.CanLocate files other ∧ other.checksum = entry.checksum) := by
  refine forall_congr' fun _ => ?_
  constructor
  · rintro ⟨found, hfound, hchecksum⟩
    obtain ⟨other, hfind, hlocate, -, rfl⟩ := Jar.member_eq_ok_some_iff.1 hfound
    exact ⟨other, hfind, hlocate, hchecksum⟩
  · rintro ⟨other, hfind, hlocate, hchecksum⟩
    have hname : other.name = entry.name :=
      beq_iff_eq.1 (List.find?_some (p := fun other : Zip.Entry => other.name == entry.name) hfind)
    have hother := (Zip.Entry.isDirectory_eq_of_name_eq hname).trans hfile
    exact ⟨⟨other.name, other.checksum⟩,
      Jar.member_eq_ok_some_iff.2 ⟨other, hfind, hlocate, hother, rfl⟩, hchecksum⟩

theorem Jar.passes_iff {before after : Jar} {index : Nat} {entry : Zip.Entry}
    (hentry : before.entries[index]? = some entry) :
    before.Passes files after index ↔ before.CanLocate files entry ∧
      (entry.isDirectory = false → Member.IsKept files after ⟨entry.name, entry.checksum⟩) := by
  unfold Passes memberAt
  simp only [hentry, record_eq_ok_iff]
  constructor
  · rintro ⟨item, ⟨hlocate, rfl⟩, hkept⟩
    exact ⟨hlocate, fun hfile => hkept _ (by rw [hfile]; rfl)⟩
  · rintro ⟨hlocate, hkept⟩
    refine ⟨_, ⟨hlocate, rfl⟩, ?_⟩
    intro member hmember
    cases hdirectory : entry.isDirectory with
    | true => simp [hdirectory] at hmember
    | false =>
      simp only [hdirectory, Bool.false_eq_true, ↓reduceIte, Option.some.injEq] at hmember
      exact hmember ▸ hkept hdirectory

theorem Jar.isKeptBy_iff {before after : Jar} :
    before.IsKeptBy files after ↔
      ∀ index ∈ List.range before.entryCount, before.Passes files after index := by
  constructor
  · rintro ⟨hreadable, hunchanged⟩ index hindex
    have hlt : index < before.entries.length := List.mem_range.1 hindex
    have hmem := List.getElem_mem hlt
    refine (passes_iff (List.getElem?_eq_getElem hlt)).2 ⟨hreadable _ hmem, ?_⟩
    exact fun hfile => (Member.isKept_iff hfile).2 (hunchanged _ hmem hfile)
  · intro hpasses
    have hentry : ∀ entry ∈ before.entries, before.CanLocate files entry ∧
        (entry.isDirectory = false → Member.IsKept files after ⟨entry.name, entry.checksum⟩) := by
      intro entry hmem
      obtain ⟨index, hlt, rfl⟩ := List.getElem_of_mem hmem
      exact (passes_iff (List.getElem?_eq_getElem hlt)).1 (hpasses index (List.mem_range.2 hlt))
    refine ⟨fun entry hmem => (hentry entry hmem).1, fun entry hmem hfile => ?_⟩
    exact (Member.isKept_iff hfile).1 ((hentry entry hmem).2 hfile)

/-! ## One member -/

namespace ArchiveUnit

theorem judgeClass_ensures (qualified : String) :
    Walk.Ensures files paths (judgeClass Command.workbench qualified) fun result =>
      result ≠ .ok .incremental := by
  unfold judgeClass
  refine Walk.Ensures.skip fun previous => ?_
  cases previous with
  | error error => exact Walk.Ensures.pure nofun
  | ok previous =>
    refine Walk.Ensures.skip fun current => ?_
    cases current with
    | error error => exact Walk.Ensures.pure nofun
    | ok current =>
      have hcompare : Walk.Ensures (ω := Unit) files paths
        (Command.workbench.compare ⟨qualified, previous, current⟩ : Act Unit _) fun answer =>
          answer ≠ .ok .incremental := Walk.Ensures.act (Act.Ensures.pure nofun)
      refine hcompare.bind fun answer hanswer => ?_
      cases answer with
      | error message => exact Walk.Ensures.pure nofun
      | ok verdict => exact Walk.Ensures.pure fun h => hanswer (congrArg _ (Except.ok.inj h))

section Archive

variable {unit : ArchiveUnit} {archive : Path} {before after : Jar}

theorem judge_ensures (hmem : archive ∈ paths) (hload : Jar.load files archive = .ok after)
    (member : Member) :
    Walk.Ensures files paths (unit.judge Command.workbench after member) fun result =>
      result = .ok .incremental ↔ member.IsKept files after := by
  unfold judge Member.IsKept
  cases hqualified : member.qualified? with
  | none => exact Walk.Ensures.pure ⟨fun _ => nofun, fun _ => rfl⟩
  | some qualified =>
    simp only [Option.isSome_some, forall_const]
    refine (Walk.Ensures.act (Jar.member_ensures hmem hload member.name)).bind ?_
    intro answer hanswer
    rw [← hanswer]
    cases answer with
    | error error => exact Walk.Ensures.pure ⟨nofun, fun ⟨_, h, _⟩ => nomatch h⟩
    | ok found =>
      cases found with
      | none => exact Walk.Ensures.pure ⟨nofun, fun ⟨_, h, _⟩ => nomatch h⟩
      | some other =>
        simp only [Except.ok.injEq, Option.some.injEq, exists_eq_left']
        by_cases hsame : other.checksum = member.checksum
        · simp only [hsame, ↓reduceIte]
          exact Walk.Ensures.pure ⟨fun _ => trivial, fun _ => rfl⟩
        · simp only [hsame, ↓reduceIte, iff_false]
          refine Walk.Ensures.skip fun _ => ?_
          cases nameCause? member with
          | some cause => exact Walk.Ensures.pure nofun
          | none => exact judgeClass_ensures qualified

/-- The comparison is left open exactly if this holds, and is not settled with a change that is
incremental. -/
def IsOpenIff (holds : Prop) (settled : Option (Except AnalysisError Verdict)) : Prop :=
  (settled = none ↔ holds) ∧ settled ≠ some (.ok .incremental)

theorem settle_ensures (hmem : archive ∈ paths) (hload : Jar.load files archive = .ok after)
    (item : ArchiveAccess.Item) :
    Walk.Ensures files paths (unit.settle Command.workbench after item)
      (IsOpenIff (∃ member, item = .ok member ∧ member.IsKept files after)) := by
  unfold settle
  cases item with
  | error error => exact Walk.Ensures.pure ⟨⟨nofun, fun ⟨_, h, _⟩ => nomatch h⟩, nofun⟩
  | ok member =>
    simp only [Except.ok.injEq, exists_eq_left']
    refine (judge_ensures hmem hload member).bind fun result hresult => ?_
    rw [← hresult]
    rcases result with error | (_ | cause)
    · exact Walk.Ensures.pure ⟨⟨nofun, nofun⟩, nofun⟩
    · exact Walk.Ensures.pure ⟨⟨fun _ => rfl, fun _ => rfl⟩, nofun⟩
    · exact Walk.Ensures.pure ⟨⟨nofun, nofun⟩, nofun⟩

theorem settle_bind_ensures (unit : ArchiveUnit) (item : ArchiveAccess.Item)
    {next : Option (Except AnalysisError Verdict) →
      Walk Unit (Option (Except AnalysisError Verdict))} {others : Prop}
    (hmem : archive ∈ paths) (hload : Jar.load files archive = .ok after)
    (hstop : ∀ answer, next (some answer) = return some answer)
    (hnext : Walk.Ensures files paths (next none) (IsOpenIff others)) :
    Walk.Ensures files paths (unit.settle Command.workbench after item >>= next)
      (IsOpenIff ((∃ member, item = .ok member ∧ member.IsKept files after) ∧ others)) := by
  refine (settle_ensures hmem hload item).bind fun settled hsettled => ?_
  rw [← hsettled.1]
  cases settled with
  | some answer =>
    rw [hstop]
    exact Walk.Ensures.pure ⟨⟨nofun, fun h => nomatch h.1⟩, hsettled.2⟩
  | none =>
    simp only [true_and]
    exact hnext

theorem visit_ensures {snapshot : Path} (hsnapshot : snapshot ∈ paths)
    (hbefore : Jar.load files snapshot = .ok before) (hmem : archive ∈ paths)
    (hafter : Jar.load files archive = .ok after) (indices : List Nat) :
    Walk.Ensures files paths
      (Command.workbench.access.visit before (unit.settle Command.workbench after) indices)
      (IsOpenIff (∀ index ∈ indices, before.Passes files after index)) := by
  -- The contexts need no invariant: whatever they load, a class that changed is not judged safe.
  induction indices with
  | nil => exact Walk.Ensures.pure ⟨⟨fun _ => nofun, fun _ => rfl⟩, nofun⟩
  | cons index indices ih =>
    rw [ArchiveAccess.visit_cons]
    refine (Walk.Ensures.act (Jar.memberAt_ensures hsnapshot hbefore index)).bind ?_
    intro entry hentry
    rw [List.forall_mem_cons, Jar.passes_iff_shown, ← hentry]
    cases ArchiveAccess.shown? entry with
    | none =>
      simp only [reduceCtorEq, false_implies, implies_true, true_and]
      exact ih
    | some item =>
      simp only [Option.some.injEq, forall_eq']
      exact settle_bind_ensures unit item hmem hafter (fun _ => rfl) ih

theorem compareReaders_ensures (unit : ArchiveUnit) {snapshot : Path} (hsnapshot : snapshot ∈ paths)
    (hbefore : Jar.load files snapshot = .ok before) (hmem : archive ∈ paths)
    (hafter : Jar.load files archive = .ok after) :
    Walk.Ensures files paths (unit.compareReaders Command.workbench before after) fun result =>
      result = .ok .incremental ↔ before.IsKeptBy files after := by
  unfold compareReaders
  refine Walk.Ensures.skip fun _ => ?_
  refine (visit_ensures hsnapshot hbefore hmem hafter _).bind fun settled hsettled => ?_
  refine Walk.Ensures.skip fun contexts => Walk.Ensures.skip fun _ => Walk.Ensures.skip fun _ => ?_
  refine Walk.Ensures.pure ?_
  rw [Jar.isKeptBy_iff]
  refine Iff.trans ?_ hsettled.1
  cases settled with
  | none => exact ⟨fun _ => rfl, fun _ => rfl⟩
  | some answer => exact ⟨fun h => absurd (congrArg some h) hsettled.2, nofun⟩

theorem withReader_ensures {use : Jar → Walk Unit (Except AnalysisError Verdict)}
    {holds : Jar → Prop} (hmem : archive ∈ paths)
    (huse : ∀ jar, Jar.load files archive = .ok jar →
      Walk.Ensures files paths (use jar) fun result => result = .ok .incremental ↔ holds jar) :
    Walk.Ensures files paths (Command.workbench.access.withReader archive use) fun result =>
      result = .ok .incremental ↔ ∃ jar, Jar.load files archive = .ok jar ∧ holds jar := by
  unfold ArchiveAccess.withReader
  have hacquire : Act.Ensures files paths (Command.workbench.access.acquire archive) fun result =>
      ∀ jar, result = .ok jar ↔ Jar.load files archive = .ok jar :=
    Act.Ensures.inquiry (Jar.acquire_ensures hmem)
  refine (Walk.Ensures.act hacquire).bind fun opened hopened => ?_
  simp only [← hopened]
  cases opened with
  | error error => exact Walk.Ensures.pure ⟨nofun, fun ⟨_, h, _⟩ => nomatch h⟩
  | ok jar =>
    simp only [Except.ok.injEq, exists_eq_left']
    refine (huse jar ((hopened jar).1 rfl)).bind fun result hresult => ?_
    exact Walk.Ensures.skip fun _ => Walk.Ensures.pure hresult

theorem compareWith_ensures {snapshot : Path} (hsnapshot : snapshot ∈ paths)
    (hmem : unit.archive ∈ paths) :
    Act.Ensures files paths (unit.compareWith Command.workbench snapshot) fun result =>
      result = .ok .incremental ↔ ∃ before, Jar.load files snapshot = .ok before ∧
        ∃ after, Jar.load files unit.archive = .ok after ∧ before.IsKeptBy files after := by
  unfold compareWith
  refine Act.Ensures.skip fun previous => Act.Ensures.skip fun current => ?_
  have hbody := withReader_ensures hsnapshot
    fun before (hbefore : Jar.load files snapshot = .ok before) =>
      withReader_ensures hmem fun after (hafter : Jar.load files unit.archive = .ok after) =>
        compareReaders_ensures unit hsnapshot hbefore hmem hafter
  refine (hbody ⟨previous, current⟩).bind fun answer hanswer => ?_
  exact Act.Ensures.skip fun _ => Act.Ensures.skip fun _ => Act.Ensures.pure hanswer

end Archive

/-! ## One archive -/

/-- The archive has a snapshot on the previous side, both can be opened, each entry of the snapshot
can be read, and the archive has each class of the snapshot as it was. -/
def IsUpToDate (files : FileSystem) (previous : List Path) (archive : Path) : Prop :=
  ∃ name snapshot before after, Baseline.fileName? archive = some name ∧
    previous.find? (fun path => path.fileName? == some (name.toList.map .char)) = some snapshot ∧
      files.doesExist snapshot = true ∧ Jar.load files snapshot = .ok before ∧
        Jar.load files archive = .ok after ∧ before.IsKeptBy files after

section Units

variable {archive : Path}

theorem create_ensures (previous current : ResourceSet) (archive : Path) :
    Inquiry.Ensures files paths (create previous current archive) fun result =>
      result = match Baseline.fileName? archive with
        | none => .error (.invalidArchivePath archive)
        | some name => .ok ⟨previous, current, archive, previous.findByFileName? name, none⟩ := by
  unfold create
  cases Baseline.fileName? archive with
  | none => exact Inquiry.Ensures.pure rfl
  | some name => exact Inquiry.Ensures.skip fun _ => Inquiry.Ensures.pure rfl

theorem run_ensures {unit : ArchiveUnit}
    (hsnapshot : ∀ snapshot, unit.snapshot = some snapshot → snapshot ∈ paths)
    (hmem : unit.archive ∈ paths) :
    Act.Ensures files paths (unit.run Command.workbench) fun result =>
      result = .ok .incremental ↔ ∃ snapshot, unit.snapshot = some snapshot ∧
        files.doesExist snapshot = true ∧ ∃ before, Jar.load files snapshot = .ok before ∧
          ∃ after, Jar.load files unit.archive = .ok after ∧ before.IsKeptBy files after := by
  unfold run
  refine Act.Ensures.bind (Act.Ensures.inquiry Inquiry.Ensures.seen) fun seen hseen => ?_
  cases hunit : unit.snapshot with
  | none =>
    simp only [Option.filter]
    refine Act.Ensures.skip fun _ => Act.Ensures.pure ⟨nofun, ?_⟩
    rintro ⟨_, h, _⟩
    exact nomatch h
  | some snapshot =>
    have hsame := hseen.doesExist_eq (hsnapshot snapshot hunit)
    simp only [Option.filter, ← hsame, Option.some.injEq, exists_eq_left']
    cases files.doesExist snapshot with
    | false =>
      refine Act.Ensures.skip fun _ => Act.Ensures.pure ⟨nofun, ?_⟩
      rintro ⟨h, _⟩
      exact nomatch h
    | true =>
      simp only [true_and]
      exact compareWith_ensures (hsnapshot snapshot hunit) hmem

theorem analyze_ensures {unit : ArchiveUnit} {holds : Prop} (hfresh : unit.verdict = none)
    (hrun : Act.Ensures files paths (unit.run Command.workbench) fun result =>
      result = .ok .incremental ↔ holds) :
    Act.Ensures files paths (unit.analyze Command.workbench) fun answer =>
      answer.1 = .ok .incremental ↔ holds := by
  unfold analyze
  simp only [hfresh]
  refine hrun.bind fun result hresult => ?_
  rcases result with error | (_ | cause)
  · exact Act.Ensures.pure hresult
  · exact Act.Ensures.pure hresult
  · exact Act.Ensures.skip fun _ => Act.Ensures.pure hresult

theorem analyze_created_ensures (previous current : ResourceSet) {name : String}
    (hname : Baseline.fileName? archive = some name)
    (hprevious : ∀ path ∈ previous.paths, path ∈ paths) (hmem : archive ∈ paths) :
    Act.Ensures files paths
      (analyze ⟨previous, current, archive, previous.findByFileName? name, none⟩ Command.workbench)
      fun answer => answer.1 = .ok .incremental ↔ IsUpToDate files previous.paths archive := by
  refine analyze_ensures rfl ((run_ensures ?_ hmem).mono fun result hresult => ?_)
  · intro snapshot hfound
    exact hprevious snapshot (List.mem_of_find?_eq_some hfound)
  · rw [hresult]
    unfold IsUpToDate ResourceSet.findByFileName?
    simp only [hname, Option.some.injEq]
    constructor
    · rintro ⟨snapshot, hfound, hexists, before, hbefore, after, hafter, hkept⟩
      exact ⟨name, snapshot, before, after, rfl, hfound, hexists, hbefore, hafter, hkept⟩
    · rintro ⟨_, snapshot, before, after, rfl, hfound, hexists, hbefore, hafter, hkept⟩
      exact ⟨snapshot, hfound, hexists, before, hbefore, after, hafter, hkept⟩

theorem not_isUpToDate_of_fileName? {previous : List Path}
    (hname : Baseline.fileName? archive = none) : ¬ IsUpToDate files previous archive := by
  rintro ⟨name, _, _, _, h, _⟩
  rw [hname] at h
  exact nomatch h

end Units

end ArchiveUnit

end Rebuild
