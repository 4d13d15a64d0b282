import Rebuild.Proofs.ClassSearch
import Rebuild.Proofs.Evaluation

/-!
# A scan is a row of judgements

The comparison of an archive goes through its snapshot with two contexts, which keep what they load
from member to member. It answers as if every entry was judged by itself, with contexts of its own,
and stops at the first entry that does not pass.
-/

namespace Rebuild

variable {ω ρ : Type}

abbrev Judgement := Except AnalysisError Verdict

def Judgement.passes : Judgement → Bool
  | .ok .incremental => true
  | _ => false

namespace Stateless

/-- The class that a context gives which is made for this one question. -/
def loadClass (files : FileSystem) (label : String) (resources : ResourceSet) (name : String) :
    Except ClasspathError LoadedClass :=
  ((ClassContext.create label resources >>= fun context => context.load name).on files).value.1

/-- A changed class: the previous definition is loaded first, and then the current one. -/
def judgeClass (files : FileSystem) (unit : ArchiveUnit)
    (compare : ClassPair → Except String Verdict) (qualified : String) : Judgement :=
  match loadClass files "previous" unit.previous qualified with
  | .error error => .error (.classpath error)
  | .ok previous =>
    match loadClass files "current" unit.current qualified with
    | .error error => .error (.classpath error)
    | .ok current =>
      match compare ⟨qualified, previous, current⟩ with
      | .error message => .error (.comparator qualified message)
      | .ok verdict => .ok verdict

/-- A member of the snapshot, given what the archive answers for its name. -/
def judgeMember (files : FileSystem) (unit : ArchiveUnit)
    (compare : ClassPair → Except String Verdict) (member : Member)
    (answer : Except ArchiveError (Option Member)) : Judgement :=
  match member.qualified? with
  | none => .ok .incremental
  | some qualified =>
    match answer with
    | .error error => .error (.archive error)
    | .ok none =>
      if EntryName.isVersioned member.name then
        .ok (.fullRebuild ("multi-release member removed: " ++ member.name))
      else .ok (.fullRebuild ("member removed: " ++ qualified))
    | .ok (some counterpart) =>
      if counterpart.checksum = member.checksum then .ok .incremental
      else if EntryName.isVersioned member.name then
        .ok (.fullRebuild ("multi-release member changed: " ++ member.name))
      else if ¬ EntryName.isLoadable member.name then
        .ok (.fullRebuild ("member not loadable by class name: " ++ member.name))
      else judgeClass files unit compare qualified

/-- A changed class, judged by a comparator that may use the world, and the world after it. -/
def weighClass (files : FileSystem) (unit : ArchiveUnit) (compare : Comparator ω)
    (qualified : String) (w : ω) : Judgement × ω :=
  match loadClass files "previous" unit.previous qualified with
  | .error error => (.error (.classpath error), w)
  | .ok previous =>
    match loadClass files "current" unit.current qualified with
    | .error error => (.error (.classpath error), w)
    | .ok current =>
      match Act.on (compare ⟨qualified, previous, current⟩) files w with
      | (.error message, w) => (.error (.comparator qualified message), w)
      | (.ok verdict, w) => (.ok verdict, w)

/-- A member of the snapshot, judged by such a comparator, and the world after it. -/
def weighMember (files : FileSystem) (unit : ArchiveUnit) (compare : Comparator ω)
    (member : Member) (answer : Except ArchiveError (Option Member)) (w : ω) : Judgement × ω :=
  match member.qualified? with
  | none => (.ok .incremental, w)
  | some qualified =>
    match answer with
    | .error error => (.error (.archive error), w)
    | .ok none => (.ok (.fullRebuild (ArchiveUnit.removalCause member qualified)), w)
    | .ok (some counterpart) =>
      if counterpart.checksum = member.checksum then (.ok .incremental, w)
      else
        match ArchiveUnit.nameCause? member with
        | some cause => (.ok (.fullRebuild cause), w)
        | none => weighClass files unit compare qualified w

section Pure

variable (files : FileSystem) (unit : ArchiveUnit) (compare : ClassPair → Except String Verdict)
  (w : ω)

theorem weighClass_pure (qualified : String) :
    weighClass files unit (fun pair => return compare pair) qualified w =
      (judgeClass files unit compare qualified, w) := by
  unfold weighClass judgeClass
  cases loadClass files "previous" unit.previous qualified with
  | error error => rfl
  | ok previous =>
    cases loadClass files "current" unit.current qualified with
    | error error => rfl
    | ok current =>
      simp only [Act.on_pure]
      cases compare ⟨qualified, previous, current⟩ <;> rfl

theorem weighMember_pure (member : Member) (answer : Except ArchiveError (Option Member)) :
    weighMember files unit (fun pair => return compare pair) member answer w =
      (judgeMember files unit compare member answer, w) := by
  unfold weighMember judgeMember
  cases member.qualified? with
  | none => rfl
  | some qualified =>
    rcases answer with error | (_ | counterpart)
    · rfl
    · simp only [ArchiveUnit.removalCause]
      split <;> rfl
    · simp only [ArchiveUnit.nameCause?, weighClass_pure]
      by_cases hsame : counterpart.checksum = member.checksum
      · simp only [hsame, ↓reduceIte]
      · simp only [hsame, ↓reduceIte]
        cases EntryName.isVersioned member.name with
        | true => rfl
        | false => cases EntryName.isLoadable member.name <;> rfl

end Pure

/-- An entry of the snapshot, and the world after it. The archive is asked for classes only. -/
def judgeEntry (files : FileSystem) (unit : ArchiveUnit) (access : ArchiveAccess ω ρ)
    (compare : ClassPair → Except String Verdict) (previous current : ρ) (index : Nat) (w : ω) :
    Judgement × ω :=
  match Act.on (access.memberAt previous index) files w with
  | (.error error, w) => (.error (.archive error), w)
  | (.ok none, w) => (.ok .incremental, w)
  | (.ok (some member), w) =>
    if member.isClass then
      let (answer, w) := Act.on (access.member current member.name) files w
      (judgeMember files unit compare member answer, w)
    else (.ok .incremental, w)

/-- The judgements of entries, each with the world after it. Readers may change with what they are
asked, so each entry finds the world that the one in front of it leaves. -/
def judgements (files : FileSystem) (unit : ArchiveUnit) (access : ArchiveAccess ω ρ)
    (compare : ClassPair → Except String Verdict) (previous current : ρ) :
    List Nat → ω → List (Judgement × ω)
  | [], _ => []
  | index :: indices, w =>
    let judged := judgeEntry files unit access compare previous current index w
    judged :: judgements files unit access compare previous current indices judged.2

/-- The world after the first judgement that does not pass; if all pass, after the last one. -/
def worldAfter (judged : List (Judgement × ω)) (w : ω) : ω :=
  match judged.find? fun judged => !Judgement.passes judged.1 with
  | some found => found.2
  | none => (judged.getLast?.map Prod.snd).getD w

def firstUnsafe? (judged : List (Judgement × ω)) : Option Judgement :=
  (judged.map Prod.fst).find? fun judgement => !Judgement.passes judgement

theorem firstUnsafe?_cons (first : Judgement × ω) (others : List (Judgement × ω)) :
    firstUnsafe? (first :: others) =
      if Judgement.passes first.1 then firstUnsafe? others else some first.1 := by
  unfold firstUnsafe?
  rw [List.map_cons, List.find?_cons]
  cases Judgement.passes first.1 <;> rfl

theorem worldAfter_cons (first : Judgement × ω) (others : List (Judgement × ω)) (w : ω) :
    worldAfter (first :: others) w =
      if Judgement.passes first.1 then worldAfter others first.2 else first.2 := by
  unfold worldAfter
  rw [List.find?_cons]
  cases Judgement.passes first.1 with
  | false => rfl
  | true =>
    simp only [Bool.not_true, ↓reduceIte]
    cases others.find? fun judged => !Judgement.passes judged.1 with
    | some found => rfl
    | none =>
      cases others with
      | nil => rfl
      | cons second others => rw [List.getLast?_cons_cons, List.getLast?_cons]; rfl

end Stateless

/-! ## One member -/

/-- The contexts of both sides answer like contexts that are made anew. -/
structure Contexts.Serve (files : FileSystem) (unit : ArchiveUnit) (contexts : Contexts) :
    Prop where
  previous : ClassContext.SameSearch files "previous"
    (ClasspathEntry.kept files unit.previous.paths) contexts.previous
  current : ClassContext.SameSearch files "current"
    (ClasspathEntry.kept files unit.current.paths) contexts.current

theorem Stateless.loadClass_eq (files : FileSystem) (label : String) (resources : ResourceSet)
    (name : String) :
    loadClass files label resources name =
      ClasspathEntry.findClass files label name (ClasspathEntry.kept files resources.paths) := by
  unfold loadClass
  rw [Inquiry.on_bind]
  exact (ClassContext.load_on (ClassContext.create_on files label resources) name).1

namespace Contexts.Serve

variable {files : FileSystem} {unit : ArchiveUnit} {contexts : Contexts}

theorem loadPrevious (h : contexts.Serve files unit) (name : String) (w : ω) :
    ∃ kept : Contexts, kept.Serve files unit ∧
      Walk.on (Walk.loadPrevious name) files contexts w =
        ((Stateless.loadClass files "previous" unit.previous name, kept), w) := by
  obtain ⟨hfound, hsame⟩ := ClassContext.load_on h.previous name
  refine ⟨⟨((contexts.previous.load name).on files).value.2, contexts.current⟩,
    ⟨hsame, h.current⟩, ?_⟩
  rw [Walk.on_loadPrevious, hfound, Stateless.loadClass_eq]

theorem loadCurrent (h : contexts.Serve files unit) (name : String) (w : ω) :
    ∃ kept : Contexts, kept.Serve files unit ∧
      Walk.on (Walk.loadCurrent name) files contexts w =
        ((Stateless.loadClass files "current" unit.current name, kept), w) := by
  obtain ⟨hfound, hsame⟩ := ClassContext.load_on h.current name
  refine ⟨⟨contexts.previous, ((contexts.current.load name).on files).value.2⟩,
    ⟨h.previous, hsame⟩, ?_⟩
  rw [Walk.on_loadCurrent, hfound, Stateless.loadClass_eq]

end Contexts.Serve

namespace ArchiveUnit

section Members

variable {files : FileSystem} {unit : ArchiveUnit} {contexts : Contexts}
  {access : ArchiveAccess ω ρ} {compare : ClassPair → Except String Verdict}

/-- The step answers with the judgement and leaves its world, and the contexts still serve. -/
def AnswersWith (files : FileSystem) (unit : ArchiveUnit) {α : Type}
    (answer : (α × Contexts) × ω) (expected : α × ω) : Prop :=
  ∃ kept : Contexts, kept.Serve files unit ∧ answer = ((expected.1, kept), expected.2)

theorem judgeClass_on (bench : Workbench ω ρ) (h : contexts.Serve files unit) (qualified : String)
    (w : ω) :
    AnswersWith files unit (Walk.on (judgeClass bench qualified) files contexts w)
      (Stateless.weighClass files unit bench.compare qualified w) := by
  obtain ⟨between, hbetween, hprevious⟩ := h.loadPrevious qualified w
  obtain ⟨after, hafter, hcurrent⟩ := hbetween.loadCurrent qualified w
  unfold judgeClass Stateless.weighClass
  rw [Walk.on_bind, hprevious]
  cases Stateless.loadClass files "previous" unit.previous qualified with
  | error error => exact ⟨between, hbetween, Walk.on_pure ..⟩
  | ok previous =>
    simp only [Walk.on_bind, hcurrent]
    refine ⟨after, hafter, ?_⟩
    cases Stateless.loadClass files "current" unit.current qualified with
    | error error => exact Walk.on_pure ..
    | ok current =>
      simp only [Walk.on_bind, Walk.on_act]
      obtain ⟨answer, w⟩ := Act.on (bench.compare ⟨qualified, previous, current⟩) files w
      cases answer <;> exact Walk.on_pure ..

theorem judge_on (bench : Workbench ω ρ) (h : contexts.Serve files unit) (current : ρ)
    {member : Member} (hclass : member.isClass = true) (w : ω) :
    let found := Act.on (bench.access.member current member.name) files w
    AnswersWith files unit (Walk.on (unit.judge bench current member) files contexts w)
      (Stateless.weighMember files unit bench.compare member found.1 found.2) := by
  obtain ⟨internal, hinternal⟩ := Option.isSome_iff_exists.1 hclass
  have hqualified : member.qualified? = some (ClassName.qualify internal) :=
    EntryName.qualified?_of_internal? hinternal
  unfold judge Stateless.weighMember
  simp only [hqualified, Walk.on_bind, Walk.on_act]
  obtain ⟨answer, w⟩ := Act.on (bench.access.member current member.name) files w
  cases answer with
  | error error => exact ⟨contexts, h, Walk.on_pure ..⟩
  | ok answer =>
    cases answer with
    | none => exact ⟨contexts, h, Walk.on_pure ..⟩
    | some counterpart =>
      simp only
      by_cases hsame : counterpart.checksum = member.checksum
      · simp only [hsame, ↓reduceIte]
        exact ⟨contexts, h, Walk.on_pure ..⟩
      · simp only [hsame, ↓reduceIte, Walk.on_bind, Walk.on_say]
        cases nameCause? member with
        | some cause => exact ⟨contexts, h, Walk.on_pure ..⟩
        | none => exact judgeClass_on bench h _ w

theorem judge_on_of_not_isClass (bench : Workbench ω ρ) (current : ρ) {member : Member}
    (hclass : ¬ member.isClass = true) (contexts : Contexts) (w : ω) :
    Walk.on (unit.judge bench current member) files contexts w =
      ((.ok .incremental, contexts), w) := by
  have hqualified : member.qualified? = none := by
    unfold Member.isClass EntryName.isClass at hclass
    unfold Member.qualified? EntryName.qualified?
    rw [Option.not_isSome_iff_eq_none.1 hclass]
    rfl
  unfold judge
  simp only [hqualified]
  exact Walk.on_pure ..

theorem settle_on {bench : Workbench ω ρ} {current : ρ} {member : Member} {w : ω}
    {judged : Judgement × ω}
    (h : AnswersWith files unit (Walk.on (unit.judge bench current member) files contexts w)
      judged) :
    AnswersWith files unit (Walk.on (unit.settle bench current (.ok member)) files contexts w)
      (if Judgement.passes judged.1 then none else some judged.1, judged.2) := by
  obtain ⟨kept, hkept, hjudge⟩ := h
  obtain ⟨judgement, after⟩ := judged
  refine ⟨kept, hkept, ?_⟩
  unfold settle
  simp only [Walk.on_bind, hjudge]
  rcases judgement with error | (_ | cause) <;> exact Walk.on_pure ..

variable (access compare)

theorem visit_cons_on (h : contexts.Serve files unit) (previous current : ρ) (index : Nat)
    (indices : List Nat) (w : ω) :
    let judged := Stateless.judgeEntry files unit access compare previous current index w
    ∃ kept : Contexts, kept.Serve files unit ∧
      Walk.on (access.visit previous
          (unit.settle ⟨access, fun pair => return compare pair⟩ current) (index :: indices)) files
        contexts w =
        if Judgement.passes judged.1 then
          Walk.on (access.visit previous
              (unit.settle ⟨access, fun pair => return compare pair⟩ current) indices) files
            kept judged.2
        else ((some judged.1, kept), judged.2) := by
  rw [ArchiveAccess.visit]
  unfold Stateless.judgeEntry
  rw [Walk.on_bind, Walk.on_act]
  obtain ⟨item, between⟩ := Act.on (access.memberAt previous index) files w
  cases item with
  | error error => exact ⟨contexts, h, rfl⟩
  | ok item =>
    cases item with
    | none => exact ⟨contexts, h, rfl⟩
    | some member =>
      have hjudge : AnswersWith files unit
          (Walk.on (unit.judge ⟨access, fun pair => return compare pair⟩ current member) files
            contexts between)
          (if member.isClass then
            (Stateless.judgeMember files unit compare member
              (Act.on (access.member current member.name) files between).1,
              (Act.on (access.member current member.name) files between).2)
          else (.ok .incremental, between)) := by
        split
        · next hclass =>
          rw [← Stateless.weighMember_pure]
          exact judge_on _ h current hclass between
        · next hclass =>
          exact ⟨contexts, h, judge_on_of_not_isClass _ current hclass contexts between⟩
      obtain ⟨kept, hkept, hsettle⟩ := settle_on hjudge
      refine ⟨kept, hkept, ?_⟩
      simp only
      rw [Walk.on_bind, hsettle]
      simp only
      generalize (if member.isClass = true then _ else _ : Judgement × ω) = judged
      cases judged.1.passes <;> rfl

/-- The scan finds the first entry that does not pass, and asks for none behind it. -/
theorem visit_on (previous current : ρ) :
    ∀ (indices : List Nat) {contexts : Contexts}, contexts.Serve files unit → ∀ w : ω,
      let judged := Stateless.judgements files unit access compare previous current indices w
      AnswersWith files unit
        (Walk.on (access.visit previous
          (unit.settle ⟨access, fun pair => return compare pair⟩ current) indices) files contexts w)
        (Stateless.firstUnsafe? judged, Stateless.worldAfter judged w) := by
  -- The contexts that an entry leaves are others than it found, but serve as well for the next one.
  intro indices
  induction indices with
  | nil =>
    intro contexts h w
    exact ⟨contexts, h, rfl⟩
  | cons index indices ih =>
    intro contexts h w
    obtain ⟨kept, hkept, hvisit⟩ := visit_cons_on access compare h previous current index
      indices w
    obtain ⟨last, hlast, hothers⟩ := ih hkept
      (Stateless.judgeEntry files unit access compare previous current index w).2
    unfold Stateless.judgements
    simp only [Stateless.firstUnsafe?_cons, Stateless.worldAfter_cons, hvisit]
    split
    · exact ⟨last, hlast, hothers⟩
    · exact ⟨kept, hkept, rfl⟩

theorem compareReaders_on (h : contexts.Serve files unit) (previous current : ρ) (w : ω) :
    let judged := Stateless.judgements files unit access compare previous current
      (access.indices previous) w
    AnswersWith files unit
      (Walk.on (unit.compareReaders ⟨access, fun pair => return compare pair⟩ previous current)
        files contexts w)
      ((Stateless.firstUnsafe? judged).getD (.ok .incremental), Stateless.worldAfter judged w) := by
  obtain ⟨kept, hkept, hvisit⟩ := visit_on access compare previous current
    (access.indices previous) h w
  refine ⟨kept, hkept, ?_⟩
  unfold compareReaders
  simp only [Walk.on_bind, Walk.on_say, hvisit, Walk.on_get, Walk.on_pure]

end Members

/-! ## The whole archive -/

section Archive

variable {files : FileSystem} {unit : ArchiveUnit} {access : ArchiveAccess ω ρ}
  (compare : ClassPair → Except String Verdict) {snapshot : Path} {previous current : ρ}
  {w₀ w₁ w₂ : ω}

theorem withReader_on {contexts : Contexts} {path : Path} {reader : ρ} {answer : Judgement × ω}
    (use : ρ → Walk ω Judgement)
    (hacquire : Act.on (access.acquire path) files w₀ = (.ok reader, w₁))
    (huse : AnswersWith files unit (Walk.on (use reader) files contexts w₁) answer) :
    AnswersWith files unit (Walk.on (access.withReader path use) files contexts w₀)
      (answer.1, (Act.on (access.release reader) files answer.2).2) := by
  obtain ⟨kept, hkept, hanswer⟩ := huse
  refine ⟨kept, hkept, ?_⟩
  unfold ArchiveAccess.withReader
  simp only [Walk.on_bind, Walk.on_act, hacquire, hanswer, Walk.on_pure]

theorem compareWith_on_of_readers (bench : Workbench ω ρ) {answer : Judgement × ω}
    (hprevious : Act.on (bench.access.acquire snapshot) files w₀ = (.ok previous, w₁))
    (hcurrent : Act.on (bench.access.acquire unit.archive) files w₁ = (.ok current, w₂))
    (hreaders : ∀ contexts : Contexts, contexts.Serve files unit → AnswersWith files unit
      (Walk.on (unit.compareReaders bench previous current) files contexts w₂) answer) :
    Act.on (unit.compareWith bench snapshot) files w₀ =
      (answer.1, (Act.on (bench.access.release previous) files
        (Act.on (bench.access.release current) files answer.2).2).2) := by
  have hserve : Contexts.Serve files unit
      ⟨((ClassContext.create "previous" unit.previous).on files).value,
        ((ClassContext.create "current" unit.current).on files).value⟩ :=
    ⟨ClassContext.create_on files "previous" unit.previous,
      ClassContext.create_on files "current" unit.current⟩
  obtain ⟨kept, -, hbody⟩ := withReader_on (fun snapshotReader =>
      bench.access.withReader unit.archive fun archiveReader =>
        unit.compareReaders bench snapshotReader archiveReader)
    hprevious (withReader_on _ hcurrent (hreaders _ hserve))
  unfold Walk.on at hbody
  unfold compareWith
  simp only [Act.on_bind, Act.on_inquiry, hbody, Act.on_pure]

theorem compareWith_on
    (hprevious : Act.on (access.acquire snapshot) files w₀ = (.ok previous, w₁))
    (hcurrent : Act.on (access.acquire unit.archive) files w₁ = (.ok current, w₂)) :
    let judged := Stateless.judgements files unit access compare previous current
      (access.indices previous) w₂
    Act.on (unit.compareWith ⟨access, fun pair => return compare pair⟩ snapshot) files w₀ =
      ((Stateless.firstUnsafe? judged).getD (.ok .incremental),
        (Act.on (access.release previous) files
          (Act.on (access.release current) files (Stateless.worldAfter judged w₂)).2).2) :=
  compareWith_on_of_readers ⟨access, fun pair => return compare pair⟩ hprevious hcurrent
    fun _ hserve => compareReaders_on access compare hserve previous current w₂

theorem run_on_of_exists (bench : Workbench ω ρ) (w : ω) (hsnapshot : unit.snapshot = some snapshot)
    (hexists : files.doesExist snapshot = true) :
    Act.on (unit.run bench) files w = Act.on (unit.compareWith bench snapshot) files w := by
  unfold run
  simp only [Act.on_bind, Act.on_inquiry, Inquiry.on_files, hsnapshot, Option.filter, hexists,
    ↓reduceIte]

theorem analyze_on_of_fresh (bench : Workbench ω ρ) (files : FileSystem) (w : ω)
    (hfresh : unit.verdict = none) :
    (Act.on (unit.analyze bench) files w).1.1 = (Act.on (unit.run bench) files w).1 ∧
      (Act.on (unit.analyze bench) files w).2 = (Act.on (unit.run bench) files w).2 := by
  unfold analyze
  simp only [hfresh, Act.on_bind]
  generalize Act.on (unit.run bench) files w = answer
  obtain ⟨judgement, w⟩ := answer
  rcases judgement with error | (_ | cause)
  · exact ⟨rfl, rfl⟩
  · exact ⟨rfl, rfl⟩
  · simp only [Verdict.cause?, Act.on_bind, Act.on_inquiry, Act.on_pure]
    exact ⟨trivial, trivial⟩

/-- On a fresh unit with a snapshot the verdict is the first judgement that does not pass, with each
entry judged by itself, and no entry behind it is asked for. -/
theorem analyze_eq_first_unsafe (hfresh : unit.verdict = none)
    (hsnapshot : unit.snapshot = some snapshot) (hexists : files.doesExist snapshot = true)
    (hprevious : Act.on (access.acquire snapshot) files w₀ = (.ok previous, w₁))
    (hcurrent : Act.on (access.acquire unit.archive) files w₁ = (.ok current, w₂)) :
    let judged := Stateless.judgements files unit access compare previous current
      (access.indices previous) w₂
    let answer := Act.on (unit.analyze ⟨access, fun pair => return compare pair⟩) files w₀
    answer.1.1 = (Stateless.firstUnsafe? judged).getD (.ok .incremental) ∧
      answer.2 = (Act.on (access.release previous) files
        (Act.on (access.release current) files (Stateless.worldAfter judged w₂)).2).2 := by
  intro judged answer
  obtain ⟨hvalue, hworld⟩ :=
    analyze_on_of_fresh ⟨access, fun pair => return compare pair⟩ files w₀ hfresh
  rw [run_on_of_exists _ w₀ hsnapshot hexists, compareWith_on compare hprevious hcurrent]
    at hvalue hworld
  exact ⟨hvalue, hworld⟩

end Archive

end ArchiveUnit

/-- Archives that are lists of members. The world counts the names that are asked for. -/
def ArchiveAccess.listed (archives : Path → List Member) : ArchiveAccess Nat (List Member) where
  acquire path := return .ok (archives path)
  release _ := return ()
  path _ := ⟨[]⟩
  entryCount members := members.length
  memberAt members index := return .ok members[index]?
  member members name := do
    modify (· + 1)
    return .ok (members.find? fun member => member.name == name)

theorem second_class_settles_scan :
    let archives (path : Path) : List Member :=
      if path = .ofString "/old.jar" then
        [⟨"notes.txt", 1⟩, ⟨"A.class", 2⟩, ⟨"B.class", 3⟩, ⟨"C.class", 4⟩]
      else [⟨"A.class", 2⟩]
    let unit : ArchiveUnit := ⟨⟨[]⟩, ⟨[]⟩, .ofString "/new.jar", some (.ofString "/old.jar"), none⟩
    let files := (FileSystem.empty []).writeFile (.ofString "/old.jar") .empty
    let answer := Act.on (unit.analyze ⟨.listed archives, fun _ => return .ok .incremental⟩) files 0
    answer.1.1 = .ok (.fullRebuild "member removed: B") ∧ answer.2 = 2 := by
  intro archives unit files
  have hprevious : Act.on ((ArchiveAccess.listed archives).acquire (.ofString "/old.jar")) files 0 =
      (.ok (archives (.ofString "/old.jar")), 0) := rfl
  have hcurrent : Act.on ((ArchiveAccess.listed archives).acquire unit.archive) files 0 =
      (.ok (archives (.ofString "/new.jar")), 0) := rfl
  exact ArchiveUnit.analyze_eq_first_unsafe (fun _ => .ok .incremental) rfl rfl (by decide)
    hprevious hcurrent

end Rebuild
