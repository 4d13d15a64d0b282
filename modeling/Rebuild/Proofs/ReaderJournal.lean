import Rebuild.Proofs.RememberedVerdict

/-!
# Readers are closed when a call ends

A journal is kept beside the world of a unit, in which only opening and closing a reader is noted.
Whatever an opener, its readers and the comparator do, each call adds a whole story to it: what the
call opens it closes, and it never holds more than two readers.
-/

namespace Rebuild

variable {ω ρ α β : Type}

inductive ReaderEvent (ρ : Type)
  | opened (path : Path) (reader : ρ)
  | refused (path : Path) (error : ArchiveError)
  | closed (reader : ρ)

abbrev ReaderJournal (ρ : Type) := List (ReaderEvent ρ)

namespace ReaderEvent

def isOpened : ReaderEvent ρ → Bool
  | opened .. => true
  | _ => false

def isClosed : ReaderEvent ρ → Bool
  | closed _ => true
  | _ => false

end ReaderEvent

namespace ReaderJournal

def openedCount (journal : ReaderJournal ρ) : Nat := journal.countP ReaderEvent.isOpened

def closedCount (journal : ReaderJournal ρ) : Nat := journal.countP ReaderEvent.isClosed

/-- In the end all readers that were opened are closed, and at no time more than so many are open. -/
structure HoldsAtMost (limit : Nat) (journal : ReaderJournal ρ) : Prop where
  closedCount_eq : journal.closedCount = journal.openedCount
  closedCount_le : ∀ n, closedCount (journal.take n) ≤ openedCount (journal.take n)
  openedCount_le : ∀ n, openedCount (journal.take n) ≤ closedCount (journal.take n) + limit

theorem openedCount_append (first second : ReaderJournal ρ) :
    openedCount (first ++ second) = first.openedCount + second.openedCount :=
  List.countP_append

theorem closedCount_append (first second : ReaderJournal ρ) :
    closedCount (first ++ second) = first.closedCount + second.closedCount :=
  List.countP_append

theorem take_append_cases (first second : ReaderJournal ρ) (n : Nat) :
    (first ++ second).take n = first.take n ∨
      ∃ k, (first ++ second).take n = first ++ second.take k := by
  rcases Nat.le_total n first.length with hle | hle
  · exact Or.inl (List.take_append_of_le_length hle)
  · obtain ⟨k, rfl⟩ := Nat.exists_eq_add_of_le hle
    exact Or.inr ⟨k, List.take_length_add_append k⟩

namespace HoldsAtMost

variable {limit : Nat}

theorem nil : HoldsAtMost limit ([] : ReaderJournal ρ) := by
  refine ⟨rfl, fun n => ?_, fun n => ?_⟩
  all_goals
    rw [List.take_nil]
    exact Nat.zero_le _

theorem refused (path : Path) (error : ArchiveError) :
    HoldsAtMost limit ([.refused path error] : ReaderJournal ρ) := by
  refine ⟨rfl, fun n => ?_, fun n => ?_⟩
  all_goals
    cases n with
    | zero => exact Nat.zero_le _
    | succ n =>
      rw [List.take_succ_cons, List.take_nil]
      exact Nat.zero_le _

theorem append {first second : ReaderJournal ρ} (hfirst : first.HoldsAtMost limit)
    (hsecond : second.HoldsAtMost limit) : HoldsAtMost limit (first ++ second) := by
  have hend := hfirst.closedCount_eq
  refine ⟨?_, fun n => ?_, fun n => ?_⟩
  · rw [openedCount_append, closedCount_append, hend, hsecond.closedCount_eq]
  · rcases take_append_cases first second n with heq | ⟨k, heq⟩
    · rw [heq]
      exact hfirst.closedCount_le n
    · have := hsecond.closedCount_le k
      rw [heq, openedCount_append, closedCount_append]
      omega
  · rcases take_append_cases first second n with heq | ⟨k, heq⟩
    · rw [heq]
      exact hfirst.openedCount_le n
    · have := hsecond.openedCount_le k
      rw [heq, openedCount_append, closedCount_append]
      omega

theorem enclose {within : ReaderJournal ρ} (h : within.HoldsAtMost limit) (path : Path)
    (reader : ρ) :
    HoldsAtMost (limit + 1) (.opened path reader :: within ++ [.closed reader]) := by
  have hopened : ∀ rest : ReaderJournal ρ,
      openedCount (.opened path reader :: rest) = rest.openedCount + 1 := fun _ =>
    List.countP_cons_of_pos rfl
  have hclosed : ∀ rest : ReaderJournal ρ,
      closedCount (.opened path reader :: rest) = rest.closedCount := fun _ =>
    List.countP_cons_of_neg Bool.false_ne_true
  have hlast : ∀ k, openedCount ([ReaderEvent.closed reader].take k) = 0 ∧
      closedCount ([ReaderEvent.closed reader].take k) ≤ 1 := by
    rintro (_ | k)
    · exact ⟨rfl, Nat.zero_le 1⟩
    · rw [List.take_succ_cons, List.take_nil]
      exact ⟨rfl, Nat.le_refl 1⟩
  have hend := h.closedCount_eq
  refine ⟨?_, fun n => ?_, fun n => ?_⟩
  · rw [List.cons_append, hopened, hclosed, openedCount_append, closedCount_append, hend]
    rfl
  all_goals
    cases n with
    | zero => exact Nat.zero_le _
    | succ n =>
      rw [List.cons_append, List.take_succ_cons, hopened, hclosed]
      have hlow := h.closedCount_le n
      have hhigh := h.openedCount_le n
      rcases take_append_cases within [.closed reader] n with heq | ⟨k, heq⟩
      · rw [heq]
        omega
      · obtain ⟨hnone, hone⟩ := hlast k
        rw [heq, openedCount_append, closedCount_append]
        omega

end HoldsAtMost

end ReaderJournal

/-! ## Keeping a journal -/

/-- The same action with a journal lying by, which it leaves alone. -/
def Act.beside (x : Act ω α) : Act (ω × ReaderJournal ρ) α := fun state disk =>
  let found := x state.1 disk
  ⟨(found.value.1, found.value.2, state.2), found.events⟩

def Act.note (event : ReaderEvent ρ) : Act (ω × ReaderJournal ρ) Unit :=
  modify fun (w, journal) => (w, journal ++ [event])

def ReaderEvent.ofAttempt (path : Path) : Except ArchiveError ρ → ReaderEvent ρ
  | .ok reader => opened path reader
  | .error error => refused path error

/-- Any access, with its successes and failures to open noted, and what it closes. -/
def ArchiveAccess.journaled (access : ArchiveAccess ω ρ) :
    ArchiveAccess (ω × ReaderJournal ρ) ρ where
  acquire path := do
    let result ← (access.acquire path).beside
    Act.note (.ofAttempt path result)
    return result
  release reader := do
    (access.release reader).beside
    Act.note (.closed reader)
  path := access.path
  entryCount := access.entryCount
  memberAt reader index := (access.memberAt reader index).beside
  member reader name := (access.member reader name).beside

def Workbench.journaled (bench : Workbench ω ρ) : Workbench (ω × ReaderJournal ρ) ρ :=
  ⟨bench.access.journaled, fun pair => (bench.compare pair).beside⟩

/-- The same step with a journal lying by. -/
def Walk.beside (x : Walk ω α) : Walk (ω × ReaderJournal ρ) α := fun contexts =>
  Act.beside (x contexts)

/-! ## Steps that note nothing -/

theorem Walk.bind_eq_beside {x : Walk ω α} {watched : Walk (ω × ReaderJournal ρ) α}
    {f : α → Walk ω β} {next : α → Walk (ω × ReaderJournal ρ) β} (hfirst : watched = x.beside)
    (hnext : ∀ value, next value = (f value).beside) :
    watched >>= next = Walk.beside (x >>= f) := by
  rw [hfirst, funext hnext]
  rfl

namespace ArchiveUnit

variable (unit : ArchiveUnit) (bench : Workbench ω ρ)

theorem judgeClass_journaled (qualified : String) :
    judgeClass bench.journaled qualified = (judgeClass bench qualified).beside := by
  unfold judgeClass
  refine Walk.bind_eq_beside rfl fun found => ?_
  cases found with
  | error error => rfl
  | ok previous =>
    refine Walk.bind_eq_beside rfl fun found => ?_
    cases found with
    | error error => rfl
    | ok current =>
      refine Walk.bind_eq_beside rfl fun found => ?_
      cases found <;> rfl

theorem judge_journaled (current : ρ) (member : Member) :
    unit.judge bench.journaled current member = (unit.judge bench current member).beside := by
  unfold judge
  cases member.qualified? with
  | none => rfl
  | some qualified =>
    refine Walk.bind_eq_beside rfl fun found => ?_
    rcases found with error | (_ | counterpart)
    · rfl
    · rfl
    · dsimp only
      split
      · rfl
      · refine Walk.bind_eq_beside rfl fun _ => ?_
        cases nameCause? member with
        | some cause => rfl
        | none => exact judgeClass_journaled bench qualified

theorem settle_journaled (current : ρ) (item : ArchiveAccess.Item) :
    unit.settle bench.journaled current item = (unit.settle bench current item).beside := by
  cases item with
  | error error => rfl
  | ok member =>
    refine Walk.bind_eq_beside (judge_journaled unit bench current member) fun judged => ?_
    rcases judged with error | (_ | cause) <;> rfl

theorem visit_journaled (previous current : ρ) (indices : List Nat) :
    bench.journaled.access.visit previous (unit.settle bench.journaled current) indices =
      Walk.beside (bench.access.visit previous (unit.settle bench current) indices) := by
  induction indices with
  | nil => rfl
  | cons index indices ih =>
    unfold ArchiveAccess.visit
    refine Walk.bind_eq_beside rfl fun item => ?_
    rcases item with error | (_ | member)
    case ok.none => exact ih
    all_goals
      refine Walk.bind_eq_beside (settle_journaled unit bench current _) fun settled => ?_
      cases settled with
      | some answer => rfl
      | none => exact ih

theorem compareReaders_journaled (previous current : ρ) :
    unit.compareReaders bench.journaled previous current =
      (unit.compareReaders bench previous current).beside := by
  unfold compareReaders
  refine Walk.bind_eq_beside rfl fun _ => ?_
  exact Walk.bind_eq_beside (visit_journaled unit bench previous current _) fun _ => rfl

end ArchiveUnit

/-! ## Steps that note something -/

/-- On this disk the watched action does what the plain one does, and what it adds to the journal fits
the answer. -/
def Act.NotesOn (disk : Disk) (watched : Act (ω × ReaderJournal ρ) α) (plain : Act ω α)
    (noted : α → ReaderJournal ρ → Prop) : Prop :=
  ∀ w journal, ∃ added, let found := plain.run w disk
    noted found.value.1 added ∧
      watched.run (w, journal) disk =
        ⟨(found.value.1, found.value.2, journal ++ added), found.events⟩

def Walk.Notes (watched : Walk (ω × ReaderJournal ρ) α) (plain : Walk ω α)
    (noted : α → ReaderJournal ρ → Prop) : Prop :=
  ∀ contexts disk, Act.NotesOn disk (watched contexts) (plain contexts)
    fun answer => noted answer.1

namespace Act.NotesOn

variable {disk : Disk} {x : Act ω α} {watched : Act (ω × ReaderJournal ρ) α}
  {noted : α → ReaderJournal ρ → Prop}

theorem beside (h : ∀ value, noted value []) : NotesOn disk (Act.beside x) x noted := by
  intro w journal
  refine ⟨[], h _, ?_⟩
  rw [List.append_nil]
  rfl

theorem pure {value : α} (h : noted value []) :
    NotesOn disk (Pure.pure value) (Pure.pure value : Act ω α) noted := by
  intro w journal
  refine ⟨[], h, ?_⟩
  rw [List.append_nil]
  rfl

theorem bind {f : α → Act ω β} {next : α → Act (ω × ReaderJournal ρ) β}
    {between : α → ReaderJournal ρ → Prop} {noted : β → ReaderJournal ρ → Prop}
    (hx : NotesOn disk watched x between)
    (hnext : ∀ value first, between value first → ∀ disk,
      NotesOn disk (next value) (f value) fun answer second => noted answer (first ++ second)) :
    NotesOn disk (watched >>= next) (x >>= f) noted := by
  intro w journal
  obtain ⟨first, hbetween, hwatched⟩ := hx w journal
  obtain ⟨second, hnoted, hrest⟩ := hnext _ first hbetween (disk.after (x.run w disk).events)
    (x.run w disk).value.2 (journal ++ first)
  refine ⟨first ++ second, hnoted, ?_⟩
  rw [Act.bind_apply, Act.bind_apply, hwatched]
  dsimp only
  rw [hrest, List.append_assoc]

theorem inquiry_bind {x : Inquiry α} {f : α → Act ω β} {next : α → Act (ω × ReaderJournal ρ) β}
    {noted : β → ReaderJournal ρ → Prop}
    (hnext : ∀ value disk, NotesOn disk (next value) (f value) noted) :
    NotesOn disk ((x : Act (ω × ReaderJournal ρ) α) >>= next) ((x : Act ω α) >>= f) noted := by
  have hx : NotesOn disk (Act.beside (x : Act ω α)) (x : Act ω α)
      fun _ added => added = ([] : ReaderJournal ρ) := beside fun _ => rfl
  refine hx.bind ?_
  rintro value _ rfl disk
  exact hnext value disk

theorem look {f : FileSystem → Act ω α} {next : FileSystem → Act (ω × ReaderJournal ρ) α}
    (h : NotesOn disk (next disk.files) (f disk.files) noted) :
    NotesOn disk ((Inquiry.files : Act (ω × ReaderJournal ρ) FileSystem) >>= next)
      ((Inquiry.files : Act ω FileSystem) >>= f) noted := h

end Act.NotesOn

namespace Walk.Notes

variable {noted : β → ReaderJournal ρ → Prop}

theorem pure {value : β} (h : noted value []) :
    Notes (Pure.pure value) (Pure.pure value : Walk ω β) noted :=
  fun _ _ => Act.NotesOn.pure h

theorem beside {x : Walk ω β} (h : ∀ value, noted value []) : Notes x.beside x noted :=
  fun _ _ => Act.NotesOn.beside fun answer => h answer.1

theorem bind {x : Walk ω α} {watched : Walk (ω × ReaderJournal ρ) α} {f : α → Walk ω β}
    {next : α → Walk (ω × ReaderJournal ρ) β} {between : α → ReaderJournal ρ → Prop}
    (hx : Notes watched x between)
    (hnext : ∀ value first, between value first →
      Notes (next value) (f value) fun answer second => noted answer (first ++ second)) :
    Notes (watched >>= next) (x >>= f) noted :=
  fun contexts disk => (hx contexts disk).bind fun answer first hbetween =>
    hnext answer.1 first hbetween answer.2

theorem act {x : Act ω α} {watched : Act (ω × ReaderJournal ρ) α} {event : α → ReaderEvent ρ}
    (h : ∀ disk, Act.NotesOn disk watched x fun value added => added = [event value]) :
    Notes (watched : Walk (ω × ReaderJournal ρ) α) (x : Walk ω α)
      fun value added => added = [event value] := by
  intro contexts disk
  change Act.NotesOn disk (watched >>= fun value => Pure.pure (value, contexts))
    (x >>= fun value => Pure.pure (value, contexts)) _
  refine (h disk).bind ?_
  rintro value _ rfl disk
  exact Act.NotesOn.pure rfl

end Walk.Notes

namespace ArchiveAccess

variable (access : ArchiveAccess ω ρ)

theorem acquire_notes (path : Path) (disk : Disk) :
    Act.NotesOn disk (access.journaled.acquire path) (access.acquire path)
      fun result added => added = [.ofAttempt path result] := by
  intro w journal
  exact ⟨_, rfl, congrArg (Answer.mk _) (List.append_nil _)⟩

theorem release_notes (reader : ρ) (disk : Disk) :
    Act.NotesOn disk (access.journaled.release reader) (access.release reader)
      fun _ added => added = [.closed reader] := by
  intro w journal
  exact ⟨_, rfl, congrArg (Answer.mk _) (List.append_nil _)⟩

theorem withReader_notes {path : Path} {use : ρ → Walk ω (Except AnalysisError Verdict)}
    {watched : ρ → Walk (ω × ReaderJournal ρ) (Except AnalysisError Verdict)}
    {noted : Except AnalysisError Verdict → ReaderJournal ρ → Prop}
    (hrefused : ∀ error, noted (.error (.archive error)) [.refused path error])
    (huse : ∀ reader, Walk.Notes (watched reader) (use reader) fun answer within =>
      noted answer (.opened path reader :: within ++ [.closed reader])) :
    Walk.Notes (access.journaled.withReader path watched) (access.withReader path use) noted := by
  unfold withReader
  refine (Walk.Notes.act (access.acquire_notes path)).bind ?_
  rintro result _ rfl
  cases result with
  | error error => exact Walk.Notes.pure (hrefused error)
  | ok reader =>
    refine (huse reader).bind fun answer within hwithin => ?_
    refine (Walk.Notes.act (access.release_notes reader)).bind ?_
    rintro ⟨⟩ _ rfl
    exact Walk.Notes.pure hwithin

end ArchiveAccess

/-! ## One call -/

namespace ArchiveUnit

/-- What a call notes on some files: nothing if a verdict is remembered or no snapshot is there, and
otherwise the snapshot is opened first and then the archive, unless one of them cannot be. -/
inductive Handles (unit : ArchiveUnit) (files : FileSystem) :
    Except AnalysisError Verdict → ReaderJournal ρ → Prop
  | remembered {verdict : Verdict} : unit.verdict = some verdict → Handles unit files (.ok verdict) []
  | missing {answer : Except AnalysisError Verdict} : unit.verdict = none →
    unit.snapshot.filter files.doesExist = none → Handles unit files answer []
  | snapshotRefused {snapshot : Path} {error : ArchiveError} : unit.verdict = none →
    unit.snapshot.filter files.doesExist = some snapshot →
      Handles unit files (.error (.archive error)) [.refused snapshot error]
  | archiveRefused {snapshot : Path} {previous : ρ} {error : ArchiveError} : unit.verdict = none →
    unit.snapshot.filter files.doesExist = some snapshot →
      Handles unit files (.error (.archive error))
        [.opened snapshot previous, .refused unit.archive error, .closed previous]
  | compared {snapshot : Path} {previous current : ρ} {answer : Except AnalysisError Verdict} :
    unit.verdict = none → unit.snapshot.filter files.doesExist = some snapshot →
      Handles unit files answer [.opened snapshot previous, .opened unit.archive current,
        .closed current, .closed previous]

variable {unit : ArchiveUnit} {files : FileSystem} {snapshot : Path}

theorem compareWith_notes (hfresh : unit.verdict = none)
    (hsnapshot : unit.snapshot.filter files.doesExist = some snapshot) (bench : Workbench ω ρ)
    (disk : Disk) :
    Act.NotesOn disk (unit.compareWith bench.journaled snapshot) (unit.compareWith bench snapshot)
      (unit.Handles files) := by
  have hbody : Walk.Notes
      (bench.journaled.access.withReader snapshot fun previous =>
        bench.journaled.access.withReader unit.archive fun current =>
          unit.compareReaders bench.journaled previous current)
      (bench.access.withReader snapshot fun previous =>
        bench.access.withReader unit.archive fun current =>
          unit.compareReaders bench previous current)
      (unit.Handles files) := by
    refine bench.access.withReader_notes (fun error => .snapshotRefused hfresh hsnapshot)
      fun previous => ?_
    refine bench.access.withReader_notes (fun error => .archiveRefused hfresh hsnapshot)
      fun current => ?_
    rw [compareReaders_journaled]
    exact Walk.Notes.beside fun _ => .compared hfresh hsnapshot
  unfold compareWith
  refine Act.NotesOn.inquiry_bind fun previous disk => ?_
  refine Act.NotesOn.inquiry_bind fun current disk => ?_
  refine (hbody ⟨previous, current⟩ disk).bind fun answer journal hjournal disk => ?_
  refine Act.NotesOn.inquiry_bind fun _ disk => Act.NotesOn.inquiry_bind fun _ disk => ?_
  refine Act.NotesOn.pure ?_
  rw [List.append_nil]
  exact hjournal

theorem run_notes (hfresh : unit.verdict = none) (bench : Workbench ω ρ) (disk : Disk) :
    Act.NotesOn disk (unit.run bench.journaled) (unit.run bench) (unit.Handles disk.files) := by
  unfold run
  refine Act.NotesOn.look ?_
  cases hsnapshot : unit.snapshot.filter disk.files.doesExist with
  | none =>
    exact Act.NotesOn.inquiry_bind fun _ _ => Act.NotesOn.pure (.missing hfresh hsnapshot)
  | some snapshot => exact compareWith_notes hfresh hsnapshot bench disk

theorem analyze_notes (unit : ArchiveUnit) (bench : Workbench ω ρ) (disk : Disk) :
    Act.NotesOn disk (unit.analyze bench.journaled) (unit.analyze bench)
      fun answer => unit.Handles disk.files answer.1 := by
  cases hverdict : unit.verdict with
  | some verdict =>
    rw [analyze_eq_pure hverdict, analyze_eq_pure hverdict]
    exact Act.NotesOn.pure (.remembered hverdict)
  | none =>
    unfold analyze
    simp only [hverdict]
    refine (run_notes hverdict bench disk).bind fun answer journal hjournal _ => ?_
    rw [← List.append_nil journal] at hjournal
    rcases answer with error | (_ | cause)
    · exact Act.NotesOn.pure hjournal
    · exact Act.NotesOn.pure hjournal
    · exact Act.NotesOn.inquiry_bind fun _ _ => Act.NotesOn.pure hjournal

/-! ## Many calls -/

/-- A call with a journal lying by: the answer, the unit as it is then, and the journal. -/
def call (unit : ArchiveUnit) (past : ReaderJournal ρ) (occasion : Occasion ω ρ) :
    (Except AnalysisError Verdict × ArchiveUnit) × ReaderJournal ρ :=
  let found := (unit.analyze occasion.bench.journaled).run (occasion.world, past) occasion.disk
  (found.value.1, found.value.2.2)

def journal (unit : ArchiveUnit) (past : ReaderJournal ρ) :
    List (Occasion ω ρ) → ReaderJournal ρ
  | [] => past
  | occasion :: occasions =>
    let called := unit.call past occasion
    called.1.2.journal called.2 occasions

theorem call_eq (unit : ArchiveUnit) (past : ReaderJournal ρ) (occasion : Occasion ω ρ) :
    ∃ added, unit.Handles occasion.disk.files (unit.ask occasion).1 added ∧
      unit.call past occasion = (unit.ask occasion, past ++ added) := by
  obtain ⟨added, hadded, hrun⟩ :=
    analyze_notes unit occasion.bench occasion.disk occasion.world past
  refine ⟨added, hadded, ?_⟩
  unfold call
  rw [hrun]
  rfl

theorem journal_concat (unit : ArchiveUnit) (past : ReaderJournal ρ)
    (occasions : List (Occasion ω ρ)) (occasion : Occasion ω ρ) :
    unit.journal past (occasions ++ [occasion]) =
      ((unit.after occasions).call (unit.journal past occasions) occasion).2 := by
  induction occasions generalizing unit past with
  | nil => rfl
  | cons first occasions ih =>
    obtain ⟨added, -, hcall⟩ := call_eq unit past first
    rw [List.cons_append, journal, ih, hcall, journal, hcall, after]

theorem Handles.holdsAtMost {unit : ArchiveUnit} {files : FileSystem}
    {answer : Except AnalysisError Verdict} {added : ReaderJournal ρ}
    (h : unit.Handles files answer added) : added.HoldsAtMost 2 := by
  cases h with
  | remembered => exact .nil
  | missing => exact .nil
  | snapshotRefused => exact .refused _ _
  | archiveRefused => exact (ReaderJournal.HoldsAtMost.refused _ _).enclose _ _
  | compared => exact (ReaderJournal.HoldsAtMost.nil.enclose _ _).enclose _ _

theorem journal_holdsAtMost (unit : ArchiveUnit) {past : ReaderJournal ρ} (hpast : past.HoldsAtMost 2)
    (occasions : List (Occasion ω ρ)) : (unit.journal past occasions).HoldsAtMost 2 := by
  induction occasions generalizing unit past with
  | nil => exact hpast
  | cons occasion occasions ih =>
    obtain ⟨added, hadded, hcall⟩ := call_eq unit past occasion
    rw [journal, hcall]
    exact ih _ (hpast.append hadded.holdsAtMost)

/-- However the opener, the readers, the comparator and the disk behave on each occasion: behind each
call all readers that the unit opened in its life are closed, and in between at most two were open.
The call opens the snapshot and then the archive, one of them or none. Keeping the journal changes
no answer. -/
theorem readers_released_after_each_call (unit : ArchiveUnit) (occasions : List (Occasion ω ρ))
    (occasion : Occasion ω ρ) :
    let now := unit.after occasions
    let past := unit.journal [] occasions
    let history := unit.journal [] (occasions ++ [occasion])
    history.HoldsAtMost 2 ∧ ∃ added, history = past ++ added ∧
      now.Handles occasion.disk.files (now.ask occasion).1 added ∧
      now.call past occasion = (now.ask occasion, history) := by
  intro now past history
  obtain ⟨added, hadded, hcall⟩ := call_eq now past occasion
  have hhistory : history = past ++ added :=
    (journal_concat unit [] occasions occasion).trans (congrArg Prod.snd hcall)
  refine ⟨journal_holdsAtMost unit ReaderJournal.HoldsAtMost.nil _, added, hhistory, hadded, ?_⟩
  rw [hcall, hhistory]

end ArchiveUnit

end Rebuild
