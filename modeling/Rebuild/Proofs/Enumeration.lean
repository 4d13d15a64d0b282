import Rebuild.Proofs.Evaluation
import Rebuild.Proofs.UpToDate

/-!
# Members come in order, and only as long as they are wanted

A reader is asked for its entries by their index, and each answer may be a member, a directory or an
error, and may change the world. What was asked and answered is recorded beside the world. Whoever
visits the members, each entry is asked for once, in its turn, and none behind the item that the
visitor answers.
-/

namespace Rebuild

variable {ω ρ σ α β : Type}

/-- The answers of a reader, each with the index that it was asked for. -/
abbrev EntryRecord := List (Nat × Except ArchiveError (Option Member))

namespace EntryRecord

/-- What the answers show, in order. -/
def items (record : EntryRecord) : List ArchiveAccess.Item :=
  record.filterMap fun asked => ArchiveAccess.shown? asked.2

/-- The last answer shows an item. -/
def EndsShown (record : EntryRecord) : Prop :=
  ∃ asked item, record.getLast? = some asked ∧ ArchiveAccess.shown? asked.2 = some item

theorem items_append (first second : EntryRecord) :
    items (first ++ second) = items first ++ items second :=
  List.filterMap_append

theorem items_cons (asked : Nat × Except ArchiveError (Option Member)) (record : EntryRecord) :
    items (asked :: record) = (ArchiveAccess.shown? asked.2).toList ++ items record := by
  unfold items
  rw [List.filterMap_cons]
  cases ArchiveAccess.shown? asked.2 <;> rfl

theorem items_of_isPrefix {record answers : EntryRecord} (h : record <+: answers) :
    record.items = answers.items.take record.items.length :=
  List.prefix_iff_eq_take.1 (h.filterMap _)

theorem length_items_take_le (record : EntryRecord) (n : Nat) :
    (items (record.take n)).length ≤ record.items.length :=
  ((List.take_prefix n record).filterMap _).length_le

theorem EndsShown.cons {record : EntryRecord} (h : record.EndsShown)
    (asked : Nat × Except ArchiveError (Option Member)) : EndsShown (asked :: record) := by
  obtain ⟨last, item, hlast, hitem⟩ := h
  refine ⟨last, item, ?_, hitem⟩
  rw [List.getLast?_cons, hlast]
  rfl

theorem EndsShown.length_items_take_lt {record : EntryRecord} (h : record.EndsShown) {n : Nat}
    (hn : n < record.length) : (items (record.take n)).length < record.items.length := by
  obtain ⟨last, item, hlast, hitem⟩ := h
  obtain ⟨before, rfl⟩ := List.getLast?_eq_some_iff.1 hlast
  rw [List.length_append, List.length_singleton] at hn
  rw [List.take_append_of_le_length (Nat.le_of_lt_succ hn), items_append, items_cons, hitem,
    List.length_append]
  exact Nat.lt_succ_of_le (length_items_take_le before n)

end EntryRecord

/-! ## Keeping the record -/

/-- The same action in a world with a record, which it leaves alone. -/
def Act.unrecorded (x : Act ω α) : Act (ω × EntryRecord) α := fun state disk =>
  let found := x state.1 disk
  ⟨(found.value.1, found.value.2, state.2), found.events⟩

/-- Here the watched action does what the plain one does, and adds these answers to the record. -/
def Act.Records (w : ω) (disk : Disk) (watched : Act (ω × EntryRecord) α) (plain : Act ω α)
    (added : EntryRecord) : Prop :=
  ∀ past, watched.run (w, past) disk =
    let found := plain.run w disk
    ⟨(found.value.1, found.value.2, past ++ added), found.events⟩

namespace Act.Records

variable {w : ω} {disk : Disk}

theorem unrecorded (x : Act ω α) : Records w disk x.unrecorded x [] := by
  intro past
  rw [List.append_nil]
  rfl

theorem pure (value : α) :
    Records w disk (Pure.pure value) (Pure.pure value : Act ω α) [] :=
  unrecorded (Pure.pure value)

theorem bind {watched : Act (ω × EntryRecord) α} {x : Act ω α} {added : EntryRecord}
    {next : α → Act (ω × EntryRecord) β} {f : α → Act ω β} {behind : EntryRecord}
    {found : Answer (α × ω)} (hx : Records w disk watched x added) (hfound : x.run w disk = found)
    (hnext : Records found.value.2 (disk.after found.events) (next found.value.1)
      (f found.value.1) behind) :
    Records w disk (watched >>= next) (x >>= f) (added ++ behind) := by
  intro past
  rw [Act.bind_apply, Act.bind_apply, hx past, hfound]
  dsimp only
  rw [hnext (past ++ added), List.append_assoc]

end Act.Records

namespace ArchiveAccess

/-- Any access, with each question for an entry recorded and what was answered. -/
def recorded (access : ArchiveAccess ω ρ) : ArchiveAccess (ω × EntryRecord) ρ where
  acquire path := (access.acquire path).unrecorded
  release reader := (access.release reader).unrecorded
  path := access.path
  entryCount := access.entryCount
  memberAt reader index := do
    let answer ← (access.memberAt reader index).unrecorded
    modify fun (w, record) => (w, record ++ [(index, answer)])
    return answer
  member reader name := (access.member reader name).unrecorded

/-- A visitor who leaves the record alone. -/
def unrecorded (visitor : Item → StateT σ (Act ω) (Option β)) :
    Item → StateT σ (Act (ω × EntryRecord)) (Option β) :=
  fun item s => Act.unrecorded (visitor item s)

variable (access : ArchiveAccess ω ρ) (reader : ρ)

theorem memberAt_records (index : Nat) (w : ω) (disk : Disk) :
    Act.Records w disk (access.recorded.memberAt reader index) (access.memberAt reader index)
      [(index, ((access.memberAt reader index).run w disk).value.1)] := by
  intro past
  exact congrArg (Answer.mk _) (List.append_nil _)

/-! ## Visits -/

theorem visit_cons_run (visitor : Item → StateT σ (Act ω) (Option β)) (index : Nat)
    (indices : List Nat) (s : σ) :
    (access.visit reader visitor (index :: indices)).run s = (do
      match shown? (← access.memberAt reader index) with
      | none => (access.visit reader visitor indices).run s
      | some item =>
        let (reply, s) ← (visitor item).run s
        match reply with
        | some answer => pure (some answer, s)
        | none => (access.visit reader visitor indices).run s) := by
  rw [visit_cons, StateT.run_bind, StateT.run_monadLift, bind_assoc]
  refine bind_congr fun answer => ?_
  rw [pure_bind]
  dsimp only
  cases shown? answer with
  | none => rfl
  | some item =>
    rw [StateT.run_bind]
    refine bind_congr fun replied => ?_
    obtain ⟨reply, s⟩ := replied
    cases reply <;> rfl

/-- What a reader answers that is asked for these entries, one after another. -/
def answers : List Nat → ω → Disk → EntryRecord
  | [], _, _ => []
  | index :: indices, w, disk =>
    let found := (access.memberAt reader index).run w disk
    (index, found.value.1) :: answers indices found.value.2 (disk.after found.events)

theorem map_fst_answers (indices : List Nat) (w : ω) (disk : Disk) :
    (access.answers reader indices w disk).map Prod.fst = indices := by
  induction indices generalizing w disk with
  | nil => rfl
  | cons index indices ih => rw [answers, List.map_cons, ih]

/-- What a visitor comes to, from a state of its own, that is shown these items one after another,
in any worlds and as long as it does not answer. -/
inductive Shown (visitor : Item → StateT σ (Act ω) (Option β)) (s : σ) :
    List Item → Option β × σ → Prop
  | start : Shown visitor s [] (none, s)
  | next {before : List Item} {kept : σ} (h : Shown visitor s before (none, kept)) (item : Item)
    (w : ω) (disk : Disk) :
      Shown visitor s (before ++ [item]) (((visitor item).run kept).run w disk).value.1

/-- What a visit comes to before which some items were shown: the entries are asked for in turn,
all of them unless the visitor answers an item, which comes from the last one then. -/
structure Visited (visitor : Item → StateT σ (Act ω) (Option β)) (s : σ) (before : List Item)
    (indices : List Nat) (record : EntryRecord) (ended : Option β × σ) : Prop where
  isPrefix : record.map Prod.fst <+: indices
  complete : ended.1 = none → record.map Prod.fst = indices
  endsShown : ended.1 ≠ none → record.EndsShown
  shown : Shown visitor s (before ++ record.items) ended

namespace Visited

variable {visitor : Item → StateT σ (Act ω) (Option β)} {s kept : σ} {before : List Item}
  {indices : List Nat} {record : EntryRecord} {ended : Option β × σ} {index : Nat}
  {answer : Except ArchiveError (Option Member)} {item : Item}

theorem nil (h : Shown visitor s before (none, kept)) :
    Visited visitor s before [] [] (none, kept) where
  isPrefix := List.prefix_rfl
  complete _ := rfl
  endsShown h := absurd rfl h
  shown := by
    rw [EntryRecord.items, List.filterMap_nil, List.append_nil]
    exact h

theorem cons (h : Visited visitor s (before ++ (shown? answer).toList) indices record ended) :
    Visited visitor s before (index :: indices) ((index, answer) :: record) ended where
  isPrefix := (List.prefix_cons_inj index).2 h.isPrefix
  complete hnone := congrArg (index :: ·) (h.complete hnone)
  endsShown hsome := (h.endsShown hsome).cons _
  shown := by
    rw [EntryRecord.items_cons, ← List.append_assoc]
    exact h.shown

theorem settled {reply : β} (hshown : shown? answer = some item)
    (h : Shown visitor s (before ++ [item]) (some reply, kept)) :
    Visited visitor s before (index :: indices) [(index, answer)] (some reply, kept) where
  isPrefix := (List.prefix_cons_inj index).2 List.nil_prefix
  complete := nofun
  endsShown _ := ⟨(index, answer), item, rfl, hshown⟩
  shown := by
    rw [EntryRecord.items_cons, hshown]
    exact h

end Visited

/-- The visitor leaves the world alone and says nothing. -/
def IsQuiet (visitor : Item → StateT σ (Act ω) (Option β)) : Prop :=
  ∀ item s w disk, let replied := ((visitor item).run s).run w disk
    replied.value.2 = w ∧ replied.events = []

theorem visit_records (visitor : Item → StateT σ (Act ω) (Option β)) {s : σ} (indices : List Nat)
    {before : List Item} {kept : σ} (hbefore : Shown visitor s before (none, kept)) (w : ω)
    (disk : Disk) :
    ∃ record,
      Act.Records w disk ((access.recorded.visit reader (unrecorded visitor) indices).run kept)
        ((access.visit reader visitor indices).run kept) record ∧
      Visited visitor s before indices record
        (((access.visit reader visitor indices).run kept).run w disk).value.1 ∧
      (IsQuiet visitor → record <+: access.answers reader indices w disk) := by
  -- What the visitor does in between reaches the next entry: its state, the world and the disk.
  induction indices generalizing before kept w disk with
  | nil => exact ⟨[], Act.Records.pure _, .nil hbefore, fun _ => List.prefix_rfl⟩
  | cons index indices ih =>
    have hasked := access.memberAt_records reader index w disk
    rw [visit_cons_run, visit_cons_run, answers, Act.bind_apply]
    rcases hfound : (access.memberAt reader index).run w disk with ⟨⟨answer, w₁⟩, said⟩
    rw [hfound] at hasked
    dsimp only
    cases hshown : shown? answer with
    | none =>
      obtain ⟨record, hrecords, hvisited, hquiet⟩ := ih hbefore w₁ (disk.after said)
      refine ⟨(index, answer) :: record, hasked.bind hfound ?_, .cons ?_,
        fun h => (List.prefix_cons_inj _).2 (hquiet h)⟩
      · simp only [hshown]
        exact hrecords
      · rw [hshown, Option.toList_none, List.append_nil]
        exact hvisited
    | some item =>
      have hitem := hbefore.next item w₁ (disk.after said)
      have htold : Act.Records w₁ (disk.after said) ((visitor item).run kept).unrecorded
          ((visitor item).run kept) [] := .unrecorded _
      dsimp only
      rw [Act.bind_apply]
      rcases hreplied : ((visitor item).run kept).run w₁ (disk.after said) with
        ⟨⟨⟨_ | reply, kept⟩, w₂⟩, told⟩
      all_goals rw [hreplied] at hitem
      · obtain ⟨record, hrecords, hvisited, hquiet⟩ := ih hitem w₂ ((disk.after said).after told)
        refine ⟨(index, answer) :: record, hasked.bind hfound ?_, .cons ?_,
          fun h => (List.prefix_cons_inj _).2 ?_⟩
        · simp only [hshown]
          exact htold.bind hreplied hrecords
        · rw [hshown]
          exact hvisited
        · obtain ⟨hworld, hsaid⟩ := h item _ w₁ (disk.after said)
          rw [hreplied] at hworld hsaid
          dsimp only at hworld hsaid
          subst hworld hsaid
          exact hquiet h
      · refine ⟨[(index, answer)], hasked.bind hfound ?_, .settled hshown hitem,
          fun _ => (List.prefix_cons_inj _).2 List.nil_prefix⟩
        simp only [hshown]
        exact htold.bind hreplied (Act.Records.pure _)

/-! ## The first items -/

theorem keepUpTo_apply (wanted : Nat) (item : Item) (kept : List Item) (w : ω) (disk : Disk) :
    ((keepUpTo wanted item : StateT (List Item) (Act ω) (Option Unit)).run kept).run w disk =
      ⟨((if wanted ≤ (kept ++ [item]).length then some () else none, kept ++ [item]), w), []⟩ := rfl

theorem isQuiet_keepUpTo (wanted : Nat) :
    IsQuiet (keepUpTo wanted : Item → StateT (List Item) (Act ω) (Option Unit)) :=
  fun _ _ _ _ => ⟨rfl, rfl⟩

theorem Shown.keepUpTo {wanted : Nat} (hwanted : 0 < wanted) {items : List Item}
    {ended : Option Unit × List Item}
    (h : Shown (keepUpTo wanted : Item → StateT (List Item) (Act ω) (Option Unit)) [] items ended) :
    ended.2 = items ∧ items.length ≤ wanted ∧ (ended.1 = none ↔ items.length < wanted) := by
  induction h with
  | start => exact ⟨rfl, Nat.zero_le wanted, iff_of_true rfl hwanted⟩
  | @next before kept h item w disk ih =>
    obtain ⟨hkept, -, hmissing⟩ := ih
    have hlt : before.length < wanted := hmissing.1 rfl
    dsimp only at hkept
    rw [keepUpTo_apply, hkept]
    refine ⟨rfl, ?_, ?_⟩
    · rw [List.length_append]
      exact hlt
    · simp only [ite_eq_right_iff, reduceCtorEq, imp_false, Nat.not_le]

theorem Visited.keepUpTo {wanted : Nat} (hwanted : 0 < wanted) {indices : List Nat}
    {record : EntryRecord} {ended : Option Unit × List Item}
    (h : Visited (keepUpTo wanted : Item → StateT (List Item) (Act ω) (Option Unit)) [] [] indices
      record ended) :
    ended.2 = record.items ∧ record.items.length ≤ wanted ∧
      (record.items.length < wanted → record.map Prod.fst = indices) ∧
      ∀ n < record.length, (EntryRecord.items (record.take n)).length < wanted := by
  obtain ⟨hkept, hle, hmissing⟩ := h.shown.keepUpTo hwanted
  refine ⟨hkept, hle, fun hlt => h.complete (hmissing.2 hlt), fun n hn => ?_⟩
  by_cases hnone : ended.1 = none
  · exact Nat.lt_of_le_of_lt (record.length_items_take_le n) (hmissing.1 hnone)
  · exact Nat.lt_of_lt_of_le ((h.endsShown hnone).length_items_take_lt hn) hle

theorem firstItems_records (wanted : Nat) (w : ω) (disk : Disk) :
    let answers := access.answers reader (access.indices reader) w disk
    ∃ record : EntryRecord, record <+: answers ∧
      Act.Records w disk (access.recorded.firstItems reader wanted)
        (access.firstItems reader wanted) record ∧
      ((access.firstItems reader wanted).run w disk).value.1 = record.items ∧
      record.items = answers.items.take wanted ∧
      (∀ n < record.length, (EntryRecord.items (record.take n)).length < wanted) ∧
      (answers.length ≤ wanted → record = answers) := by
  intro answers
  cases wanted with
  | zero =>
    exact ⟨[], List.nil_prefix, Act.Records.pure _, rfl, rfl, nofun,
      fun h => (List.eq_nil_of_length_eq_zero (Nat.le_zero.1 h)).symm⟩
  | succ wanted =>
    obtain ⟨record, hrecords, hvisited, hquiet⟩ := access.visit_records reader
      (keepUpTo (wanted + 1)) (access.indices reader) .start w disk
    have hprefix : record <+: answers := hquiet (isQuiet_keepUpTo _)
    obtain ⟨hkept, hle, hcomplete, hmissing⟩ := hvisited.keepUpTo (Nat.succ_pos wanted)
    have hrun : Act.Records w disk (access.recorded.firstItems reader (wanted + 1))
        (access.firstItems reader (wanted + 1)) (record ++ []) :=
      hrecords.bind rfl (Act.Records.pure _)
    rw [List.append_nil] at hrun
    rcases Nat.lt_or_eq_of_le hle with hlt | heq
    · have hall : record = answers := by
        refine hprefix.eq_of_length ?_
        rw [← List.length_map Prod.fst, hcomplete hlt,
          ← access.map_fst_answers reader (access.indices reader) w disk, List.length_map]
      refine ⟨record, hprefix, hrun, hkept, ?_, hmissing, fun _ => hall⟩
      rw [← hall, List.take_of_length_le hle]
    · refine ⟨record, hprefix, hrun, hkept, ?_, hmissing, fun h => hprefix.eq_of_length_le ?_⟩
      · rw [Nat.succ_eq_add_one] at heq
        rw [← heq]
        exact EntryRecord.items_of_isPrefix hprefix
      · have hitems : record.items.length ≤ record.length := List.length_filterMap_le _ record
        omega

/-- However the entries answer, as members, directories or errors: all items together are the answers
that are no directories, in the order of the entries, and each entry is asked for once. The first
items are the first of these, and an entry is only asked for while an item is missing. It is the same
for any visitor, whatever it does in between: the entries are asked for in turn, up to the last one
or up to the item that the visitor answers. -/
theorem enumeration_is_complete_and_lazy (w : ω) (disk : Disk) :
    let indices := List.range (access.entryCount reader)
    let answers := access.answers reader indices w disk
    (answers.map Prod.fst = indices ∧
      Act.Records w disk (access.recorded.items reader) (access.items reader) answers ∧
      ((access.items reader).run w disk).value.1 = answers.items) ∧
    (∀ wanted, ∃ asked ≤ access.entryCount reader,
      Act.Records w disk (access.recorded.firstItems reader wanted)
        (access.firstItems reader wanted) (answers.take asked) ∧
      ((access.firstItems reader wanted).run w disk).value.1 = answers.items.take wanted ∧
      EntryRecord.items (answers.take asked) = answers.items.take wanted ∧
      ∀ fewer < asked, (EntryRecord.items (answers.take fewer)).length < wanted) ∧
    ∀ {σ β : Type} (visitor : Item → StateT σ (Act ω) (Option β)) (s : σ), ∃ record,
      Act.Records w disk ((access.recorded.visit reader (unrecorded visitor) indices).run s)
        ((access.visit reader visitor indices).run s) record ∧
      Visited visitor s [] indices record
        (((access.visit reader visitor indices).run s).run w disk).value.1 := by
  intro indices answers
  have hindices : answers.map Prod.fst = indices := access.map_fst_answers reader indices w disk
  have hlength : answers.length = access.entryCount reader := by
    rw [← List.length_map Prod.fst, hindices, List.length_range]
  refine ⟨⟨hindices, ?_⟩, fun wanted => ?_, fun visitor s => ?_⟩
  · obtain ⟨record, -, hrecords, hitems, -, -, hall⟩ :=
      access.firstItems_records reader (access.entryCount reader) w disk
    rw [hall (Nat.le_of_eq hlength)] at hrecords hitems
    exact ⟨hrecords, hitems⟩
  · obtain ⟨record, hprefix, hrecords, hitems, hfirst, hmissing, -⟩ :=
      access.firstItems_records reader wanted w disk
    have htake : record = answers.take record.length := List.prefix_iff_eq_take.1 hprefix
    refine ⟨record.length, hlength ▸ hprefix.length_le, htake ▸ hrecords, hitems.trans hfirst,
      htake ▸ hfirst, fun fewer hfewer => ?_⟩
    have hsame : answers.take fewer = record.take fewer := by
      rw [htake, List.take_take, Nat.min_eq_left (Nat.le_of_lt hfewer)]
    rw [hsame]
    exact hmissing fewer hfewer
  · obtain ⟨record, hrecords, hvisited, -⟩ :=
      access.visit_records reader visitor indices .start w disk
    exact ⟨record, hrecords, hvisited⟩

end ArchiveAccess

/-- Archives that are lists of answers. -/
def ArchiveAccess.listing : ArchiveAccess Unit (List (Except ArchiveError (Option Member))) where
  acquire _ := return .ok []
  release _ := return ()
  path _ := ⟨[]⟩
  entryCount answers := answers.length
  memberAt answers index := return answers[index]?.getD (.ok none)
  member _ _ := return .ok none

theorem damaged_entry_is_second_item :
    let class₁ : Member := ⟨"A.class", 1⟩
    let class₂ : Member := ⟨"B.class", 2⟩
    let damage : ArchiveError := ⟨.ofString "/old.jar", .zip .noSuchEntry⟩
    let entries := [.ok none, .ok (some class₁), .error damage, .ok none, .ok (some class₂)]
    let disk := Disk.still (FileSystem.empty [])
    let all := (ArchiveAccess.listing.recorded.items entries).run ((), []) disk
    let two := (ArchiveAccess.listing.recorded.firstItems entries 2).run ((), []) disk
    all.value.1 = [.ok class₁, .error damage, .ok class₂] ∧
      all.value.2.2.map Prod.fst = [0, 1, 2, 3, 4] ∧
      two.value.1 = [.ok class₁, .error damage] ∧ two.value.2.2.map Prod.fst = [0, 1, 2] := by
  intro class₁ class₂ damage entries disk all two
  obtain ⟨⟨hindices, hall, hitems⟩, hfirst, -⟩ :=
    ArchiveAccess.listing.enumeration_is_complete_and_lazy entries () disk
  obtain ⟨asked, -, htwo, hkept, hshown, hmissing⟩ := hfirst 2
  let answers := ArchiveAccess.listing.answers entries (List.range 5) () disk
  have htooFew : ∀ fewer < 3, EntryRecord.items (answers.take fewer) ≠ answers.items.take 2 := by
    decide
  have hasked : asked = 3 := by
    rcases Nat.lt_trichotomy asked 3 with hless | heq | hmore
    · exact absurd hshown (htooFew asked hless)
    · exact heq
    · exact absurd (hmissing 3 hmore) (by decide)
  subst hasked
  have hall := hall []
  have htwo := htwo []
  refine ⟨?_, ?_, ?_, ?_⟩
  · rw [show all = _ from hall, hitems]
    rfl
  · rw [show all = _ from hall]
    exact hindices
  · rw [show two = _ from htwo, hkept]
    rfl
  · rw [show two = _ from htwo]
    rfl

end Rebuild
