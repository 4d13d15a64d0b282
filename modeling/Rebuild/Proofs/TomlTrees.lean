import Rebuild.Toml.Document

/-!
# Documents are trees

A document that has a key twice in one table is refused, wherever the second one comes from: a
line, a dotted key, a header or a pair in braces. So what a text is read as is a tree, in which a
path of keys leads to at most one value.
-/

namespace Rebuild

variable {α β σ : Type}

namespace Scan

/-- What the scan takes is good, whatever text it stands in front of. -/
def Gives (good : α → Prop) (scan : Scan α) : Prop :=
  ∀ ⦃text value rest⦄, scan text = some (value, rest) → good value

namespace Gives

variable {good : α → Prop}

theorem pure {value : α} (h : good value) : Gives good (Pure.pure value) := by
  intro text found rest hfound
  cases hfound
  exact h

theorem failure : Gives good (failure : Scan α) := by
  intro text found rest hfound
  cases hfound

theorem bind {known : β → Prop} {scan : Scan β} {next : β → Scan α} (hscan : Gives known scan)
    (hnext : ∀ value, known value → Gives good (next value)) : Gives good (scan >>= next) := by
  intro text found rest hfound
  obtain ⟨⟨value, between⟩, hvalue, hfound⟩ := Option.bind_eq_some_iff.mp hfound
  exact hnext value (hscan hvalue) hfound

theorem after {scan : Scan β} {next : β → Scan α} (hnext : ∀ value, Gives good (next value)) :
    Gives good (scan >>= next) :=
  bind (fun _ _ _ _ => trivial) fun value _ => hnext value

theorem lift {known : Option α} (h : ∀ value, known = some value → good value) :
    Gives good (liftM known : Scan α) := by
  intro text found rest hfound
  obtain ⟨value, hvalue, hfound⟩ := Option.bind_eq_some_iff.mp hfound
  cases hfound
  exact h _ hvalue

theorem ite {condition : Bool} {first second : Scan α} (hfirst : Gives good first)
    (hsecond : Gives good second) : Gives good (if condition then first else second) := by
  cases condition with
  | true => exact hfirst
  | false => exact hsecond

/-- What a step hands to the next one satisfies the invariant, and what it ends with is good. -/
def Step (invariant : σ → Prop) (good : α → Prop) : σ ⊕ α → Prop
  | .inl state => invariant state
  | .inr value => good value

theorem loop (invariant : σ → Prop) {step : σ → Scan (σ ⊕ α)} {state : σ}
    (hstep : ∀ state, invariant state → Gives (Step invariant good) (step state))
    (hstate : invariant state) : Gives good (loop step state) := by
  intro text
  fun_induction Scan.loop step state text with
  | case1 state text h => intro found rest hfound; cases hfound
  | case2 state text value after h =>
    intro found rest hfound
    cases hfound
    exact hstep state hstate h
  | case3 state text next after h hshorter ih => exact ih (hstep state hstate h)
  | case4 state text next after h hshorter => intro found rest hfound; cases hfound

end Gives

end Scan

namespace Toml

open Rebuild.Scan (Gives)

/-! ## Trees -/

/-- Every table in the value has its keys once each. -/
inductive Value.IsTree : Value → Prop
  | string (text : String) : IsTree (.string text)
  | integer (value : Int) : IsTree (.integer value)
  | float (value : Binary64) : IsTree (.float value)
  | boolean (value : Bool) : IsTree (.boolean value)
  | dateTime : IsTree .dateTime
  | array {items : List Value} (hitems : ∀ item ∈ items, IsTree item) : IsTree (.array items)
  | table {entries : List (String × Value)} (hkeys : (entries.map Prod.fst).Nodup)
      (hentries : ∀ entry ∈ entries, IsTree entry.2) : IsTree (.table entries)

inductive Node.IsTree : Node → Prop
  | value {value : Value} (hvalue : value.IsTree) : IsTree (.value value)
  | table {standing : Standing} {entries : Entries} (hkeys : (entries.map Prod.fst).Nodup)
      (hentries : ∀ entry ∈ entries, IsTree entry.2) : IsTree (.table standing entries)
  | tables {items : List Node} (hitems : ∀ item ∈ items, IsTree item) : IsTree (.tables items)

theorem Value.IsTree.keys {entries : List (String × Value)} (h : (Value.table entries).IsTree) :
    (entries.map Prod.fst).Nodup := by
  cases h with
  | table hkeys hentries => exact hkeys

theorem Value.IsTree.entries {entries : List (String × Value)} (h : (Value.table entries).IsTree) :
    ∀ entry ∈ entries, entry.2.IsTree := by
  cases h with
  | table hkeys hentries => exact hentries

structure Entries.IsTree (entries : Entries) : Prop where
  keys : (entries.map Prod.fst).Nodup
  nodes : ∀ entry ∈ entries, entry.2.IsTree

theorem Entries.IsTree.table {entries : Entries} (h : entries.IsTree) (standing : Standing) :
    (Node.table standing entries).IsTree :=
  .table h.keys h.nodes

theorem Node.IsTree.entries {standing : Standing} {entries : Entries}
    (h : (Node.table standing entries).IsTree) : entries.IsTree := by
  cases h with
  | table hkeys hentries => exact ⟨hkeys, hentries⟩

theorem Node.IsTree.items {items : List Node} (h : (Node.tables items).IsTree) :
    ∀ item ∈ items, item.IsTree := by
  cases h with
  | tables hitems => exact hitems

theorem finishEntries_eq_map (entries : Entries) :
    finishEntries entries = entries.map fun (key, node) => (key, node.finish) := by
  induction entries with
  | nil => rfl
  | cons entry rest ih => rw [finishEntries, ih]; rfl

theorem finishItems_eq_map (items : List Node) : finishItems items = items.map Node.finish := by
  induction items with
  | nil => rfl
  | cons item rest ih => rw [finishItems, ih]; rfl

theorem keys_finishEntries (entries : Entries) :
    (finishEntries entries).map Prod.fst = entries.map Prod.fst := by
  rw [finishEntries_eq_map, List.map_map]
  rfl

theorem Node.IsTree.finish {node : Node} (h : node.IsTree) : node.finish.IsTree := by
  induction h with
  | value hvalue => exact hvalue
  | @table standing entries hkeys hentries ih =>
    rw [Node.finish]
    refine .table (by rwa [keys_finishEntries]) ?_
    rw [finishEntries_eq_map]
    exact List.forall_mem_map.mpr ih
  | @tables items hitems ih =>
    rw [Node.finish, finishItems_eq_map]
    exact .array (List.forall_mem_map.mpr ih)

theorem Entries.IsTree.finish {entries : Entries} (h : entries.IsTree) :
    (Value.table (finishEntries entries)).IsTree :=
  (h.table .declared).finish

/-! ## Changes of a table -/

namespace Entries

theorem mem_set {key : String} {node : Node} {entries : Entries} {entry : String × Node}
    (h : entry ∈ entries.set key node) : entry = (key, node) ∨ entry ∈ entries := by
  induction entries with
  | nil => exact .inl (List.mem_singleton.mp h)
  | cons first rest ih =>
    obtain ⟨other, old⟩ := first
    rw [set] at h
    split at h
    · exact (List.mem_cons.mp h).imp_right (List.mem_cons_of_mem _)
    · rcases List.mem_cons.mp h with rfl | h
      · exact .inr List.mem_cons_self
      · exact (ih h).imp_right (List.mem_cons_of_mem _)

theorem nodup_keys_set {key : String} {node : Node} {entries : Entries}
    (h : (entries.map Prod.fst).Nodup) : ((entries.set key node).map Prod.fst).Nodup := by
  induction entries with
  | nil => simp [set]
  | cons first rest ih =>
    obtain ⟨other, old⟩ := first
    obtain ⟨hother, hrest⟩ := List.nodup_cons.mp h
    rw [set]
    split
    next heq => exact heq ▸ h
    next hne =>
      refine List.nodup_cons.mpr ⟨fun hmem => ?_, ih hrest⟩
      obtain ⟨entry, hentry, hkey⟩ := List.mem_map.mp hmem
      rcases mem_set hentry with rfl | hentry
      · exact hne hkey.symm
      · exact hother (List.mem_map.mpr ⟨entry, hentry, hkey⟩)

namespace IsTree

variable {entries : Entries} {key : String} {node : Node}

theorem empty : IsTree [] := ⟨List.nodup_nil, fun _ hentry => absurd hentry List.not_mem_nil⟩

theorem set (h : entries.IsTree) (hnode : node.IsTree) : (entries.set key node).IsTree where
  keys := nodup_keys_set h.keys
  nodes entry hentry := by
    rcases mem_set hentry with rfl | hentry
    · exact hnode
    · exact h.nodes entry hentry

theorem erase (h : entries.IsTree) : (entries.erase key).IsTree where
  keys := h.keys.sublist (List.filter_sublist.map Prod.fst)
  nodes entry hentry := h.nodes entry (List.mem_filter.mp hentry).1

theorem find? (h : entries.IsTree) (hfind : entries.find? key = some node) : node.IsTree := by
  obtain ⟨front, back, rfl, -⟩ := List.lookup_eq_some_iff.mp hfind
  exact h.nodes (key, node) (by simp)

end IsTree

end Entries

/-- A change that leaves a tree behind if it finds one, with a good answer. -/
def KeepsTrees (good : α → Prop) (change : Change α) : Prop :=
  ∀ ⦃standing entries answer after⦄, Entries.IsTree entries →
    change standing entries = some (answer, after) → good answer ∧ Entries.IsTree after

theorem descend_keepsTrees {good : α → Prop} {change : Change α} (h : KeepsTrees good change)
    (made : Standing) (path : List String) : KeepsTrees good (descend made change path) := by
  induction path with
  | nil => exact h
  | cons key path ih =>
    intro standing entries answer after htree hchange
    rw [descend] at hchange
    split at hchange
    next =>
      obtain ⟨⟨found, inner⟩, hbelow, heq⟩ := Option.bind_eq_some_iff.mp hchange
      obtain ⟨hgood, hinner⟩ := ih .empty hbelow
      cases heq
      exact ⟨hgood, htree.set (hinner.table made)⟩
    next below within hfind =>
      split at hchange
      · cases hchange
      · obtain ⟨⟨found, inner⟩, hbelow, heq⟩ := Option.bind_eq_some_iff.mp hchange
        obtain ⟨hgood, hinner⟩ := ih (htree.find? hfind).entries hbelow
        cases heq
        exact ⟨hgood, htree.set (hinner.table below)⟩
    next items hfind =>
      have hitems := (htree.find? hfind).items
      split at hchange
      next below within hlast =>
        obtain ⟨⟨found, inner⟩, hbelow, heq⟩ := Option.bind_eq_some_iff.mp hchange
        obtain ⟨hgood, hinner⟩ := ih (hitems _ (List.mem_of_getLast? hlast)).entries hbelow
        cases heq
        refine ⟨hgood, htree.set (.tables fun item hitem => ?_)⟩
        rcases List.mem_append.mp hitem with hitem | hitem
        · exact hitems item ((List.dropLast_sublist items).subset hitem)
        · exact List.mem_singleton.mp hitem ▸ hinner.table below
      · cases hchange
    next => cases hchange

theorem descend_isTree {change : Change α} {made : Standing} {path : List String}
    {entries after : Entries} {good : α → Prop} (hchange : KeepsTrees good change)
    (hentries : entries.IsTree)
    (h : (descend made change path .declared entries).map (·.2) = some after) :
    after.IsTree := by
  obtain ⟨⟨answer, _⟩, hdescend, rfl⟩ := Option.map_eq_some_iff.mp h
  exact (descend_keepsTrees hchange made path hentries hdescend).2

theorem insertKey_keepsTrees {value : Value} (hvalue : value.IsTree) (isDotted : Bool)
    (key : String) : KeepsTrees (fun _ => True) (insertKey isDotted key value) := by
  intro standing entries answer after htree hchange
  rw [insertKey] at hchange
  split at hchange
  · cases hchange
  · split at hchange <;> cases hchange
    exact ⟨trivial, htree.set (.value hvalue)⟩

theorem insertAt_isTree {path : List String} {key : String} {value : Value}
    {entries after : Entries} (hvalue : value.IsTree) (hentries : entries.IsTree)
    (h : insertAt path key value entries = some after) : after.IsTree :=
  descend_isTree (insertKey_keepsTrees hvalue _ key) hentries h

theorem foldlM_isTree {items : List β} {step : Entries → β → Option Entries}
    (hstep : ∀ item ∈ items, ∀ before after : Entries, before.IsTree →
      step before item = some after → after.IsTree)
    {before after : Entries} (hbefore : before.IsTree)
    (h : items.foldlM step before = some after) : after.IsTree := by
  induction items generalizing before with
  | nil =>
    cases h
    exact hbefore
  | cons item rest ih =>
    obtain ⟨hitem, hrest⟩ := List.forall_mem_cons.mp hstep
    obtain ⟨between, hbetween, h⟩ := Option.bind_eq_some_iff.mp h
    exact ih hrest (hitem before between hbefore hbetween) h

/-- All values of the pairs are trees. -/
def LeadToTrees (pairs : List ((List String × String) × Value)) : Prop :=
  ∀ pair ∈ pairs, pair.2.IsTree

theorem leadToTrees_nil : LeadToTrees [] := fun _ hpair => absurd hpair List.not_mem_nil

theorem ofPairs?_isTree {pairs : List ((List String × String) × Value)} {value : Value}
    (hpairs : LeadToTrees pairs) (h : ofPairs? pairs = some value) : value.IsTree := by
  obtain ⟨entries, hentries, heq⟩ := Option.bind_eq_some_iff.mp h
  cases heq
  refine (foldlM_isTree ?_ .empty hentries).finish
  intro pair hpair before after hbefore hinsert
  exact insertAt_isTree (hpairs pair hpair) hbefore hinsert

/-! ## Values of a text -/

namespace Scan

open Rebuild.Scan

theorem scalar?_isTree {text : List Char} {value : Value} (h : scalar? text = some value) :
    value.IsTree := by
  rw [scalar?] at h
  split at h
  · cases h; exact .boolean true
  · split at h
    · cases h; exact .boolean false
    · split at h
      · cases h; exact .dateTime
      · split at h
        · cases h; exact .integer _
        · obtain ⟨float, -, rfl⟩ := Option.map_eq_some_iff.mp h
          exact .float float

theorem scalar_gives : Gives Value.IsTree scalar := by
  refine .after fun token => .after fun timed => .ite
    (.after fun _ => .after fun time => .after fun token => ?_) (.after fun token => ?_)
  all_goals
    dsimp only
    split
    next value h => exact .pure (scalar?_isTree h)
    next => exact .failure

theorem array_gives {item : Scan Value} (hitem : Gives Value.IsTree item) :
    Gives Value.IsTree (array item) := by
  refine .after fun _ => .loop (fun taken => ∀ value ∈ taken, value.IsTree) ?_ (by simp)
  intro taken htaken
  refine .after fun _ => .after fun closed => .ite ?_ (.bind hitem fun value hvalue => ?_)
  · exact .pure (.array fun value hmem => htaken value (List.mem_reverse.mp hmem))
  · have htaken : ∀ other ∈ value :: taken, other.IsTree :=
      List.forall_mem_cons.mpr ⟨hvalue, htaken⟩
    refine .after fun _ => .after fun more => .ite (.pure htaken) (.after fun _ => ?_)
    exact .pure (.array fun value hmem => htaken value (List.mem_reverse.mp hmem))

theorem pair_gives {item : Scan Value} (hitem : Gives Value.IsTree item) :
    Gives (fun pair => pair.2.IsTree) (pair item) :=
  .after fun _ => .after fun _ => .after fun _ => .bind hitem fun _ hvalue => .pure hvalue

theorem inlineTable_gives {item : Scan Value} (hitem : Gives Value.IsTree item) :
    Gives Value.IsTree (inlineTable item) := by
  refine .after fun _ => .after fun _ => .after fun closed => .ite
    (.bind (.pure leadToTrees_nil) fun pairs hpairs => ?_)
    (.bind (.loop LeadToTrees ?_ leadToTrees_nil) fun pairs (hpairs : LeadToTrees pairs) => ?_)
  case refine_2 =>
    intro taken htaken
    refine .bind (pair_gives hitem) fun next hnext => ?_
    have htaken : LeadToTrees (next :: taken) := List.forall_mem_cons.mpr ⟨hnext, htaken⟩
    have hreverse : LeadToTrees (next :: taken).reverse := fun pair hpair =>
      htaken pair (List.mem_reverse.mp hpair)
    exact .after fun _ => .after fun more => .ite (.pure htaken) (.after fun _ => .pure hreverse)
  all_goals
    dsimp only
    split
    next value h => exact .pure (ofPairs?_isTree hpairs h)
    next => exact .failure

theorem valueAt_gives (levels : Nat) : Gives Value.IsTree (valueAt levels) := by
  induction levels with
  | zero =>
    rw [valueAt]
    refine .after fun next => ?_
    split
    · exact .after fun text => .pure (.string text)
    · exact .after fun text => .pure (.string text)
    · exact .failure
    · exact .failure
    · exact scalar_gives
  | succ levels ih =>
    rw [valueAt]
    refine .after fun next => ?_
    split
    · exact .after fun text => .pure (.string text)
    · exact .after fun text => .pure (.string text)
    · exact array_gives ih
    · exact inlineTable_gives ih
    · exact scalar_gives

end Scan

/-! ## Documents -/

namespace Document

structure IsTree (document : Document) : Prop where
  root : document.root.IsTree
  pending : document.pending.IsTree

theorem place_keepsTrees {table : Entries} (h : table.IsTree) (key : String) :
    KeepsTrees (fun _ => True) (place key table) := by
  intro standing entries answer after htree hchange
  rw [place] at hchange
  split at hchange <;> cases hchange
  exact ⟨trivial, htree.set (h.table .declared)⟩

theorem placeRepeated_keepsTrees {table : Entries} (h : table.IsTree) (key : String) :
    KeepsTrees (fun _ => True) (placeRepeated key table) := by
  intro standing entries answer after htree hchange
  have htable (items : List Node) (hitems : ∀ item ∈ items, item.IsTree) :
      (Node.tables (items ++ [.table .declared table])).IsTree := by
    refine .tables fun item hitem => ?_
    rcases List.mem_append.mp hitem with hitem | hitem
    · exact hitems item hitem
    · exact List.mem_singleton.mp hitem ▸ h.table .declared
  rw [placeRepeated] at hchange
  split at hchange
  next items hfind =>
    cases hchange
    exact ⟨trivial, htree.set (htable items (htree.find? hfind).items)⟩
  · cases hchange
  · cases hchange
    exact ⟨trivial, htree.set (htable [] fun _ hitem => absurd hitem List.not_mem_nil)⟩

theorem reopen_keepsTrees (key : String) : KeepsTrees Entries.IsTree (reopen key) := by
  intro standing entries answer after htree hchange
  rw [reopen] at hchange
  split at hchange
  · cases hchange
    exact ⟨.empty, htree⟩
  next inner hfind =>
    cases hchange
    exact ⟨(htree.find? hfind).entries, htree.erase⟩
  · cases hchange

theorem reserve_keepsTrees (key : String) : KeepsTrees (fun _ => True) (reserve key) := by
  intro standing entries answer after htree hchange
  rw [reserve] at hchange
  split at hchange
  · cases hchange
    exact ⟨trivial, htree⟩
  · cases hchange
  · cases hchange
    exact ⟨trivial, htree.set (.tables fun _ hitem => absurd hitem List.not_mem_nil)⟩

variable {document : Document}

theorem close_isTree (h : document.IsTree) {entries : Entries}
    (hclose : document.close = some entries) : entries.IsTree := by
  rw [close] at hclose
  split at hclose
  · cases hclose
    exact h.pending
  next path key hheader =>
    have hchange : KeepsTrees (fun _ => True)
        ((if document.repeated then placeRepeated else place) key document.pending) := by
      split
      · exact placeRepeated_keepsTrees h.pending key
      · exact place_keepsTrees h.pending key
    exact descend_isTree hchange h.root hclose

theorem openTable_isTree (h : document.IsTree) {path : List String} {key : String}
    {next : Document} (hopen : document.openTable path key = some next) : next.IsTree := by
  obtain ⟨closed, hclosed, hopen⟩ := Option.bind_eq_some_iff.mp hopen
  obtain ⟨⟨entries, root⟩, hdescend, heq⟩ := Option.bind_eq_some_iff.mp hopen
  obtain ⟨hentries, hroot⟩ :=
    descend_keepsTrees (reopen_keepsTrees key) .passed path (close_isTree h hclosed) hdescend
  cases heq
  exact ⟨hroot, hentries⟩

theorem openRepeated_isTree (h : document.IsTree) {path : List String} {key : String}
    {next : Document} (hopen : document.openRepeated path key = some next) : next.IsTree := by
  obtain ⟨closed, hclosed, hopen⟩ := Option.bind_eq_some_iff.mp hopen
  obtain ⟨⟨_, root⟩, hdescend, heq⟩ := Option.bind_eq_some_iff.mp hopen
  obtain ⟨-, hroot⟩ :=
    descend_keepsTrees (reserve_keepsTrees key) .passed path (close_isTree h hclosed) hdescend
  cases heq
  exact ⟨hroot, .empty⟩

theorem addKey_isTree (h : document.IsTree) {path : List String} {key : String} {value : Value}
    (hvalue : value.IsTree) {next : Document} (hadd : document.addKey path key value = some next) :
    next.IsTree := by
  obtain ⟨pending, hpending, heq⟩ := Option.bind_eq_some_iff.mp hadd
  cases heq
  exact ⟨h.root, insertAt_isTree hvalue h.pending hpending⟩

theorem headerLine_gives (h : document.IsTree) : Gives IsTree document.headerLine := by
  refine .after fun _ => .after fun isRepeated => .after fun name => ?_
  have hopened : Gives IsTree (do
      Scan.lineEnd
      liftM (if isRepeated then document.openRepeated name.1 name.2
        else document.openTable name.1 name.2)) := by
    refine .after fun _ => .lift fun next hnext => ?_
    cases isRepeated with
    | true => exact openRepeated_isTree h hnext
    | false => exact openTable_isTree h hnext
  exact .after fun _ => .ite (.after fun _ => hopened) hopened

theorem keyLine_gives (h : document.IsTree) : Gives IsTree document.keyLine :=
  .bind (Scan.pair_gives (Scan.valueAt_gives Scan.maxNesting)) fun _ hvalue =>
    .after fun _ => .lift fun _ hnext => addKey_isTree h hvalue hnext

theorem line_gives (h : document.IsTree) : Gives (Gives.Step IsTree IsTree) document.line := by
  refine .after fun _ => .after fun next => ?_
  split
  · exact .pure h
  · exact .bind (headerLine_gives h) fun _ hnext => .pure hnext
  · exact .after fun _ => .pure h
  · exact .after fun _ => .pure h
  · exact .after fun _ => .pure h
  · exact .bind (keyLine_gives h) fun _ hnext => .pure hnext

end Document

/-- What a text is read as has every key of every table once. -/
theorem parse?_isTree {text : String} {entries : List (String × Value)}
    (h : parse? text = some entries) : (Value.table entries).IsTree := by
  obtain ⟨⟨document, rest⟩, hdocument, h⟩ := Option.bind_eq_some_iff.mp h
  obtain ⟨root, hroot, heq⟩ := Option.bind_eq_some_iff.mp h
  cases heq
  have hread : document.IsTree :=
    Gives.loop Document.IsTree (fun _ => Document.line_gives) ⟨.empty, .empty⟩ hdocument
  exact (Document.close_isTree hread hroot).finish

end Toml

end Rebuild
