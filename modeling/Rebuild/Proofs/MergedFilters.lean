import Rebuild.Log.Filter
import Rebuild.Proofs.PathSegments

/-!
# The level and the environment merged

Two lists of directives with a comma between are one list, and it can be read exactly if both can.
So the directives of the environment win target by target, and none of the two texts hides the other
by being no list of directives.
-/

namespace Rebuild

/-! ## Later ones replace earlier ones -/

section Lasts

variable {α : Type} (same : α → α → Bool)

/-- The items that no later one replaces. -/
def lasts : List α → List α
  | [] => []
  | a :: rest => if rest.any (same a) then lasts rest else a :: lasts rest

theorem lasts_append (front back : List α) :
    lasts same (front ++ back) =
      (lasts same front).filter (fun a => !back.any (same a)) ++ lasts same back := by
  induction front with
  | nil => rfl
  | cons a front ih =>
    rw [List.cons_append, lasts, lasts, ih, List.any_append]
    cases hfront : front.any (same a) <;> cases hback : back.any (same a) <;> simp [hback]

variable {same}

theorem lasts_filter {keep : α → Bool} (h : ∀ a b, same a b = true → keep a = keep b)
    (items : List α) : lasts same (items.filter keep) = (lasts same items).filter keep := by
  induction items with
  | nil => rfl
  | cons a items ih =>
    cases hkeep : keep a with
    | true =>
      -- What replaces an item that is kept is kept as well.
      have hany : (items.filter keep).any (same a) = items.any (same a) := by
        rw [List.any_filter]
        congr 1
        funext b
        cases hsame : same a b with
        | false => rw [Bool.and_false]
        | true => rw [← h a b hsame, hkeep, Bool.and_true]
      rw [List.filter_cons_of_pos hkeep, lasts, lasts, hany, ih]
      split
      · rfl
      · rw [List.filter_cons_of_pos hkeep]
    | false =>
      have hnot : ¬ keep a = true := Bool.eq_false_iff.1 hkeep
      rw [List.filter_cons_of_neg hnot, ih, lasts]
      split
      · rfl
      · rw [List.filter_cons_of_neg hnot]

end Lasts

namespace LogFilter

/-! ## Texts of directives -/

/-- What stands between the commas of a text, where that is anything. -/
def pieces (text : String) : List String :=
  ((cut ',' text.toList).filter (!·.isEmpty)).map String.ofList

section Text

variable {δ : Type} (directive? : String → Option δ)

/-- The text is a list of directives. -/
def IsList (text : String) : Prop := ∀ piece ∈ pieces text, directive? piece ≠ none

instance [DecidableEq δ] (text : String) : Decidable (IsList directive? text) :=
  inferInstanceAs (Decidable (∀ piece ∈ pieces text, directive? piece ≠ none))

def directives (text : String) : List δ := (pieces text).filterMap directive?

theorem pieces_append (front back : String) :
    pieces (front ++ "," ++ back) = pieces front ++ pieces back := by
  unfold pieces
  rw [String.toList_append, String.toList_append, List.append_assoc]
  rw [show ",".toList ++ back.toList = ',' :: back.toList from rfl, cut_append_cons,
    List.filter_append, List.map_append]

theorem isList_append_iff (front back : String) :
    IsList directive? (front ++ "," ++ back) ↔
      IsList directive? front ∧ IsList directive? back := by
  unfold IsList
  rw [pieces_append]
  exact List.forall_mem_append

theorem directives_append (front back : String) :
    directives directive? (front ++ "," ++ back) =
      directives directive? front ++ directives directive? back := by
  unfold directives
  rw [pieces_append, List.filterMap_append]

end Text

/-! ## Merging, however filters are read -/

section Merge

variable {δ φ : Type} {directive? : String → Option δ} {same : δ → δ → Bool} {usual : List δ}
  {holds : φ → δ → Prop} {read? : String → Option φ}

def orUsual (usual directives : List δ) : List δ :=
  if directives.isEmpty then usual else directives

theorem orUsual_nil (directives : List δ) : orUsual [] directives = directives := by
  cases directives <;> rfl

/-- What is known of a way to read filters. Each piece between commas has to be a directive, if it
is not empty. A directive is replaced by a later one for the same, and a filter without any stands
for some that are usual. -/
structure ReadsLists (directive? : String → Option δ) (same : δ → δ → Bool) (usual : List δ)
    (holds : φ → δ → Prop) (read? : String → Option φ) : Prop where
  eq_none_iff : ∀ text, read? text = none ↔ ∃ piece ∈ pieces text, directive? piece = none
  holds_iff : ∀ text filter, read? text = some filter → ∀ directive, holds filter directive ↔
    directive ∈ orUsual usual (lasts same (directives directive? text))

namespace ReadsLists

variable (h : ReadsLists directive? same usual holds read?)

include h

theorem eq_none_of_not_isList {text : String} (htext : ¬ IsList directive? text) :
    read? text = none := by
  unfold IsList at htext
  rw [h.eq_none_iff]
  simpa using htext

theorem exists_of_isList {text : String} (htext : IsList directive? text) :
    ∃ filter, read? text = some filter := by
  cases hread : read? text with
  | some filter => exact ⟨filter, rfl⟩
  | none =>
    obtain ⟨piece, hmem, hpiece⟩ := (h.eq_none_iff text).1 hread
    exact absurd hpiece (htext piece hmem)

end ReadsLists

section MergeWith

variable (read?) (fallback : φ) (level : String) {environment : Option String} {text : String}

theorem mergeWith_none : mergeWith read? fallback level none =
    (read? (normalizeLevel level)).getD fallback := rfl

theorem mergeWith_of_blank (h : ∀ text, environment = some text → trimmed text = "") :
    mergeWith read? fallback level environment = mergeWith read? fallback level none := by
  cases environment with
  | none => rfl
  | some text =>
    unfold mergeWith
    rw [Option.map_some, h text rfl]
    rfl

theorem mergeWith_of_text (h : trimmed text ≠ "") : mergeWith read? fallback level (some text) =
    (read? (normalizeLevel level ++ "," ++ trimmed text) <|> read? (trimmed text)).getD
      (mergeWith read? fallback level none) := by
  have hnonempty : (!(trimmed text).isEmpty) = true := by simpa using h
  unfold mergeWith
  rw [Option.map_some, Option.filter_some, if_pos hnonempty]
  rfl

end MergeWith

theorem ReadsLists.mergeWith_eq_none (h : ReadsLists directive? same usual holds read?)
    (fallback : φ) (level : String) {environment : Option String}
    (hnone : ∀ text, environment = some text →
      trimmed text = "" ∨ ¬ IsList directive? (trimmed text)) :
    mergeWith read? fallback level environment = mergeWith read? fallback level none := by
  by_cases hblank : ∀ text, environment = some text → trimmed text = ""
  · exact mergeWith_of_blank read? fallback level hblank
  · obtain ⟨text, hblank⟩ := Classical.not_forall.1 hblank
    obtain ⟨rfl, htext⟩ := Classical.not_imp.1 hblank
    have hown := (hnone text rfl).resolve_left htext
    have hboth : ¬ IsList directive? (normalizeLevel level ++ "," ++ trimmed text) :=
      fun hlist => hown ((isList_append_iff directive? _ _).1 hlist).2
    rw [mergeWith_of_text read? fallback level htext, h.eq_none_of_not_isList hboth,
      h.eq_none_of_not_isList hown]
    rfl

/-- If the environment has a list of directives, the filter holds the last ones of them, and the
last ones of the level that they do not replace; those of the level are left out if the level is no
list. If it has none, the filter is that of the level alone, or the one for warnings if the level is
no list either. -/
theorem merge_keeps_environment (h : ReadsLists directive? same usual holds read?) {fallback : φ}
    (hfallback : ∀ directive, holds fallback directive ↔ directive? "warn" = some directive)
    (level : String) (environment : Option String) :
    let filter := mergeWith read? fallback level environment
    let configured := normalizeLevel level
    (∀ text, environment = some text → trimmed text ≠ "" → IsList directive? (trimmed text) →
      let own := directives directive? (trimmed text)
      let unmentioned := (lasts same (directives directive? configured)).filter
        fun directive => !own.any (same directive)
      (IsList directive? configured → ∀ directive, holds filter directive ↔
        directive ∈ orUsual usual (unmentioned ++ lasts same own)) ∧
      (¬ IsList directive? configured → ∀ directive, holds filter directive ↔
        directive ∈ orUsual usual (lasts same own))) ∧
    ((∀ text, environment = some text →
        trimmed text = "" ∨ ¬ IsList directive? (trimmed text)) →
      filter = mergeWith read? fallback level none ∧
      (IsList directive? configured → read? configured = some filter ∧
        ∀ directive, holds filter directive ↔
          directive ∈ orUsual usual (lasts same (directives directive? configured))) ∧
      (¬ IsList directive? configured → filter = fallback ∧
        ∀ directive, holds filter directive ↔ directive? "warn" = some directive)) := by
  intro filter configured
  constructor
  · rintro text rfl htext hown own unmentioned
    have hfilter : filter = _ := mergeWith_of_text read? fallback level htext
    constructor
    · intro hconfigured
      obtain ⟨found, hfound⟩ := h.exists_of_isList
        ((isList_append_iff directive? configured (trimmed text)).2 ⟨hconfigured, hown⟩)
      rw [hfound] at hfilter
      obtain rfl : filter = found := hfilter
      rw [← lasts_append, ← directives_append]
      exact h.holds_iff _ filter hfound
    · intro hconfigured
      have hboth : read? (configured ++ "," ++ trimmed text) = none :=
        h.eq_none_of_not_isList fun hlist =>
          hconfigured ((isList_append_iff directive? configured (trimmed text)).1 hlist).1
      obtain ⟨found, hfound⟩ := h.exists_of_isList hown
      rw [hboth, hfound] at hfilter
      obtain rfl : filter = found := hfilter
      exact h.holds_iff _ filter hfound
  · intro hnone
    have hfilter : filter = mergeWith read? fallback level none :=
      h.mergeWith_eq_none fallback level hnone
    refine ⟨hfilter, ?_, ?_⟩
    · intro hconfigured
      obtain ⟨found, hfound⟩ := h.exists_of_isList hconfigured
      rw [mergeWith_none, hfound] at hfilter
      obtain rfl : filter = found := hfilter
      exact ⟨hfound, h.holds_iff _ filter hfound⟩
    · intro hconfigured
      rw [mergeWith_none, h.eq_none_of_not_isList hconfigured] at hfilter
      rw [Option.getD_none] at hfilter
      rw [hfilter]
      exact ⟨rfl, hfallback⟩

end Merge

/-! ## Filters as they are read here -/

theorem foldl_put (directives kept : List Directive) :
    directives.foldl put kept =
      kept.filter (fun directive => !directives.any directive.hasSameSelection) ++
        lasts Directive.hasSameSelection directives := by
  induction directives generalizing kept with
  | nil =>
    rw [lasts, List.append_nil]
    exact (List.filter_eq_self.2 fun _ _ => rfl).symm
  | cons directive directives ih =>
    have hkept : (kept.filter (!·.hasSameSelection directive)).filter
          (fun other => !directives.any other.hasSameSelection) =
        kept.filter fun other => !(directive :: directives).any other.hasSameSelection := by
      rw [List.filter_filter]
      congr 1
      funext other
      rw [List.any_cons, Bool.not_or, Bool.and_comm]
    rw [List.foldl_cons, ih, put, List.filter_append, hkept, List.append_assoc, lasts]
    cases hany : directives.any directive.hasSameSelection with
    | true => simp only [hany, Bool.not_true, List.filter_cons, List.filter_nil, Bool.false_eq_true,
        ↓reduceIte, List.nil_append]
    | false => simp only [hany, Bool.not_false, List.filter_cons, List.filter_nil,
        Bool.false_eq_true, ↓reduceIte, List.singleton_append]

theorem foldl_put_nil (directives : List Directive) :
    directives.foldl put [] = lasts Directive.hasSameSelection directives :=
  foldl_put directives []

end LogFilter

namespace Directive

variable {a b : Directive}

theorem asks_alike (h : a.hasSameSelection b = true) :
    a.span = b.span ∧ a.field.isSome = b.field.isSome ∧
      a.field.all (fun field => field.value.isNone) =
        b.field.all fun field => field.value.isNone := by
  unfold hasSameSelection at h
  obtain ⟨hselection, hfield⟩ := Bool.and_eq_true_iff.1 h
  refine ⟨beq_iff_eq.1 (Bool.and_eq_true_iff.1 hselection).2, ?_⟩
  cases ha : a.field with
  | none => cases hb : b.field <;> simp_all
  | some wanted =>
    cases hb : b.field with
    | none => simp_all
    | some other =>
      rw [ha, hb] at hfield
      obtain ⟨-, hvalue⟩ := Bool.and_eq_true_iff.1 hfield
      cases hwanted : wanted.value <;> cases hother : other.value <;> simp_all

theorem isForEvents_eq_of_hasSameSelection (a b : Directive) (h : a.hasSameSelection b = true) :
    a.isForEvents = b.isForEvents := by
  obtain ⟨hspan, -, hvalue⟩ := asks_alike h
  unfold isForEvents
  rw [hspan, hvalue]

theorem isForSpans_eq_of_hasSameSelection (a b : Directive) (h : a.hasSameSelection b = true) :
    a.isForSpans = b.isForSpans := by
  obtain ⟨hspan, hfield, -⟩ := asks_alike h
  unfold isForSpans
  rw [hspan, hfield]

theorem isForEvents_or_isForSpans (directive : Directive) :
    directive.isForEvents = true ∨ directive.isForSpans = true := by
  unfold isForEvents isForSpans
  cases directive.span <;> cases directive.field <;> simp

end Directive

namespace LogFilter

def Holds (filter : LogFilter) (directive : Directive) : Prop :=
  directive ∈ filter.forEvents ∨ directive ∈ filter.forSpans

theorem holds_ofDirectives_iff {directives : List Directive} {directive : Directive} :
    (ofDirectives directives).Holds directive ↔
      directive ∈ lasts Directive.hasSameSelection directives := by
  unfold Holds ofDirectives
  dsimp only
  rw [foldl_put_nil, foldl_put_nil,
    lasts_filter Directive.isForEvents_eq_of_hasSameSelection,
    lasts_filter Directive.isForSpans_eq_of_hasSameSelection,
    List.mem_filter, List.mem_filter, ← and_or_left]
  exact and_iff_left directive.isForEvents_or_isForSpans

section Pieces

variable {α β : Type} {f : α → Option β} {items : List α}

theorem mapM_eq_none_iff : items.mapM f = none ↔ ∃ item ∈ items, f item = none := by
  induction items with
  | nil => simp
  | cons item items ih =>
    simp only [List.mapM_cons, List.mem_cons, exists_eq_or_imp, ← ih]
    cases f item with
    | none => simp
    | some found => cases items.mapM f <;> simp

theorem eq_filterMap_of_mapM {found : List β} (h : items.mapM f = some found) :
    found = items.filterMap f := by
  induction items generalizing found with
  | nil => simpa using h.symm
  | cons item items ih =>
    rw [List.mapM_cons] at h
    obtain ⟨first, hfirst, h⟩ := Option.bind_eq_some_iff.1 h
    obtain ⟨others, hothers, h⟩ := Option.bind_eq_some_iff.1 h
    obtain rfl := Option.some.inj h
    rw [List.filterMap_cons_some hfirst, ih hothers]

end Pieces

theorem parse?_eq (text : String) :
    parse? text = ((pieces text).mapM Directive.parse?).map ofDirectives := by
  unfold parse? pieces
  rw [List.mapM_map]
  rfl

theorem readsLists_parse? :
    ReadsLists Directive.parse? Directive.hasSameSelection [] Holds parse? where
  eq_none_iff text := by
    rw [parse?_eq, Option.map_eq_none_iff, mapM_eq_none_iff]
  holds_iff text filter hread directive := by
    rw [parse?_eq] at hread
    obtain ⟨found, hfound, rfl⟩ := Option.map_eq_some_iff.1 hread
    rw [holds_ofDirectives_iff, orUsual_nil, eq_filterMap_of_mapM hfound, directives]

theorem holds_fallback_iff (directive : Directive) :
    fallback.Holds directive ↔ Directive.parse? "warn" = some directive := by
  have hwarn : Directive.parse? "warn" = some { level := .warn } := by decide +kernel
  rw [hwarn, fallback, holds_ofDirectives_iff]
  simp [lasts, eq_comm]

theorem environment_replaces_one_target :
    (∀ directive, (merge "warn,jarguard.archive=trace"
        (some " jarguard.archive=off,,jarguard.archive=debug ")).Holds directive ↔
      directive ∈ ([{ level := .warn }, { target := some "jarguard.archive", level := .debug }] :
        List Directive)) ∧
    (∀ directive, (merge "a=b=c" (some "info")).Holds directive ↔
      directive ∈ ([{ level := .info }] : List Directive)) ∧
    merge "info" (some "x=y=z") = merge "info" none := by
  refine ⟨?_, ?_, ?_⟩
  · have hmerged := ((merge_keeps_environment readsLists_parse? holds_fallback_iff
      "warn,jarguard.archive=trace" (some " jarguard.archive=off,,jarguard.archive=debug ")).1 _ rfl
      (by decide +kernel) (by decide +kernel)).1 (by decide +kernel)
    refine fun directive => (hmerged directive).trans (iff_of_eq (congrArg (directive ∈ ·) ?_))
    decide +kernel
  · have hown := ((merge_keeps_environment readsLists_parse? holds_fallback_iff
      "a=b=c" (some "info")).1 _ rfl (by decide +kernel) (by decide +kernel)).2 (by decide +kernel)
    refine fun directive => (hown directive).trans (iff_of_eq (congrArg (directive ∈ ·) ?_))
    decide +kernel
  · refine ((merge_keeps_environment readsLists_parse? holds_fallback_iff
      "info" (some "x=y=z")).2 ?_).1
    rintro _ ⟨⟩
    exact Or.inr (by decide +kernel)

end LogFilter

end Rebuild
