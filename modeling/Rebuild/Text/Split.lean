/-!
# Cutting at a separator

A list cut at every occurrence of one element. Joining the pieces gives the list back, so nothing
is lost and no piece holds the separator.
-/

namespace Rebuild

variable {α : Type} [DecidableEq α]

/-- The stretches between separators; there is always one more stretch than separators. -/
def cut (separator : α) : List α → List (List α)
  | [] => [[]]
  | a :: rest =>
    if a = separator then [] :: cut separator rest
    else match cut separator rest with
      | [] => [[a]]
      | piece :: pieces => (a :: piece) :: pieces

/-- The text before the first separator and the text after it. -/
def cutFirst? (separator : α) : List α → Option (List α × List α)
  | [] => none
  | a :: rest =>
    if a = separator then some ([], rest)
    else (cutFirst? separator rest).map fun (before, after) => (a :: before, after)

/-- What is left of `l` behind `front`, if `l` starts with it. -/
def dropFront? : (front l : List α) → Option (List α)
  | [], l => some l
  | _ :: _, [] => none
  | a :: front, b :: l => if a = b then dropFront? front l else none

/-- What is left of `l` before `back`, if `l` ends with it. -/
def dropBack? (back l : List α) : Option (List α) :=
  (dropFront? back.reverse l.reverse).map List.reverse

theorem dropFront?_eq_some {front l rest : List α} :
    dropFront? front l = some rest ↔ l = front ++ rest := by
  induction front generalizing l with
  | nil => simp [dropFront?, eq_comm]
  | cons a front ih =>
    cases l with
    | nil => simp [dropFront?]
    | cons b l =>
      by_cases h : a = b
      · simp [dropFront?, h, ih]
      · simp [dropFront?, h, Ne.symm h]

theorem dropBack?_eq_some {back l rest : List α} :
    dropBack? back l = some rest ↔ l = rest ++ back := by
  simp only [dropBack?, Option.map_eq_some_iff, dropFront?_eq_some]
  constructor
  · rintro ⟨r, h, rfl⟩
    simpa using congrArg List.reverse h
  · rintro rfl
    exact ⟨rest.reverse, by simp, by simp⟩

theorem cut_ne_nil (separator : α) (l : List α) : cut separator l ≠ [] := by
  cases l with
  | nil => simp [cut]
  | cons a rest =>
    rw [cut]
    split
    · simp
    · split <;> simp

theorem not_mem_of_mem_cut {separator : α} {l piece : List α} (h : piece ∈ cut separator l) :
    separator ∉ piece := by
  induction l generalizing piece with
  | nil => simp_all [cut]
  | cons a rest ih =>
    rw [cut] at h
    split at h
    · rcases List.mem_cons.1 h with rfl | h
      · simp
      · exact ih h
    · rename_i ne
      split at h
      · simp_all [Ne.symm]
      · rename_i first others heq
        rcases List.mem_cons.1 h with rfl | h
        · have : separator ∉ first := ih (by simp [heq])
          simp [this, Ne.symm ne]
        · exact ih (by simp [heq, h])

theorem mem_of_mem_cut {separator a : α} {l piece : List α}
    (h : piece ∈ cut separator l) (ha : a ∈ piece) : a ∈ l := by
  induction l generalizing piece with
  | nil =>
    rw [cut, List.mem_singleton] at h
    exact h ▸ ha
  | cons b rest ih =>
    rw [cut] at h
    split at h
    · rcases List.mem_cons.1 h with rfl | h
      · exact nomatch ha
      · exact List.mem_cons_of_mem b (ih h ha)
    · split at h
      · next hnil => exact absurd hnil (cut_ne_nil separator rest)
      · next first others hcut =>
        rcases List.mem_cons.1 h with rfl | h
        · rcases List.mem_cons.1 ha with rfl | ha
          · exact List.mem_cons_self
          · exact List.mem_cons_of_mem b (ih (hcut ▸ List.mem_cons_self) ha)
        · exact List.mem_cons_of_mem b (ih (hcut ▸ List.mem_cons_of_mem first h) ha)

theorem cutFirst?_rest_length_lt {separator : α} {l before after : List α}
    (h : cutFirst? separator l = some (before, after)) : after.length < l.length := by
  induction l generalizing before with
  | nil => simp [cutFirst?] at h
  | cons a rest ih =>
    rw [cutFirst?] at h
    split at h
    · simp only [Option.some.injEq, Prod.mk.injEq] at h
      simp [h.2]
    · obtain ⟨⟨b, a⟩, found, eq⟩ := Option.map_eq_some_iff.1 h
      simp only [Prod.mk.injEq] at eq
      have : after.length < rest.length := ih (found.trans (by rw [← eq.2]))
      simp only [List.length_cons]
      omega

end Rebuild
