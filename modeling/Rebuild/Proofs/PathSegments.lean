import Rebuild.Path

/-!
# Segments of joined paths

A path that is joined from two names what the first names and then what the second names. Slashes at
its end name nothing, so they leave the name of the file as it is.
-/

namespace Rebuild

section Cut

variable {α : Type} [DecidableEq α] {separator a : α} {l piece : List α}

theorem cut_append_cons (separator : α) (l rest : List α) :
    cut separator (l ++ separator :: rest) = cut separator l ++ cut separator rest := by
  induction l with
  | nil => simp [cut]
  | cons a l ih =>
    obtain ⟨first, others, hcut⟩ := List.exists_cons_of_ne_nil (cut_ne_nil separator l)
    rw [List.cons_append, cut, cut, ih, hcut]
    split <;> rfl

theorem cut_eq_singleton (h : separator ∉ l) : cut separator l = [l] := by
  induction l with
  | nil => rfl
  | cons a l ih =>
    rw [List.mem_cons, not_or] at h
    rw [cut, if_neg (Ne.symm h.1), ih h.2]

theorem exists_mem_cut (hmem : a ∈ l) (hne : a ≠ separator) :
    ∃ piece ∈ cut separator l, a ∈ piece := by
  induction l with
  | nil => exact nomatch hmem
  | cons b l ih =>
    obtain ⟨first, others, hcut⟩ := List.exists_cons_of_ne_nil (cut_ne_nil separator l)
    rw [hcut] at ih
    rw [cut, hcut]
    by_cases hb : b = separator
    · rw [if_pos hb]
      have hl : a ∈ l := by simpa [hb, hne] using hmem
      obtain ⟨piece, hpiece, ha⟩ := ih hl
      exact ⟨piece, List.mem_cons_of_mem [] hpiece, ha⟩
    · rw [if_neg hb]
      rcases List.mem_cons.1 hmem with rfl | hl
      · exact ⟨a :: first, List.mem_cons_self, List.mem_cons_self⟩
      · obtain ⟨piece, hpiece, ha⟩ := ih hl
        rcases List.mem_cons.1 hpiece with rfl | hothers
        · exact ⟨b :: piece, List.mem_cons_self, List.mem_cons_of_mem b ha⟩
        · exact ⟨piece, List.mem_cons_of_mem (b :: first) hothers, ha⟩

theorem sublist_of_mem_cut (h : piece ∈ cut separator l) : piece.Sublist l := by
  induction l generalizing piece with
  | nil =>
    rw [cut, List.mem_singleton] at h
    exact h ▸ List.Sublist.refl _
  | cons a l ih =>
    obtain ⟨first, others, hcut⟩ := List.exists_cons_of_ne_nil (cut_ne_nil separator l)
    rw [hcut] at ih
    rw [cut, hcut] at h
    by_cases ha : a = separator
    · rw [if_pos ha, List.mem_cons, ← hcut] at h
      rcases h with rfl | h
      · exact List.nil_sublist _
      · exact (ih (hcut ▸ h)).cons a
    · rw [if_neg ha, List.mem_cons] at h
      rcases h with rfl | h
      · exact (ih List.mem_cons_self).cons_cons a
      · exact (ih (List.mem_cons_of_mem first h)).cons a

end Cut

namespace Path

variable {directory path : Path}

theorem names_append_slash (front back : List Utf8.Piece) :
    names ⟨front ++ slash :: back⟩ = names ⟨front⟩ ++ names ⟨back⟩ := by
  unfold names segments
  rw [cut_append_cons, List.filter_append]

theorem names_append_slashes (front : List Utf8.Piece) (k : Nat) :
    names ⟨front ++ List.replicate k slash⟩ = names ⟨front⟩ := by
  induction k generalizing front with
  | zero => rw [List.replicate_zero, List.append_nil]
  | succ k ih =>
    rw [List.replicate_succ', ← List.append_assoc, names_append_slash, ih]
    exact List.append_nil _

theorem names_join (hrelative : path.isAbsolute = false) :
    (directory.join path).names = directory.names ++ path.names := by
  unfold join
  rw [hrelative, if_neg Bool.false_ne_true]
  split
  · next hopen =>
    rw [Bool.or_eq_true, List.isEmpty_iff, beq_iff_eq] at hopen
    rcases hopen with hempty | hlast
    · obtain ⟨places⟩ := directory
      obtain rfl : places = [] := hempty
      rfl
    · obtain ⟨front, hfront⟩ := List.getLast?_eq_some_iff.1 hlast
      obtain ⟨places⟩ := directory
      obtain rfl : places = front ++ [slash] := hfront
      rw [List.append_assoc, List.singleton_append, names_append_slash, names_append_slash]
      exact congrArg (· ++ path.names) (List.append_nil _).symm
  · exact names_append_slash _ _

theorem fileName?_of_names {name : List Utf8.Piece} {before : List (List Utf8.Piece)}
    (h : path.names = before ++ [name]) (hname : name ≠ [dot, dot]) :
    path.fileName? = some name := by
  unfold fileName?
  rw [h, List.getLast?_concat]
  exact if_neg hname

end Path

end Rebuild
