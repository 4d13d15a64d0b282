import Rebuild.Proofs.Descriptors

/-!
# Descriptors are the printed types

A type that has a written form is read from it, and a text is only read as a type whose written form
it is. So reading and printing are inverse to each other, and any other text is returned as it is.
-/

namespace Rebuild

theorem eq_append_cons_of_cutFirst? {α : Type} [DecidableEq α] {separator : α}
    {l before after : List α} (h : cutFirst? separator l = some (before, after)) :
    l = before ++ separator :: after ∧ separator ∉ before := by
  induction l generalizing before with
  | nil => cases h
  | cons a rest ih =>
    rw [cutFirst?] at h
    split at h
    · next ha =>
      cases h
      exact ⟨congrArg (· :: after) ha, List.not_mem_nil⟩
    · next ha =>
      obtain ⟨⟨front, back⟩, hfound, heq⟩ := Option.map_eq_some_iff.1 h
      cases heq
      obtain ⟨hrest, hmem⟩ := ih hfound
      refine ⟨congrArg (a :: ·) hrest, ?_⟩
      rw [List.mem_cons, not_or]
      exact ⟨Ne.symm ha, hmem⟩

theorem BaseType.eq_tag_of_ofTag? {tag : Char} {type : BaseType} (h : ofTag? tag = some type) :
    tag = type.tag := by
  unfold ofTag? at h
  split at h <;> cases h <;> rfl

namespace FieldType

theorem print_arrayOf (n : Nat) (type : FieldType) :
    (arrayOf n type).print = List.replicate n '[' ++ type.print := by
  induction n with
  | zero => rfl
  | succ n ih => rw [arrayOf, print, ih, List.replicate_succ, List.cons_append]

theorem levels_arrayOf (n : Nat) (type : FieldType) :
    (arrayOf n type).levels = n + type.levels := by
  induction n with
  | zero => exact (Nat.zero_add _).symm
  | succ n ih =>
    rw [arrayOf, levels, ih]
    omega

theorem element_arrayOf (n : Nat) (type : FieldType) : (arrayOf n type).element = type.element := by
  induction n with
  | zero => rfl
  | succ n ih => exact ih

theorem IsPrintable.arrayOf {type : FieldType} {n : Nat} (h : type.IsPrintable)
    (hlevels : n + type.levels ≤ maxLevels) : (arrayOf n type).IsPrintable := by
  constructor
  · rwa [levels_arrayOf]
  · rw [element_arrayOf]
    exact h.name

theorem eq_print_of_splitElement? {text rest : List Char} {type : FieldType}
    (h : splitElement? text = some (type, rest)) :
    text = type.print ++ rest ∧ type.levels = 0 ∧ type.IsPrintable := by
  cases text with
  | nil => cases h
  | cons tag text =>
    rw [splitElement?] at h
    split at h
    · next htag =>
      obtain ⟨⟨name, after⟩, hcut, h⟩ := Option.bind_eq_some_iff.1 h
      dsimp only at h
      split at h
      · cases h
      · next hname =>
        cases h
        obtain ⟨rfl, hend⟩ := eq_append_cons_of_cutFirst? hcut
        refine ⟨?_, rfl, Nat.zero_le _, ?_⟩
        · simp [print, htag]
        · rintro found hfound
          cases hfound
          rw [String.toList_ofList]
          exact ⟨fun hnil => hname (List.isEmpty_iff.2 hnil), hend⟩
    · obtain ⟨base, hbase, heq⟩ := Option.map_eq_some_iff.1 h
      cases heq
      refine ⟨?_, rfl, Nat.zero_le _, ?_⟩
      · rw [BaseType.eq_tag_of_ofTag? hbase]
        rfl
      · rintro found hfound
        cases hfound

theorem takeWhile_eq_replicate (text : List Char) (c : Char) :
    text.takeWhile (· == c) = List.replicate (text.takeWhile (· == c)).length c := by
  have hall : (text.takeWhile (· == c)).all (· == c) = true := List.all_takeWhile
  refine List.eq_replicate_iff.2 ⟨rfl, ?_⟩
  exact fun found hmem => eq_of_beq (List.all_eq_true.1 hall found hmem)

theorem eq_print_of_split? {text rest : List Char} {type : FieldType}
    (h : split? text = some (type, rest)) : text = type.print ++ rest ∧ type.IsPrintable := by
  unfold split? at h
  dsimp only at h
  split at h
  · cases h
  · next hlevels =>
    obtain ⟨⟨element, after⟩, helement, heq⟩ := Option.map_eq_some_iff.1 h
    cases heq
    obtain ⟨hbehind, hflat, hprintable⟩ := eq_print_of_splitElement? helement
    refine ⟨?_, hprintable.arrayOf (by omega)⟩
    calc text = text.takeWhile (· == '[') ++ text.dropWhile (· == '[') :=
          List.takeWhile_append_dropWhile.symm
      _ = _ := by rw [hbehind, print_arrayOf, ← takeWhile_eq_replicate, List.append_assoc]

theorem parse?_eq_some_iff {text : String} {type : FieldType} :
    parse? text = some type ↔ type.IsPrintable ∧ text = String.ofList type.print := by
  constructor
  · intro h
    unfold parse? at h
    split at h
    · next found hsplit =>
      cases h
      obtain ⟨htext, hprintable⟩ := eq_print_of_split? hsplit
      rw [List.append_nil] at htext
      exact ⟨hprintable, by rw [← htext, String.ofList_toList]⟩
    · cases h
  · rintro ⟨hprintable, rfl⟩
    exact parse?_print hprintable

end FieldType

namespace MethodType

theorem eq_print_of_splitParameters? {text rest : List Char} {types : List FieldType}
    (h : splitParameters? text = some (types, rest)) :
    text = types.flatMap FieldType.print ++ ')' :: rest ∧ ∀ type ∈ types, type.IsPrintable := by
  fun_induction splitParameters? text generalizing types with
  | case1 => cases h
  | case2 text =>
    cases h
    exact ⟨rfl, fun _ hmem => nomatch hmem⟩
  | case3 => cases h
  | case4 c text hc type after hsplit ih =>
    obtain ⟨⟨others, back⟩, hothers, heq⟩ := Option.map_eq_some_iff.1 h
    cases heq
    obtain ⟨hafter, hprintables⟩ := ih hothers
    obtain ⟨htext, hprintable⟩ := FieldType.eq_print_of_split? hsplit
    refine ⟨?_, List.forall_mem_cons.2 ⟨hprintable, hprintables⟩⟩
    rw [htext, hafter, List.flatMap_cons, List.append_assoc]

theorem eq_print_of_parseResult? {text : List Char} {result : ReturnType}
    (h : parseResult? text = some result) :
    text = printResult result ∧ ∀ type, result = .type type → type.IsPrintable := by
  unfold parseResult? at h
  split at h
  · cases h
    exact ⟨rfl, fun _ htype => nomatch htype⟩
  · split at h
    · next type hsplit =>
      cases h
      obtain ⟨htext, hprintable⟩ := FieldType.eq_print_of_split? hsplit
      rw [List.append_nil] at htext
      refine ⟨htext, ?_⟩
      rintro _ ⟨⟩
      exact hprintable
    · cases h

theorem parse?_eq_some_iff {text : String} {method : MethodType} :
    parse? text = some method ↔ method.IsPrintable ∧ text = String.ofList method.print := by
  constructor
  · intro h
    unfold parse? at h
    obtain ⟨inner, hinner, h⟩ := Option.bind_eq_some_iff.1 h
    obtain ⟨⟨parameters, rest⟩, hparameters, h⟩ := Option.bind_eq_some_iff.1 h
    obtain ⟨result, hresult, h⟩ := Option.bind_eq_some_iff.1 h
    cases h
    obtain ⟨rfl, hprintables⟩ := eq_print_of_splitParameters? hparameters
    obtain ⟨rfl, hprintable⟩ := eq_print_of_parseResult? hresult
    refine ⟨⟨hprintables, hprintable⟩, ?_⟩
    rw [← String.ofList_toList (s := text), dropFront?_eq_some.1 hinner]
    rfl
  · rintro ⟨hprintable, rfl⟩
    exact parse?_print hprintable

end MethodType

/-! ## Exactly the printed types -/

/-- A text describes a type exactly if it is what the type is printed as, for the types that have a
written form; a text that no type is printed as is itself in the error. -/
theorem describes_iff_printed (text : String) :
    (∀ type : FieldType, describedBy FieldType.parse? text = .ok type ↔
      type.IsPrintable ∧ text = String.ofList type.print) ∧
    (∀ method : MethodType, describedBy MethodType.parse? text = .ok method ↔
      method.IsPrintable ∧ text = String.ofList method.print) ∧
    (∀ error, describedBy FieldType.parse? text = .error error ↔
      (¬ ∃ type : FieldType, type.IsPrintable ∧ text = String.ofList type.print) ∧
        error = .badDescriptor text) ∧
    ∀ error, describedBy MethodType.parse? text = .error error ↔
      (¬ ∃ method : MethodType, method.IsPrintable ∧ text = String.ofList method.print) ∧
        error = .badDescriptor text := by
  refine ⟨fun type => ?_, fun method => ?_, fun error => ?_, fun error => ?_⟩
  · rw [describedBy_eq_ok_iff, FieldType.parse?_eq_some_iff]
  · rw [describedBy_eq_ok_iff, MethodType.parse?_eq_some_iff]
  · simp only [describedBy_eq_error_iff, FieldType.parse?_eq_some_iff]
  · simp only [describedBy_eq_error_iff, MethodType.parse?_eq_some_iff]

end Rebuild
