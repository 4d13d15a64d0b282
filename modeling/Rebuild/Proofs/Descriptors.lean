import Rebuild.ClassFile.Descriptor
import Rebuild.ClassFile.Error

/-!
# Descriptors that are printed are read

A type that has a written form is found at the front of any text that starts with it.
-/

namespace Rebuild

theorem cutFirst?_append_cons {α : Type} [DecidableEq α] {separator : α} {before : List α}
    (h : separator ∉ before) (after : List α) :
    cutFirst? separator (before ++ separator :: after) = some (before, after) := by
  induction before with
  | nil => simp [cutFirst?]
  | cons a before ih =>
    rw [List.mem_cons, not_or] at h
    simp [cutFirst?, Ne.symm h.1, ih h.2]

namespace FieldType

def levels : FieldType → Nat
  | array element => element.levels + 1
  | _ => 0

def element : FieldType → FieldType
  | array type => type.element
  | type => type

/-- The type has a written form: not too many levels, and a name that ends where it should. -/
structure IsPrintable (type : FieldType) : Prop where
  levels_le : type.levels ≤ maxLevels
  name : ∀ name, type.element = object name → name.toList ≠ [] ∧ ';' ∉ name.toList

theorem arrayOf_element (type : FieldType) : arrayOf type.levels type.element = type := by
  induction type with
  | base type => rfl
  | object name => rfl
  | array type ih => rw [levels, element, arrayOf, ih]

theorem levels_print (type : FieldType) (rest : List Char) :
    ((type.print ++ rest).takeWhile (· == '[')).length = type.levels := by
  induction type with
  | base type => cases type <;> rfl
  | object name => rfl
  | array type ih => simp [print, levels, ih]

theorem element_print (type : FieldType) (rest : List Char) :
    (type.print ++ rest).dropWhile (· == '[') = type.element.print ++ rest := by
  induction type with
  | base type => cases type <;> rfl
  | object name => rfl
  | array type ih => simp [print, element, ih]

theorem splitElement?_print {type : FieldType}
    (h : ∀ name, type.element = object name → name.toList ≠ [] ∧ ';' ∉ name.toList)
    (rest : List Char) :
    splitElement? (type.element.print ++ rest) = some (type.element, rest) := by
  induction type with
  | base type => cases type <;> rfl
  | object name =>
    obtain ⟨hname, hend⟩ := h name rfl
    have hcut : cutFirst? ';' (name.toList ++ ';' :: rest) = some (name.toList, rest) :=
      cutFirst?_append_cons hend rest
    simp [element, print, splitElement?, hcut, hname]
  | array type ih => exact ih h

theorem split?_print_append {type : FieldType} (h : type.IsPrintable) (rest : List Char) :
    split? (type.print ++ rest) = some (type, rest) := by
  unfold split?
  simp only [levels_print, element_print, splitElement?_print h.name, Option.map_some,
    arrayOf_element, Nat.not_lt.2 h.levels_le, ↓reduceIte]

theorem parse?_print {type : FieldType} (h : type.IsPrintable) :
    parse? (String.ofList type.print) = some type := by
  have hsplit := split?_print_append h []
  rw [List.append_nil] at hsplit
  unfold parse?
  rw [String.toList_ofList, hsplit]

end FieldType

namespace MethodType

structure IsPrintable (method : MethodType) : Prop where
  parameters : ∀ type ∈ method.parameters, type.IsPrintable
  result : ∀ type, method.result = .type type → type.IsPrintable

theorem print_eq_cons (type : FieldType) :
    ∃ c rest, type.print = c :: rest ∧ c ≠ ')' ∧ type.print ≠ ['V'] := by
  cases type with
  | base type => cases type <;> exact ⟨_, _, rfl, by decide, by decide⟩
  | object name => exact ⟨'L', name.toList ++ [';'], rfl, by decide, by simp [FieldType.print]⟩
  | array element => exact ⟨'[', element.print, rfl, by decide, by simp [FieldType.print]⟩

theorem splitParameters?_print {types : List FieldType} (h : ∀ type ∈ types, type.IsPrintable)
    (rest : List Char) :
    splitParameters? (types.flatMap FieldType.print ++ ')' :: rest) = some (types, rest) := by
  induction types with
  | nil => simp [splitParameters?]
  | cons type types ih =>
    obtain ⟨htype, htypes⟩ := List.forall_mem_cons.1 h
    have hsplit := FieldType.split?_print_append htype
      (types.flatMap FieldType.print ++ ')' :: rest)
    obtain ⟨c, tail, hprint, hc, -⟩ := print_eq_cons type
    rw [List.flatMap_cons, List.append_assoc]
    rw [hprint, List.cons_append] at hsplit ⊢
    rw [splitParameters?, if_neg hc]
    split
    · next hnone =>
      rw [hsplit] at hnone
      cases hnone
    · next found after hsome =>
      rw [hsplit] at hsome
      obtain ⟨rfl, rfl⟩ := Prod.mk.inj (Option.some.inj hsome)
      rw [ih htypes, Option.map_some]

theorem parseResult?_print {result : ReturnType}
    (h : ∀ type, result = .type type → type.IsPrintable) :
    parseResult? (printResult result) = some result := by
  cases result with
  | void => rfl
  | type type =>
    have hsplit := FieldType.split?_print_append (h type rfl) []
    rw [List.append_nil] at hsplit
    obtain ⟨_, _, _, _, hvoid⟩ := print_eq_cons type
    unfold parseResult? printResult
    split
    · next heq => exact absurd heq hvoid
    · rw [hsplit]

theorem parse?_print {method : MethodType} (h : method.IsPrintable) :
    parse? (String.ofList method.print) = some method := by
  have hfront : dropFront? ['('] method.print =
      some (method.parameters.flatMap FieldType.print ++ ')' :: printResult method.result) :=
    dropFront?_eq_some.2 rfl
  unfold parse?
  rw [String.toList_ofList, hfront]
  simp only [Option.bind_eq_bind, Option.bind_some, splitParameters?_print h.parameters,
    parseResult?_print h.result]
  rfl

end MethodType

/-! ## Answers for texts -/

section DescribedBy

variable {α : Type} {parse? : String → Option α} {text : String}

theorem describedBy_eq_ok_iff {type : α} :
    describedBy parse? text = .ok type ↔ parse? text = some type := by
  unfold describedBy
  split
  · next found hfound => rw [hfound, Except.ok.injEq, Option.some.injEq]
  · next hnone => simp [hnone]

theorem describedBy_eq_error_iff {error : ClassFileError} :
    describedBy parse? text = .error error ↔
      (¬ ∃ type, parse? text = some type) ∧ error = .badDescriptor text := by
  unfold describedBy
  split
  · next found hfound => simp [hfound]
  · next hnone => simp [hnone, eq_comm]

end DescribedBy

end Rebuild
