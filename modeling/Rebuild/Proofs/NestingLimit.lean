import Rebuild.Proofs.AnnotationsReadBack

/-!
# How deep annotations may nest

The level of a value is looked at when the value begins, and not when an annotation or array does.
One that holds nothing does not count for itself, so a chain that ends with it may be longer by one
than `ElementValue.maxNesting`. Any other chain that is too long is noticed.
-/

namespace Rebuild

open Written

/-! ## Chains of annotations and arrays -/

namespace ElementValue

variable {value : ElementValue}

def IsContainer : ElementValue → Prop
  | nested _ _ | array _ => True
  | _ => False

def contents : ElementValue → List ElementValue
  | nested _ elements => elements.map Prod.snd
  | array items => items
  | _ => []

/-- That many annotations and arrays, each directly inside the one before, the value first. -/
inductive Chain : Nat → ElementValue → Prop
  | last {value : ElementValue} : value.IsContainer → Chain 1 value
  | link {length : Nat} {value inner : ElementValue} :
    inner ∈ value.contents → Chain length inner → Chain (length + 1) value

/-- A value with the property stands inside exactly that many annotations and arrays, of which the
value is the outermost. -/
def HoldsAt (property : ElementValue → Prop) : Nat → ElementValue → Prop
  | 0, value => property value
  | depth + 1, value => ∃ inner ∈ value.contents, HoldsAt property depth inner

def IsHollow (value : ElementValue) : Prop := value.IsContainer ∧ value.contents = []

theorem nesting_le_iff {depth : Nat} :
    value.nesting ≤ depth ↔ ∀ inner ∈ value.contents, inner.nesting < depth := by
  cases value with
  | nested _ elements => rw [nesting, elementsNesting_le_iff, contents, List.forall_mem_map]
  | array items => exact itemsNesting_le_iff
  | const | enum | classInfo => simp [nesting, contents]

theorem lt_nesting_iff {depth : Nat} :
    depth < value.nesting ↔ ∃ inner ∈ value.contents, depth ≤ inner.nesting := by
  rw [← Nat.not_le, nesting_le_iff]
  simp

theorem isContainer_iff : value.IsContainer ↔ 0 < value.nesting ∨ value.IsHollow := by
  rw [lt_nesting_iff, IsHollow]
  cases value with
  | nested _ elements => cases elements <;> simp [IsContainer, contents]
  | array items => cases items <;> simp [IsContainer, contents]
  | const | enum | classInfo => simp [IsContainer, contents]

theorem holdsAt_isContainer_iff {depth : Nat} :
    value.HoldsAt IsContainer depth ↔ depth < value.nesting ∨ value.HoldsAt IsHollow depth := by
  induction depth generalizing value with
  | zero => exact isContainer_iff
  | succ depth ih =>
    rw [lt_nesting_iff]
    simp only [HoldsAt, ih, Nat.succ_le_iff, and_or_left, exists_or]

theorem HoldsAt.le_nesting {property : ElementValue → Prop} {depth : Nat}
    (h : value.HoldsAt property depth) : depth ≤ value.nesting := by
  induction depth generalizing value with
  | zero => exact Nat.zero_le _
  | succ depth ih =>
    obtain ⟨inner, hmem, hinner⟩ := h
    exact lt_nesting_iff.2 ⟨inner, hmem, ih hinner⟩

theorem chain_succ_iff {length : Nat} :
    value.Chain (length + 1) ↔ value.HoldsAt IsContainer length := by
  induction length generalizing value with
  | zero =>
    constructor
    · rintro (h | ⟨hmem, h⟩)
      · exact h
      · cases h
    · exact .last
  | succ length ih =>
    constructor
    · rintro (_ | ⟨hmem, h⟩)
      exact ⟨_, hmem, ih.1 h⟩
    · rintro ⟨inner, hmem, h⟩
      exact .link hmem (ih.2 h)

theorem forall_chain_le_iff {limit : Nat} :
    (∀ length, value.Chain length → length ≤ limit) ↔
      value.nesting ≤ limit ∧ ¬value.HoldsAt IsHollow limit := by
  rw [← Nat.not_lt, ← not_or, ← holdsAt_isContainer_iff]
  constructor
  · intro hshort hcontainer
    exact absurd (hshort _ (chain_succ_iff.2 hcontainer)) (Nat.not_succ_le_self _)
  · rintro hnone (_ | depth) hchain
    · exact Nat.zero_le _
    · rw [holdsAt_isContainer_iff, not_or] at hnone
      obtain ⟨hnesting, hhollow⟩ := hnone
      -- A longer chain has a value deeper than the limit, or its last part is a hollow one there.
      rcases holdsAt_isContainer_iff.1 (chain_succ_iff.1 hchain) with hdeep | hhere
      · omega
      · have hle := hhere.le_nesting
        have hne : depth ≠ limit := by
          rintro rfl
          exact hhollow hhere
        omega

end ElementValue

/-! ## The limit -/

namespace AnnotationUse

variable {pool : ConstantPool} {use : AnnotationUse}

/-- No value of the annotation begins a chain that is longer than the limit. Chains that begin
further inside are parts of those. -/
def NestsWithin (limit : Nat) (use : AnnotationUse) : Prop :=
  ∀ element ∈ use.elements, ∀ length, element.2.Chain length → length ≤ limit

/-- All values stand inside at most as many annotations and arrays as the limit says. But one that
holds nothing stands inside that many, so that the chain that ends with it is longer. -/
def Escapes (limit : Nat) (use : AnnotationUse) : Prop :=
  (∀ element ∈ use.elements, element.2.nesting ≤ limit) ∧
    ∃ element ∈ use.elements, element.2.HoldsAt ElementValue.IsHollow limit

theorem nestsWithin_iff {limit : Nat} : use.NestsWithin limit ↔
    (∀ element ∈ use.elements, element.2.nesting ≤ limit) ∧ ¬use.Escapes limit := by
  unfold NestsWithin
  simp only [ElementValue.forall_chain_le_iff]
  constructor
  · intro h
    refine ⟨fun element hmem => (h element hmem).1, ?_⟩
    rintro ⟨-, element, hmem, hhollow⟩
    exact (h element hmem).2 hhollow
  · rintro ⟨hdepth, hseen⟩ element hmem
    exact ⟨hdepth element hmem, fun hhollow => hseen ⟨hdepth, element, hmem, hhollow⟩⟩

/-- Over any pool and in front of anything, the limit decides whether a well-formed annotation is
read as itself or refused. Only an annotation that escapes is read although a chain is too long. -/
theorem nesting_limited_unless_escaped {bytes : List UInt8} (h : use.IsEncoded pool bytes)
    (rest : List UInt8) :
    (use.NestsWithin ElementValue.maxNesting → parser pool (bytes ++ rest) = .ok (use, rest)) ∧
    (¬use.NestsWithin ElementValue.maxNesting → ¬use.Escapes ElementValue.maxNesting →
      parser pool (bytes ++ rest) = .error .badAnnotations) ∧
    (use.Escapes ElementValue.maxNesting → ¬use.NestsWithin ElementValue.maxNesting ∧
      parser pool (bytes ++ rest) = .ok (use, rest)) := by
  have hparses := parsesIf_of_isEncoded h
  rw [nestsWithin_iff]
  refine ⟨fun hwithin => hparses.parses hwithin.1 rest, fun hbeyond hseen => ?_, fun hescapes => ?_⟩
  · exact hparses.refuses (fun hdepth => hbeyond ⟨hdepth, hseen⟩) rest
  · exact ⟨fun hwithin => hwithin.2 hescapes, hparses.parses hescapes.1 rest⟩

end AnnotationUse

/-! ## Arrays in arrays -/

namespace Hollow

/-- An array that holds nothing, inside that many arrays. -/
def arrays : Nat → ElementValue
  | 0 => .array []
  | depth + 1 => .array [arrays depth]

def arrayBytes : Nat → List UInt8
  | 0 => letter '[' ++ (number 2 0 ++ [])
  | depth + 1 => letter '[' ++ (number 2 1 ++ arrayBytes depth)

def names : ConstantPool := ⟨#[none, some (.utf8 "LA;"), some (.utf8 "v")]⟩

def use (depth : Nat) : AnnotationUse := ⟨"LA;", [("v", arrays depth)]⟩

def bytes (depth : Nat) : List UInt8 :=
  index 1 ++ (number 2 1 ++ (index 2 ++ arrayBytes depth))

theorem nesting_arrays (depth : Nat) : (arrays depth).nesting = depth := by
  induction depth with
  | zero => rfl
  | succ depth ih => simp [arrays, ElementValue.nesting, itemsNesting, ih]

theorem holdsAt_arrays (depth : Nat) : (arrays depth).HoldsAt ElementValue.IsHollow depth := by
  induction depth with
  | zero => exact ⟨trivial, rfl⟩
  | succ depth ih => exact ⟨arrays depth, List.mem_singleton_self _, ih⟩

theorem isEncoded_arrays (depth : Nat) :
    ElementValue.IsEncoded names (arrays depth) (arrayBytes depth) := by
  induction depth with
  | zero => exact .array (by simp) .nil
  | succ depth ih =>
    have hbytes := @ElementValue.IsEncoded.array names [arrays depth] _ (by simp) (.cons ih .nil)
    rwa [List.append_nil] at hbytes

theorem isEncoded (depth : Nat) : (use depth).IsEncoded names (bytes depth) := by
  have htype : names.Holds 1 (.utf8 "LA;") := rfl
  have hname : names.Holds 2 (.utf8 "v") := rfl
  have hrow := Row.cons (ElementValue.IsNamedIn.intro hname (isEncoded_arrays depth)) .nil
  rw [List.append_nil] at hrow
  exact AnnotationUse.IsEncodedWith.intro htype (by simp) hrow

theorem forall_nesting_le_iff {depth limit : Nat} :
    (∀ element ∈ (use depth).elements, element.2.nesting ≤ limit) ↔ depth ≤ limit := by
  simp [use, nesting_arrays]

theorem escapes_iff {depth limit : Nat} : (use depth).Escapes limit ↔ depth = limit := by
  rw [AnnotationUse.Escapes, forall_nesting_le_iff]
  constructor
  · rintro ⟨hle, element, hmem, hhollow⟩
    rw [List.mem_singleton.1 hmem] at hhollow
    have hge := hhollow.le_nesting
    rw [nesting_arrays] at hge
    omega
  · rintro rfl
    exact ⟨Nat.le_refl _, _, List.mem_singleton_self _, holdsAt_arrays depth⟩

theorem nestsWithin_iff {depth limit : Nat} : (use depth).NestsWithin limit ↔ depth < limit := by
  rw [AnnotationUse.nestsWithin_iff, forall_nesting_le_iff, escapes_iff]
  omega

end Hollow

namespace AnnotationUse

/-- A chain of one more than the limit, of which the last array holds nothing. -/
theorem hollow_arrays_escape :
    (Hollow.use ElementValue.maxNesting).IsEncoded Hollow.names
      (Hollow.bytes ElementValue.maxNesting) ∧
    ¬(Hollow.use ElementValue.maxNesting).NestsWithin ElementValue.maxNesting ∧
    Parser.exactly (parser Hollow.names) (Hollow.bytes ElementValue.maxNesting) =
      .ok (Hollow.use ElementValue.maxNesting) := by
  have hparses := parsesIf_of_isEncoded (Hollow.isEncoded ElementValue.maxNesting)
  refine ⟨Hollow.isEncoded _, ?_, (hparses.parses ?_).exactly⟩
  · rw [Hollow.nestsWithin_iff]
    exact Nat.lt_irrefl _
  · exact Hollow.forall_nesting_le_iff.2 (Nat.le_refl _)

theorem hollow_arrays_around_limit :
    (Hollow.use 254).IsEncoded Hollow.names (Hollow.bytes 254) ∧
    parser Hollow.names (Hollow.bytes 254 ++ [7]) = .ok (Hollow.use 254, [7]) ∧
    (Hollow.use 256).IsEncoded Hollow.names (Hollow.bytes 256) ∧
    parser Hollow.names (Hollow.bytes 256 ++ [7]) = .error .badAnnotations := by
  obtain ⟨haccepts, -, -⟩ := nesting_limited_unless_escaped (Hollow.isEncoded 254) [7]
  obtain ⟨-, hrefuses, -⟩ := nesting_limited_unless_escaped (Hollow.isEncoded 256) [7]
  rw [Hollow.nestsWithin_iff] at haccepts hrefuses
  rw [Hollow.escapes_iff] at hrefuses
  refine ⟨Hollow.isEncoded 254, haccepts ?_, Hollow.isEncoded 256, hrefuses ?_ ?_⟩ <;>
    decide

end AnnotationUse

end Rebuild
