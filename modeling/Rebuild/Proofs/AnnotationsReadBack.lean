import Rebuild.Proofs.PoolReadsBack

/-!
# Annotations read back

Over any pool, the bytes of a well-formed annotation are refused for one reason only: a value stands
inside more annotations and arrays than `ElementValue.maxNesting`. Otherwise they are read as the
annotation that they were written for.
-/

namespace Rebuild

open Written Constant ConstantPool

variable {α β : Type} {constants : List Constant}

/-! ## Parsers that may refuse -/

/-- The parser takes the bytes back if they fit, and refuses them if not, whatever stands behind
them. -/
structure ParsesIf (fits : Prop) (parser : Parser α) (bytes : List UInt8) (value : α) : Prop where
  parses : fits → Parses parser bytes value
  refuses : ¬fits → ∀ rest, parser (bytes ++ rest) = .error .badAnnotations

namespace ParsesIf

variable {fits fitsToo : Prop}

theorem congr {parser : Parser α} {bytes : List UInt8} {value : α} (hiff : fits ↔ fitsToo)
    (h : ParsesIf fits parser bytes value) : ParsesIf fitsToo parser bytes value := by
  rwa [propext hiff] at h

theorem ofParses {parser : Parser α} {bytes : List UInt8} {value : α}
    (h : Parses parser bytes value) : ParsesIf True parser bytes value where
  parses _ := h
  refuses hnot := absurd trivial hnot

theorem bind {parser : Parser α} {next : α → Parser β} {front back : List UInt8} {first : α}
    {second : β} (hfront : ParsesIf fits parser front first)
    (hback : ParsesIf fitsToo (next first) back second) :
    ParsesIf (fits ∧ fitsToo) (parser >>= next) (front ++ back) second where
  parses hboth := (hfront.parses hboth.1).bind (hback.parses hboth.2)
  refuses hnot rest := by
    rw [List.append_assoc, Parser.bind_apply]
    by_cases hfits : fits
    · rw [hfront.parses hfits (back ++ rest)]
      exact hback.refuses (fun htoo => hnot ⟨hfits, htoo⟩) rest
    · rw [hfront.refuses hfits (back ++ rest)]
      rfl

theorem behind {parser : Parser α} {next : α → Parser β} {front back : List UInt8} {first : α}
    {second : β} (hfront : Parses parser front first)
    (hback : ParsesIf fits (next first) back second) :
    ParsesIf fits (parser >>= next) (front ++ back) second :=
  ((ofParses hfront).bind hback).congr (by simp)

theorem known {known : Except ClassFileError α} {next : α → Parser β} {bytes : List UInt8}
    {first : α} {second : β} (h : known = .ok first)
    (hnext : ParsesIf fits (next first) bytes second) :
    ParsesIf fits ((known : Parser α) >>= next) bytes second :=
  behind (Parses.lift h) hnext

theorem finish {parser : Parser α} {next : α → Parser β} {bytes : List UInt8} {first : α}
    {second : β} (hfront : ParsesIf fits parser bytes first)
    (hback : Parses (next first) [] second) : ParsesIf fits (parser >>= next) bytes second := by
  have := (hfront.bind (ofParses hback)).congr (and_iff_left trivial)
  rwa [List.append_nil] at this

theorem times {parser : Parser α} {fits : α → Prop} {item : α → List UInt8 → Prop} {items : List α}
    {row : List UInt8} (hrow : Row item items row)
    (h : ∀ value ∈ items, ∀ bytes, item value bytes → ParsesIf (fits value) parser bytes value) :
    ParsesIf (∀ value ∈ items, fits value) (Parser.times parser items.length) row items := by
  induction hrow with
  | nil => exact (ofParses (Parses.pure [])).congr (by simp)
  | @cons first others front rest hfirst hothers ih =>
    obtain ⟨hparse, hparses⟩ := List.forall_mem_cons.1 h
    rw [List.forall_mem_cons]
    exact (hparse front hfirst).bind ((ih hparses).finish (Parses.pure (first :: others)))

theorem counted {parser : Parser α} {fits : α → Prop} {item : α → List UInt8 → Prop}
    {items : List α} {bytes : List UInt8} (hbytes : Counted item items bytes)
    (h : ∀ value ∈ items, ∀ bytes, item value bytes → ParsesIf (fits value) parser bytes value) :
    ParsesIf (∀ value ∈ items, fits value) (Parser.counted parser) bytes items := by
  obtain ⟨hlength, hrow⟩ := hbytes
  refine behind (Parses.u16_of_lt hlength) ?_
  rw [UInt16.toNat_ofNat_of_lt' hlength]
  exact times hrow h

end ParsesIf

/-! ## Values -/

theorem ConstantType.ofTag?_tag (type : ConstantType) : ofTag? type.tag = some type := by
  cases type with
  | string => rfl
  | base type => cases type <;> rfl

theorem ConstantType.ofUInt8_tag (type : ConstantType) :
    Char.ofUInt8 type.tag.toUInt8 = type.tag := by
  cases type with
  | string => rfl
  | base type => cases type <;> rfl

/-- The value of the constant at the place. A text may be given by a string constant as well. -/
inductive ConstantValue.StandsAt (pool : ConstantPool) :
    ConstantType → UInt16 → ConstantValue → Prop
  | base {type : BaseType} {place : UInt16} {constant : Constant} {value : ConstantValue} :
    pool.Holds place constant → type.valueOf? constant = some value →
      StandsAt pool (.base type) place value
  | text {place : UInt16} {text : String} : pool.Holds place (.utf8 text) →
    StandsAt pool .string place (.string text)
  | string {place name : UInt16} {text : String} : pool.Holds place (.string name) →
    pool.Holds name (.utf8 text) → StandsAt pool .string place (.string text)

theorem ConstantValue.StandsAt.resolve_eq {pool : ConstantPool} {type : ConstantType}
    {place : UInt16} {value : ConstantValue} (h : StandsAt pool type place value) :
    resolve pool type place = .ok value := by
  unfold resolve
  cases h with
  | base hconstant hvalue =>
    rw [hconstant.get_eq]
    simp only [bind, Except.bind, hvalue]
    rfl
  | text htext =>
    unfold ConstantPool.string
    rw [htext.get_eq]
    rfl
  | string hstring htext =>
    unfold ConstantPool.string
    rw [hstring.get_eq]
    simp only [bind, Except.bind, htext.utf8_eq]
    rfl

theorem ConstantValue.standsAt_of_heldAt {value : ConstantValue} {textAt : UInt16 → String → Prop}
    {place : UInt16} (h : value.HeldAt (Constant.HeldAt constants) textAt place)
    (htext : ∀ text, textAt place text →
      StandsAt (filledWith constants) .string place (.string text)) :
    StandsAt (filledWith constants) value.type place value := by
  cases value with
  | byte value => exact .base (holds_of_heldAt h) (by simp [BaseType.valueOf?])
  | char unit => exact .base (holds_of_heldAt h) (by simp [BaseType.valueOf?])
  | short value => exact .base (holds_of_heldAt h) (by simp [BaseType.valueOf?])
  | int value => exact .base (holds_of_heldAt h) rfl
  | long value => exact .base (holds_of_heldAt h) rfl
  | float bits => exact .base (holds_of_heldAt h) rfl
  | double bits => exact .base (holds_of_heldAt h) rfl
  | boolean value => exact .base (holds_of_heldAt h) (by cases value <;> rfl)
  | string text => exact htext text h

/-! ## Encoded annotations -/

section Encoded

variable (pool : ConstantPool)

inductive ElementValue.IsNamedIn (value : ElementValue → List UInt8 → Prop) :
    String × ElementValue → List UInt8 → Prop
  | intro {place : UInt16} {name : String} {element : ElementValue} {bytes : List UInt8} :
    pool.Holds place (.utf8 name) → value element bytes →
      IsNamedIn value (name, element) (index place ++ bytes)

inductive AnnotationUse.IsEncodedWith (value : ElementValue → List UInt8 → Prop) :
    AnnotationUse → List UInt8 → Prop
  | intro {place : UInt16} {typeDescriptor : String} {elements : List (String × ElementValue)}
    {row : List UInt8} :
    pool.Holds place (.utf8 typeDescriptor) → elements.length < 65536 →
      Row (ElementValue.IsNamedIn pool value) elements row →
        IsEncodedWith value ⟨typeDescriptor, elements⟩
          (index place ++ (number 2 elements.length ++ row))

/-- Bytes with known tags and with indices of constants of the right kind. Nesting has no bound. -/
inductive ElementValue.IsEncoded : ElementValue → List UInt8 → Prop
  | const {type : ConstantType} {place : UInt16} {value : ConstantValue} :
    value.StandsAt pool type place → IsEncoded (const value) (letter type.tag ++ index place)
  | enum {typeDescriptor constantName : String} {typePlace namePlace : UInt16} :
    pool.Holds typePlace (.utf8 typeDescriptor) → pool.Holds namePlace (.utf8 constantName) →
      IsEncoded (enum typeDescriptor constantName)
        (letter 'e' ++ (index typePlace ++ index namePlace))
  | classInfo {descriptor : String} {place : UInt16} : pool.Holds place (.utf8 descriptor) →
    IsEncoded (classInfo descriptor) (letter 'c' ++ index place)
  | nested {typeDescriptor : String} {elements : List (String × ElementValue)}
    {bytes : List UInt8} :
    AnnotationUse.IsEncodedWith pool IsEncoded ⟨typeDescriptor, elements⟩ bytes →
      IsEncoded (nested typeDescriptor elements) (letter '@' ++ bytes)
  | array {items : List ElementValue} {row : List UInt8} :
    items.length < 65536 → Row IsEncoded items row →
      IsEncoded (array items) (letter '[' ++ (number 2 items.length ++ row))

def AnnotationUse.IsEncoded : AnnotationUse → List UInt8 → Prop :=
  IsEncodedWith pool (ElementValue.IsEncoded pool)

end Encoded

theorem Written.Row.imp {item weaker : α → List UInt8 → Prop} {items : List α} {row : List UInt8}
    (hrow : Row item items row)
    (h : ∀ value ∈ items, ∀ bytes, item value bytes → weaker value bytes) :
    Row weaker items row := by
  induction hrow with
  | nil => exact .nil
  | cons hfirst hothers ih =>
    obtain ⟨hhead, htail⟩ := List.forall_mem_cons.1 h
    exact .cons (hhead _ hfirst) (ih htail)

/-! ## Nesting -/

theorem itemsNesting_le_iff {items : List ElementValue} {depth : Nat} :
    itemsNesting items ≤ depth ↔ ∀ item ∈ items, item.nesting < depth := by
  induction items with
  | nil => simp [itemsNesting]
  | cons item items ih =>
    rw [itemsNesting, Nat.max_le, ih, List.forall_mem_cons]
    exact Iff.rfl

theorem elementsNesting_le_iff {elements : List (String × ElementValue)} {depth : Nat} :
    elementsNesting elements ≤ depth ↔ ∀ element ∈ elements, element.2.nesting < depth := by
  induction elements with
  | nil => simp [elementsNesting]
  | cons element elements ih =>
    rw [elementsNesting, elementNesting, Nat.max_le, ih, List.forall_mem_cons]
    exact Iff.rfl

variable {pool : ConstantPool}

theorem AnnotationUse.parsesIf_of_isEncodedWith {parser : Parser ElementValue}
    {fits : ElementValue → Prop} {value : ElementValue → List UInt8 → Prop} {use : AnnotationUse}
    {bytes : List UInt8} (h : use.IsEncodedWith pool value bytes)
    (hvalue : ∀ element bytes, value element bytes → ParsesIf (fits element) parser bytes element) :
    ParsesIf (∀ element ∈ use.elements, fits element.2) (parserWith pool parser) bytes use := by
  obtain ⟨htype, hlength, hrow⟩ := h
  refine .behind (Parses.u16 _) (.known htype.utf8_eq (.finish ?_ (Parses.pure _)))
  refine .counted (.intro hlength hrow) ?_
  rintro element - bytes ⟨hname, hbytes⟩
  refine .behind (Parses.u16 _) (.known hname.utf8_eq ?_)
  exact (hvalue _ _ hbytes).finish (Parses.pure _)

namespace ElementValue

/-- A level of the parser is spent on what a value holds: a value that holds nothing needs none but
its own. -/
theorem parsesIf_of_isEncoded (levels : Nat) :
    ∀ {value : ElementValue} {bytes : List UInt8}, IsEncoded pool value bytes →
      ParsesIf (value.nesting < levels) (parserAt pool levels) bytes value := by
  induction levels with
  | zero => exact fun _ => ⟨fun hlt => absurd hlt (Nat.not_lt_zero _), fun _ _ => rfl⟩
  | succ levels ih =>
    intro value bytes h
    rw [parserAt]
    cases h with
    | const hvalue =>
      refine (ParsesIf.ofParses ((Parses.u8 _).bind ?_)).congr (by simp [nesting])
      simp only [ConstantType.ofUInt8_tag, ConstantType.ofTag?_tag]
      exact (Parses.u16 _).finish (Parses.known hvalue.resolve_eq (Parses.pure _))
    | enum htype hname =>
      refine (ParsesIf.ofParses ((Parses.u8 _).bind ?_)).congr (by simp [nesting])
      refine (Parses.u16 _).bind (Parses.known htype.utf8_eq ?_)
      exact (Parses.u16 _).finish (Parses.known hname.utf8_eq (Parses.pure _))
    | classInfo hdescriptor =>
      refine (ParsesIf.ofParses ((Parses.u8 _).bind ?_)).congr (by simp [nesting])
      exact (Parses.u16 _).finish (Parses.known hdescriptor.utf8_eq (Parses.pure _))
    | nested huse =>
      rw [nesting, Nat.lt_succ_iff, elementsNesting_le_iff]
      have hparses := AnnotationUse.parsesIf_of_isEncodedWith huse fun _ _ => ih
      exact .behind (Parses.u8 _) (hparses.finish (Parses.pure _))
    | array hlength hrow =>
      rw [nesting, Nat.lt_succ_iff, itemsNesting_le_iff]
      refine .behind (Parses.u8 _) (.finish ?_ (Parses.pure _))
      exact .counted (.intro hlength hrow) fun _ _ _ => ih

end ElementValue

theorem AnnotationUse.parsesIf_of_isEncoded {use : AnnotationUse} {bytes : List UInt8}
    (h : use.IsEncoded pool bytes) :
    ParsesIf (∀ element ∈ use.elements, element.2.nesting ≤ ElementValue.maxNesting) (parser pool)
      bytes use := by
  have := parsesIf_of_isEncodedWith h fun _ _ =>
    ElementValue.parsesIf_of_isEncoded (ElementValue.maxNesting + 1)
  simp only [Nat.lt_succ_iff] at this
  exact this

/-! ## Written annotations -/

theorem AnnotationUse.isEncodedWith_of_isWrittenWith {use : AnnotationUse} {bytes : List UInt8}
    {written encoded : ElementValue → List UInt8 → Prop}
    (h : use.IsWrittenWith (Constant.HeldAt constants) written bytes)
    (hvalue : ∀ element ∈ use.elements, ∀ bytes, written element.2 bytes →
      encoded element.2 bytes) :
    use.IsEncodedWith (filledWith constants) encoded bytes := by
  obtain ⟨htype, hlength, hrow⟩ := h
  refine .intro (holds_of_heldAt htype) hlength (Row.imp hrow ?_)
  rintro element hmem bytes ⟨hname, hbytes⟩
  exact .intro (holds_of_heldAt hname) (hvalue _ hmem _ hbytes)

theorem ElementValue.isEncoded_of_isWritten {value : ElementValue} {bytes : List UInt8}
    (h : IsWritten (Constant.HeldAt constants) value bytes) :
    IsEncoded (filledWith constants) value bytes := by
  cases h with
  | const hvalue =>
    exact .const (ConstantValue.standsAt_of_heldAt hvalue fun _ h => .text (holds_of_heldAt h))
  | enum htype hname => exact .enum (holds_of_heldAt htype) (holds_of_heldAt hname)
  | classInfo hdescriptor => exact .classInfo (holds_of_heldAt hdescriptor)
  | nested huse =>
    refine .nested (AnnotationUse.isEncodedWith_of_isWrittenWith huse ?_)
    intro element hmem bytes hbytes
    exact isEncoded_of_isWritten hbytes
  | array hlength hrow =>
    refine .array hlength (Row.imp hrow ?_)
    intro item hmem bytes hbytes
    exact isEncoded_of_isWritten hbytes
termination_by value.nesting
decreasing_by
  · exact elementsNesting_le_iff.1 (Nat.le_refl _) element hmem
  · exact itemsNesting_le_iff.1 (Nat.le_refl _) item hmem

theorem AnnotationUse.parses_of_isWritten {use : AnnotationUse} {bytes : List UInt8}
    (h : use.IsWritten (Constant.HeldAt constants) bytes) :
    Parses (AnnotationUse.parser (filledWith constants)) bytes use := by
  obtain ⟨huse, hnesting⟩ := h
  have hencoded : use.IsEncoded (filledWith constants) bytes :=
    isEncodedWith_of_isWrittenWith huse fun _ _ _ => ElementValue.isEncoded_of_isWritten
  exact (parsesIf_of_isEncoded hencoded).parses hnesting

end Rebuild
