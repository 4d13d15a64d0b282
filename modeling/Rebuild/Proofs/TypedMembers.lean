import Rebuild.Proofs.ClassReadsBack
import Rebuild.Proofs.DescriptorForms
import Rebuild.Proofs.Evaluation

/-!
# Members that are read are well typed

Whatever the bytes are and whatever attributes they hold: a member of a class that is accepted has a
descriptor that is understood, a constant has the type of its field, and what is said of methods is
said of no field.
-/

namespace Rebuild

variable {α β : Type}

/-! ## What holds of all that is read -/

/-- The parser makes no other values than these, from no bytes. -/
def Guarantees (parser : Parser α) (holds : α → Prop) : Prop :=
  ∀ (input : List UInt8) (value : α) (rest : List UInt8),
    parser input = .ok (value, rest) → holds value

namespace Guarantees

variable {holds : α → Prop}

theorem any (parser : Parser α) : Guarantees parser fun _ => True := fun _ _ _ _ => trivial

theorem pure {value : α} (h : holds value) : Guarantees (Pure.pure value) holds := by
  rintro input _ rest ⟨⟩
  exact h

theorem throw_bind (error : ClassFileError) (next : β → Parser α) :
    Guarantees ((throw error : Parser β) >>= next) holds :=
  fun _ _ _ h => nomatch h

theorem lift {known : Except ClassFileError α} (h : ∀ value, known = .ok value → holds value) :
    Guarantees (known : Parser α) holds := by
  intro input value rest heq
  cases known with
  | error error => cases heq
  | ok found =>
    cases heq
    exact h _ rfl

theorem bind {parser : Parser α} {next : α → Parser β} {between : α → Prop} {holds : β → Prop}
    (hfirst : Guarantees parser between)
    (hnext : ∀ first, between first → Guarantees (next first) holds) :
    Guarantees (parser >>= next) holds := by
  intro input value rest h
  rw [Parser.bind_apply] at h
  cases hparser : parser input with
  | error error =>
    rw [hparser] at h
    cases h
  | ok answer =>
    rw [hparser] at h
    exact hnext answer.1 (hfirst input answer.1 answer.2 hparser) answer.2 value rest h

theorem skip {parser : Parser α} {next : α → Parser β} {holds : β → Prop}
    (hnext : ∀ first, Guarantees (next first) holds) : Guarantees (parser >>= next) holds :=
  (any parser).bind fun first _ => hnext first

theorem times {item : Parser α} (h : Guarantees item holds) (n : Nat) :
    Guarantees (Parser.times item n) fun items => ∀ value ∈ items, holds value := by
  induction n with
  | zero => exact pure nofun
  | succ n ih =>
    refine h.bind fun first hfirst => ih.bind fun others hothers => ?_
    exact pure (List.forall_mem_cons.2 ⟨hfirst, hothers⟩)

theorem counted {item : Parser α} (h : Guarantees item holds) :
    Guarantees (Parser.counted item) fun items => ∀ value ∈ items, holds value :=
  skip fun count => h.times count.toNat

theorem of_exactly {parser : Parser α} (h : Guarantees parser holds) {bytes : List UInt8}
    {value : α} (heq : Parser.exactly parser bytes = .ok value) : holds value := by
  unfold Parser.exactly at heq
  split at heq
  · next found hparser =>
    obtain rfl := Except.ok.inj heq
    exact h bytes found [] hparser
  · exact nomatch heq
  · exact nomatch heq

end Guarantees

/-! ## Constants -/

theorem BaseType.type_of_valueOf? {type : BaseType} {constant : Constant} {value : ConstantValue}
    (h : type.valueOf? constant = some value) : value.type = .base type := by
  unfold valueOf? at h
  split at h <;> cases h <;> rfl

theorem ConstantValue.type_of_resolve {pool : ConstantPool} {type : ConstantType} {place : UInt16}
    {value : ConstantValue} (h : resolve pool type place = .ok value) : value.type = type := by
  obtain ⟨constant, -, h⟩ := exists_of_bind_eq_ok h
  cases type with
  | string =>
    obtain ⟨text, -, h⟩ := exists_of_bind_eq_ok h
    cases h
    rfl
  | base type =>
    simp only at h
    split at h
    · next found hfound =>
      cases h
      exact BaseType.type_of_valueOf? hfound
    · exact nomatch h

theorem ConstantType.eq_fieldType_of_ofFieldType? {type : FieldType} {constant : ConstantType}
    (h : ofFieldType? type = some constant) : type = constant.fieldType := by
  cases type with
  | base type =>
    cases h
    rfl
  | object name =>
    simp only [ofFieldType?] at h
    split at h
    · next hname =>
      cases h
      rw [hname]
      rfl
    · exact nomatch h
  | array element => exact nomatch h

/-- The descriptor of the fields that the constant may belong to. -/
def ConstantValue.descriptor : ConstantValue → String
  | byte _ => "B"
  | char _ => "C"
  | short _ => "S"
  | int _ => "I"
  | long _ => "J"
  | float _ => "F"
  | double _ => "D"
  | boolean _ => "Z"
  | string _ => "Ljava/lang/String;"

theorem ConstantValue.ofList_print (value : ConstantValue) :
    String.ofList value.type.fieldType.print = value.descriptor := by
  cases value <;> rfl

/-! ## Attributes -/

/-- What an attribute says is said of owners of the right kind only. -/
inductive Attribute.Fits : AttributeOwner → Attribute → Prop
  | signature (owner : AttributeOwner) (text : String) : Fits owner (.signature text)
  | annotations (owner : AttributeOwner) (uses : List AnnotationUse) :
    Fits owner (.annotations uses)
  | constantValue (value : ConstantValue) :
    Fits (.field value.type.fieldType) (.constantValue value)
  | exceptions (classes : List String) : Fits .method (.exceptions classes)
  | innerClasses (classes : List InnerClass) : Fits .type (.innerClasses classes)
  | other (owner : AttributeOwner) : Fits owner .other

namespace Attribute

variable {pool : ConstantPool} {owner : AttributeOwner}

theorem fits_of_ofBody {name : String} {body : List UInt8} {said : Attribute}
    (h : ofBody pool owner name body = .ok said) : said.Fits owner := by
  unfold ofBody at h
  split at h
  · obtain ⟨text, -, h⟩ := exists_of_bind_eq_ok h
    cases h
    exact .signature _ text
  · obtain ⟨uses, -, h⟩ := exists_of_bind_eq_ok h
    cases h
    exact .annotations _ uses
  · next type _ =>
    split at h
    · exact nomatch h
    · next constant hconstant =>
      obtain ⟨value, hvalue, h⟩ := exists_of_bind_eq_ok h
      cases h
      have hresolved : Guarantees (do ConstantValue.resolve pool constant (← Parser.u16))
          fun value => value.type = constant :=
        Guarantees.skip fun _ => Guarantees.lift fun _ => ConstantValue.type_of_resolve
      -- The type that the constant is read for is that of the field, so they agree on it.
      obtain rfl := hresolved.of_exactly hvalue
      rw [ConstantType.eq_fieldType_of_ofFieldType? hconstant]
      exact .constantValue value
  · obtain ⟨classes, -, h⟩ := exists_of_bind_eq_ok h
    cases h
    exact .exceptions classes
  · obtain ⟨classes, -, h⟩ := exists_of_bind_eq_ok h
    cases h
    exact .innerClasses classes
  · cases h
    exact .other _

theorem parser_guarantees (pool : ConstantPool) (owner : AttributeOwner) :
    Guarantees (parser pool owner) fun said => said.Fits owner := by
  unfold parser
  exact Guarantees.skip fun _ => Guarantees.lift fun _ => fits_of_ofBody

end Attribute

namespace Attributes

variable {owner : AttributeOwner} {attributes : Attributes}

theorem parser_guarantees (pool : ConstantPool) (owner : AttributeOwner) :
    Guarantees (parser pool owner) fun attributes => ∀ said ∈ attributes, said.Fits owner :=
  Guarantees.counted (Attribute.parser_guarantees pool owner)

theorem owner_of_constantValue? (h : ∀ said ∈ attributes, said.Fits owner) {value : ConstantValue}
    (hvalue : attributes.constantValue? = some value) : owner = .field value.type.fieldType := by
  obtain ⟨said, hmem, hsaid⟩ := List.mem_filterMap.1 (List.mem_of_getLast? hvalue)
  cases h said hmem with
  | constantValue other =>
    obtain rfl := Option.some.inj hsaid
    rfl
  | _ => exact nomatch hsaid

theorem exceptions_eq_nil (h : ∀ said ∈ attributes, said.Fits owner) (howner : owner ≠ .method) :
    attributes.exceptions = [] := by
  unfold exceptions
  rw [List.flatMap_eq_nil_iff]
  intro said hmem
  cases h said hmem with
  | exceptions classes => exact absurd rfl howner
  | _ => rfl

end Attributes

/-! ## Members -/

namespace ClassMember

/-- The member can be a field. No array has a constant, and no other object than a string. -/
structure IsTypedField (member : ClassMember) : Prop where
  descriptor : ∃ type, describedBy FieldType.parse? member.descriptor = .ok type
  constantValue : ∀ value, member.constantValue = some value → member.descriptor = value.descriptor
  array : ∀ element, describedBy FieldType.parse? member.descriptor = .ok (.array element) →
    member.constantValue = none
  object : ∀ name, describedBy FieldType.parse? member.descriptor = .ok (.object name) →
    name ≠ "java/lang/String" → member.constantValue = none
  exceptions : member.exceptions = []

structure IsTypedMethod (member : ClassMember) : Prop where
  descriptor : ∃ type, describedBy MethodType.parse? member.descriptor = .ok type
  constantValue : member.constantValue = none

theorem isTypedField_of_type {member : ClassMember} {type : FieldType}
    (hdescriptor : describedBy FieldType.parse? member.descriptor = .ok type)
    (hvalue : ∀ value, member.constantValue = some value → type = value.type.fieldType)
    (hexceptions : member.exceptions = []) : member.IsTypedField := by
  -- A type that no constant has leaves the field without one.
  have hnone : (∀ value : ConstantValue, type ≠ value.type.fieldType) →
      member.constantValue = none := by
    intro hne
    cases hconstant : member.constantValue with
    | none => rfl
    | some value => exact absurd (hvalue value hconstant) (hne value)
  refine ⟨⟨type, hdescriptor⟩, ?_, ?_, ?_, hexceptions⟩
  · intro value hconstant
    have hprint := (FieldType.parse?_eq_some_iff.1 (describedBy_eq_ok_iff.1 hdescriptor)).2
    rw [hprint, hvalue value hconstant, value.ofList_print]
  · intro element harray
    obtain rfl := Except.ok.inj (hdescriptor.symm.trans harray)
    refine hnone fun value => ?_
    cases value <;> exact nofun
  · intro name hobject hname
    obtain rfl := Except.ok.inj (hdescriptor.symm.trans hobject)
    refine hnone fun value => ?_
    cases value with
    | string text => exact fun heq => hname (FieldType.object.inj heq)
    | _ => exact nofun

theorem field_guarantees (pool : ConstantPool) :
    Guarantees (parser pool .field) IsTypedField := by
  unfold parser
  refine Guarantees.skip fun accessFlags => Guarantees.skip fun _ => Guarantees.skip fun name => ?_
  refine Guarantees.skip fun _ => Guarantees.skip fun descriptor => ?_
  have howner : Guarantees (MemberKind.field.owner descriptor : Parser AttributeOwner) fun owner =>
      ∃ type, describedBy FieldType.parse? descriptor = .ok type ∧ owner = .field type := by
    refine Guarantees.lift fun owner h => ?_
    obtain ⟨type, htype, h⟩ := exists_of_bind_eq_ok h
    cases h
    exact ⟨type, htype, rfl⟩
  refine howner.bind fun owner ⟨type, htype, heq⟩ => ?_
  subst heq
  refine (Attributes.parser_guarantees pool (.field type)).bind fun attributes hfits => ?_
  refine Guarantees.pure (isTypedField_of_type htype ?_ ?_)
  · intro value hvalue
    exact AttributeOwner.field.inj (Attributes.owner_of_constantValue? hfits hvalue)
  · exact Attributes.exceptions_eq_nil hfits nofun

theorem method_guarantees (pool : ConstantPool) :
    Guarantees (parser pool .method) IsTypedMethod := by
  unfold parser
  refine Guarantees.skip fun accessFlags => Guarantees.skip fun _ => Guarantees.skip fun name => ?_
  refine Guarantees.skip fun _ => Guarantees.skip fun descriptor => ?_
  have howner : Guarantees (MemberKind.method.owner descriptor : Parser AttributeOwner) fun owner =>
      (∃ type, describedBy MethodType.parse? descriptor = .ok type) ∧ owner = .method := by
    refine Guarantees.lift fun owner h => ?_
    obtain ⟨type, htype, h⟩ := exists_of_bind_eq_ok h
    cases h
    exact ⟨⟨type, htype⟩, rfl⟩
  refine howner.bind fun owner ⟨htype, heq⟩ => ?_
  subst heq
  refine (Attributes.parser_guarantees pool .method).bind fun attributes hfits => ?_
  refine Guarantees.pure ⟨htype, ?_⟩
  cases hvalue : attributes.constantValue? with
  | none => rfl
  | some value => exact nomatch Attributes.owner_of_constantValue? hfits hvalue

end ClassMember

/-! ## Classes -/

namespace ClassFile

/-- The members of the class are typed as their kind asks for. -/
structure IsTyped (file : ClassFile) : Prop where
  fields : ∀ field ∈ file.fields, field.IsTypedField
  methods : ∀ method ∈ file.methods, method.IsTypedMethod

theorem body_guarantees (pool : ConstantPool) (minorVersion majorVersion : UInt16) :
    Guarantees (bodyParser pool minorVersion majorVersion) IsTyped := by
  unfold bodyParser
  refine Guarantees.skip fun _ => Guarantees.skip fun _ => Guarantees.skip fun _ => ?_
  refine Guarantees.skip fun _ => Guarantees.skip fun _ => ?_
  refine (Guarantees.counted (ClassMember.field_guarantees pool)).bind fun fields hfields => ?_
  refine (Guarantees.counted (ClassMember.method_guarantees pool)).bind fun methods hmethods => ?_
  exact Guarantees.skip fun _ => Guarantees.pure ⟨hfields, hmethods⟩

theorem parser_guarantees : Guarantees parser IsTyped := by
  unfold parser
  refine Guarantees.skip fun found => ?_
  split
  · exact Guarantees.throw_bind _ _
  · refine Guarantees.skip fun _ => Guarantees.skip fun _ => Guarantees.skip fun pool => ?_
    exact body_guarantees pool _ _

/-- A class that is accepted is well typed, whatever attributes its members have, how often and in
what order. -/
theorem isTyped_of_parse {bytes : List UInt8} {file : ClassFile} (h : parse bytes = .ok file) :
    (∀ field ∈ file.fields, field.IsTypedField) ∧
      ∀ method ∈ file.methods, method.IsTypedMethod := by
  have htyped : file.IsTyped := parser_guarantees.of_exactly h
  exact ⟨htyped.fields, htyped.methods⟩

/-- A class whose field has two constants and exceptions, and whose method has a constant. What is
in the wrong place has a body that is no good. -/
def crossedAttributes : List UInt8 :=
  [0xca, 0xfe, 0xba, 0xbe, 0x00, 0x00, 0x00, 0x41, 0x00, 0x0b, 0x01, 0x00, 0x01, 0x41, 0x07, 0x00,
    0x01, 0x01, 0x00, 0x01, 0x66, 0x01, 0x00, 0x01, 0x49, 0x01, 0x00, 0x0d, 0x43, 0x6f, 0x6e, 0x73,
    0x74, 0x61, 0x6e, 0x74, 0x56, 0x61, 0x6c, 0x75, 0x65, 0x03, 0x00, 0x00, 0x00, 0x03, 0x03, 0x00,
    0x00, 0x00, 0x05, 0x01, 0x00, 0x0a, 0x45, 0x78, 0x63, 0x65, 0x70, 0x74, 0x69, 0x6f, 0x6e, 0x73,
    0x01, 0x00, 0x01, 0x6d, 0x01, 0x00, 0x03, 0x28, 0x29, 0x56, 0x00, 0x21, 0x00, 0x02, 0x00, 0x00,
    0x00, 0x00, 0x00, 0x01, 0x00, 0x18, 0x00, 0x03, 0x00, 0x04, 0x00, 0x03, 0x00, 0x05, 0x00, 0x00,
    0x00, 0x02, 0x00, 0x06, 0x00, 0x08, 0x00, 0x00, 0x00, 0x01, 0xff, 0x00, 0x05, 0x00, 0x00, 0x00,
    0x02, 0x00, 0x07, 0x00, 0x01, 0x00, 0x01, 0x00, 0x09, 0x00, 0x0a, 0x00, 0x02, 0x00, 0x05, 0x00,
    0x00, 0x00, 0x01, 0xff, 0x00, 0x08, 0x00, 0x00, 0x00, 0x04, 0x00, 0x01, 0x00, 0x02, 0x00, 0x00]

theorem crossed_attributes_say_nothing :
    ∃ file, parse crossedAttributes = .ok file ∧
      (file.fields.map fun field => (field.descriptor, field.constantValue, field.exceptions)) =
        [("I", some (.int 5), [])] ∧
      (file.methods.map fun method => (method.descriptor, method.constantValue,
        method.exceptions)) = [("()V", none, ["A"])] ∧
      (∀ field ∈ file.fields, field.IsTypedField) ∧
      ∀ method ∈ file.methods, method.IsTypedMethod := by
  have hfields : (parse crossedAttributes).toOption.map (fun file => file.fields.map fun field =>
      (field.descriptor, field.constantValue, field.exceptions)) =
        some [("I", some (.int 5), [])] := by
    decide +kernel
  have hmethods : (parse crossedAttributes).toOption.map (fun file => file.methods.map fun method =>
      (method.descriptor, method.constantValue, method.exceptions)) =
        some [("()V", none, ["A"])] := by
    decide +kernel
  obtain ⟨file, hfile, hfields⟩ := Option.map_eq_some_iff.1 hfields
  rw [hfile, Option.map_some, Option.some.injEq] at hmethods
  have hparse : parse crossedAttributes = .ok file := toOption_eq_some_iff.1 hfile
  exact ⟨file, hparse, hfields, hmethods, isTyped_of_parse hparse⟩

end ClassFile

end Rebuild
