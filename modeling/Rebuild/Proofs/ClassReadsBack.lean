import Rebuild.Proofs.AnnotationsReadBack
import Rebuild.Proofs.UnpairedTexts

/-!
# A class file reads back

Whatever layout the constants have and whatever else the attributes say, the bytes of a class are
read as the class that they were written for. The one thing that a pool must not have is text with
a surrogate that lacks its other half.
-/

namespace Rebuild

open Written Constant ConstantPool

variable {constants : List Constant}

/-! ## Attributes -/

theorem parses_className {name : String} {bytes : List UInt8}
    (h : Indexed (ClassAt (Constant.HeldAt constants)) name bytes) :
    Parses (do (filledWith constants).className (← Parser.u16)) bytes name :=
  Parses.indexed h fun _ => className_eq_ok

theorem parses_optionalClass {name : Option String} {bytes : List UInt8}
    (h : OptionallyIndexed (ClassAt (Constant.HeldAt constants)) name bytes) :
    Parses (Parser.optional (filledWith constants).className) bytes name := by
  refine Parses.optional h ?_
  intro place found hfound
  refine ⟨?_, className_eq_ok hfound⟩
  obtain ⟨_, hclass, -⟩ := hfound
  exact place_ne_zero hclass

theorem InnerClass.parses_of_isWritten {inner : InnerClass} {bytes : List UInt8}
    (h : inner.IsWritten (Constant.HeldAt constants) bytes) :
    Parses (Attribute.innerClassParser (filledWith constants)) bytes inner := by
  obtain ⟨hinner, houter, hname⟩ := h
  refine (Parses.u16 _).bind (Parses.known (className_eq_ok hinner) ?_)
  refine (parses_optionalClass houter).bind ((Parses.optional hname ?_).bind ?_)
  · exact fun place found hfound => ⟨place_ne_zero hfound, utf8_eq_ok hfound⟩
  · exact (Parses.u16 _).finish (Parses.pure _)

namespace Attribute

def names : AttributeKind → List String
  | .signature => ["Signature"]
  | .annotations => ["RuntimeVisibleAnnotations", "RuntimeInvisibleAnnotations"]
  | .constantValue => ["ConstantValue"]
  | .exceptions => ["Exceptions"]
  | .innerClasses => ["InnerClasses"]

theorem mem_names_of_ofName? {name : String} {kind : AttributeKind}
    (h : AttributeKind.ofName? name = some kind) : name ∈ names kind := by
  unfold AttributeKind.ofName? at h
  repeat' split at h
  all_goals cases h
  all_goals simp [names, *]

theorem ofBody_other {owner : AttributeOwner} {name : String} (h : name ∉ owner.recognised)
    (pool : ConstantPool) (body : List UInt8) : ofBody pool owner name body = .ok other := by
  unfold ofBody
  cases hkind : AttributeKind.ofName? name with
  | none => rfl
  | some kind =>
    -- Either the owner has no use for the kind, or it recognises all its names.
    have hname := mem_names_of_ofName? hkind
    cases kind <;> cases owner <;>
      first | rfl | simp_all [names, AttributeOwner.recognised]

theorem ofFieldType?_fieldType (type : ConstantType) :
    ConstantType.ofFieldType? type.fieldType = some type := by
  cases type <;> rfl

theorem body_eq_ok {α : Type} {parser : Parser α} {body : List UInt8} {value : α}
    (make : α → Attribute) (h : Parses parser body value) :
    (do return make (← Parser.exactly parser body)) = Except.ok (make value) := by
  rw [h.exactly]
  rfl

theorem ofBody_of_isStated {owner : AttributeOwner} {said : Attribute} {name : String}
    {body : List UInt8} (h : IsStated (Constant.HeldAt constants) owner said name body) :
    ofBody (filledWith constants) owner name body = .ok said := by
  cases h with
  | signature htext => exact body_eq_ok signature (Parses.indexed htext fun _ => utf8_eq_ok)
  | visible huses | invisible huses =>
    exact body_eq_ok annotations
      (Parses.counted huses fun _ _ _ => AnnotationUse.parses_of_isWritten)
  | @constantValue value place hvalue =>
    have hresolve : ∀ place,
        value.HeldAt (Constant.HeldAt constants) (StringAt (Constant.HeldAt constants)) place →
          ConstantValue.resolve (filledWith constants) value.type place = .ok value := by
      intro place hplace
      refine (ConstantValue.standsAt_of_heldAt hplace ?_).resolve_eq
      rintro text ⟨name, hstring, htext⟩
      exact .string (holds_of_heldAt hstring) (holds_of_heldAt htext)
    have hbody := Parses.indexed (.intro hvalue) hresolve
    unfold ofBody
    rw [show AttributeKind.ofName? "ConstantValue" = some .constantValue from rfl]
    simp only [ofFieldType?_fieldType]
    exact body_eq_ok constantValue hbody
  | exceptions hclasses =>
    exact body_eq_ok exceptions (Parses.counted hclasses fun _ _ _ => parses_className)
  | innerClasses hclasses =>
    exact body_eq_ok innerClasses
      (Parses.counted hclasses fun _ _ _ => InnerClass.parses_of_isWritten)
  | other hname => exact ofBody_other hname _ body

theorem parses_of_isWritten {owner : AttributeOwner} {said : Attribute} {bytes : List UInt8}
    (h : IsWritten (Constant.HeldAt constants) owner said bytes) :
    Parses (parser (filledWith constants) owner) bytes said := by
  cases h with
  | @intro name place body hname hbody hlength =>
    have hraw : Parses (rawParser (filledWith constants))
        (index place ++ (number 4 body.length ++ body)) (name, body) := by
      refine (Parses.u16 _).bind ((Parses.u32_of_lt hlength).bind ?_)
      rw [UInt32.toNat_ofNat_of_lt' hlength]
      exact (Parses.bytes body).finish (Parses.known (utf8_eq_ok hname) (Parses.pure _))
    exact hraw.finish (Parses.lift (ofBody_of_isStated hbody))

end Attribute

namespace Attributes

theorem parses_of_isWritten {owner : AttributeOwner} {attributes : Attributes} {bytes : List UInt8}
    (h : Counted (Attribute.IsWritten (Constant.HeldAt constants) owner) attributes bytes) :
    Parses (parser (filledWith constants) owner) bytes attributes :=
  Parses.counted h fun _ _ _ => Attribute.parses_of_isWritten

theorem signature?_eq {attributes : Attributes} {signature : Option String}
    (h : Attribute.signatures attributes = signature.toList) :
    attributes.signature? = signature := by
  change (Attribute.signatures attributes).getLast? = signature
  rw [h]
  cases signature <;> rfl

theorem constantValue?_eq {attributes : Attributes} {value : Option ConstantValue}
    (h : Attribute.constantValues attributes = value.toList) :
    attributes.constantValue? = value := by
  change (Attribute.constantValues attributes).getLast? = value
  rw [h]
  cases value <;> rfl

end Attributes

/-! ## Classes -/

theorem MemberKind.owner_eq_ok {kind : MemberKind} {descriptor : String} {owner : AttributeOwner}
    (h : kind.Describes descriptor owner) : kind.owner descriptor = .ok owner := by
  cases h with
  | field htype =>
    have htype := describedBy_eq_ok_iff.2 (FieldType.parse?_print htype)
    change (do return AttributeOwner.field (← describedBy FieldType.parse? _)) = _
    rw [htype]
    rfl
  | method htype =>
    have htype := describedBy_eq_ok_iff.2 (MethodType.parse?_print htype)
    change (do let _ ← describedBy MethodType.parse? _; return AttributeOwner.method) = _
    rw [htype]
    rfl

theorem ClassMember.parses_of_isWritten {kind : MemberKind} {member : ClassMember}
    {bytes : List UInt8} (h : IsWritten (Constant.HeldAt constants) kind member bytes) :
    Parses (ClassMember.parser (filledWith constants) kind) bytes member := by
  obtain ⟨hname, hdescriptor, howner, hsaid, hattributes⟩ := h
  refine (Parses.u16 _).bind ((Parses.u16 _).bind (Parses.known (utf8_eq_ok hname) ?_))
  refine (Parses.u16 _).bind (Parses.known (utf8_eq_ok hdescriptor) ?_)
  refine Parses.known (MemberKind.owner_eq_ok howner) ?_
  refine (Attributes.parses_of_isWritten hattributes).finish ?_
  rw [Attributes.signature?_eq hsaid.signature, Attributes.constantValue?_eq hsaid.constantValue,
    hsaid.exceptions, hsaid.annotations]
  exact Parses.pure _

namespace ClassFile

theorem parses_behind {file : ClassFile} {bytes : List UInt8}
    (h : IsWrittenBehind (Constant.HeldAt constants) file bytes) :
    Parses (bodyParser (filledWith constants) file.minorVersion file.majorVersion) bytes file := by
  obtain ⟨⟨hthis⟩, hsuper, hinterfaces, hfields, hmethods, hsaid, hattributes⟩ := h
  refine (Parses.u16 _).bind ((Parses.u16 _).bind (Parses.known (className_eq_ok hthis) ?_))
  refine (parses_optionalClass hsuper).bind ?_
  refine (Parses.counted hinterfaces fun _ _ _ => parses_className).bind ?_
  refine (Parses.counted hfields fun _ _ _ => ClassMember.parses_of_isWritten).bind ?_
  refine (Parses.counted hmethods fun _ _ _ => ClassMember.parses_of_isWritten).bind ?_
  refine (Attributes.parses_of_isWritten hattributes).finish ?_
  rw [Attributes.signature?_eq hsaid.signature, hsaid.annotations, hsaid.innerClasses]
  exact Parses.pure _

section Written

variable {entries : List PoolEntry} {file : ClassFile} {bytes : List UInt8}
  (h : file.IsWritten entries bytes)

include h

theorem parses_of_isWritten (hconstants : entries.all PoolEntry.isConstant = true) :
    Parses parser bytes file := by
  obtain ⟨hpool, hbehind⟩ := h
  obtain ⟨constants, rfl⟩ := PoolEntry.exists_constants (List.all_eq_true.1 hconstants)
  rw [PoolEntry.heldAt_map] at hbehind
  refine (Parses.u32 magic).bind ?_
  rw [if_neg (not_not_intro rfl)]
  exact (Parses.u16 _).bind ((Parses.u16 _).bind ((parses_pool hpool).bind (parses_behind hbehind)))

theorem refuses_of_isWritten (hunpaired : entries.all PoolEntry.isConstant = false) :
    Refuses parser bytes .badText := by
  obtain ⟨hpool, -⟩ := h
  refine (Parses.u32 magic).refuses ?_
  rw [if_neg (not_not_intro rfl)]
  refine (Parses.u16 _).refuses ((Parses.u16 _).refuses ?_)
  exact ((refuses_pool hpool hunpaired).bind _).append _

/-- The class file of a class is parsed as that class, whatever entries the pool has and wherever
they lie, unless the text of some entry has a surrogate that is not paired. Then there is no class,
even if nothing refers to that entry. -/
theorem parse_eq_of_isWritten :
    parse bytes = if entries.all PoolEntry.isConstant then .ok file else .error .badText := by
  split
  · next hconstants => exact (parses_of_isWritten h hconstants).exactly
  · next hunpaired => exact (refuses_of_isWritten h (Bool.eq_false_iff.2 hunpaired)).exactly

end Written

theorem box_reads_back :
    Box.file.IsWritten Box.entries Box.bytes ∧ parse Box.bytes = .ok Box.file :=
  ⟨Box.isWritten, (parse_eq_of_isWritten Box.isWritten).trans (if_pos rfl)⟩

end ClassFile

/-! ## A class with text that it never uses -/

namespace Lone

/-- The first entry is one high surrogate. -/
def entries : List PoolEntry :=
  [.unpaired [0xD800], .constant (utf8 "A"), .constant (classRef 2)]

def file : ClassFile where
  minorVersion := 0
  majorVersion := 65
  accessFlags := 0x21
  thisClass := "A"
  superClass := none
  interfaces := []
  fields := []
  methods := []
  signature := none
  annotations := []
  innerClasses := []

def bytes : List UInt8 :=
  [0xca, 0xfe, 0xba, 0xbe, 0x00, 0x00, 0x00, 0x41, 0x00, 0x04, 0x01, 0x00, 0x03, 0xed, 0xa0, 0x80,
    0x01, 0x00, 0x01, 0x41, 0x07, 0x00, 0x02, 0x00, 0x21, 0x00, 0x03, 0x00, 0x00, 0x00, 0x00, 0x00,
    0x00, 0x00, 0x00, 0x00, 0x00]

theorem encode_ne (text : String) : Utf16.encode text.toList ≠ [0xD800] := by
  intro h
  have hdecode := Utf16.decode?_encode text.toList
  rw [h] at hdecode
  exact nomatch hdecode

theorem isWritten : file.IsWritten entries bytes := by
  have hpool := @PoolEntry.ArePooled.intro entries _ (by decide)
    (.cons (.unpaired encode_ne (by decide)) <| .cons (.constant (.utf8 (by decide))) <|
      .cons (.constant (.classRef 2)) .nil)
  have hclass : ClassAt (PoolEntry.HeldAt entries) 3 "A" :=
    ⟨2, ⟨entries.take 2, _, rfl, rfl⟩, entries.take 1, _, rfl, rfl⟩
  have hfile : file.IsWritten entries _ :=
    .intro hpool (.intro (.intro hclass) .none (.intro (by decide) .nil) (.intro (by decide) .nil)
      (.intro (by decide) .nil) ⟨rfl, rfl, rfl⟩ (.intro (by decide) .nil))
  exact hfile

end Lone

theorem ClassFile.lone_surrogate_is_refused :
    Lone.file.IsWritten Lone.entries Lone.bytes ∧ parse Lone.bytes = .error .badText ∧
      parse Lone.bytes ≠ .ok Lone.file := by
  have hrefused : parse Lone.bytes = .error .badText :=
    (refuses_of_isWritten Lone.isWritten rfl).exactly
  refine ⟨Lone.isWritten, hrefused, ?_⟩
  rw [hrefused]
  exact nofun

end Rebuild
