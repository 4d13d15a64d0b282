import Rebuild.ClassFile.Basic
import Rebuild.Proofs.Descriptors

/-!
# How a class is written

The bytes that stand for a class, over some constants. The description of a class leaves much open:
where a constant lies that is referred to, what other constants there are, what else is said in
attributes that no reader of the surface knows. Each relation holds for all ways to choose that.
-/

namespace Rebuild

/-! ## Numbers and rows -/

namespace Written

variable {α : Type}

/-- The big-endian bytes of a number that fits them. -/
def number : (width : Nat) → Nat → List UInt8
  | 0, _ => []
  | width + 1, n => number width (n / 256) ++ [UInt8.ofNat n]

def letter (c : Char) : List UInt8 := [c.toUInt8]

def index (value : UInt16) : List UInt8 := number 2 value.toNat

inductive Row (item : α → List UInt8 → Prop) : List α → List UInt8 → Prop
  | nil : Row item [] []
  | cons {first : α} {others : List α} {front rest : List UInt8} :
    item first front → Row item others rest → Row item (first :: others) (front ++ rest)

/-- A count and that many items. -/
inductive Counted (item : α → List UInt8 → Prop) : List α → List UInt8 → Prop
  | intro {items : List α} {row : List UInt8} :
    items.length < 65536 → Row item items row →
      Counted item items (number 2 items.length ++ row)

/-- The index of a place that holds the value. -/
inductive Indexed (holds : UInt16 → α → Prop) : α → List UInt8 → Prop
  | intro {place : UInt16} {value : α} : holds place value → Indexed holds value (index place)

/-- The index of a place that holds the value, or zero for nothing. -/
inductive OptionallyIndexed (holds : UInt16 → α → Prop) : Option α → List UInt8 → Prop
  | none : OptionallyIndexed holds none (index 0)
  | some {place : UInt16} {value : α} :
    holds place value → OptionallyIndexed holds (some value) (index place)

end Written

/-! ## Constants -/

namespace Constant

open Written

/-- Tags of constants that say nothing about the surface of a class, with the number of bytes behind
them. -/
def skipped : List (UInt8 × Constant × Nat) :=
  [(9, memberRef, 4), (10, memberRef, 4), (11, memberRef, 4), (12, nameAndType, 4),
    (15, methodHandle, 3), (16, methodType, 2), (17, dynamic, 4), (18, dynamic, 4),
    (19, moduleRef, 2), (20, packageRef, 2)]

inductive IsWritten : Constant → List UInt8 → Prop
  | utf8 {text : String} : (ModifiedUtf8.encode text).length < 65536 →
    IsWritten (utf8 text)
      (1 :: number 2 (ModifiedUtf8.encode text).length ++ ModifiedUtf8.encode text)
  | integer (value : Int32) : IsWritten (integer value) (3 :: number 4 value.toUInt32.toNat)
  | float (bits : UInt32) : IsWritten (float bits) (4 :: number 4 bits.toNat)
  | long (value : Int64) : IsWritten (long value) (5 :: number 8 value.toUInt64.toNat)
  | double (bits : UInt64) : IsWritten (double bits) (6 :: number 8 bits.toNat)
  | classRef (name : UInt16) : IsWritten (classRef name) (7 :: index name)
  | string (text : UInt16) : IsWritten (string text) (8 :: index text)
  | skipped {tag : UInt8} {constant : Constant} {length : Nat} {contents : List UInt8} :
    (tag, constant, length) ∈ skipped → contents.length = length →
      IsWritten constant (tag :: contents)

def width (constant : Constant) : Nat := if constant.isWide then 2 else 1

def slotCount : List Constant → Nat
  | [] => 0
  | constant :: constants => constant.width + slotCount constants

/-- The constant lies at the index. Slots are counted from one. -/
def HeldAt (constants : List Constant) (place : UInt16) (constant : Constant) : Prop :=
  ∃ before after, constants = before ++ constant :: after ∧ place.toNat = slotCount before + 1

end Constant

/-! ## Pools -/

/-- What may stand in a pool: a constant, or units that no text has. These are units of UTF-16 as
well, but some surrogate among them lacks its other half. -/
inductive PoolEntry
  | constant (value : Constant)
  | unpaired (units : List UInt16)

namespace PoolEntry

open Written

def isConstant : PoolEntry → Bool
  | constant _ => true
  | unpaired _ => false

inductive IsWritten : PoolEntry → List UInt8 → Prop
  | constant {value : Constant} {bytes : List UInt8} :
    value.IsWritten bytes → IsWritten (.constant value) bytes
  | unpaired {units : List UInt16} : (∀ text : String, Utf16.encode text.toList ≠ units) →
    (units.flatMap ModifiedUtf8.ofUnit).length < 65536 →
      IsWritten (.unpaired units)
        (1 :: number 2 (units.flatMap ModifiedUtf8.ofUnit).length ++
          units.flatMap ModifiedUtf8.ofUnit)

def width : PoolEntry → Nat
  | constant value => value.width
  | unpaired _ => 1

def slotCount : List PoolEntry → Nat
  | [] => 0
  | entry :: entries => entry.width + slotCount entries

def HeldAt (entries : List PoolEntry) (place : UInt16) (value : Constant) : Prop :=
  ∃ before after, entries = before ++ constant value :: after ∧
    place.toNat = slotCount before + 1

/-- The count of slots with slot 0, and the entries in any order. -/
inductive ArePooled (entries : List PoolEntry) : List UInt8 → Prop
  | intro {row : List UInt8} : slotCount entries + 1 < 65536 → Row IsWritten entries row →
    ArePooled entries (number 2 (slotCount entries + 1) ++ row)

end PoolEntry

/-! ## Names that are held -/

namespace Constant

variable (holds : UInt16 → Constant → Prop)

def TextAt (place : UInt16) (value : String) : Prop := holds place (utf8 value)

def ClassAt (place : UInt16) (value : String) : Prop :=
  ∃ name, holds place (classRef name) ∧ TextAt holds name value

def StringAt (place : UInt16) (value : String) : Prop :=
  ∃ name, holds place (string name) ∧ TextAt holds name value

end Constant

open Written Constant

variable (holds : UInt16 → Constant → Prop)

/-! ## Values -/

namespace ConstantType

def tag : ConstantType → Char
  | base type => type.tag
  | string => 's'

def fieldType : ConstantType → FieldType
  | base type => .base type
  | string => .object "java/lang/String"

end ConstantType

namespace ConstantValue

def type : ConstantValue → ConstantType
  | byte _ => .base .byte
  | char _ => .base .char
  | short _ => .base .short
  | int _ => .base .int
  | long _ => .base .long
  | float _ => .base .float
  | double _ => .base .double
  | boolean _ => .base .boolean
  | string _ => .string

/-- The value lies at the index; small numbers fill up an integer. Where texts lie is different for
fields and for annotations. -/
def HeldAt (textAt : UInt16 → String → Prop) (place : UInt16) : ConstantValue → Prop
  | byte value => holds place (.integer value.toInt32)
  | char unit => holds place (.integer unit.toUInt32.toInt32)
  | short value => holds place (.integer value.toInt32)
  | int value => holds place (.integer value)
  | long value => holds place (.long value)
  | float bits => holds place (.float bits)
  | double bits => holds place (.double bits)
  | boolean value => holds place (.integer (if value then 1 else 0))
  | string text => textAt place text

end ConstantValue

inductive IsNamed (value : ElementValue → List UInt8 → Prop) :
    String × ElementValue → List UInt8 → Prop
  | intro {place : UInt16} {name : String} {element : ElementValue} {bytes : List UInt8} :
    TextAt holds place name → value element bytes →
      IsNamed value (name, element) (index place ++ bytes)

inductive AnnotationUse.IsWrittenWith (value : ElementValue → List UInt8 → Prop) :
    AnnotationUse → List UInt8 → Prop
  | intro {place : UInt16} {typeDescriptor : String} {elements : List (String × ElementValue)}
    {row : List UInt8} :
    TextAt holds place typeDescriptor → elements.length < 65536 →
      Row (IsNamed holds value) elements row →
        IsWrittenWith value ⟨typeDescriptor, elements⟩
          (index place ++ (number 2 elements.length ++ row))

inductive ElementValue.IsWritten : ElementValue → List UInt8 → Prop
  | const {value : ConstantValue} {place : UInt16} :
    value.HeldAt holds (TextAt holds) place →
      IsWritten (const value) (letter value.type.tag ++ index place)
  | enum {typeDescriptor constantName : String} {typePlace namePlace : UInt16} :
    TextAt holds typePlace typeDescriptor → TextAt holds namePlace constantName →
      IsWritten (enum typeDescriptor constantName)
        (letter 'e' ++ (index typePlace ++ index namePlace))
  | classInfo {descriptor : String} {place : UInt16} : TextAt holds place descriptor →
    IsWritten (classInfo descriptor) (letter 'c' ++ index place)
  | nested {typeDescriptor : String} {elements : List (String × ElementValue)}
    {bytes : List UInt8} :
    AnnotationUse.IsWrittenWith holds IsWritten ⟨typeDescriptor, elements⟩ bytes →
      IsWritten (nested typeDescriptor elements) (letter '@' ++ bytes)
  | array {items : List ElementValue} {row : List UInt8} :
    items.length < 65536 → Row IsWritten items row →
      IsWritten (array items) (letter '[' ++ (number 2 items.length ++ row))

/-! The annotations and arrays that the innermost value inside a value is nested in. -/

mutual

def ElementValue.nesting : ElementValue → Nat
  | .nested _ elements => elementsNesting elements
  | .array items => itemsNesting items
  | _ => 0

def elementsNesting : List (String × ElementValue) → Nat
  | [] => 0
  | element :: elements => max (elementNesting element) (elementsNesting elements)

def elementNesting : String × ElementValue → Nat
  | (_, value) => value.nesting + 1

def itemsNesting : List ElementValue → Nat
  | [] => 0
  | item :: items => max (item.nesting + 1) (itemsNesting items)

end

/-- An annotation with values that are not nested too deep. -/
def AnnotationUse.IsWritten (use : AnnotationUse) (bytes : List UInt8) : Prop :=
  AnnotationUse.IsWrittenWith holds (ElementValue.IsWritten holds) use bytes ∧
    ∀ element ∈ use.elements, element.2.nesting ≤ ElementValue.maxNesting

/-! ## Attributes -/

inductive InnerClass.IsWritten : InnerClass → List UInt8 → Prop
  | intro {inner : String} {outer name : Option String} {accessFlags place : UInt16}
    {outerBytes nameBytes : List UInt8} :
    ClassAt holds place inner →
      OptionallyIndexed (ClassAt holds) outer outerBytes →
        OptionallyIndexed (TextAt holds) name nameBytes →
          IsWritten ⟨inner, outer, name, accessFlags⟩
            (index place ++ (outerBytes ++ (nameBytes ++ index accessFlags)))

/-- The attributes of an owner that say something about the surface of a class. -/
def AttributeOwner.recognised : AttributeOwner → List String
  | type =>
    ["Signature", "RuntimeVisibleAnnotations", "RuntimeInvisibleAnnotations", "InnerClasses"]
  | field _ =>
    ["Signature", "RuntimeVisibleAnnotations", "RuntimeInvisibleAnnotations", "ConstantValue"]
  | method =>
    ["Signature", "RuntimeVisibleAnnotations", "RuntimeInvisibleAnnotations", "Exceptions"]

namespace Attribute

/-- The name and the body of an attribute. Attributes that are not recognised have any body. -/
inductive IsStated : AttributeOwner → Attribute → String → List UInt8 → Prop
  | signature {owner : AttributeOwner} {text : String} {body : List UInt8} :
    Indexed (TextAt holds) text body → IsStated owner (signature text) "Signature" body
  | visible {owner : AttributeOwner} {uses : List AnnotationUse} {body : List UInt8} :
    Counted (AnnotationUse.IsWritten holds) uses body →
      IsStated owner (annotations uses) "RuntimeVisibleAnnotations" body
  | invisible {owner : AttributeOwner} {uses : List AnnotationUse} {body : List UInt8} :
    Counted (AnnotationUse.IsWritten holds) uses body →
      IsStated owner (annotations uses) "RuntimeInvisibleAnnotations" body
  | constantValue {value : ConstantValue} {place : UInt16} :
    value.HeldAt holds (StringAt holds) place →
      IsStated (.field value.type.fieldType) (constantValue value) "ConstantValue" (index place)
  | exceptions {classes : List String} {body : List UInt8} :
    Counted (Indexed (ClassAt holds)) classes body →
      IsStated .method (exceptions classes) "Exceptions" body
  | innerClasses {classes : List InnerClass} {body : List UInt8} :
    Counted (InnerClass.IsWritten holds) classes body →
      IsStated .type (innerClasses classes) "InnerClasses" body
  | other {owner : AttributeOwner} {name : String} {body : List UInt8} :
    name ∉ owner.recognised → IsStated owner other name body

/-- The name, the length of the body in four bytes, and the body. -/
inductive IsWritten (owner : AttributeOwner) : Attribute → List UInt8 → Prop
  | intro {said : Attribute} {name : String} {place : UInt16} {body : List UInt8} :
    TextAt holds place name → IsStated holds owner said name body →
      body.length < 4294967296 →
        IsWritten owner said (index place ++ (number 4 body.length ++ body))

def signatures (attributes : List Attribute) : List String :=
  attributes.filterMap fun
    | signature text => some text
    | _ => none

def constantValues (attributes : List Attribute) : List ConstantValue :=
  attributes.filterMap fun
    | constantValue value => some value
    | _ => none

end Attribute

/-! ## Classes -/

structure ClassMember.IsDescribedBy (member : ClassMember) (attributes : List Attribute) :
    Prop where
  signature : Attribute.signatures attributes = member.signature.toList
  constantValue : Attribute.constantValues attributes = member.constantValue.toList
  exceptions : Attributes.exceptions attributes = member.exceptions
  annotations : Attributes.annotations attributes = member.annotations

/-- The descriptor is the written form of a type, which decides what the attributes belong to. -/
inductive MemberKind.Describes : MemberKind → String → AttributeOwner → Prop
  | field {type : FieldType} : type.IsPrintable →
    Describes .field (String.ofList type.print) (.field type)
  | method {type : MethodType} : type.IsPrintable →
    Describes .method (String.ofList type.print) .method

inductive ClassMember.IsWritten (kind : MemberKind) : ClassMember → List UInt8 → Prop
  | intro {member : ClassMember} {owner : AttributeOwner} {attributes : List Attribute}
    {namePlace descriptorPlace : UInt16} {bytes : List UInt8} :
    TextAt holds namePlace member.name →
      TextAt holds descriptorPlace member.descriptor →
        kind.Describes member.descriptor owner →
          member.IsDescribedBy attributes →
            Counted (Attribute.IsWritten holds owner) attributes bytes →
              IsWritten kind member (index member.accessFlags ++
                (index namePlace ++ (index descriptorPlace ++ bytes)))

structure ClassFile.IsDescribedBy (file : ClassFile) (attributes : List Attribute) : Prop where
  signature : Attribute.signatures attributes = file.signature.toList
  annotations : Attributes.annotations attributes = file.annotations
  innerClasses : Attributes.innerClasses attributes = file.innerClasses

inductive ClassFile.IsWrittenBehind : ClassFile → List UInt8 → Prop
  | intro {file : ClassFile} {attributes : List Attribute}
    {thisClass superClass interfaces fields methods bytes : List UInt8} :
    Indexed (ClassAt holds) file.thisClass thisClass →
      OptionallyIndexed (ClassAt holds) file.superClass superClass →
        Counted (Indexed (ClassAt holds)) file.interfaces interfaces →
          Counted (ClassMember.IsWritten holds .field) file.fields fields →
            Counted (ClassMember.IsWritten holds .method) file.methods methods →
              file.IsDescribedBy attributes →
                Counted (Attribute.IsWritten holds .type) attributes bytes →
                  IsWrittenBehind file (index file.accessFlags ++ (thisClass ++ (superClass ++
                    (interfaces ++ (fields ++ (methods ++ bytes))))))

/-- The bytes are the class file of a class, over entries that hold what it refers to. -/
inductive ClassFile.IsWritten (entries : List PoolEntry) : ClassFile → List UInt8 → Prop
  | intro {file : ClassFile} {pool bytes : List UInt8} :
    PoolEntry.ArePooled entries pool →
      file.IsWrittenBehind (PoolEntry.HeldAt entries) bytes →
        IsWritten entries file (number 4 0xCAFEBABE ++ (index file.minorVersion ++
          (index file.majorVersion ++ (pool ++ bytes))))

/-! ## A class with a wide constant -/

namespace Box

/-- A constant of two slots lies in front of all names. -/
def constants : List Constant :=
  [long 7, utf8 "Box", classRef 3, utf8 "size", utf8 "J", utf8 "ConstantValue", utf8 "Mark",
    utf8 "RuntimeVisibleAnnotations", utf8 "LMark;"]

def size : ClassMember where
  accessFlags := 0x18
  name := "size"
  descriptor := "J"
  signature := none
  constantValue := some (.long 7)
  exceptions := []
  annotations := []

def file : ClassFile where
  minorVersion := 0
  majorVersion := 65
  accessFlags := 0x21
  thisClass := "Box"
  superClass := none
  interfaces := []
  fields := [size]
  methods := []
  signature := none
  annotations := [⟨"LMark;", []⟩]
  innerClasses := []

/-- The field also has an attribute that no reader knows. -/
def bytes : List UInt8 :=
  [0xca, 0xfe, 0xba, 0xbe, 0x00, 0x00, 0x00, 0x41, 0x00, 0x0b, 0x05, 0x00, 0x00, 0x00, 0x00,
    0x00, 0x00, 0x00, 0x07, 0x01, 0x00, 0x03, 0x42, 0x6f, 0x78, 0x07, 0x00, 0x03, 0x01, 0x00,
    0x04, 0x73, 0x69, 0x7a, 0x65, 0x01, 0x00, 0x01, 0x4a, 0x01, 0x00, 0x0d, 0x43, 0x6f, 0x6e,
    0x73, 0x74, 0x61, 0x6e, 0x74, 0x56, 0x61, 0x6c, 0x75, 0x65, 0x01, 0x00, 0x04, 0x4d, 0x61,
    0x72, 0x6b, 0x01, 0x00, 0x19, 0x52, 0x75, 0x6e, 0x74, 0x69, 0x6d, 0x65, 0x56, 0x69, 0x73,
    0x69, 0x62, 0x6c, 0x65, 0x41, 0x6e, 0x6e, 0x6f, 0x74, 0x61, 0x74, 0x69, 0x6f, 0x6e, 0x73,
    0x01, 0x00, 0x06, 0x4c, 0x4d, 0x61, 0x72, 0x6b, 0x3b, 0x00, 0x21, 0x00, 0x04, 0x00, 0x00,
    0x00, 0x00, 0x00, 0x01, 0x00, 0x18, 0x00, 0x05, 0x00, 0x06, 0x00, 0x02, 0x00, 0x08, 0x00,
    0x00, 0x00, 0x03, 0xde, 0xad, 0x00, 0x00, 0x07, 0x00, 0x00, 0x00, 0x02, 0x00, 0x01, 0x00,
    0x00, 0x00, 0x01, 0x00, 0x09, 0x00, 0x00, 0x00, 0x06, 0x00, 0x01, 0x00, 0x0a, 0x00, 0x00]

def entries : List PoolEntry := constants.map .constant

theorem isWritten : ClassFile.IsWritten entries file bytes := by
  have hconstant {constant : Constant} {bytes : List UInt8} (h : constant.IsWritten bytes) :=
    PoolEntry.IsWritten.constant h
  have hpool := @PoolEntry.ArePooled.intro entries _ (by decide)
    (.cons (hconstant (.long 7)) <|
    .cons (hconstant (.utf8 (by decide))) <| .cons (hconstant (.classRef 3)) <|
    .cons (hconstant (.utf8 (by decide))) <| .cons (hconstant (.utf8 (by decide))) <|
    .cons (hconstant (.utf8 (by decide))) <| .cons (hconstant (.utf8 (by decide))) <|
    .cons (hconstant (.utf8 (by decide))) <| .cons (hconstant (.utf8 (by decide))) .nil)
  have hclass : ClassAt (PoolEntry.HeldAt entries) 4 "Box" :=
    ⟨3, ⟨entries.take 2, _, rfl, rfl⟩, entries.take 1, _, rfl, rfl⟩
  have hname : TextAt (PoolEntry.HeldAt entries) 5 "size" := ⟨entries.take 3, _, rfl, rfl⟩
  have htype : TextAt (PoolEntry.HeldAt entries) 6 "J" := ⟨entries.take 4, _, rfl, rfl⟩
  have hvalueName : TextAt (PoolEntry.HeldAt entries) 7 "ConstantValue" :=
    ⟨entries.take 5, _, rfl, rfl⟩
  have hmarkName : TextAt (PoolEntry.HeldAt entries) 8 "Mark" := ⟨entries.take 6, _, rfl, rfl⟩
  have hvisibleName : TextAt (PoolEntry.HeldAt entries) 9 "RuntimeVisibleAnnotations" :=
    ⟨entries.take 7, _, rfl, rfl⟩
  have huseName : TextAt (PoolEntry.HeldAt entries) 10 "LMark;" := ⟨entries.take 8, _, rfl, rfl⟩
  have hmark := @Attribute.IsWritten.intro (PoolEntry.HeldAt entries) (.field (.base .long)) .other
    _ _ [0xde, 0xad, 0] hmarkName (.other (by decide)) (by decide)
  have hvalue := @Attribute.IsWritten.intro (PoolEntry.HeldAt entries) (.field (.base .long)) _ _ _
    _ hvalueName (@Attribute.IsStated.constantValue _ (.long 7) 1 ⟨[], _, rfl, rfl⟩) (by decide)
  have hsize : ClassMember.IsWritten (PoolEntry.HeldAt entries) .field size _ :=
    .intro hname htype (@MemberKind.Describes.field (.base .long) ⟨by decide, fun _ h => nomatch h⟩)
      ⟨rfl, rfl, rfl, rfl⟩ (.intro (by decide) (.cons hmark (.cons hvalue .nil)))
  have huse : AnnotationUse.IsWritten (PoolEntry.HeldAt entries) ⟨"LMark;", []⟩ _ :=
    ⟨.intro huseName (by decide) .nil, fun _ h => nomatch h⟩
  have hvisible := @Attribute.IsWritten.intro (PoolEntry.HeldAt entries) .type _ _ _ _ hvisibleName
    (.visible (.intro (by decide) (.cons huse .nil))) (by decide)
  have hfile : ClassFile.IsWritten entries file _ :=
    .intro hpool (.intro (.intro hclass) .none (.intro (by decide) .nil)
      (.intro (by decide) (.cons hsize .nil)) (.intro (by decide) .nil) ⟨rfl, rfl, rfl⟩
      (.intro (by decide) (.cons hvisible .nil)))
  exact hfile

end Box

end Rebuild
