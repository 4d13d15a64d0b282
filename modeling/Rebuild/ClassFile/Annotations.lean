import Rebuild.ClassFile.ConstantPool
import Rebuild.ClassFile.Descriptor

/-!
# Annotations and constant values

Typed constants out of a pool, and annotations, whose elements hold constants, further annotations
and arrays. Nesting is bounded, so hostile input cannot drive the reader arbitrarily deep.
-/

namespace Rebuild

/-- A compile-time constant. Floating point values are kept as the bits that are written. -/
inductive ConstantValue
  | byte (value : Int8)
  | char (unit : UInt16)
  | short (value : Int16)
  | int (value : Int32)
  | long (value : Int64)
  | float (bits : UInt32)
  | double (bits : UInt64)
  | boolean (value : Bool)
  | string (text : String)
deriving DecidableEq, Repr

/-- The types that a constant value can have. -/
inductive ConstantType
  | base (type : BaseType)
  | string
deriving DecidableEq, Repr

namespace ConstantType

/-- The type of the constants that a field of this type may hold. -/
def ofFieldType? : FieldType → Option ConstantType
  | .base type => some (.base type)
  | .object name => if name = "java/lang/String" then some .string else none
  | .array _ => none

/-- The type that the tag of an element value announces. -/
def ofTag? (tag : Char) : Option ConstantType :=
  if tag = 's' then some string else (BaseType.ofTag? tag).map base

end ConstantType

/-- The kind of constant that holds a value of the type. -/
def BaseType.constantKind : BaseType → ConstantKind
  | byte | char | int | short | boolean => .integer
  | long => .long
  | float => .float
  | double => .double

/-- The value of a constant of the right kind, cut to the width of the type. -/
def BaseType.valueOf? : BaseType → Constant → Option ConstantValue
  | byte, .integer value => some (.byte value.toInt8)
  | char, .integer value => some (.char value.toUInt32.toUInt16)
  | int, .integer value => some (.int value)
  | short, .integer value => some (.short value.toInt16)
  | boolean, .integer value => some (.boolean (value != 0))
  | long, .long value => some (.long value)
  | float, .float bits => some (.float bits)
  | double, .double bits => some (.double bits)
  | _, _ => none

namespace ConstantValue

/-- The constant at an index as a value of the type. -/
def resolve (pool : ConstantPool) (type : ConstantType) (index : UInt16) :
    Except ClassFileError ConstantValue := do
  let constant ← pool.get index
  match type with
  | .string => return string (← pool.string index)
  | .base type =>
    match type.valueOf? constant with
    | some value => return value
    | none => throw (.kindMismatch index type.constantKind constant.kind)

/-- The character of a char constant, unless it is half of a pair. -/
def character? : ConstantValue → Option Char
  | char unit => Utf16.char? unit.toNat
  | _ => none

end ConstantValue

inductive ElementValue
  | const (value : ConstantValue)
  | enum (typeDescriptor constantName : String)
  | classInfo (descriptor : String)
  | nested (typeDescriptor : String) (elements : List (String × ElementValue))
  | array (items : List ElementValue)
deriving Repr

/-- One use of an annotation type, with the values that it gives to elements. -/
structure AnnotationUse where
  typeDescriptor : String
  elements : List (String × ElementValue)
deriving Repr

namespace AnnotationUse

/-- The internal name of the annotation type. -/
def typeName? (use : AnnotationUse) : Option String :=
  ((dropFront? ['L'] use.typeDescriptor.toList).bind (dropBack? [';'])).map String.ofList

open Rebuild.Parser in
/-- A type and named elements, each read by `value`. -/
def parserWith (pool : ConstantPool) (value : Parser ElementValue) : Parser AnnotationUse := do
  let typeDescriptor ← pool.utf8 (← u16)
  let elements ← counted do
    let name ← pool.utf8 (← u16)
    return (name, ← value)
  return ⟨typeDescriptor, elements⟩

end AnnotationUse

namespace ElementValue

/-- The most annotations and arrays that a value may be nested in. -/
def maxNesting : Nat := 255

open Rebuild.Parser in
/-- A value at a place that admits `levels` levels of values, its own included. -/
def parserAt (pool : ConstantPool) : Nat → Parser ElementValue
  | 0 => throw .badAnnotations
  | levels + 1 => do
    let tag := Char.ofUInt8 (← u8)
    match ConstantType.ofTag? tag with
    | some type => return const (← ConstantValue.resolve pool type (← u16))
    | none =>
      match tag with
      | 'e' => do
        let typeDescriptor ← pool.utf8 (← u16)
        return enum typeDescriptor (← pool.utf8 (← u16))
      | 'c' => return classInfo (← pool.utf8 (← u16))
      | '@' => do
        let use ← AnnotationUse.parserWith pool (parserAt pool levels)
        return nested use.typeDescriptor use.elements
      | '[' => return array (← counted (parserAt pool levels))
      | _ => throw .badAnnotations

end ElementValue

/-- An annotation whose elements stand at the outermost level. -/
def AnnotationUse.parser (pool : ConstantPool) : Parser AnnotationUse :=
  parserWith pool (ElementValue.parserAt pool (ElementValue.maxNesting + 1))

end Rebuild
