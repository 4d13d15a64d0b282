import Rebuild.ClassFile.Annotations

/-!
# Attributes

What classes, fields and methods say beside their names and types. An attribute is a name and a
body of stated length. Attributes with a name or at a place that is not listed here describe no
part of a class's surface, and their bodies are not looked at.
-/

namespace Rebuild

/-- A class declared inside another one, or mentioned as such. -/
structure InnerClass where
  inner : String
  outer : Option String
  name : Option String
  accessFlags : UInt16
deriving DecidableEq, Repr

/-- What an attribute belongs to. The type of a field decides the type of its constant value. -/
inductive AttributeOwner
  | type
  | field (type : FieldType)
  | method
deriving DecidableEq, Repr

inductive AttributeKind
  | signature | annotations | constantValue | exceptions | innerClasses
deriving DecidableEq, Repr

def AttributeKind.ofName? (name : String) : Option AttributeKind :=
  if name = "Signature" then some signature
  else if name = "RuntimeVisibleAnnotations" then some annotations
  else if name = "RuntimeInvisibleAnnotations" then some annotations
  else if name = "ConstantValue" then some constantValue
  else if name = "Exceptions" then some exceptions
  else if name = "InnerClasses" then some innerClasses
  else none

/-- What one attribute says. -/
inductive Attribute
  | signature (text : String)
  | annotations (uses : List AnnotationUse)
  | constantValue (value : ConstantValue)
  | exceptions (classes : List String)
  | innerClasses (classes : List InnerClass)
  /-- Nothing about the surface of a class. -/
  | other
deriving Repr

namespace Attribute

open Rebuild.Parser

def innerClassParser (pool : ConstantPool) : Parser InnerClass := do
  let inner ← pool.className (← u16)
  let outer ← optional pool.className
  let name ← optional pool.utf8
  return ⟨inner, outer, name, ← u16⟩

/-- What the body of an attribute with this name says about its owner. -/
def ofBody (pool : ConstantPool) (owner : AttributeOwner) (name : String) (body : List UInt8) :
    Except ClassFileError Attribute :=
  match AttributeKind.ofName? name, owner with
  | some .signature, _ => return signature (← exactly (do pool.utf8 (← u16)) body)
  | some .annotations, _ =>
    return annotations (← exactly (counted (AnnotationUse.parser pool)) body)
  | some .constantValue, .field type =>
    match ConstantType.ofFieldType? type with
    | none => throw .badConstantValue
    | some type =>
      return constantValue (← exactly (do ConstantValue.resolve pool type (← u16)) body)
  | some .exceptions, .method =>
    return exceptions (← exactly (counted do pool.className (← u16)) body)
  | some .innerClasses, .type =>
    return innerClasses (← exactly (counted (innerClassParser pool)) body)
  | _, _ => return other

/-- A name, a length and that many bytes. The name is looked up once the body is there. -/
def rawParser (pool : ConstantPool) : Parser (String × List UInt8) := do
  let name ← u16
  let length ← u32
  let body ← bytes length.toNat
  return (← pool.utf8 name, body)

def parser (pool : ConstantPool) (owner : AttributeOwner) : Parser Attribute := do
  let (name, body) ← rawParser pool
  ofBody pool owner name body

end Attribute

/-- The attributes of one owner, in the order of the file. -/
abbrev Attributes := List Attribute

namespace Attributes

def parser (pool : ConstantPool) (owner : AttributeOwner) : Parser Attributes :=
  Parser.counted (Attribute.parser pool owner)

/-- The last signature counts. -/
def signature? (attributes : Attributes) : Option String :=
  (attributes.filterMap fun
    | .signature text => some text
    | _ => none).getLast?

/-- The last constant value counts. -/
def constantValue? (attributes : Attributes) : Option ConstantValue :=
  (attributes.filterMap fun
    | .constantValue value => some value
    | _ => none).getLast?

def exceptions (attributes : Attributes) : List String :=
  attributes.flatMap fun
    | .exceptions classes => classes
    | _ => []

def annotations (attributes : Attributes) : List AnnotationUse :=
  attributes.flatMap fun
    | .annotations uses => uses
    | _ => []

def innerClasses (attributes : Attributes) : List InnerClass :=
  attributes.flatMap fun
    | .innerClasses classes => classes
    | _ => []

end Attributes

end Rebuild
