import Rebuild.ClassFile.Attributes
import Rebuild.ClassName

/-!
# Class files

The surface of a class: its names, flags, fields, methods and what their attributes say. Code is
skipped.
-/

namespace Rebuild

structure ClassMember where
  accessFlags : UInt16
  name : String
  descriptor : String
  signature : Option String
  /-- The constant of a field; a method has none. -/
  constantValue : Option ConstantValue
  /-- The checked exceptions of a method; a field has none. -/
  exceptions : List String
  annotations : List AnnotationUse
deriving Repr

structure ClassFile where
  minorVersion : UInt16
  majorVersion : UInt16
  accessFlags : UInt16
  thisClass : String
  superClass : Option String
  interfaces : List String
  fields : List ClassMember
  methods : List ClassMember
  signature : Option String
  annotations : List AnnotationUse
  innerClasses : List InnerClass
deriving Repr

/-- The members of a class come in two kinds, with descriptors of their own. -/
inductive MemberKind
  | field | method
deriving DecidableEq, Repr

/-- What the attributes of a member belong to, once its descriptor is understood. -/
def MemberKind.owner : MemberKind → String → Except ClassFileError AttributeOwner
  | field, descriptor => return .field (← describedBy FieldType.parse? descriptor)
  | method, descriptor => do let _ ← describedBy MethodType.parse? descriptor; return .method

open Rebuild.Parser

def ClassMember.parser (pool : ConstantPool) (kind : MemberKind) : Parser ClassMember := do
  let accessFlags ← u16
  let name ← pool.utf8 (← u16)
  let descriptor ← pool.utf8 (← u16)
  let attributes ← Attributes.parser pool (← kind.owner descriptor)
  return {
    accessFlags, name, descriptor
    signature := attributes.signature?
    constantValue := attributes.constantValue?
    exceptions := attributes.exceptions
    annotations := attributes.annotations }

namespace ClassFile

/-- The number that every class file starts with. -/
def magic : UInt32 := 0xCAFEBABE

/-- The part of a class file behind its constant pool. -/
def bodyParser (pool : ConstantPool) (minorVersion majorVersion : UInt16) : Parser ClassFile := do
  let accessFlags ← u16
  let thisClass ← pool.className (← u16)
  let superClass ← optional pool.className
  let interfaces ← counted do pool.className (← u16)
  let fields ← counted (ClassMember.parser pool .field)
  let methods ← counted (ClassMember.parser pool .method)
  let attributes ← Attributes.parser pool .type
  return {
    minorVersion, majorVersion, accessFlags, thisClass, superClass, interfaces, fields, methods
    signature := attributes.signature?
    annotations := attributes.annotations
    innerClasses := attributes.innerClasses }

def parser : Parser ClassFile := do
  let found ← u32
  if found ≠ magic then throw (.wrongMagic found)
  let minorVersion ← u16
  let majorVersion ← u16
  let pool ← ConstantPool.parser
  bodyParser pool minorVersion majorVersion

/-- The class that the bytes hold, with nothing behind it. -/
def parse (bytes : List UInt8) : Except ClassFileError ClassFile := exactly parser bytes

/-- The name with dots for slashes. -/
def binaryName (file : ClassFile) : String := ClassName.qualify file.thisClass

def field? (file : ClassFile) (name : String) : Option ClassMember :=
  file.fields.find? fun member => member.name == name

def method? (file : ClassFile) (name descriptor : String) : Option ClassMember :=
  file.methods.find? fun member => member.name == name && member.descriptor == descriptor

end ClassFile

end Rebuild
