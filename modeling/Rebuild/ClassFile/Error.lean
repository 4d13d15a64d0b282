import Rebuild.Text.Number

/-! # What is wrong with a class file -/

namespace Rebuild

/-- The kinds of constant pool entries, which errors name. -/
inductive ConstantKind
  | utf8 | integer | float | long | double | classRef | string | memberRef | nameAndType
  | methodHandle | methodType | dynamic | moduleRef | packageRef
deriving DecidableEq, Repr

def ConstantKind.name : ConstantKind → String
  | utf8 => "Utf8"
  | integer => "Integer"
  | float => "Float"
  | long => "Long"
  | double => "Double"
  | classRef => "Class"
  | string => "String"
  | memberRef => "MemberRef"
  | nameAndType => "NameAndType"
  | methodHandle => "MethodHandle"
  | methodType => "MethodType"
  | dynamic => "Dynamic"
  | moduleRef => "Module"
  | packageRef => "Package"

inductive ClassFileError
  | unexpectedEnd
  | trailingBytes (count : Nat)
  | wrongMagic (magic : UInt32)
  | badIndex (index : UInt16)
  | unknownTag (tag : UInt8)
  | kindMismatch (index : UInt16) (expected found : ConstantKind)
  | badText
  | badDescriptor (text : String)
  | badConstantValue
  | badAnnotations
deriving DecidableEq, Repr

namespace ClassFileError

def message : ClassFileError → String
  | unexpectedEnd => "unexpected end of input"
  | trailingBytes count => toString count ++ " trailing bytes after structure"
  | wrongMagic magic => "invalid classfile magic: 0x" ++ hexadecimal 8 magic.toNat
  | badIndex index => "invalid constant pool index: " ++ toString index.toNat
  | unknownTag tag => "invalid constant pool tag: " ++ toString tag.toNat
  | kindMismatch index expected found =>
    "constant pool type mismatch at index " ++ toString index.toNat ++ ": expected " ++
      expected.name ++ ", found " ++ found.name
  | badText => "invalid modified UTF-8 constant"
  | badDescriptor text => "invalid descriptor: " ++ text
  | badConstantValue => "malformed ConstantValue attribute"
  | badAnnotations => "malformed RuntimeAnnotations attribute"

end ClassFileError

/-- The type that the text describes; any other text is returned in the error. -/
def describedBy (parse? : String → Option α) (text : String) : Except ClassFileError α :=
  match parse? text with
  | some type => .ok type
  | none => .error (.badDescriptor text)

end Rebuild
