import Rebuild.ClassFile.Parser
import Rebuild.Text.ModifiedUtf8

/-!
# Constant pools

The table of constants that a class file refers to by index. Slot 0 is never used, and a long or
double constant takes two slots, of which the second is not used either.
-/

namespace Rebuild

/-- One constant. Entries that say nothing about the surface of a class keep their kind only. -/
inductive Constant
  | utf8 (text : String)
  | integer (value : Int32)
  | float (bits : UInt32)
  | long (value : Int64)
  | double (bits : UInt64)
  | classRef (name : UInt16)
  | string (text : UInt16)
  | memberRef
  | nameAndType
  | methodHandle
  | methodType
  | dynamic
  | moduleRef
  | packageRef
deriving DecidableEq, Repr

namespace Constant

def kind : Constant → ConstantKind
  | utf8 _ => .utf8
  | integer _ => .integer
  | float _ => .float
  | long _ => .long
  | double _ => .double
  | classRef _ => .classRef
  | string _ => .string
  | memberRef => .memberRef
  | nameAndType => .nameAndType
  | methodHandle => .methodHandle
  | methodType => .methodType
  | dynamic => .dynamic
  | moduleRef => .moduleRef
  | packageRef => .packageRef

def isWide : Constant → Bool
  | long _ | double _ => true
  | _ => false

/-- The slots that the constant takes in a pool. -/
def slots (constant : Constant) : List (Option Constant) :=
  if constant.isWide then [some constant, none] else [some constant]

def text (bytes : List UInt8) : Except ClassFileError String :=
  match ModifiedUtf8.decode? bytes with
  | some text => .ok text
  | none => .error .badText

open Rebuild.Parser in
/-- The part of a constant behind its tag. -/
def body (tag : UInt8) : Parser Constant :=
  match tag.toNat with
  | 1 => do
    let length ← u16
    let written ← bytes length.toNat
    return utf8 (← text written)
  | 3 => return integer (← u32).toInt32
  | 4 => return float (← u32)
  | 5 => return long (← u64).toInt64
  | 6 => return double (← u64)
  | 7 => return classRef (← u16)
  | 8 => return string (← u16)
  | 9 | 10 | 11 => do let _ ← u32; return memberRef
  | 12 => do let _ ← u32; return nameAndType
  | 15 => do let _ ← u8; let _ ← u16; return methodHandle
  | 16 => do let _ ← u16; return methodType
  | 17 | 18 => do let _ ← u32; return dynamic
  | 19 => do let _ ← u16; return moduleRef
  | 20 => do let _ ← u16; return packageRef
  | _ => throw (.unknownTag tag)

def parser : Parser Constant := do body (← Parser.u8)

end Constant

/-- A slot holds the constant that starts there, if one does. -/
structure ConstantPool where
  slots : Array (Option Constant)
deriving DecidableEq, Repr

namespace ConstantPool

/-- Constants until the slots are filled. A wide constant may start in the last slot; its second
slot then lies behind the end. -/
def slotParser : Nat → Parser (List (Option Constant))
  | 0 => pure []
  | 1 => return (← Constant.parser).slots
  | n + 2 => do
    let constant ← Constant.parser
    let others ← if constant.isWide then slotParser n else slotParser (n + 1)
    return constant.slots ++ others

/-- The stated count is one more than the number of slots, for slot 0. -/
def parser : Parser ConstantPool := do
  let count ← Parser.u16
  return ⟨(none :: (← slotParser (count.toNat - 1))).toArray⟩

def get (pool : ConstantPool) (index : UInt16) : Except ClassFileError Constant :=
  match pool.slots[index.toNat]? with
  | some (some constant) => .ok constant
  | _ => .error (.badIndex index)

/-- The text at an index. -/
def utf8 (pool : ConstantPool) (index : UInt16) : Except ClassFileError String := do
  match ← pool.get index with
  | .utf8 text => return text
  | other => throw (.kindMismatch index .utf8 other.kind)

/-- The name of the class at an index. -/
def className (pool : ConstantPool) (index : UInt16) : Except ClassFileError String := do
  match ← pool.get index with
  | .classRef name => pool.utf8 name
  | other => throw (.kindMismatch index .classRef other.kind)

/-- The string at an index. Annotations point at the text itself, fields at a string constant. -/
def string (pool : ConstantPool) (index : UInt16) : Except ClassFileError String := do
  match ← pool.get index with
  | .string text => pool.utf8 text
  | .utf8 text => return text
  | other => throw (.kindMismatch index .string other.kind)

end ConstantPool

end Rebuild
