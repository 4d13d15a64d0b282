import Rebuild.Text.Split

/-!
# Descriptors

The types of fields and methods as class files write them: `[[I`, `Ljava/lang/String;`, `(I)V`.
Each type has one written form, and nothing else is accepted.
-/

namespace Rebuild

inductive BaseType
  | byte | char | double | float | int | long | short | boolean
deriving DecidableEq, Repr

namespace BaseType

def tag : BaseType → Char
  | byte => 'B'
  | char => 'C'
  | double => 'D'
  | float => 'F'
  | int => 'I'
  | long => 'J'
  | short => 'S'
  | boolean => 'Z'

def ofTag? : Char → Option BaseType
  | 'B' => some byte
  | 'C' => some char
  | 'D' => some double
  | 'F' => some float
  | 'I' => some int
  | 'J' => some long
  | 'S' => some short
  | 'Z' => some boolean
  | _ => none

theorem ofTag?_tag (base : BaseType) : ofTag? base.tag = some base := by
  cases base <;> rfl

end BaseType

inductive FieldType
  | base (type : BaseType)
  | object (name : String)
  | array (element : FieldType)
deriving DecidableEq, Repr

inductive ReturnType
  | void
  | type (type : FieldType)
deriving DecidableEq, Repr

structure MethodType where
  parameters : List FieldType
  result : ReturnType
deriving DecidableEq, Repr

namespace FieldType

/-- The most levels that an array type may have. -/
def maxLevels : Nat := 255

def arrayOf : Nat → FieldType → FieldType
  | 0, type => type
  | n + 1, type => array (arrayOf n type)

/-- A type that is no array, from the front of a text, and what follows it. -/
def splitElement? : List Char → Option (FieldType × List Char)
  | [] => none
  | tag :: rest =>
    if tag = 'L' then do
      let (name, rest) ← cutFirst? ';' rest
      if name.isEmpty then none else some (object (String.ofList name), rest)
    else (BaseType.ofTag? tag).map fun type => (base type, rest)

/-- One type from the front of a text, and what follows it. -/
def split? (text : List Char) : Option (FieldType × List Char) :=
  let levels := (text.takeWhile (· == '[')).length
  if levels > maxLevels then none
  else
    (splitElement? (text.dropWhile (· == '['))).map fun (type, rest) => (arrayOf levels type, rest)

def parse? (text : String) : Option FieldType :=
  match split? text.toList with
  | some (type, []) => some type
  | _ => none

def print : FieldType → List Char
  | base type => [type.tag]
  | object name => 'L' :: name.toList ++ [';']
  | array element => '[' :: print element

theorem splitElement?_rest_length_lt {text rest : List Char} {type : FieldType}
    (h : splitElement? text = some (type, rest)) : rest.length < text.length := by
  cases text with
  | nil => simp [splitElement?] at h
  | cons tag text =>
    rw [splitElement?] at h
    split at h
    · obtain ⟨⟨name, after⟩, found, h⟩ := Option.bind_eq_some_iff.1 h
      have := cutFirst?_rest_length_lt found
      dsimp only at h
      split at h
      · simp at h
      · simp only [Option.some.injEq, Prod.mk.injEq] at h
        simp only [List.length_cons, ← h.2]
        omega
    · obtain ⟨base, -, eq⟩ := Option.map_eq_some_iff.1 h
      simp only [Prod.mk.injEq] at eq
      simp [eq.2]

theorem split?_rest_length_lt {text rest : List Char} {type : FieldType}
    (h : split? text = some (type, rest)) : rest.length < text.length := by
  rw [split?] at h
  split at h
  · simp at h
  · obtain ⟨⟨element, after⟩, found, eq⟩ := Option.map_eq_some_iff.1 h
    have := splitElement?_rest_length_lt found
    have := (List.dropWhile_suffix (· == '[') (l := text)).length_le
    simp only [Prod.mk.injEq] at eq
    rw [← eq.2]
    omega

end FieldType

namespace MethodType

/-- The types up to the closing parenthesis, and what follows it. -/
def splitParameters? : List Char → Option (List FieldType × List Char)
  | [] => none
  | c :: rest =>
    if c = ')' then some ([], rest)
    else match _h : FieldType.split? (c :: rest) with
      | none => none
      | some (type, rest) => (splitParameters? rest).map fun (types, rest) => (type :: types, rest)
termination_by text => text.length
decreasing_by exact FieldType.split?_rest_length_lt _h

def parseResult? : List Char → Option ReturnType
  | ['V'] => some .void
  | text =>
    match FieldType.split? text with
    | some (type, []) => some (.type type)
    | _ => none

def parse? (text : String) : Option MethodType := do
  let inner ← dropFront? ['('] text.toList
  let (parameters, rest) ← splitParameters? inner
  let result ← parseResult? rest
  return ⟨parameters, result⟩

def printResult : ReturnType → List Char
  | .void => ['V']
  | .type type => type.print

def print (method : MethodType) : List Char :=
  '(' :: method.parameters.flatMap FieldType.print ++ ')' :: printResult method.result

end MethodType

end Rebuild
