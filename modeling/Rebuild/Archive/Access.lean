import Rebuild.Archive.Jar

/-!
# Access to archives

How archives are opened, asked and closed is open to the caller: each step may use and change a
world of the caller's own. Members are asked for one by one, and only as long as somebody wants
more of them.
-/

namespace Rebuild

/-- Readers of kind `ρ` over a world `ω`. -/
structure ArchiveAccess (ω ρ : Type) where
  acquire : Path → Act ω (Except ArchiveError ρ)
  release : ρ → Act ω Unit
  path : ρ → Path
  /-- The number of entries, directories included. -/
  entryCount : ρ → Nat
  /-- The entry at an index; a directory is no member. -/
  memberAt : ρ → Nat → Act ω (Except ArchiveError (Option Member))
  /-- The entry of a name. -/
  member : ρ → String → Act ω (Except ArchiveError (Option Member))

namespace ArchiveAccess

/-- Jars on the disk. The world is left alone. What a jar remembers need not be kept, because the
bytes of its file only get more. -/
def jars (ω : Type) : ArchiveAccess ω Jar where
  acquire path := Jar.acquire path
  release jar := jar.release
  path jar := jar.path
  entryCount jar := jar.entryCount
  memberAt jar index := return (Jar.memberAt (← Inquiry.files) index jar).1
  member jar name := return (Jar.member (← Inquiry.files) name jar).1

/-- One jar, which is open already and remembers what it is asked. -/
def opened : ArchiveAccess Jar Jar where
  acquire path := Jar.acquire path
  release jar := jar.release
  path jar := jar.path
  entryCount jar := jar.entryCount
  memberAt _ index jar := return Jar.memberAt (← Inquiry.files) index jar
  member _ name jar := return Jar.member (← Inquiry.files) name jar

/-! ## Members in order -/

/-- What comes up when members are enumerated: a member, or why an entry cannot be had. -/
abbrev Item := Except ArchiveError Member

/-- Shows the members at the given indices to a visitor, until it answers. Directories are passed
over, and the enumeration goes on behind an error. The visitor has a state of its own. -/
def visit (access : ArchiveAccess ω ρ) (reader : ρ)
    (visitor : Item → StateT σ (Act ω) (Option β)) : List Nat → StateT σ (Act ω) (Option β)
  | [] => return none
  | index :: indices => do
    let item ← access.memberAt reader index
    match item with
    | .ok none => visit access reader visitor indices
    | .ok (some member) =>
      match ← visitor (.ok member) with
      | some answer => return some answer
      | none => visit access reader visitor indices
    | .error error =>
      match ← visitor (.error error) with
      | some answer => return some answer
      | none => visit access reader visitor indices

/-- All indices of a reader, in order. -/
def indices (access : ArchiveAccess ω ρ) (reader : ρ) : List Nat :=
  List.range (access.entryCount reader)

/-- Keeps an item, and asks for no further one once there are enough. -/
def keepUpTo (enough : Nat) (item : Item) : StateT (List Item) (Act ω) (Option Unit) := do
  modify (· ++ [item])
  return if enough ≤ (← get).length then some () else none

/-- The first items, up to a number of them. -/
def firstItems (access : ArchiveAccess ω ρ) (reader : ρ) : (wanted : Nat) → Act ω (List Item)
  | 0 => return []
  | wanted => do
    let (_, items) ← (access.visit reader (keepUpTo wanted) (access.indices reader)).run []
    return items

/-- All items. -/
def items (access : ArchiveAccess ω ρ) (reader : ρ) : Act ω (List Item) :=
  access.firstItems reader (access.entryCount reader)

end ArchiveAccess

end Rebuild
