/-!
# Inflating deflated data

Deflated data is a run of blocks of bits. A block holds bytes as they are, or tokens under a prefix
code: a byte, or a copy of what was written before. Data that ends early is told from data that
breaks the format.
-/

namespace Rebuild.Zip

namespace Inflate

/-- Why reading bits stopped. -/
inductive Stop
  | exhausted
  | corrupt
deriving DecidableEq, Repr

/-- Bytes that are read bit by bit, from the low end of each byte. -/
structure Source where
  bytes : ByteArray
  position : Nat

def Source.remaining (source : Source) : Nat := 8 * source.bytes.size - source.position

abbrev Reader := StateT Source (Except Stop)

def bit : Reader Bool := fun source =>
  match source.bytes[source.position / 8]? with
  | some byte =>
    .ok (byte.toNat.testBit (source.position % 8), { source with position := source.position + 1 })
  | none => .error .exhausted

/-- A number with its low bit first. -/
def number : Nat → Reader Nat
  | 0 => pure 0
  | width + 1 => do
    let low ← bit
    let high ← number width
    return low.toNat + 2 * high

/-- Skips to the next whole byte. -/
def align : Reader Unit := fun source =>
  .ok ((), { source with position := (source.position + 7) / 8 * 8 })

def times (item : Reader α) : Nat → Reader (List α)
  | 0 => pure []
  | n + 1 => do
    let first ← item
    let others ← times item n
    return first :: others

/-! ## Prefix codes -/

/-- A canonical code: how many symbols have codes of each length, from one bit up to the longest
code, and the symbols in the order of their codes. -/
structure Code where
  counts : List Nat
  symbols : Array Nat

namespace Code

def maxLength : Nat := 15

/-- The code in which each symbol has a code of the given length; length zero means none. Even a
code without symbols takes a bit to be found out. -/
def ofLengths (lengths : List Nat) : Code :=
  let numbered := lengths.zipIdx
  let ofLength (length : Nat) : List Nat :=
    (numbered.filter fun entry => entry.1 == length).map (·.2)
  let groups := (List.range (lengths.foldl max 1)).map fun i => ofLength (i + 1)
  ⟨groups.map List.length, groups.flatten.toArray⟩

/-- The part of the code space that the codes take, in units of the longest code. -/
def space (code : Code) : Nat :=
  code.counts.zipIdx.foldl (fun taken (count, i) => taken + count * Nat.pow 2 (maxLength - 1 - i)) 0

/-- Whether the codes fill the code space exactly. -/
def isComplete (code : Code) : Bool := code.space == Nat.pow 2 maxLength

/-- Whether the code has no symbol, or one symbol with a code of one bit. -/
def isTrivial (code : Code) : Bool :=
  code.symbols.size = 0 || (code.symbols.size = 1 && code.counts.head? == some 1)

/-- Extends the code read so far by one bit at a time, up to the longest code. `first` is the first
code of the length and `index` the place of its symbol. -/
def readFrom (symbols : Array Nat) : (counts : List Nat) → (code first index : Nat) → Reader Nat
  | [], _, _, _ => throw .corrupt
  | count :: counts, code, first, index => do
    let code := 2 * code + (← bit).toNat
    let first := 2 * first
    if code < first + count then
      match symbols[index + (code - first)]? with
      | some symbol => return symbol
      | none => throw .corrupt
    else readFrom symbols counts code (first + count) (index + count)

def read (code : Code) : Reader Nat := readFrom code.symbols code.counts 0 0 0

end Code

/-! ## Tokens -/

inductive Token
  | literal (byte : UInt8)
  | copy (length distance : Nat)
  | endOfBlock

/-- The least value and the number of further bits of each symbol for a length. -/
def lengthSymbols : List (Nat × Nat) :=
  [
    (3, 0), (4, 0), (5, 0), (6, 0), (7, 0), (8, 0), (9, 0), (10, 0), (11, 1), (13, 1), (15, 1),
    (17, 1), (19, 2), (23, 2), (27, 2), (31, 2), (35, 3), (43, 3), (51, 3), (59, 3), (67, 4),
    (83, 4), (99, 4), (115, 4), (131, 5), (163, 5), (195, 5), (227, 5), (258, 0)
  ]

/-- The same for distances. -/
def distanceSymbols : List (Nat × Nat) :=
  [
    (1, 0), (2, 0), (3, 0), (4, 0), (5, 1), (7, 1), (9, 2), (13, 2), (17, 3), (25, 3), (33, 4),
    (49, 4), (65, 5), (97, 5), (129, 6), (193, 6), (257, 7), (385, 7), (513, 8), (769, 8),
    (1025, 9), (1537, 9), (2049, 10), (3073, 10), (4097, 11), (6145, 11), (8193, 12), (12289, 12),
    (16385, 13), (24577, 13)
  ]

/-- The value of a symbol together with its further bits. -/
def extended (symbols : List (Nat × Nat)) (symbol : Nat) : Reader Nat := do
  match symbols[symbol]? with
  | some (least, width) => return least + (← number width)
  | none => throw .corrupt

def token (literals distances : Code) : Reader Token := do
  let symbol ← literals.read
  if symbol < 256 then return .literal symbol.toUInt8
  else if symbol = 256 then return .endOfBlock
  else
    let length ← extended lengthSymbols (symbol - 257)
    let distance ← extended distanceSymbols (← distances.read)
    return .copy length distance

/-- Writes bytes from some distance back, which may be ones that it has just written. What lies in
front of the first byte counts as zero. -/
def copyBack (distance : Nat) : (length : Nat) → ByteArray → ByteArray
  | 0, out => out
  | length + 1, out =>
    let byte := if distance ≤ out.size then (out[out.size - distance]?).getD 0 else 0
    copyBack distance length (out.push byte)

/-- Tokens up to the end of the block: what is written by then, and where the next block starts. -/
def tokens (literals distances : Code) (out : ByteArray) (source : Source) :
    Except Stop (ByteArray × Source) :=
  match token literals distances source with
  | .error stop => .error stop
  | .ok (.endOfBlock, rest) => .ok (out, rest)
  | .ok (.literal byte, rest) =>
    if rest.remaining < source.remaining then tokens literals distances (out.push byte) rest
    else .error .corrupt
  | .ok (.copy length distance, rest) =>
    if rest.remaining < source.remaining then
      tokens literals distances (copyBack distance length out) rest
    else .error .corrupt
termination_by source.remaining

/-! ## Blocks -/

def fixedLiterals : Code :=
  .ofLengths (List.replicate 144 8 ++ List.replicate 112 9 ++ List.replicate 24 7 ++
    List.replicate 8 8)

def fixedDistances : Code := .ofLengths (List.replicate 32 5)

/-- The order in which the lengths of the code for lengths are written. -/
def lengthOrder : List Nat := [16, 17, 18, 0, 8, 7, 9, 6, 10, 5, 11, 4, 12, 3, 13, 2, 14, 1, 15]

/-- Code lengths, with runs written as a symbol and a count, until `wanted` of them are there. -/
def lengths (code : Code) (wanted : Nat) (found : List Nat) (source : Source) :
    Except Stop (List Nat × Source) :=
  if wanted ≤ found.length then
    if found.length = wanted then .ok (found, source) else .error .corrupt
  else
    let step : Reader (List Nat) := do
      let symbol ← code.read
      if symbol < 16 then return [symbol]
      else if symbol = 16 then
        match found.getLast? with
        | some last => return List.replicate (3 + (← number 2)) last
        | none => throw .corrupt
      else if symbol = 17 then return List.replicate (3 + (← number 3)) 0
      else return List.replicate (11 + (← number 7)) 0
    match step source with
    | .error stop => .error stop
    | .ok (more, rest) =>
      if rest.remaining < source.remaining then lengths code wanted (found ++ more) rest
      else .error .corrupt
termination_by source.remaining

/-- The code for lengths has to be complete. -/
def checkedLengthCode (code : Code) : Reader Code :=
  if code.isComplete then pure code else throw .corrupt

/-- Other codes may also be trivial. -/
def checkedCode (code : Code) : Reader Code :=
  if code.isComplete || code.isTrivial then pure code else throw .corrupt

/-- The two codes that a block brings with it. -/
def dynamicCodes : Reader (Code × Code) := do
  let literals := 257 + (← number 5)
  let distances := 1 + (← number 5)
  let written := 4 + (← number 4)
  if literals > 286 || distances > 30 then throw .corrupt
  let widths := lengthOrder.zip (← times (number 3) written)
  let code ← checkedLengthCode <|
    .ofLengths ((List.range 19).map fun symbol => (widths.lookup symbol).getD 0)
  let all ← lengths code (literals + distances) []
  return (← checkedCode (.ofLengths (all.take literals)),
    ← checkedCode (.ofLengths (all.drop literals)))

/-- The length of a block of plain bytes, which is written twice. -/
def plainLength : Reader Nat := do
  align
  let length ← number 16
  let inverted ← number 16
  if length + inverted = 0xFFFF then return length else throw .corrupt

/-- The bytes of a plain block. -/
def plain (out : ByteArray) (length : Nat) (source : Source) : Except Stop (ByteArray × Source) :=
  let start := source.position / 8
  if start + length ≤ source.bytes.size then
    .ok (out ++ source.bytes.extract start (start + length),
      { source with position := 8 * (start + length) })
  else .error .exhausted

/-- One block behind its first bit. -/
def block (out : ByteArray) (source : Source) : Except Stop (ByteArray × Source) := do
  let (kind, source) ← number 2 source
  match kind with
  | 0 =>
    let (length, source) ← plainLength source
    plain out length source
  | 1 => tokens fixedLiterals fixedDistances out source
  | 2 =>
    let ((literals, distances), source) ← dynamicCodes source
    tokens literals distances out source
  | _ => throw .corrupt

/-- Blocks up to the last one, which is marked. -/
def blocks (out : ByteArray) (source : Source) : Except Stop ByteArray :=
  match bit source with
  | .error stop => .error stop
  | .ok (isLast, rest) =>
    match block out rest with
    | .error stop => .error stop
    | .ok (out, rest) =>
      if isLast then .ok out
      else if rest.remaining < source.remaining then blocks out rest
      else .error .corrupt
termination_by source.remaining

end Inflate

/-- The inflated data; bytes behind its end are not looked at. -/
def inflate (bytes : ByteArray) : Except Inflate.Stop ByteArray :=
  Inflate.blocks .empty ⟨bytes, 0⟩

end Rebuild.Zip
