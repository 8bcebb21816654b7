import DeviceAssets.Checksum
import DeviceAssets.Deflate.Code

/-!
# Inflating compressed data

Compressed data are a sequence of blocks: stored octets, or symbols of two prefix
codes. A symbol stands for an octet, for the end of its block, or for a stretch of
earlier output that is repeated.

A repeat may reach back beyond the beginning of the output. Where the rules say what
precedes the output, that is repeated; where nothing does, the data are corrupt. Data
that cannot be read to their end still give the output of what comes before the fault.
-/

namespace DeviceAssets.Deflate

/-- What readers of compressed data differ in. -/
structure Rules where
  tolerance : Tolerance
  /-- The octet of which all that precedes the output consists. -/
  preceding? : Option UInt8
  deriving DecidableEq, Repr

/-- How far a reader has come: the output so far, and the bits that follow what has been
read or why nothing more can be read. -/
structure Progress where
  out : Array UInt8
  rest : Except Failure Bits

/-- The least length of a repeat, and the bits that add to it, for symbols from 257. -/
def lengthTable : List (Nat × Nat) :=
  [(3, 0), (4, 0), (5, 0), (6, 0), (7, 0), (8, 0), (9, 0), (10, 0), (11, 1), (13, 1),
   (15, 1), (17, 1), (19, 2), (23, 2), (27, 2), (31, 2), (35, 3), (43, 3), (51, 3), (59, 3),
   (67, 4), (83, 4), (99, 4), (115, 4), (131, 5), (163, 5), (195, 5), (227, 5), (258, 0)]

/-- The least distance of a repeat, and the bits that add to it, for symbols from 0. -/
def distanceTable : List (Nat × Nat) :=
  [(1, 0), (2, 0), (3, 0), (4, 0), (5, 1), (7, 1), (9, 2), (13, 2), (17, 3), (25, 3),
   (33, 4), (49, 4), (65, 5), (97, 5), (129, 6), (193, 6), (257, 7), (385, 7), (513, 8),
   (769, 8), (1025, 9), (1537, 9), (2049, 10), (3073, 10), (4097, 11), (6145, 11),
   (8193, 12), (12289, 12), (16385, 13), (24577, 13)]

/-- The order in which the lengths of the code for lengths are given. -/
def lengthOrder : List Nat :=
  [16, 17, 18, 0, 8, 7, 9, 6, 10, 5, 11, 4, 12, 3, 13, 2, 14, 1, 15]

structure Codes where
  literals : Code
  distances : Code
  deriving Repr

/-- The codes of a block that does not bring its own. Both are complete. -/
def fixedCodes : Codes where
  literals := Code.ofLengths .strict
    (List.replicate 144 8 ++ List.replicate 112 9 ++ List.replicate 24 7 ++ List.replicate 8 8)
  distances := Code.ofLengths .strict (List.replicate 32 5)

def readNumbers (width : Nat) : Nat → Bits → Except Failure (List Nat × Bits)
  | 0, bits => .ok ([], bits)
  | count + 1, bits => do
    let (value, bits) ← readNumber width bits
    let (values, bits) ← readNumbers width count bits
    return (value :: values, bits)

/-- Reads `count` code lengths behind those in `before`, the latest first. A symbol may
repeat the last length or zero, but not beyond the count. Every symbol gives at least one
length, so `count` bounds the recursion. -/
def readLengths (code : Code) (before : List Nat) (count : Nat) (bits : Bits) :
    Except Failure (List Nat × Bits) :=
  if count = 0 then .ok (before.reverse, bits)
  else do
    let (symbol, bits) ← code.read bits
    if symbol < 16 then
      readLengths code (symbol :: before) (count - 1) bits
    else do
      let (value, least, width) ←
        if symbol = 16 then
          match before with
          | [] => .error .corrupt
          | last :: _ => .ok (last, 3, 2)
        else if symbol = 17 then .ok (0, 3, 3)
        else .ok (0, 11, 7)
      let (extra, bits) ← readNumber width bits
      let times := least + extra
      if 1 ≤ times ∧ times ≤ count then
        readLengths code (List.replicate times value ++ before) (count - times) bits
      else .error .corrupt
termination_by count

/-- The code for lengths. A lenient reader tolerates one that is not complete. -/
def lengthCode? (tolerance : Tolerance) (lengths : List Nat) : Except Failure Code :=
  match tolerance with
  | .strict => Code.complete? tolerance lengths
  | .lenient => Code.ofLengths? tolerance lengths

/-- Whether a block may have this many literal and distance symbols. A lenient reader
minds only the use of a symbol that stands for nothing. -/
def admitsCounts (tolerance : Tolerance) (literals distances : Nat) : Bool :=
  tolerance = .lenient || (literals ≤ 286 && distances ≤ 30)

def readCodes (tolerance : Tolerance) (bits : Bits) : Except Failure (Codes × Bits) := do
  let (literals, bits) ← readNumber 5 bits
  let (distances, bits) ← readNumber 5 bits
  let (ordered, bits) ← readNumber 4 bits
  let literals := literals + 257
  let distances := distances + 1
  if admitsCounts tolerance literals distances then
    let (given, bits) ← readNumbers 3 (ordered + 4) bits
    let places := lengthOrder.zip given
    let code ← lengthCode? tolerance ((List.range 19).map fun symbol =>
      (places.lookup symbol).getD 0)
    let (lengths, bits) ← readLengths code [] (literals + distances) bits
    let literalCode ← Code.ofLengths? tolerance (lengths.take literals)
    let distanceCode ← Code.ofLengths? tolerance (lengths.drop literals)
    return (⟨literalCode, distanceCode⟩, bits)
  else .error .corrupt

structure Repeat where
  length : Nat
  distance : Nat
  deriving DecidableEq, Repr

def readRepeat (distances : Code) (symbol : Nat) (bits : Bits) :
    Except Failure (Repeat × Bits) := do
  match lengthTable[symbol - 257]? with
  | none => .error .corrupt
  | some (leastLength, width) =>
    let (moreLength, bits) ← readNumber width bits
    let (symbol, bits) ← distances.read bits
    match distanceTable[symbol]? with
    | none => .error .corrupt
    | some (leastDistance, width) =>
      let (moreDistance, bits) ← readNumber width bits
      return (⟨leastLength + moreLength, leastDistance + moreDistance⟩, bits)

/-- The output with `length` octets from `distance` back repeated, one at a time, so that
a repeat may reach into itself. All before the output is `preceding`. -/
def repeatBack (preceding : UInt8) (distance : Nat) : Nat → Array UInt8 → Array UInt8
  | 0, out => out
  | length + 1, out =>
    let octet := if distance ≤ out.size then out.getD (out.size - distance) preceding
      else preceding
    repeatBack preceding distance length (out.push octet)

/-- Whether a repeat that reaches `distance` back has something to repeat. -/
def Rules.reaches (rules : Rules) (distance : Nat) (out : Array UInt8) : Bool :=
  distance ≤ out.size || rules.preceding?.isSome

/-- Reads symbols up to the end of a block. Each takes a bit, so the number of bits
bounds their number. -/
def readSymbols (rules : Rules) (codes : Codes) : Nat → Bits → Array UInt8 → Progress
  | 0, _, out => ⟨out, .error .truncated⟩
  | bound + 1, bits, out =>
    match codes.literals.read bits with
    | .error e => ⟨out, .error e⟩
    | .ok (symbol, bits) =>
      if symbol < 256 then readSymbols rules codes bound bits (out.push (UInt8.ofNat symbol))
      else if symbol = 256 then ⟨out, .ok bits⟩
      else match readRepeat codes.distances symbol bits with
        | .error e => ⟨out, .error e⟩
        | .ok (⟨length, distance⟩, bits) =>
          if rules.reaches distance out then
            readSymbols rules codes bound bits
              (repeatBack (rules.preceding?.getD 0) distance length out)
          else ⟨out, .error .corrupt⟩

def align (bits : Bits) : Bits :=
  bits.drop (bits.length % 8)

def readOctets : Nat → Bits → Array UInt8 → Progress
  | 0, bits, out => ⟨out, .ok bits⟩
  | count + 1, bits, out =>
    match readNumber 8 bits with
    | .error e => ⟨out, .error e⟩
    | .ok (octet, bits) => readOctets count bits (out.push (UInt8.ofNat octet))

/-- Reads the number of octets in a stored block, behind which its complement stands. -/
def readStoredLength (bits : Bits) : Except Failure (Nat × Bits) := do
  let (length, bits) ← readNumber 16 (align bits)
  let (complement, bits) ← readNumber 16 bits
  if length + complement = 0xFFFF then return (length, bits) else .error .corrupt

inductive Contents where
  | stored (length : Nat)
  | coded (codes : Codes)

def readContents (tolerance : Tolerance) (bits : Bits) : Except Failure (Contents × Bits) := do
  let (kind, bits) ← readNumber 2 bits
  match kind with
  | 0 => (readStoredLength bits).map fun (length, bits) => (.stored length, bits)
  | 1 => return (.coded fixedCodes, bits)
  | 2 => (readCodes tolerance bits).map fun (codes, bits) => (.coded codes, bits)
  | _ => .error .corrupt

def readBlock (rules : Rules) (bits : Bits) (out : Array UInt8) : Progress :=
  match readContents rules.tolerance bits with
  | .error e => ⟨out, .error e⟩
  | .ok (.stored length, bits) => readOctets length bits out
  | .ok (.coded codes, bits) => readSymbols rules codes (bits.length + 1) bits out

/-- Reads blocks up to the one that is marked as the last. Each takes a bit, so the
number of bits bounds their number. -/
def readBlocks (rules : Rules) : Nat → Bits → Array UInt8 → Progress
  | 0, _, out => ⟨out, .error .truncated⟩
  | _ + 1, [], out => ⟨out, .error .truncated⟩
  | bound + 1, last :: bits, out =>
    match readBlock rules bits out with
    | ⟨out, .ok bits⟩ => if last then ⟨out, .ok bits⟩ else readBlocks rules bound bits out
    | failed => failed

def inflate (rules : Rules) (bits : Bits) : Progress :=
  readBlocks rules (bits.length + 1) bits #[]

def checkSum (octets : Bytes) (bits : Bits) : Except Failure Bits := do
  let (sum, bits) ← readNumbers 8 4 (align bits)
  if sum.foldl (fun value octet => value * 256 + octet) 0 = Checksum.adler32 octets then
    return bits
  else .error .corrupt

/-- Whether two octets are a header of the zlib format for data that need no dictionary. -/
def isZlibHeader (method flags : UInt8) : Bool :=
  (method.toNat * 256 + flags.toNat) % 31 = 0 && !flags.toNat.testBit 5 &&
    method.toNat % 16 = 8 && method.toNat / 16 ≤ 7

/-- Reads data in the zlib format: a header of two octets, the compressed data, and the
checksum of the output. -/
def inflateZlib (rules : Rules) (bytes : Bytes) : Progress :=
  match bytes with
  | method :: flags :: data =>
    if isZlibHeader method flags then
      let progress := inflate rules (bitsOf data)
      ⟨progress.out, progress.rest >>= checkSum progress.out.toList⟩
    else ⟨#[], .error .corrupt⟩
  | _ => ⟨#[], .error .truncated⟩

end DeviceAssets.Deflate
