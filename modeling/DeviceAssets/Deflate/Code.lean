import DeviceAssets.Bytes

/-!
# Prefix codes

Compressed data are bits, the lowest bit of each octet first. A prefix code is a tree
that is descended by the bits: words stand at its ends. It is given by the length of each
symbol's word alone: shorter words come before longer ones, and words of one length in
the order of their symbols.

Reading fails in two ways that callers must tell apart. Data may be `truncated`, and
then more of them could still make sense, or they are `corrupt`. The lengths may leave
bits that begin no word, and readers differ in how they deal with that, see `Tolerance`.
-/

namespace DeviceAssets.Deflate

/-- Bits in the order in which they are read. -/
abbrev Bits := List Bool

inductive Failure where
  | corrupt
  /-- The data end before they are complete. -/
  | truncated
  deriving DecidableEq, Repr

def bitsOf (bytes : Bytes) : Bits :=
  bytes.flatMap fun octet => (List.range 8).map octet.toNat.testBit

/-- The number in the next `width` bits, the lowest first. -/
def readNumber : Nat → Bits → Except Failure (Nat × Bits)
  | 0, bits => .ok (0, bits)
  | _ + 1, [] => .error .truncated
  | width + 1, bit :: bits =>
    (readNumber width bits).map fun (value, rest) => (bit.toNat + 2 * value, rest)

/-- How a reader deals with codes that leave bits undefined. -/
inductive Tolerance where
  /-- A code may lack words or have a lone one of a single bit, and undefined bits are
  noticed at once. -/
  | strict
  /-- A code may lack words or have a lone one. Undefined bits are noticed once as many
  are there as a word can have, and beyond `Code.directLength` bits they read as the
  symbol zero. -/
  | lenient
  deriving DecidableEq, Repr

inductive Code where
  | word (symbol : Nat)
  /-- No word begins like this, which is noticed when `awaited` more bits are there. -/
  | undefined (awaited : Nat)
  | fork (zero one : Code)
  deriving DecidableEq, Repr

namespace Code

def maxLength : Nat := 15

/-- The bits that a lenient reader looks at in one go. -/
def directLength : Nat := 10

/-- Every long enough string of bits begins with exactly one word, if `lengths` are those
of the words. -/
def isComplete (lengths : List Nat) : Bool :=
  ((lengths.filter (· ≠ 0)).map fun length => 1 <<< (maxLength - length)).foldr (· + ·) 0 =
    1 <<< maxLength

/-- The lengths of the words and their symbols, in the order of the words. Symbol `i` has
a word of length `lengths[i]`, or none where that is zero. -/
def words (lengths : List Nat) : List (Nat × Nat) :=
  (List.range maxLength).flatMap fun i => lengths.zipIdx.filter fun word => word.1 = i + 1

/-- What stands behind `depth` bits that begin no word. -/
def absent (tolerance : Tolerance) (depth : Nat) : Code :=
  match tolerance with
  | .strict => undefined (1 - depth)
  | .lenient => if directLength < depth then word 0 else undefined (maxLength - depth)

/-- The code behind `depth` bits that is made of the first words, and the other words. As
words have at most `depth + room` bits, `room` bounds the recursion. -/
def fill (tolerance : Tolerance) : Nat → Nat → List (Nat × Nat) → Code × List (Nat × Nat)
  | _, depth, [] => (absent tolerance depth, [])
  | 0, _, (_, symbol) :: rest => (word symbol, rest)
  | room + 1, depth, (length, symbol) :: rest =>
    if length ≤ depth then (word symbol, rest)
    else
      let (zero, rest) := fill tolerance room (depth + 1) ((length, symbol) :: rest)
      let (one, rest) := fill tolerance room (depth + 1) rest
      (fork zero one, rest)

def ofLengths (tolerance : Tolerance) (lengths : List Nat) : Code :=
  (fill tolerance maxLength 0 (words lengths)).1

def complete? (tolerance : Tolerance) (lengths : List Nat) : Except Failure Code :=
  if isComplete lengths then .ok (ofLengths tolerance lengths) else .error .corrupt

/-- Whether a code with words of these lengths may be used although it is not complete. -/
def isTolerated (tolerance : Tolerance) (lengths : List Nat) : Bool :=
  let present := lengths.filter (· ≠ 0)
  match tolerance with
  | .strict => present = [] || present = [1]
  | .lenient => present.length ≤ 1

def ofLengths? (tolerance : Tolerance) (lengths : List Nat) : Except Failure Code :=
  if isComplete lengths || isTolerated tolerance lengths then
    .ok (ofLengths tolerance lengths)
  else .error .corrupt

/-- The symbol whose word stands next. -/
def read : Code → Bits → Except Failure (Nat × Bits)
  | word symbol, bits => .ok (symbol, bits)
  | undefined awaited, bits =>
    if (bits.take awaited).length = awaited then .error .corrupt else .error .truncated
  | fork _ _, [] => .error .truncated
  | fork zero one, bit :: bits => if bit then one.read bits else zero.read bits

end Code

end DeviceAssets.Deflate
