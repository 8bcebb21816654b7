/-!
# Versions and correction levels

A symbol's version fixes its side, and together with the correction level it
fixes how many codewords carry data and how they are spread over blocks.
-/

namespace DeviceAssets.Qr

/-- How much damage a symbol can take. -/
inductive Level where
  | low
  | medium
  | quartile
  | high
  deriving DecidableEq, Repr

/-- The level used where none is asked for: it keeps the symbol small. -/
def Level.default : Level := .low

/-- The two bits that name the level in the format information. -/
def Level.indicator : Level → Nat
  | .low => 1
  | .medium => 0
  | .quartile => 3
  | .high => 2

/-- One of the forty sizes of a symbol. -/
structure Version where
  number : Nat
  one_le : 1 ≤ number
  le_forty : number ≤ 40
  deriving DecidableEq

namespace Version

def all : List Version :=
  (List.finRange 40).map fun i => ⟨i.val + 1, by omega, by omega⟩

def side (version : Version) : Nat :=
  4 * version.number + 17

/-- The widths of the fields that count characters change twice, so versions fall
into three groups. -/
inductive Group where
  | small
  | middle
  | large
  deriving DecidableEq, Repr

def group (version : Version) : Group :=
  if version.number ≤ 9 then .small
  else if version.number ≤ 26 then .middle
  else .large

def Group.last : Group → Version
  | .small => ⟨9, by decide, by decide⟩
  | .middle => ⟨26, by decide, by decide⟩
  | .large => ⟨40, by decide, by decide⟩

/-- The coordinates on which alignment patterns are centred, ascending. -/
def alignmentCenters (version : Version) : List Nat :=
  if version.number = 1 then []
  else
    let count := version.number / 7 + 2
    let step := (version.number * 8 + count * 3 + 5) / (count * 4 - 4) * 2
    6 :: (List.range (count - 1)).map fun i =>
      version.side - 7 - (count - 2 - i) * step

def dataModules (version : Version) : Nat :=
  let n := version.number
  let plain := (16 * n + 128) * n + 64
  let count := n / 7 + 2
  if n = 1 then plain
  else
    let aligned := plain - ((25 * count - 10) * count - 55)
    if n < 7 then aligned else aligned - 36

/-- The codewords of a symbol, those for correction included. -/
def codewords (version : Version) : Nat :=
  version.dataModules / 8

end Version

/-- For every version, the correction codewords of each block. -/
def correctionTable : Level → List Nat
  | .low =>
    [7, 10, 15, 20, 26, 18, 20, 24, 30, 18, 20, 24, 26, 30, 22, 24, 28, 30, 28, 28,
     28, 28, 30, 30, 26, 28, 30, 30, 30, 30, 30, 30, 30, 30, 30, 30, 30, 30, 30, 30]
  | .medium =>
    [10, 16, 26, 18, 24, 16, 18, 22, 22, 26, 30, 22, 22, 24, 24, 28, 28, 26, 26, 26,
     26, 28, 28, 28, 28, 28, 28, 28, 28, 28, 28, 28, 28, 28, 28, 28, 28, 28, 28, 28]
  | .quartile =>
    [13, 22, 18, 26, 18, 24, 18, 22, 20, 24, 28, 26, 24, 20, 30, 24, 28, 28, 26, 30,
     28, 30, 30, 30, 30, 28, 30, 30, 30, 30, 30, 30, 30, 30, 30, 30, 30, 30, 30, 30]
  | .high =>
    [17, 28, 22, 16, 22, 28, 26, 26, 24, 28, 24, 28, 22, 24, 24, 30, 28, 28, 26, 28,
     30, 24, 30, 30, 30, 30, 30, 30, 30, 30, 30, 30, 30, 30, 30, 30, 30, 30, 30, 30]

/-- For every version, the number of blocks. -/
def blockTable : Level → List Nat
  | .low =>
    [1, 1, 1, 1, 1, 2, 2, 2, 2, 4, 4, 4, 4, 4, 6, 6, 6, 6, 7, 8,
     8, 9, 9, 10, 12, 12, 12, 13, 14, 15, 16, 17, 18, 19, 19, 20, 21, 22, 24, 25]
  | .medium =>
    [1, 1, 1, 2, 2, 4, 4, 4, 5, 5, 5, 8, 9, 9, 10, 10, 11, 13, 14, 16,
     17, 17, 18, 20, 21, 23, 25, 26, 28, 29, 31, 33, 35, 37, 38, 40, 43, 45, 47, 49]
  | .quartile =>
    [1, 1, 2, 2, 4, 4, 6, 6, 8, 8, 8, 10, 12, 16, 12, 17, 16, 18, 21, 20,
     23, 23, 25, 27, 29, 34, 34, 35, 38, 40, 43, 45, 48, 51, 53, 56, 59, 62, 65, 68]
  | .high =>
    [1, 1, 2, 4, 4, 4, 5, 6, 8, 8, 11, 11, 16, 16, 18, 16, 19, 21, 25, 25,
     25, 34, 30, 32, 35, 37, 40, 42, 45, 48, 51, 54, 57, 60, 63, 66, 70, 74, 77, 81]

namespace Version

def correctionLength (version : Version) (level : Level) : Nat :=
  (correctionTable level).getD (version.number - 1) 0

def blockCount (version : Version) (level : Level) : Nat :=
  (blockTable level).getD (version.number - 1) 0

def dataCodewords (version : Version) (level : Level) : Nat :=
  version.codewords - version.correctionLength level * version.blockCount level

def capacity (version : Version) (level : Level) : Nat :=
  8 * version.dataCodewords level

def smallest? (level : Level) (bits : Nat) : Option Version :=
  all.find? fun version => bits ≤ version.capacity level

end Version

end DeviceAssets.Qr
