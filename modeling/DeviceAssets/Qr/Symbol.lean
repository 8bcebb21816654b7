import DeviceAssets.Grid
import DeviceAssets.Qr.Codewords
import DeviceAssets.Qr.Correction
import DeviceAssets.Qr.Mask
import DeviceAssets.Qr.Pattern

/-!
# QR symbols

A symbol is the square of modules that shows a text: function patterns where they
belong, and the codewords along a path of two-module columns that runs up and down
from the lower right corner. Of the eight masks the one with the least penalty is
laid over the codewords. There is no quiet zone.
-/

namespace DeviceAssets.Qr

/-- A square of modules, row by row; `true` is dark. -/
structure Symbol where
  version : Version
  modules : Array Bool
  size_modules : modules.size = version.side * version.side

def rowsOf (side : Nat) (modules : Array Bool) : List (List Bool) :=
  (List.range side).map fun y => (List.range side).map fun x => modules.getD (y * side + x) false

def columnsOf (side : Nat) (modules : Array Bool) : List (List Bool) :=
  (List.range side).map fun x => (List.range side).map fun y => modules.getD (y * side + x) false

/-- The places of all modules outside the vertical timing line, in the order in which
codewords meet them. -/
def path (side : Nat) : List (Nat × Nat) :=
  (List.range ((side - 1) / 2)).flatMap fun pair =>
    let right := side - 1 - 2 * pair
    let right := if right ≤ 6 then right - 1 else right
    (List.range side).flatMap fun i =>
      let y := if pair % 2 = 0 then side - 1 - i else i
      [(right, y), (right - 1, y)]

/-- All that a symbol shows apart from its mask and format. -/
structure Draft where
  version : Version
  level : Level
  /-- The function patterns, row by row; no module where codewords go. -/
  patterns : Array (Option Bool)
  /-- The bits of the codewords at their places, row by row. -/
  data : Array Bool

def Draft.ofCodewords (version : Version) (level : Level) (words : List UInt8) : Draft :=
  let side := version.side
  let patterns := Array.ofFn fun i : Fin (side * side) =>
    version.pattern? (i.val % side) (i.val / side)
  let places := (path side).filterMap fun (x, y) =>
    let place := y * side + x
    if (patterns.getD place none).isNone then some place else none
  let stream := words.flatMap fun word => bits 8 word.toNat
  let data := (places.zip stream).foldl
    (fun data (place, bit) => data.setIfInBounds place bit) (Array.replicate (side * side) false)
  { version, level, patterns, data }

def Draft.masked (draft : Draft) (mask : Nat) : Symbol :=
  let side := draft.version.side
  let format := formatBits draft.level mask
  { version := draft.version
    modules := Array.ofFn fun i : Fin (side * side) =>
      let x := i.val % side
      let y := i.val / side
      match draft.version.formatIndex? x y with
      | some index => format.testBit index
      | none =>
        match draft.patterns.getD i.val none with
        | some module => module
        | none => Bool.xor (draft.data.getD i.val false) (maskFlips mask x y)
    size_modules := Array.size_ofFn }

namespace Symbol

def side (symbol : Symbol) : Nat :=
  symbol.version.side

def penalty (symbol : Symbol) : UInt16 :=
  Qr.penalty (rowsOf symbol.side symbol.modules) (columnsOf symbol.side symbol.modules)

/-- The symbol with the least penalty, the earlier one where two have the same. -/
def best (first : Symbol) (others : List Symbol) : Symbol :=
  (others.foldl
    (fun (found, least) candidate =>
      let score := candidate.penalty
      if score < least then (candidate, score) else (found, least))
    (first, first.penalty)).1

def encode (content : Bytes) (level : Level) : Except Error Symbol :=
  (fit level content).map fun (version, list) =>
    let data := Qr.dataCodewords (version.dataCodewords level) (dataBits version list)
    let draft := Draft.ofCodewords version level (codewords version level data)
    best (draft.masked 0) ((List.range (maskCount - 1)).map fun i => draft.masked (i + 1))

def grid (symbol : Symbol) : Grid :=
  chunks symbol.side symbol.modules.toList

theorem side_pos (symbol : Symbol) : 0 < symbol.side := by
  unfold side Version.side
  omega

theorem length_modules (symbol : Symbol) :
    symbol.modules.toList.length = symbol.side * symbol.side := by
  rw [Array.length_toList, symbol.size_modules]
  rfl

/-- Every row of the grid has one module for each column. -/
theorem length_of_mem_grid (symbol : Symbol) : ∀ row ∈ symbol.grid, row.length = symbol.side :=
  length_of_mem_chunks symbol.side_pos symbol.length_modules

/-- The grid has as many rows as columns. -/
theorem length_grid (symbol : Symbol) : symbol.grid.length = symbol.side :=
  length_chunks_of_whole symbol.side_pos symbol.length_modules

theorem grid_ne_nil (symbol : Symbol) : symbol.grid ≠ [] := by
  rw [← List.length_pos_iff, symbol.length_grid]
  exact symbol.side_pos

theorem square_grid (symbol : Symbol) : symbol.grid.IsSquare := by
  intro row hrow
  rw [symbol.length_of_mem_grid row hrow, symbol.length_grid]

end Symbol

end DeviceAssets.Qr
