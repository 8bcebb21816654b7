/-!
# Grids of cells

A grid is a list of rows of cells, and a cell is `true` where it is dark. Rows
may have any length: `firstMisfit?` finds the first one that keeps a grid from being
square, and there is none exactly in square grids.
-/

namespace DeviceAssets

/-- Rows of cells, top to bottom and left to right; `true` is dark. -/
abbrev Grid := List (List Bool)

namespace Grid

/-- Every row has as many cells as there are rows. -/
def IsSquare (grid : Grid) : Prop :=
  ∀ row ∈ grid, row.length = grid.length

instance (grid : Grid) : Decidable grid.IsSquare :=
  inferInstanceAs (Decidable (∀ row ∈ grid, row.length = grid.length))

/-- The index and the length of the first row, counted from `index`, that does not
have `side` cells. -/
def firstMisfit? (side : Nat) (index : Nat) : Grid → Option (Nat × Nat)
  | [] => none
  | row :: rest =>
    if row.length = side then firstMisfit? side (index + 1) rest
    else some (index, row.length)

theorem firstMisfit?_eq_none_iff {side index : Nat} {grid : Grid} :
    firstMisfit? side index grid = none ↔ ∀ row ∈ grid, row.length = side := by
  induction grid generalizing index with
  | nil => simp [firstMisfit?]
  | cons row rest ih =>
    by_cases h : row.length = side <;> simp [firstMisfit?, h, ih]

def cell? (grid : Grid) (x y : Nat) : Option Bool :=
  grid[y]?.bind fun row => row[x]?

end Grid

end DeviceAssets
