import Mathlib.Order.Bounds.Defs
import DeviceAssets.Proofs.Bitmap.Bits

/-!
# Grids that are not packed

A grid is packed exactly where it has rows and is square. A grid without rows is refused as
empty. Any other is refused over one of its rows: the first that does not have as many cells as
there are rows, which is reported by its index and its length.
-/

namespace DeviceAssets

namespace Grid

/-- The indices of the rows that do not have as many cells as there are rows. -/
def misfits (grid : Grid) : Set Nat :=
  {y | ∃ cells, grid[y]? = some cells ∧ cells.length ≠ grid.length}

/-- The search ends at a row of another length, with only rows of the right one above it. -/
theorem firstMisfit?_eq_some_iff {side index row length : Nat} {grid : Grid} :
    firstMisfit? side index grid = some (row, length) ↔
      ∃ above cells below, grid = above ++ cells :: below ∧
        (∀ fitting ∈ above, fitting.length = side) ∧ cells.length ≠ side ∧
        cells.length = length ∧ row = index + above.length := by
  induction grid generalizing index with
  | nil => simp [firstMisfit?]
  | cons first rest ih =>
    rw [firstMisfit?]
    by_cases h : first.length = side
    · rw [if_pos h, ih]
      constructor
      · rintro ⟨above, cells, below, rfl, fitting, misfit, hlength, rfl⟩
        refine ⟨first :: above, cells, below, rfl, ?_, misfit, hlength, ?_⟩
        · rw [List.forall_mem_cons]
          exact ⟨h, fitting⟩
        · rw [List.length_cons]
          omega
      · rintro ⟨above, cells, below, hsplit, fitting, misfit, hlength, rfl⟩
        cases above with
        | nil =>
          cases hsplit
          exact absurd h misfit
        | cons top above =>
          cases hsplit
          rw [List.forall_mem_cons] at fitting
          refine ⟨above, cells, below, rfl, fitting.2, misfit, hlength, ?_⟩
          rw [List.length_cons]
          omega
    · rw [if_neg h, Option.some.injEq, Prod.mk.injEq]
      constructor
      · rintro ⟨rfl, rfl⟩
        exact ⟨[], first, rest, rfl, by simp, h, rfl, rfl⟩
      · rintro ⟨above, cells, below, hsplit, fitting, -, hlength, rfl⟩
        cases above with
        | nil =>
          cases hsplit
          exact ⟨rfl, hlength⟩
        | cons top above =>
          cases hsplit
          exact absurd (fitting first List.mem_cons_self) h

/-- The row found is the one with the least index of those that do not fit. -/
theorem firstMisfit?_eq_some_iff_isLeast {grid : Grid} {row length : Nat} :
    grid.firstMisfit? grid.length 0 = some (row, length) ↔
      IsLeast grid.misfits row ∧ ∃ cells, grid[row]? = some cells ∧ cells.length = length := by
  rw [firstMisfit?_eq_some_iff]
  constructor
  · rintro ⟨above, cells, below, hsplit, fitting, misfit, hlength, hrow⟩
    rw [Nat.zero_add] at hrow
    have hthere : grid[row]? = some cells := by
      rw [hsplit, hrow, List.getElem?_append_right (Nat.le_refl _), Nat.sub_self,
        List.getElem?_cons_zero]
    refine ⟨⟨⟨cells, hthere, misfit⟩, ?_⟩, cells, hthere, hlength⟩
    rintro y ⟨other, hother, otherMisfit⟩
    by_contra hbefore
    rw [hsplit, List.getElem?_append_left (by omega)] at hother
    exact otherMisfit (fitting other (List.mem_of_getElem? hother))
  · rintro ⟨⟨⟨cells, hcells, misfit⟩, least⟩, other, hother, hlength⟩
    obtain rfl : cells = other := Option.some.inj (hcells.symm.trans hother)
    obtain ⟨hrow, rfl⟩ := List.getElem?_eq_some_iff.mp hcells
    refine ⟨grid.take row, grid[row], grid.drop (row + 1), ?_, ?_, misfit, hlength, ?_⟩
    · rw [← List.drop_eq_getElem_cons hrow, List.take_append_drop]
    · intro fitting hfitting
      obtain ⟨y, hy⟩ := List.mem_iff_getElem?.mp hfitting
      have hbefore : y < row := by
        obtain ⟨hy, _⟩ := List.getElem?_eq_some_iff.mp hy
        rw [List.length_take] at hy
        omega
      rw [List.getElem?_take_of_lt hbefore] at hy
      by_contra otherMisfit
      have hle : row ≤ y := least ⟨fitting, hy, otherMisfit⟩
      omega
    · rw [List.length_take]
      omega

end Grid

theorem pack_eq_emptyGrid_iff {grid : Grid} : pack grid = .error .emptyGrid ↔ grid = [] := by
  constructor
  · intro h
    by_contra nonempty
    rw [pack, if_neg nonempty] at h
    split at h <;> cases h
  · rintro rfl
    rfl

theorem pack_eq_notSquare_iff {grid : Grid} {row length rows : Nat} :
    pack grid = .error (.notSquare row length rows) ↔
      grid ≠ [] ∧ rows = grid.length ∧
        grid.firstMisfit? grid.length 0 = some (row, length) := by
  constructor
  · intro h
    have nonempty : grid ≠ [] := by
      rintro rfl
      cases h
    rw [pack, if_neg nonempty] at h
    split at h
    · rename_i found count hmisfit
      cases h
      exact ⟨nonempty, rfl, hmisfit⟩
    · cases h
  · rintro ⟨nonempty, rfl, hmisfit⟩
    rw [pack, if_neg nonempty]
    split
    · rename_i found count hfound
      rw [hmisfit] at hfound
      cases hfound
      rfl
    · rename_i hnone
      rw [hmisfit] at hnone
      cases hnone

theorem exists_pack_eq_notSquare_iff {grid : Grid} :
    (∃ row length rows, pack grid = .error (.notSquare row length rows)) ↔
      grid ≠ [] ∧ ∃ cells ∈ grid, cells.length ≠ grid.length := by
  constructor
  · rintro ⟨row, length, rows, h⟩
    obtain ⟨nonempty, -, hmisfit⟩ := pack_eq_notSquare_iff.mp h
    obtain ⟨⟨⟨cells, hcells, misfit⟩, -⟩, -⟩ := Grid.firstMisfit?_eq_some_iff_isLeast.mp hmisfit
    exact ⟨nonempty, cells, List.mem_of_getElem? hcells, misfit⟩
  · rintro ⟨nonempty, cells, hcells, misfit⟩
    cases hfirst : grid.firstMisfit? grid.length 0 with
    | none => exact absurd (Grid.firstMisfit?_eq_none_iff.mp hfirst cells hcells) misfit
    | some found =>
      exact ⟨found.1, found.2, _, pack_eq_notSquare_iff.mpr ⟨nonempty, rfl, hfirst⟩⟩

theorem exists_pack_eq_ok_iff {grid : Grid} :
    (∃ packed, pack grid = .ok packed) ↔ grid ≠ [] ∧ grid.IsSquare := by
  constructor
  · rintro ⟨packed, h⟩
    obtain ⟨nonempty, square, -⟩ := pack_eq_ok_iff.mp h
    exact ⟨nonempty, square⟩
  · rintro ⟨nonempty, square⟩
    obtain ⟨packed, h, -⟩ := exists_pack_eq_ok nonempty square
    exact ⟨packed, h⟩

/-- Of rows that are all alike, the first one is at fault. -/
theorem pack_rectangle {grid : Grid} {width : Nat} (nonempty : grid ≠ [])
    (wide : ∀ cells ∈ grid, cells.length = width) (oblong : width ≠ grid.length) :
    pack grid = .error (.notSquare 0 width grid.length) := by
  rw [pack_eq_notSquare_iff]
  refine ⟨nonempty, rfl, ?_⟩
  obtain ⟨first, rest, rfl⟩ := List.exists_cons_of_ne_nil nonempty
  have hfirst : first.length = width := wide first List.mem_cons_self
  rw [Grid.firstMisfit?, hfirst, if_neg oblong]

/-- Which grids are refused, and over what. One without rows is empty. One with rows is not square
exactly where a row does not have as many cells as there are rows, and then the number of rows is
told, and the index and the length of the first such row, so all rows above it have the right
length. All other grids are packed, and every cell of theirs is there. Rows that are all alike
but of another length are refused at the first one. -/
theorem pack_refuses_iff (grid : Grid) :
    (pack grid = .error .emptyGrid ↔ grid.length = 0) ∧
    ((∃ row length rows, pack grid = .error (.notSquare row length rows)) ↔
      0 < grid.length ∧ ∃ cells ∈ grid, cells.length ≠ grid.length) ∧
    (∀ row length rows, pack grid = .error (.notSquare row length rows) ↔
      0 < grid.length ∧ rows = grid.length ∧
        IsLeast grid.misfits row ∧
        ∃ cells, grid[row]? = some cells ∧ cells.length = length) ∧
    (∀ row length rows, pack grid = .error (.notSquare row length rows) →
      ∀ y < row, ∃ cells, grid[y]? = some cells ∧ cells.length = grid.length) ∧
    ((∃ packed, pack grid = .ok packed) ↔
      0 < grid.length ∧ ∀ cells ∈ grid, cells.length = grid.length) ∧
    (∀ packed, pack grid = .ok packed → ∀ y < grid.length, ∀ x < grid.length,
      ∃ cell, grid.cell? x y = some cell) ∧
    ∀ width, 0 < grid.length → (∀ cells ∈ grid, cells.length = width) → width ≠ grid.length →
      pack grid = .error (.notSquare 0 width grid.length) := by
  have hnonempty : 0 < grid.length ↔ grid ≠ [] := List.length_pos_iff
  refine ⟨?_, ?_, ?_, ?_, ?_, ?_, ?_⟩
  · rw [pack_eq_emptyGrid_iff, List.length_eq_zero_iff]
  · rw [exists_pack_eq_notSquare_iff, hnonempty]
  · intro row length rows
    rw [pack_eq_notSquare_iff, Grid.firstMisfit?_eq_some_iff_isLeast, hnonempty]
  · intro row length rows h y hy
    obtain ⟨-, -, hmisfit⟩ := pack_eq_notSquare_iff.mp h
    obtain ⟨⟨⟨cells, hcells, -⟩, least⟩, -⟩ := Grid.firstMisfit?_eq_some_iff_isLeast.mp hmisfit
    obtain ⟨hrow, -⟩ := List.getElem?_eq_some_iff.mp hcells
    have hthere : grid[y]? = some grid[y] := List.getElem?_eq_getElem (by omega)
    refine ⟨grid[y], hthere, ?_⟩
    by_contra misfit
    have hle : row ≤ y := least ⟨grid[y], hthere, misfit⟩
    omega
  · rw [exists_pack_eq_ok_iff, hnonempty]
    rfl
  · intro packed h y hy x hx
    obtain ⟨-, square, -⟩ := pack_eq_ok_iff.mp h
    exact Grid.exists_cell? square hx hy
  · intro width positive wide oblong
    exact pack_rectangle (hnonempty.mp positive) wide oblong

def raggedGrid : Grid :=
  [[true, false, false, true], [false, true, true, false], [true, true, true, true, true], []]

def oblongGrid : Grid :=
  List.replicate 4 (List.replicate 8 true)

/-- A ragged grid is refused over its third row, and an oblong one over its first. -/
theorem pack_refuses_iff_ragged :
    pack raggedGrid = .error (.notSquare 2 5 4) ∧
      (∀ y < 2, ∃ cells, raggedGrid[y]? = some cells ∧ cells.length = 4) ∧
      (∃ packed, pack diagonal = .ok packed ∧ ∃ cell, diagonal.cell? 8 0 = some cell) ∧
      0 < oblongGrid.length ∧ (∀ cells ∈ oblongGrid, cells.length = 8) ∧ 8 ≠ oblongGrid.length ∧
      pack oblongGrid = .error (.notSquare 0 8 4) := by
  obtain ⟨-, -, hragged, habove, -⟩ := pack_refuses_iff raggedGrid
  obtain ⟨-, -, -, -, hpacked, hcell, -⟩ := pack_refuses_iff diagonal
  obtain ⟨-, -, -, -, -, -, hoblong⟩ := pack_refuses_iff oblongGrid
  have hthird : pack raggedGrid = .error (.notSquare 2 5 4) := by
    rw [hragged]
    refine ⟨by decide, by decide, ⟨⟨_, rfl, by decide⟩, ?_⟩, _, rfl, rfl⟩
    rintro y ⟨cells, hcells, misfit⟩
    by_contra hbefore
    obtain rfl | rfl : y = 0 ∨ y = 1 := by omega
    all_goals cases hcells; exact absurd rfl misfit
  obtain ⟨packed, h⟩ := hpacked.mpr ⟨by decide, by decide⟩
  have positive : 0 < oblongGrid.length := by decide
  have wide : ∀ cells ∈ oblongGrid, cells.length = 8 := by decide
  have oblong : 8 ≠ oblongGrid.length := by decide
  refine ⟨hthird, habove 2 5 4 hthird, ⟨packed, h, ?_⟩, positive, wide, oblong, ?_⟩
  · exact hcell packed h 0 (by decide) 8 (by decide)
  · exact hoblong 8 positive wide oblong

end DeviceAssets
