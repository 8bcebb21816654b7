import DeviceAssets.Proofs.Bitmap.Bits

/-!
# Reading behind the last column

A bit is read without regard to the side of the grid. Behind its last cell a row goes on with
its padding, and behind its last octet with the row below, so every column stands for one place
of one row. There is no bit only where that row lies below the last one.
-/

namespace DeviceAssets

namespace Packed

/-- A bit is looked for in one octet of the buffer. -/
theorem get?_eq (packed : Packed) (x y : Nat) :
    packed.get? x y = packed.bytes[y * packed.stride + x / 8]?.map fun octet =>
      octet.toNat.testBit (7 - x % 8) := by
  rw [get?, bit?, List.getElem?_drop]

theorem get?_eq_none_iff {packed : Packed} {x y : Nat} :
    packed.get? x y = none ↔ packedLength packed.modules ≤ y * packed.stride + x / 8 := by
  rw [get?_eq, Option.map_eq_none_iff, List.getElem?_eq_none_iff, packed.length_bytes]

/-- A column behind the octets of a row is a column of a row below. -/
theorem get?_eq_get?_mod (packed : Packed) (x y : Nat) :
    packed.get? x y =
      packed.get? (x % (8 * packed.stride)) (y + x / (8 * packed.stride)) := by
  have hplace : (y + x / (8 * packed.stride)) * packed.stride + x % (8 * packed.stride) / 8 =
      y * packed.stride + x / 8 := by
    calc (y + x / (8 * packed.stride)) * packed.stride + x % (8 * packed.stride) / 8
        = y * packed.stride + (x / 8 / packed.stride * packed.stride + x / 8 % packed.stride) := by
          rw [Nat.add_mul, Nat.add_assoc, Nat.div_div_eq_div_mul, Nat.mod_mul_right_div_self]
      _ = y * packed.stride + x / 8 := by rw [Nat.div_add_mod']
  rw [get?_eq, get?_eq, hplace, Nat.mod_mul_right_mod]

/-- Where there is an octet, the row that a column runs into is one of the grid. -/
theorem row_lt_of_place_lt {packed : Packed} {x y : Nat}
    (h : y * packed.stride + x / 8 < packedLength packed.modules) :
    y + x / (8 * packed.stride) < packed.modules := by
  have hpositive : 0 < packed.stride := by
    apply Nat.pos_of_ne_zero
    intro hzero
    rw [packedLength, ← Packed.stride, hzero, Nat.mul_zero] at h
    exact Nat.not_lt_zero _ h
  have hrow : (y * packed.stride + x / 8) / packed.stride = y + x / (8 * packed.stride) := by
    rw [Nat.add_comm, Nat.add_mul_div_right _ _ hpositive, Nat.add_comm,
      Nat.div_div_eq_div_mul]
  rw [← hrow]
  exact (Nat.div_lt_iff_lt_mul hpositive).mpr h

end Packed

/-- What is read from the packed form of a grid at any row and column. There is a bit exactly
where the buffer has its octet. It shows the cell of the row that the column runs into, or the
padding behind the cells of that row; within the grid it shows the cell itself. -/
theorem get?_of_pack_at_any_column {grid : Grid} (nonempty : grid ≠ [])
    (square : grid.IsSquare) :
    ∃ packed, pack grid = .ok packed ∧ packed.stride = grid.length ⌈/⌉ 8 ∧
      (∀ x y, packed.get? x y = none ↔
        grid.length * packed.stride ≤ y * packed.stride + x / 8) ∧
      (∀ x y, y * packed.stride + x / 8 < grid.length * packed.stride →
        y + x / (8 * packed.stride) < grid.length ∧
        ∃ bit, packed.get? x y = some bit ∧
          if x % (8 * packed.stride) < grid.length then
            grid.cell? (x % (8 * packed.stride)) (y + x / (8 * packed.stride)) = some bit
          else bit = false) ∧
      ∀ x < grid.length, ∀ y < grid.length,
        ∃ cell, grid.cell? x y = some cell ∧ packed.get? x y = some cell := by
  obtain ⟨packed, h, hmodules, _⟩ := exists_pack_eq_ok nonempty square
  have hlength : packedLength packed.modules = grid.length * packed.stride := by
    rw [packedLength, Packed.stride, hmodules]
  have hpositive : 0 < 8 * packed.stride := by
    rw [Packed.stride, hmodules]
    exact Nat.mul_pos (by decide) (stride_pos (List.length_pos_iff.mpr nonempty))
  refine ⟨packed, h, ?_, ?_, ?_, ?_⟩
  · rw [Packed.stride, hmodules, stride_eq_ceilDiv]
  · intro x y
    rw [Packed.get?_eq_none_iff, hlength]
  · intro x y hplace
    rw [← hlength] at hplace
    have hrow := Packed.row_lt_of_place_lt hplace
    have hcolumn := Nat.mod_lt x hpositive
    have hbit := Packed.get?_of_pack h hrow hcolumn
    rw [← packed.get?_eq_get?_mod] at hbit
    rw [hmodules] at hrow
    refine ⟨hrow, _, hbit, ?_⟩
    split
    · rename_i hcell
      obtain ⟨cell, hcell⟩ := Grid.exists_cell? square hcell hrow
      rw [hcell, Option.getD_some]
    · rename_i hpadding
      cases hcell : grid.cell? (x % (8 * packed.stride)) (y + x / (8 * packed.stride)) with
      | none => rfl
      | some cell => exact absurd (Grid.lt_of_cell? square hcell) hpadding
  · intro x hx y hy
    obtain ⟨cell, hcell⟩ := Grid.exists_cell? square hx hy
    rw [← hmodules] at hx hy
    have hbit := Packed.get?_of_pack h hy (Packed.lt_stride hx)
    rw [hcell, Option.getD_some] at hbit
    exact ⟨cell, hcell, hbit⟩

/-- Of the diagonal, row 0 goes on with seven clear bits and then with row 1, and row 8 with
nothing. -/
theorem get?_of_pack_at_any_column_diagonal :
    diagonal ≠ [] ∧ diagonal.IsSquare ∧ ∃ packed, pack diagonal = .ok packed ∧
      packed.get? 8 8 = some true ∧ packed.get? 15 0 = some false ∧
      packed.get? 17 0 = some true ∧ packed.get? 16 8 = none := by
  have nonempty : diagonal ≠ [] := by decide
  have square : diagonal.IsSquare := by decide
  obtain ⟨packed, h, hstride, hnone, hsome, hcell⟩ :=
    get?_of_pack_at_any_column nonempty square
  have htwo : packed.stride = 2 := hstride.trans (by decide)
  rw [htwo] at hnone hsome
  refine ⟨nonempty, square, packed, h, ?_, ?_, ?_, ?_⟩
  · obtain ⟨cell, hgrid, hbit⟩ := hcell 8 (by decide) 8 (by decide)
    cases hgrid
    exact hbit
  · obtain ⟨_, bit, hbit, hclear⟩ := hsome 15 0 (by decide)
    rw [if_neg (by decide)] at hclear
    rw [hbit, hclear]
  · obtain ⟨_, bit, hbit, hgrid⟩ := hsome 17 0 (by decide)
    rw [if_pos (by decide)] at hgrid
    cases hgrid
    exact hbit
  · exact (hnone 16 8).mpr (by decide)

end DeviceAssets
