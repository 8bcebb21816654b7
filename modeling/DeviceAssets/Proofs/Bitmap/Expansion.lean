import DeviceAssets.Bitmap.Packed

/-!
# Expanding packed rows

Packed octets are expanded row by row: the bits of an octet from the highest on, and
of each row as many as it has cells. Expanding what a square grid was packed into
gives the grid, and grids of different sizes are packed into different lengths.
-/

namespace DeviceAssets

def bits (octet : UInt8) : List Bool :=
  (List.range 8).map fun i => octet.toNat.testBit (7 - i)

/-- The rows of `n` cells that octets show, each beginning a new octet; what stands behind
the last cell of a row is left out. -/
def expand (n : Nat) (bytes : Bytes) : Grid :=
  (chunks (stride n) bytes).map fun row => (row.flatMap bits).take n

theorem stride_pos {n : Nat} (positive : 0 < n) : 0 < stride n := by
  rw [stride]
  omega

theorem stride_mono {m n : Nat} (h : m ≤ n) : stride m ≤ stride n :=
  Nat.div_le_div_right (Nat.add_le_add_right h 7)

/-- A larger grid takes more octets. -/
theorem packedLength_lt_packedLength {m n : Nat} (h : m < n) :
    packedLength m < packedLength n := by
  have hrow : stride m ≤ stride n := stride_mono (Nat.le_of_lt h)
  have hpos : 0 < stride n := stride_pos (Nat.zero_lt_of_lt h)
  calc m * stride m ≤ m * stride n := Nat.mul_le_mul_left m hrow
    _ < n * stride n := Nat.mul_lt_mul_of_pos_right h hpos

theorem packedLength_injective {m n : Nat} (h : packedLength m = packedLength n) : m = n := by
  rcases Nat.lt_trichotomy m n with hlt | heq | hgt
  · exact absurd h (Nat.ne_of_lt (packedLength_lt_packedLength hlt))
  · exact heq
  · exact absurd h.symm (Nat.ne_of_lt (packedLength_lt_packedLength hgt))

/-- Rows of one length are found again in their concatenation. -/
theorem chunks_flatten {α : Type} {width : Nat} (positive : 0 < width) {rows : List (List α)}
    (wide : ∀ row ∈ rows, row.length = width) : chunks width rows.flatten = rows := by
  induction rows with
  | nil => exact chunks_nil width
  | cons row rest ih =>
    have hrow : row.length = width := wide row List.mem_cons_self
    have hrest := ih fun row h => wide row (List.mem_cons_of_mem _ h)
    cases row with
    | nil => simp at hrow; omega
    | cons first cells =>
      have hcells : width - 1 = cells.length := by simp at hrow; omega
      rw [List.flatten_cons, List.cons_append, chunks_cons, hcells, List.take_left,
        List.drop_left, hrest]

/-- The bits of an octet are the cells that it shows, and then clear bits. -/
theorem bits_octet {cells : List Bool} (few : cells.length ≤ 8) :
    bits (octet cells) = cells ++ List.replicate (8 - cells.length) false := by
  apply List.ext_getElem
  · simp [bits]
    omega
  · intro i hi _
    have hi : i < 8 := by simpa [bits] using hi
    have hbit : (octet cells).toNat.testBit (7 - i) = cells.getD i false :=
      testBit_octet cells ⟨i, hi⟩
    simp only [bits, List.getElem_map, List.getElem_range, hbit]
    by_cases hcell : i < cells.length
    · simp [List.getElem_append_left hcell, hcell]
    · rw [List.getElem_append_right (Nat.le_of_not_lt hcell), List.getElem_replicate]
      simp [hcell]

/-- Behind the cells of a packed row there are only clear bits. -/
theorem flatMap_bits_packRow (cells : List Bool) :
    ∃ padding, (packRow cells).flatMap bits = cells ++ List.replicate padding false := by
  rw [packRow]
  fun_induction chunks 8 cells with
  | case1 => exact ⟨0, rfl⟩
  | case2 first rest ih =>
    obtain ⟨padding, hrest⟩ := ih
    have few : (first :: rest.take (8 - 1)).length ≤ 8 := by
      rw [List.length_cons, List.length_take]
      omega
    rw [List.map_cons, List.flatMap_cons, hrest, bits_octet few]
    by_cases hfull : 7 ≤ rest.length
    · refine ⟨padding, ?_⟩
      have hlength : 8 - (first :: rest.take (8 - 1)).length = 0 := by simp; omega
      rw [hlength, List.replicate_zero, List.append_nil, List.cons_append,
        ← List.append_assoc, List.take_append_drop, List.cons_append]
    · have hdrop : rest.drop (8 - 1) = [] := List.drop_eq_nil_of_le (by omega)
      have htake : rest.take (8 - 1) = rest := List.take_of_length_le (by omega)
      refine ⟨8 - (first :: rest).length + padding, ?_⟩
      rw [hdrop, htake, List.nil_append, List.append_assoc, List.replicate_append_replicate]

theorem take_flatMap_bits_packRow (cells : List Bool) :
    ((packRow cells).flatMap bits).take cells.length = cells := by
  obtain ⟨padding, h⟩ := flatMap_bits_packRow cells
  rw [h, List.take_left]

/-- Expanding the packed rows of a square grid gives the grid. -/
theorem expand_flatMap_packRow {n : Nat} (positive : 0 < n) {grid : Grid}
    (wide : ∀ row ∈ grid, row.length = n) : expand n (grid.flatMap packRow) = grid := by
  have hrows : ∀ row ∈ grid.map packRow, row.length = stride n := by
    intro row hrow
    obtain ⟨cells, hcells, rfl⟩ := List.mem_map.mp hrow
    rw [length_packRow, wide cells hcells]
  have hchunks : chunks (stride n) (grid.flatMap packRow) = grid.map packRow := by
    rw [List.flatMap_def]
    exact chunks_flatten (stride_pos positive) hrows
  rw [expand, hchunks, List.map_map]
  refine (List.map_congr_left fun cells hcells => ?_).trans (List.map_id grid)
  have hcut := take_flatMap_bits_packRow cells
  rw [wide cells hcells] at hcut
  exact hcut

/-- A square grid with rows is packed row by row. -/
theorem exists_pack_eq_ok {grid : Grid} (nonempty : grid ≠ []) (square : grid.IsSquare) :
    ∃ packed, pack grid = .ok packed ∧ packed.modules = grid.length ∧
      packed.bytes = grid.flatMap packRow := by
  rw [pack, if_neg nonempty]
  split
  · rename_i row length hmisfit
    rw [Grid.firstMisfit?_eq_none_iff.mpr square] at hmisfit
    cases hmisfit
  · exact ⟨_, rfl, rfl, rfl⟩

end DeviceAssets
