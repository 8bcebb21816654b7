import Mathlib.Algebra.Order.Floor.Div
import Mathlib.GroupTheory.GroupAction.Ring
import DeviceAssets.Proofs.Bitmap.Expansion

/-!
# The bits of a packed grid

Every bit of a packed buffer is read at a row and a column, where the columns of a row go on
to the end of its last octet. A buffer is known once all of these bits are. In the packed form
of a grid a bit is set exactly where the grid has a dark cell, so the padding is clear and no
dark cell is lost.
-/

namespace DeviceAssets

theorem stride_eq_ceilDiv (n : Nat) : stride n = n ⌈/⌉ 8 := by
  rw [stride, Nat.ceilDiv_eq_add_pred_div]
  rfl

/-- A column that has a bit lies in one of the octets of its row. -/
theorem column_div_lt {n x : Nat} (h : x < 8 * stride n) : x / 8 < stride n := by
  omega

/-- Where rows follow each other, a column of a row has its place before the end of all. -/
theorem place_lt {width height x y : Nat} (hx : x < width) (hy : y < height) :
    y * width + x < height * width :=
  calc y * width + x < y * width + width := Nat.add_lt_add_left hx _
    _ = (y + 1) * width := (Nat.succ_mul y width).symm
    _ ≤ height * width := Nat.mul_le_mul_right width hy

/-! ### One row -/

namespace Packed

/-- A bit is looked for in one octet of a row only. -/
theorem bit?_append {front : Bytes} {x : Nat} (h : x / 8 < front.length) (back : Bytes) :
    bit? (front ++ back) x = bit? front x := by
  rw [bit?, bit?, List.getElem?_append_left h]

end Packed

/-- Behind the last cell of a packed row the bits are clear. -/
theorem bit?_packRow (cells : List Bool) {x : Nat} (h : x < 8 * stride cells.length) :
    Packed.bit? (packRow cells) x = some (cells.getD x false) := by
  have hx : x / 8 * 8 < cells.length := by
    rw [stride] at h
    omega
  have hbit := testBit_octet ((cells.drop (x / 8 * 8)).take 8) ⟨x % 8, Nat.mod_lt x (by omega)⟩
  have hcell : ((cells.drop (x / 8 * 8)).take 8).getD (x % 8) false = cells.getD x false := by
    have hsplit : x / 8 * 8 + x % 8 = x := Nat.div_add_mod' x 8
    rw [List.getD_eq_getElem?_getD, List.getElem?_take, if_pos (Nat.mod_lt x (by omega)),
      List.getElem?_drop, hsplit, ← List.getD_eq_getElem?_getD]
  rw [Packed.bit?, packRow, List.getElem?_map, getElem?_chunks (by omega) hx]
  simp only [Option.map_some, hbit, hcell]

/-- Row number `y` of a packed grid follows the rows above it. -/
theorem drop_flatMap_packRow {side : Nat} {grid : Grid} (wide : ∀ row ∈ grid, row.length = side)
    {y : Nat} (hy : y < grid.length) :
    (grid.flatMap packRow).drop (y * stride side) =
      packRow grid[y] ++ (grid.drop (y + 1)).flatMap packRow := by
  induction grid generalizing y with
  | nil => simp at hy
  | cons row rest ih =>
    have hrow : (packRow row).length = stride side := by
      rw [length_packRow, wide row List.mem_cons_self]
    cases y with
    | zero => simp
    | succ y =>
      have hrest := ih (fun other h => wide other (List.mem_cons_of_mem _ h))
        (Nat.lt_of_succ_lt_succ hy)
      rw [List.flatMap_cons, Nat.succ_mul, Nat.add_comm, ← List.drop_drop,
        List.drop_left' hrow, hrest]
      rfl

/-! ### All rows -/

/-- No row of a square grid has a cell behind the last column. -/
theorem Grid.lt_of_cell? {grid : Grid} (square : grid.IsSquare) {x y : Nat} {cell : Bool}
    (h : grid.cell? x y = some cell) : x < grid.length := by
  obtain ⟨row, hrow, hcell⟩ := Option.bind_eq_some_iff.mp h
  rw [← square row (List.mem_of_getElem? hrow)]
  exact (List.getElem?_eq_some_iff.mp hcell).1

/-- Every column of every row of a square grid has a cell. -/
theorem Grid.exists_cell? {grid : Grid} (square : grid.IsSquare) {x y : Nat}
    (hx : x < grid.length) (hy : y < grid.length) : ∃ cell, grid.cell? x y = some cell := by
  have hrow : x < grid[y].length := by rwa [square _ (List.getElem_mem hy)]
  refine ⟨grid[y][x], ?_⟩
  rw [Grid.cell?, List.getElem?_eq_getElem hy, Option.bind_some, List.getElem?_eq_getElem hrow]

theorem pack_eq_ok_iff {grid : Grid} {packed : Packed} :
    pack grid = .ok packed ↔ grid ≠ [] ∧ grid.IsSquare ∧ packed.modules = grid.length ∧
      packed.bytes = grid.flatMap packRow := by
  constructor
  · intro h
    have hnonempty : grid ≠ [] := by
      rintro rfl
      cases h
    have hsquare : grid.IsSquare := by
      rw [pack, if_neg hnonempty] at h
      split at h
      · cases h
      · exact Grid.firstMisfit?_eq_none_iff.mp ‹_›
    obtain ⟨other, hother, hmodules, hbytes⟩ := exists_pack_eq_ok hnonempty hsquare
    rw [hother] at h
    cases h
    exact ⟨hnonempty, hsquare, hmodules, hbytes⟩
  · rintro ⟨hnonempty, hsquare, hmodules, hbytes⟩
    obtain ⟨other, hother, hside, hoctets⟩ := exists_pack_eq_ok hnonempty hsquare
    have hsame : other = packed := by
      obtain ⟨_, _, _⟩ := packed
      obtain ⟨_, _, _⟩ := other
      subst hmodules hbytes hside hoctets
      rfl
    rw [hother, hsame]

namespace Packed

/-- Bit `7 - k` of octet number `i` is the one for column `8 * (i % stride) + k` of row
`i / stride`. -/
theorem get?_octet (packed : Packed) {i k : Nat} (hi : i < packed.bytes.length) (hk : k < 8) :
    packed.get? (8 * (i % packed.stride) + k) (i / packed.stride) =
      some (packed.bytes[i].toNat.testBit (7 - k)) := by
  have hdiv : (8 * (i % packed.stride) + k) / 8 = i % packed.stride := by omega
  have hmod : (8 * (i % packed.stride) + k) % 8 = k := by omega
  rw [get?, bit?, List.getElem?_drop, hdiv, hmod, Nat.div_add_mod',
    List.getElem?_eq_getElem hi, Option.map_some]

/-- Each row and each column up to the end of the last octet of a row has a bit. -/
theorem exists_get?_eq (packed : Packed) {x y : Nat} (hx : x < 8 * packed.stride)
    (hy : y < packed.modules) : ∃ bit, packed.get? x y = some bit := by
  have hplace : y * packed.stride + x / 8 < packed.bytes.length := by
    rw [packed.length_bytes, packedLength]
    exact place_lt (column_div_lt hx) hy
  rw [get?, bit?, List.getElem?_drop, List.getElem?_eq_getElem hplace]
  exact ⟨_, rfl⟩

/-- Columns of cells have bits. -/
theorem lt_stride {packed : Packed} {x : Nat} (h : x < packed.modules) :
    x < 8 * packed.stride := by
  rw [Packed.stride, DeviceAssets.stride]
  omega

/-- Octets that show the same bits are the same. -/
theorem octet_eq_of_testBit {first second : UInt8}
    (same : ∀ k < 8, first.toNat.testBit (7 - k) = second.toNat.testBit (7 - k)) :
    first = second := by
  apply UInt8.toNat_inj.mp
  apply Nat.eq_of_testBit_eq
  intro i
  by_cases hi : i < 8
  · have h := same (7 - i) (by omega)
    rwa [show 7 - (7 - i) = i by omega] at h
  · have hsize : 2 ^ 8 ≤ 2 ^ i := Nat.pow_le_pow_right (by omega) (by omega)
    rw [Nat.testBit_lt_two_pow (Nat.lt_of_lt_of_le first.toNat_lt hsize),
      Nat.testBit_lt_two_pow (Nat.lt_of_lt_of_le second.toNat_lt hsize)]

/-- Two packed grids of one size with the same bits, padding included, are the same. -/
theorem ext_get? {first second : Packed} (size : first.modules = second.modules)
    (same : ∀ y < first.modules, ∀ x < 8 * first.stride, first.get? x y = second.get? x y) :
    first = second := by
  have hlength : first.bytes.length = second.bytes.length := by
    rw [first.length_bytes, second.length_bytes, size]
  have hstride : first.stride = second.stride := congrArg DeviceAssets.stride size
  have hbytes : first.bytes = second.bytes := by
    apply List.ext_getElem hlength
    intro i hi hother
    apply octet_eq_of_testBit
    intro k hk
    have hcount : i < first.modules * first.stride := by
      rw [first.length_bytes] at hi
      exact hi
    have hpositive : 0 < first.stride := by
      apply Nat.pos_of_ne_zero
      intro hzero
      rw [hzero, Nat.mul_zero] at hcount
      exact Nat.not_lt_zero i hcount
    have hrow : i / first.stride < first.modules := Nat.div_lt_of_lt_mul (by rwa [Nat.mul_comm])
    have hcolumn := Nat.mod_lt i hpositive
    have h := same (i / first.stride) hrow (8 * (i % first.stride) + k) (by omega)
    rw [first.get?_octet hi hk, hstride, second.get?_octet hother hk] at h
    exact Option.some.inj h
  obtain ⟨_, _, _⟩ := first
  obtain ⟨_, _, _⟩ := second
  subst size hbytes
  rfl

/-- The bits behind the last column of every row are clear. -/
def PaddingClear (packed : Packed) : Prop :=
  ∀ y < packed.modules, ∀ x, packed.modules ≤ x → x < 8 * packed.stride →
    packed.get? x y = some false

/-- A packed grid shows its cells, and nothing else. -/
theorem get?_of_pack {grid : Grid} {packed : Packed} (h : pack grid = .ok packed) {x y : Nat}
    (hy : y < packed.modules) (hx : x < 8 * packed.stride) :
    packed.get? x y = some ((grid.cell? x y).getD false) := by
  obtain ⟨_, square, hmodules, hbytes⟩ := pack_eq_ok_iff.mp h
  rw [hmodules] at hy
  have hrow : grid[y].length = grid.length := square _ (List.getElem_mem hy)
  have hstride : packed.stride = DeviceAssets.stride grid.length :=
    congrArg DeviceAssets.stride hmodules
  have hwidth : x < 8 * DeviceAssets.stride grid[y].length := by rwa [hrow, ← hstride]
  have hoctet : x / 8 < (packRow grid[y]).length := by
    rw [length_packRow]
    exact column_div_lt hwidth
  rw [get?, hbytes, hstride, drop_flatMap_packRow square hy, bit?_append hoctet,
    bit?_packRow _ hwidth, Grid.cell?, List.getElem?_eq_getElem hy, Option.bind_some,
    List.getD_eq_getElem?_getD]

theorem paddingClear_of_pack {grid : Grid} {packed : Packed} (h : pack grid = .ok packed) :
    packed.PaddingClear := by
  intro y hy x hwide hx
  obtain ⟨_, square, hmodules, _⟩ := pack_eq_ok_iff.mp h
  rw [get?_of_pack h hy hx]
  cases hcell : grid.cell? x y with
  | none => rfl
  | some cell =>
    have := Grid.lt_of_cell? square hcell
    omega

end Packed

/-! ### Counting -/

theorem count_flatMap_bits_packRow (cells : List Bool) :
    ((packRow cells).flatMap bits).count true = cells.count true := by
  obtain ⟨padding, h⟩ := flatMap_bits_packRow cells
  rw [h, List.count_append, List.count_replicate]
  simp

/-- As many bits are set as there are dark cells. -/
theorem count_bits_flatMap_packRow (grid : Grid) :
    ((grid.flatMap packRow).flatMap bits).count true = grid.flatten.count true := by
  rw [List.flatMap_assoc, List.count_flatMap, List.count_flatten]
  congr 1
  apply List.map_congr_left
  intro cells _
  exact count_flatMap_bits_packRow cells

/-- A square grid with rows is packed, and it is known what every bit of the buffer is. Bit
`7 - k` of octet number `i` stands for column `8 * (i % s) + k` of row `i / s`, where `s` is
the number of octets of a row. -/
theorem pack_bit_iff {grid : Grid} (nonempty : grid ≠ []) (square : grid.IsSquare) :
    ∃ packed, pack grid = .ok packed ∧ packed.modules = grid.length ∧
      packed.stride = grid.length ⌈/⌉ 8 ∧
      packed.bytes.length = grid.length * packed.stride ∧
      (∀ i (hi : i < packed.bytes.length), ∀ k < 8,
        packed.bytes[i].toNat.testBit (7 - k) = true ↔
          8 * (i % packed.stride) + k < grid.length ∧
            grid.cell? (8 * (i % packed.stride) + k) (i / packed.stride) = some true) ∧
      packed.PaddingClear ∧
      (packed.bytes.flatMap bits).count true = grid.flatten.count true := by
  obtain ⟨packed, h, hmodules, hbytes⟩ := exists_pack_eq_ok nonempty square
  have hlength : packed.bytes.length = grid.length * packed.stride := by
    rw [packed.length_bytes, packedLength, hmodules, Packed.stride, hmodules]
  refine ⟨packed, h, hmodules, ?_, hlength, ?_, Packed.paddingClear_of_pack h, ?_⟩
  · rw [Packed.stride, hmodules, stride_eq_ceilDiv]
  · intro i hi k hk
    have hpositive : 0 < packed.stride := by
      rw [Packed.stride, hmodules]
      exact stride_pos (List.length_pos_iff.mpr nonempty)
    have hrow : i / packed.stride < packed.modules := by
      rw [hmodules]
      apply Nat.div_lt_of_lt_mul
      rwa [Nat.mul_comm, ← hlength]
    have hcolumn : 8 * (i % packed.stride) + k < 8 * packed.stride := by
      have := Nat.mod_lt i hpositive
      omega
    have hbit := Packed.get?_of_pack h hrow hcolumn
    rw [packed.get?_octet hi hk, Option.some_inj] at hbit
    rw [hbit]
    cases hcell : grid.cell? (8 * (i % packed.stride) + k) (i / packed.stride) with
    | none => simp
    | some cell =>
      have hwidth := Grid.lt_of_cell? square hcell
      simp [hwidth]
  · rw [hbytes]
    exact count_bits_flatMap_packRow grid

/-- Nine rows of nine cells, of which the ones from corner to corner are dark. -/
def diagonal : Grid :=
  (List.range 9).map fun y => (List.range 9).map fun x => x == y

/-- Each row takes two octets, and the last one ends with seven clear bits. -/
theorem pack_bit_iff_diagonal :
    diagonal ≠ [] ∧ diagonal.IsSquare ∧ ∃ packed, pack diagonal = .ok packed ∧
      packed.bytes.length = 18 ∧ (∃ h : 17 < packed.bytes.length,
        packed.bytes[17].toNat.testBit 7 = true ∧ packed.bytes[17].toNat.testBit 6 = false) ∧
      (packed.bytes.flatMap bits).count true = 9 := by
  have nonempty : diagonal ≠ [] := by decide
  have square : diagonal.IsSquare := by decide
  obtain ⟨packed, h, _, hstride, hlength, hbit, _, hcount⟩ := pack_bit_iff nonempty square
  have htwo : packed.stride = 2 := hstride.trans (by decide)
  have heighteen : packed.bytes.length = 18 := by
    rw [hlength, htwo]
    decide
  have hlast : 17 < packed.bytes.length := by omega
  refine ⟨nonempty, square, packed, h, heighteen, ⟨hlast, ?_, ?_⟩, ?_⟩
  · apply (hbit 17 hlast 0 (by decide)).mpr
    rw [htwo]
    decide
  · rw [Bool.eq_false_iff, ne_eq, hbit 17 hlast 1 (by decide), htwo]
    decide
  · rw [hcount]
    decide

end DeviceAssets
