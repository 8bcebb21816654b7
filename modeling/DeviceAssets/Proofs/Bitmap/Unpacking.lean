import DeviceAssets.Proofs.Bitmap.Bits

/-!
# Unpacking and packing again

Unpacking a packed grid gives the grid. The other way round, a buffer of the right length may
hold anything, and its padding is lost when it is unpacked: packing again keeps every bit of a
cell and clears all others. So the buffers with clear padding are those that grids are packed
into, and they are kept as they are.
-/

namespace DeviceAssets

namespace Packed

theorem length_unpack (packed : Packed) : packed.unpack.length = packed.modules := by
  simp [unpack_eq]

/-- What is unpacked is square, whatever the buffer holds. -/
theorem square_unpack (packed : Packed) : packed.unpack.IsSquare := by
  intro row hrow
  rw [unpack_eq, List.mem_map] at hrow
  obtain ⟨y, _, rfl⟩ := hrow
  rw [length_unpack, List.length_map, List.length_range]

theorem unpack_ne_nil {packed : Packed} (positive : 0 < packed.modules) :
    packed.unpack ≠ [] := by
  rw [← List.length_pos_iff, length_unpack]
  exact positive

/-- The cells that are unpacked are the bits of the columns of cells. -/
theorem cell?_unpack {packed : Packed} {x y : Nat} (hx : x < packed.modules)
    (hy : y < packed.modules) : packed.unpack.cell? x y = packed.get? x y := by
  obtain ⟨bit, hbit⟩ := packed.exists_get?_eq (lt_stride hx) hy
  rw [Grid.cell?, unpack_eq, List.getElem?_map, List.getElem?_range hy, Option.map_some,
    Option.bind_some, List.getElem?_map, List.getElem?_range hx, Option.map_some, hbit,
    Option.getD_some]

/-- Unpacking undoes packing. -/
theorem unpack_of_pack {grid : Grid} {packed : Packed} (h : pack grid = .ok packed) :
    packed.unpack = grid := by
  obtain ⟨_, square, hmodules, _⟩ := pack_eq_ok_iff.mp h
  apply List.ext_getElem
  · rw [length_unpack, hmodules]
  · intro y hy hrow
    have hwidth : grid[y].length = grid.length := square _ (List.getElem_mem hrow)
    have hlength : packed.unpack[y].length = packed.modules := by
      rw [← length_unpack]
      exact packed.square_unpack _ (List.getElem_mem hy)
    rw [length_unpack] at hy
    apply List.ext_getElem
    · rw [hlength, hwidth, hmodules]
    · intro x hx hcolumn
      rw [hlength] at hx
      have hcell := cell?_unpack hx hy
      rw [get?_of_pack h hy (lt_stride hx), Grid.cell?, Grid.cell?,
        List.getElem?_eq_getElem hrow, List.getElem?_eq_getElem (by rwa [length_unpack]),
        Option.bind_some, Option.bind_some, List.getElem?_eq_getElem hcolumn,
        List.getElem?_eq_getElem (by rwa [hlength]), Option.getD_some] at hcell
      exact Option.some.inj hcell

/-- Packing what was unpacked keeps the bits of cells and clears all others. -/
theorem get?_of_pack_unpack {packed cleared : Packed} (h : pack packed.unpack = .ok cleared)
    {x y : Nat} (hy : y < packed.modules) (hx : x < 8 * packed.stride) :
    cleared.get? x y = if x < packed.modules then packed.get? x y else some false := by
  obtain ⟨_, square, hmodules, _⟩ := pack_eq_ok_iff.mp h
  rw [length_unpack] at hmodules
  have hstride : cleared.stride = packed.stride := congrArg DeviceAssets.stride hmodules
  by_cases hcolumn : x < packed.modules
  · obtain ⟨bit, hbit⟩ := packed.exists_get?_eq hx hy
    rw [if_pos hcolumn, get?_of_pack h (by rwa [hmodules]) (by rwa [hstride]),
      cell?_unpack hcolumn hy, hbit, Option.getD_some]
  · rw [if_neg hcolumn]
    exact paddingClear_of_pack h y (by rwa [hmodules]) x (by omega) (by rwa [hstride])

/-- Only a buffer with clear padding is packed into itself. -/
theorem eq_of_pack_unpack_iff {packed cleared : Packed} (h : pack packed.unpack = .ok cleared) :
    cleared = packed ↔ packed.PaddingClear := by
  constructor
  · rintro rfl
    exact paddingClear_of_pack h
  · intro clear
    have hmodules : cleared.modules = packed.modules := by
      rw [(pack_eq_ok_iff.mp h).2.2.1, length_unpack]
    symm
    apply ext_get? hmodules.symm
    intro y hy x hx
    rw [get?_of_pack_unpack h hy hx]
    split
    · rfl
    · exact clear y hy x (by omega) hx

end Packed

/-- Unpacking undoes packing. Packing undoes unpacking except for the padding: every bit of a
cell is kept and all padding is cleared, so a buffer is kept exactly where its padding is
clear, and doing it once more changes nothing. -/
theorem pack_unpack_inverse :
    (∀ grid : Grid, grid ≠ [] → grid.IsSquare →
      ∃ packed, pack grid = .ok packed ∧ packed.unpack = grid) ∧
    ∀ packed : Packed, 0 < packed.modules →
      packed.unpack.length = packed.modules ∧
      (∀ row ∈ packed.unpack, row.length = packed.modules) ∧
      ∃ cleared, pack packed.unpack = .ok cleared ∧
        cleared.modules = packed.modules ∧
        (∀ y < packed.modules, ∀ x < 8 * packed.stride,
          cleared.get? x y = if x < packed.modules then packed.get? x y else some false) ∧
        (cleared = packed ↔ packed.PaddingClear) ∧
        pack cleared.unpack = .ok cleared := by
  constructor
  · intro grid nonempty square
    obtain ⟨packed, h, _⟩ := exists_pack_eq_ok nonempty square
    exact ⟨packed, h, Packed.unpack_of_pack h⟩
  · intro packed positive
    have square := packed.square_unpack
    obtain ⟨cleared, h, hmodules, _⟩ :=
      exists_pack_eq_ok (Packed.unpack_ne_nil positive) square
    rw [packed.length_unpack] at hmodules
    refine ⟨packed.length_unpack, ?_, cleared, h, hmodules, ?_, ?_, ?_⟩
    · intro row hrow
      rw [square row hrow, packed.length_unpack]
    · intro y hy x hx
      exact Packed.get?_of_pack_unpack h hy hx
    · exact Packed.eq_of_pack_unpack_iff h
    · rw [Packed.unpack_of_pack h]
      exact h

def fullOctet : Packed := ⟨1, [0xFF], by decide⟩

/-- Of the octet all bits but the first one are cleared, so the buffer is not kept. -/
theorem pack_unpack_inverse_fullOctet :
    (∃ packed, pack [[true]] = .ok packed ∧ packed.unpack = [[true]]) ∧
      0 < fullOctet.modules ∧ ∃ cleared, pack fullOctet.unpack = .ok cleared ∧
        cleared.get? 0 0 = some true ∧ cleared.get? 7 0 = some false ∧ cleared ≠ fullOctet := by
  have positive : 0 < fullOctet.modules := by decide
  obtain ⟨hgrid, hbuffer⟩ := pack_unpack_inverse
  obtain ⟨_, _, cleared, h, _, hbits, hkept, _⟩ := hbuffer fullOctet positive
  refine ⟨hgrid [[true]] (by decide) (by decide), positive, cleared, h, ?_, ?_, ?_⟩
  · rw [hbits 0 (by decide) 0 (by decide)]
    decide
  · rw [hbits 0 (by decide) 7 (by decide)]
    decide
  · intro hsame
    have hclear := hkept.mp hsame 0 (by decide) 7 (by decide) (by decide)
    exact absurd hclear (by decide)

end DeviceAssets
