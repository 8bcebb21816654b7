import DeviceAssets.Bitmap.Threshold
import DeviceAssets.Proofs.Bitmap.Refusal

/-!
# Packing gray images

An image is cut at the midpoint pixel by pixel, so the cell in column `x` of row `y` is dark
exactly where pixel number `y * width + x` is. A square image is packed, and its negative is
packed into the buffer in which the bits of cells, and of these all, are exchanged.
-/

namespace DeviceAssets

/-! ### Dark and light exchanged -/

namespace Grid

def inverted (grid : Grid) : Grid :=
  grid.map fun row => row.map (!·)

theorem length_inverted (grid : Grid) : grid.inverted.length = grid.length :=
  List.length_map _

theorem square_inverted {grid : Grid} (square : grid.IsSquare) : grid.inverted.IsSquare := by
  intro row hrow
  obtain ⟨cells, hcells, rfl⟩ := List.mem_map.mp hrow
  rw [List.length_map, length_inverted, square cells hcells]

theorem cell?_inverted (grid : Grid) (x y : Nat) :
    grid.inverted.cell? x y = (grid.cell? x y).map (!·) := by
  rw [cell?, cell?, inverted, List.getElem?_map]
  cases grid[y]? with
  | none => rfl
  | some row => exact List.getElem?_map

end Grid

namespace Packed

variable {grid : Grid} {packed : Packed}

theorem exists_pack_inverted (h : pack grid = .ok packed) :
    ∃ flipped, pack grid.inverted = .ok flipped ∧ flipped.modules = packed.modules := by
  obtain ⟨nonempty, square, hmodules, _⟩ := pack_eq_ok_iff.mp h
  have hrows : grid.inverted ≠ [] := by
    rw [← List.length_pos_iff, Grid.length_inverted]
    exact List.length_pos_iff.mpr nonempty
  obtain ⟨flipped, hflipped, hsize, _⟩ := exists_pack_eq_ok hrows (Grid.square_inverted square)
  refine ⟨flipped, hflipped, ?_⟩
  rw [hsize, Grid.length_inverted, hmodules]

/-- Where dark and light are exchanged the bits of all cells are, and padding stays clear. -/
theorem get?_of_pack_inverted (h : pack grid = .ok packed) {flipped : Packed}
    (hflipped : pack grid.inverted = .ok flipped) {x y : Nat} (hy : y < packed.modules)
    (hx : x < 8 * packed.stride) :
    flipped.get? x y = if x < packed.modules then (packed.get? x y).map (!·) else some false := by
  obtain ⟨_, square, hmodules, _⟩ := pack_eq_ok_iff.mp h
  have hsize : flipped.modules = packed.modules := by
    rw [(pack_eq_ok_iff.mp hflipped).2.2.1, Grid.length_inverted, hmodules]
  have hstride : flipped.stride = packed.stride := congrArg DeviceAssets.stride hsize
  have hbit := get?_of_pack h hy hx
  rw [← hsize] at hy
  rw [← hstride] at hx
  split
  · rename_i hcolumn
    rw [hsize, hmodules] at hy
    rw [hmodules] at hcolumn
    obtain ⟨cell, hcell⟩ := Grid.exists_cell? square hcolumn hy
    rw [get?_of_pack hflipped (by rwa [hsize, hmodules]) hx, hbit, Grid.cell?_inverted, hcell]
    rfl
  · rename_i hcolumn
    exact paddingClear_of_pack hflipped y hy x (by omega) hx

end Packed

theorem isBlack_eq (luma : UInt8) : isBlack luma = decide (luma.toNat < 128) := by
  simp [isBlack, blackThreshold, UInt8.lt_iff_toNat_lt]

/-- The midpoint lies between a luminance and its opposite. -/
theorem isBlack_opposite (luma : UInt8) : isBlack (255 - luma) = !isBlack luma := by
  have hbound : luma.toNat < 256 := luma.toNat_lt
  have hopposite : (255 - luma).toNat = 255 - luma.toNat :=
    UInt8.toNat_sub_of_le 255 luma (UInt8.le_iff_toNat_le.mpr (Nat.le_of_lt_succ hbound))
  rw [isBlack_eq, isBlack_eq, hopposite, Bool.eq_iff_iff]
  simp only [decide_eq_true_eq, Bool.not_eq_true', decide_eq_false_iff_not]
  omega

/-! ### Images -/

namespace GrayImage

theorem rows_eq (image : GrayImage) (count : Nat) (pixels : List UInt8) :
    threshold.rows image count pixels =
      (List.range count).map fun y =>
        ((pixels.drop (y * image.width)).take image.width).map isBlack := by
  induction count generalizing pixels with
  | zero => rfl
  | succ count ih =>
    rw [threshold.rows, ih, List.range_succ_eq_map, List.map_cons, List.map_map, Nat.zero_mul,
      List.drop_zero]
    congr 1
    apply List.map_congr_left
    intro y _
    rw [Function.comp_apply, List.drop_drop, Nat.succ_mul, Nat.add_comm image.width]

/-- Row number `y` is made of the pixels behind those of `y` rows. -/
theorem threshold_eq (image : GrayImage) :
    image.threshold = (List.range image.height).map fun y =>
      ((image.pixels.drop (y * image.width)).take image.width).map isBlack :=
  image.rows_eq image.height image.pixels

theorem length_threshold (image : GrayImage) :
    image.threshold.length = image.height := by
  rw [threshold_eq, List.length_map, List.length_range]

theorem length_of_mem_threshold (image : GrayImage) :
    ∀ row ∈ image.threshold, row.length = image.width := by
  intro row hrow
  rw [threshold_eq, List.mem_map] at hrow
  obtain ⟨y, hy, rfl⟩ := hrow
  have hwhole : (y + 1) * image.width ≤ image.pixels.length := by
    rw [image.length_pixels, Nat.mul_comm image.width]
    exact Nat.mul_le_mul_right _ (List.mem_range.mp hy)
  rw [Nat.succ_mul] at hwhole
  rw [List.length_map, List.length_take, List.length_drop]
  omega

/-- A cell is dark exactly where its pixel is. -/
theorem cell?_threshold (image : GrayImage) {x y : Nat} (hx : x < image.width)
    (hy : y < image.height) :
    ∃ luma, image.pixels[y * image.width + x]? = some luma ∧
      image.threshold.cell? x y = some (decide (luma.toNat < 128)) := by
  have hplace : y * image.width + x < image.pixels.length := by
    rw [image.length_pixels, Nat.mul_comm image.width]
    exact place_lt hx hy
  refine ⟨_, List.getElem?_eq_getElem hplace, ?_⟩
  rw [Grid.cell?, threshold_eq, List.getElem?_map, List.getElem?_range hy, Option.map_some,
    Option.bind_some, List.getElem?_map, List.getElem?_take, if_pos hx, List.getElem?_drop,
    List.getElem?_eq_getElem hplace, Option.map_some, isBlack_eq]

def negative (image : GrayImage) : GrayImage where
  width := image.width
  height := image.height
  pixels := image.pixels.map (255 - ·)
  length_pixels := by rw [List.length_map, image.length_pixels]

theorem threshold_negative (image : GrayImage) :
    image.negative.threshold = image.threshold.inverted := by
  rw [threshold_eq, threshold_eq, Grid.inverted, List.map_map]
  apply List.map_congr_left
  intro y _
  simp only [negative, Function.comp_apply, ← List.map_drop, ← List.map_take, List.map_map]
  apply List.map_congr_left
  intro luma _
  exact isBlack_opposite luma

end GrayImage

/-! ### Shapes -/

/-- What any image is cut into, and what that is packed into. An image without rows is refused,
and one that is not square for its first row. Of a square one the bit for column `x` of row `y`
tells whether pixel number `y * width + x` is below the midpoint, and all padding is clear; with
every luminance replaced by its opposite, the bits of all cells are exchanged and no other. -/
theorem threshold_is_packed (image : GrayImage) :
    image.threshold.length = image.height ∧
    (∀ row ∈ image.threshold, row.length = image.width) ∧
    (∀ y < image.height, ∀ x < image.width, ∃ luma,
      image.pixels[y * image.width + x]? = some luma ∧
      image.threshold.cell? x y = some (decide (luma.toNat < 128))) ∧
    (image.height = 0 → pack image.threshold = .error .emptyGrid) ∧
    (0 < image.height → image.width ≠ image.height →
      pack image.threshold = .error (.notSquare 0 image.width image.height)) ∧
    (0 < image.height → image.width = image.height →
      ∃ packed flipped, pack image.threshold = .ok packed ∧
        pack image.negative.threshold = .ok flipped ∧
        packed.modules = image.width ∧ flipped.modules = image.width ∧
        (∀ y < image.width, ∀ x < image.width, ∃ luma,
          image.pixels[y * image.width + x]? = some luma ∧
          packed.get? x y = some (decide (luma.toNat < 128))) ∧
        packed.PaddingClear ∧
        ∀ y < image.width, ∀ x < 8 * packed.stride,
          flipped.get? x y =
            if x < image.width then (packed.get? x y).map (!·) else some false) := by
  have hlength := image.length_threshold
  have hwide := image.length_of_mem_threshold
  have hcell : ∀ y < image.height, ∀ x < image.width, ∃ luma,
      image.pixels[y * image.width + x]? = some luma ∧
      image.threshold.cell? x y = some (decide (luma.toNat < 128)) :=
    fun y hy x hx => image.cell?_threshold hx hy
  refine ⟨hlength, hwide, hcell, ?_, ?_, ?_⟩
  · intro hheight
    rw [List.eq_nil_of_length_eq_zero (hlength.trans hheight)]
    rfl
  · intro positive misfit
    have nonempty : image.threshold ≠ [] := by
      rwa [← List.length_pos_iff, hlength]
    rw [← hlength] at misfit
    rw [pack_rectangle nonempty hwide misfit, hlength]
  · intro positive sides
    have nonempty : image.threshold ≠ [] := by
      rwa [← List.length_pos_iff, hlength]
    have square : image.threshold.IsSquare := by
      intro row hrow
      rw [hwide row hrow, hlength, sides]
    obtain ⟨packed, hpack, hmodules, _⟩ := exists_pack_eq_ok nonempty square
    obtain ⟨flipped, hflipped, hsize⟩ := Packed.exists_pack_inverted hpack
    rw [hlength, ← sides] at hmodules
    refine ⟨packed, flipped, hpack, ?_, hmodules, hsize.trans hmodules, ?_,
      Packed.paddingClear_of_pack hpack, ?_⟩
    · rw [image.threshold_negative]
      exact hflipped
    · intro y hy x hx
      obtain ⟨luma, hluma, hdark⟩ := hcell y (by omega) x hx
      rw [← hmodules] at hy hx
      refine ⟨luma, hluma, ?_⟩
      rw [Packed.get?_of_pack hpack hy (Packed.lt_stride hx), hdark, Option.getD_some]
    · intro y hy x hx
      rw [← hmodules] at hy ⊢
      exact Packed.get?_of_pack_inverted hpack hflipped hy hx

def midtones : GrayImage := ⟨2, 2, [127, 128, 0, 255], rfl⟩

/-- The bits of the first row are exchanged and its padding stays clear; an image that is too
wide and one without rows are refused. -/
theorem threshold_is_packed_midtones :
    (∃ packed flipped, pack midtones.threshold = .ok packed ∧
      pack midtones.negative.threshold = .ok flipped ∧
      packed.get? 0 0 = some true ∧ packed.get? 1 0 = some false ∧
      flipped.get? 0 0 = some false ∧ flipped.get? 1 0 = some true ∧
      flipped.get? 7 0 = some false) ∧
    pack (GrayImage.threshold ⟨3, 1, [0, 0, 0], rfl⟩) = .error (.notSquare 0 3 1) ∧
    pack (GrayImage.threshold ⟨3, 0, [], rfl⟩) = .error .emptyGrid := by
  obtain ⟨_, _, _, _, _, hsquare⟩ := threshold_is_packed midtones
  obtain ⟨_, _, _, _, hwide, _⟩ := threshold_is_packed ⟨3, 1, [0, 0, 0], rfl⟩
  obtain ⟨_, _, _, hempty, _⟩ := threshold_is_packed ⟨3, 0, [], rfl⟩
  obtain ⟨packed, flipped, hpack, hflipped, hmodules, _, hbits, _, hexchanged⟩ :=
    hsquare (by decide) rfl
  have hstride : packed.stride = 1 := congrArg stride hmodules
  rw [hstride] at hexchanged
  have hdark : packed.get? 0 0 = some true := by
    obtain ⟨luma, hluma, hbit⟩ := hbits 0 (by decide) 0 (by decide)
    cases hluma
    exact hbit
  have hlight : packed.get? 1 0 = some false := by
    obtain ⟨luma, hluma, hbit⟩ := hbits 0 (by decide) 1 (by decide)
    cases hluma
    exact hbit
  refine ⟨⟨packed, flipped, hpack, hflipped, hdark, hlight, ?_, ?_, ?_⟩,
    hwide (by decide) (by decide), hempty rfl⟩
  · rw [hexchanged 0 (by decide) 0 (by decide), hdark]
    rfl
  · rw [hexchanged 0 (by decide) 1 (by decide), hlight]
    rfl
  · exact hexchanged 0 (by decide) 7 (by decide)

end DeviceAssets
