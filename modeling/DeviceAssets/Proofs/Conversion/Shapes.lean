import DeviceAssets.Proofs.Bitmap.Reading
import DeviceAssets.Proofs.Bitmap.Thresholding
import DeviceAssets.Proofs.Conversion.Stages
import DeviceAssets.Proofs.Files.Writing

/-!
# What sources give to the packer

The modules of a symbol and the pixels of a bitmap of fixed size are square grids with rows.
Such a grid is packed, and what it is packed into has the length that a header of its size
calls for, so what the stages behind a source check always holds.
-/

namespace DeviceAssets

namespace Conversion

open Files (Path Tree)

/-! ### Sources -/

theorem symbolGrid_square {content : String} {level : Qr.Level} {grid : Grid}
    (h : symbolGrid content level = .ok grid) : grid ≠ [] ∧ grid.IsSquare := by
  obtain ⟨symbol, _, rfl⟩ := map_eq_ok_iff.mp h
  exact ⟨symbol.grid_ne_nil, symbol.square_grid⟩

theorem bitmapIn_of_size_error [ImageReader] {path : Path} {contents : Bytes} {e : ImageError}
    (h : ImageReader.size path contents = .error e) :
    bitmapIn path contents = .error (.image e) := by
  rw [bitmapIn, h]
  rfl

theorem bitmapIn_of_size_ne [ImageReader] {path : Path} {contents : Bytes} {declared : Nat × Nat}
    (h : ImageReader.size path contents = .ok declared)
    (hother : declared ≠ (bitmapSide, bitmapSide)) :
    bitmapIn path contents = .error (.dimensionMismatch (bitmapSide, bitmapSide) declared) := by
  rw [bitmapIn, h]
  exact if_neg hother

theorem bitmapIn_of_size [ImageReader] {path : Path} {contents : Bytes}
    (h : ImageReader.size path contents = .ok (bitmapSide, bitmapSide)) :
    bitmapIn path contents =
      ((ImageReader.decode path contents).mapError .image).map GrayImage.threshold := by
  rw [bitmapIn, h]
  cases ImageReader.decode path contents <;> rfl

/-- A grid comes from an image that declares the fixed size. -/
theorem bitmapIn_eq_ok_iff [ImageReader] {path : Path} {contents : Bytes} {grid : Grid} :
    bitmapIn path contents = .ok grid ↔
      ImageReader.size path contents = .ok (bitmapSide, bitmapSide) ∧
        ∃ image, ImageReader.decode path contents = .ok image ∧ image.threshold = grid := by
  cases hsize : ImageReader.size path contents with
  | error e => simp [bitmapIn_of_size_error hsize]
  | ok declared =>
    by_cases hfixed : declared = (bitmapSide, bitmapSide)
    · subst hfixed
      simp only [bitmapIn_of_size hsize, map_eq_ok_iff, mapError_eq_ok_iff, true_and]
    · simp [bitmapIn_of_size_ne hsize hfixed, hfixed]

/-- An image that declares the fixed size is decoded to as many pixels. -/
theorem bitmapAt_square [reader : ImageReader] (keeps : reader.KeepsSize) {path : Path}
    {files : Tree} {grid : Grid} (h : bitmapAt path files = .ok grid) :
    grid.length = bitmapSide ∧ grid.IsSquare := by
  obtain ⟨_, _, h⟩ := bind_eq_ok_iff.mp h
  obtain ⟨contents, _, h⟩ := bind_eq_ok_iff.mp h
  obtain ⟨hsize, image, himage, rfl⟩ := bitmapIn_eq_ok_iff.mp h
  obtain ⟨hwidth, hheight⟩ := Prod.mk.inj (keeps path contents _ image hsize himage)
  have hlength := image.length_threshold.trans hheight
  refine ⟨hlength, fun row hrow => ?_⟩
  rw [image.length_of_mem_threshold row hrow, hwidth, hlength]

/-- The modules of a symbol are packed, whatever the text. -/
theorem exists_pack_of_symbolGrid {content : String} {level : Qr.Level} {grid : Grid}
    (h : symbolGrid content level = .ok grid) :
    ∃ packed, pack grid = .ok packed ∧ 0 < packed.modules := by
  obtain ⟨nonempty, square⟩ := symbolGrid_square h
  obtain ⟨packed, hpack, hmodules, _⟩ := exists_pack_eq_ok nonempty square
  refine ⟨packed, hpack, ?_⟩
  rw [hmodules]
  exact List.length_pos_iff.mpr nonempty

/-- The pixels of a bitmap of fixed size are packed, whatever they are. -/
theorem exists_pack_of_bitmapAt [reader : ImageReader] (keeps : reader.KeepsSize) {path : Path}
    {files : Tree} {grid : Grid} (h : bitmapAt path files = .ok grid) :
    ∃ packed, pack grid = .ok packed ∧ packed.modules = bitmapSide := by
  obtain ⟨hlength, square⟩ := bitmapAt_square keeps h
  have nonempty : grid ≠ [] := by
    rintro rfl
    cases hlength
  obtain ⟨packed, hpack, hmodules, _⟩ := exists_pack_eq_ok nonempty square
  exact ⟨packed, hpack, hmodules.trans hlength⟩

/-! ### Outputs -/

/-- A packed grid with rows has the length that its header calls for. -/
theorem exists_headerFile_eq {packed : Packed} (positive : 0 < packed.modules)
    (layout : Header.Layout) (content : String) :
    ∃ file, headerFile layout packed.modules packed.bytes content = .ok file := by
  rw [headerFile, Header.render_eq_ok positive packed.length_bytes]
  exact ⟨_, rfl⟩

theorem length_bytes_of_bitmapSide {packed : Packed} (size : packed.modules = bitmapSide) :
    packed.bytes.length = bitmapLength := by
  rw [packed.length_bytes, size]
  rfl

/-- A packed bitmap of fixed size has the length that is asked for in advance. -/
theorem exists_bitmap32File_eq {packed : Packed} (size : packed.modules = bitmapSide)
    (content : String) : ∃ file, bitmap32File packed.bytes content = .ok file := by
  have positive : 0 < packed.modules := by
    rw [size]
    decide
  have hfile := exists_headerFile_eq positive Header.Layout.bitmap32 content
  rw [bitmap32File, if_pos (length_bytes_of_bitmapSide size)]
  rwa [size] at hfile

/-! ### Chains -/

/-- A symbol is packed and rendered, whatever the text. -/
theorem exists_qrFile_of_symbolGrid {content : String} {level : Qr.Level} {grid : Grid}
    (h : symbolGrid content level = .ok grid) :
    ∃ made, qrFile content level = .ok made := by
  obtain ⟨packed, hpack, positive⟩ := exists_pack_of_symbolGrid h
  obtain ⟨file, hfile⟩ :=
    exists_headerFile_eq positive Header.Layout.qrModules content
  refine ⟨(packed, file), ?_⟩
  simp only [qrFile, h, hpack, hfile, bind, Except.bind]
  rfl

/-- The pixels of a bitmap are packed and rendered, whatever they are. -/
theorem exists_pngFile_of_bitmapAt [reader : ImageReader] (keeps : reader.KeepsSize)
    {source : Path} {files : Tree} {grid : Grid} (h : bitmapAt source files = .ok grid) :
    ∃ made, pngFile source files = .ok made := by
  obtain ⟨packed, hpack, size⟩ := exists_pack_of_bitmapAt keeps h
  obtain ⟨file, hfile⟩ := exists_bitmap32File_eq size (Error.shown source)
  refine ⟨(packed, file), ?_⟩
  simp only [pngFile, h, hpack, hfile, bind, Except.bind]
  rfl

end Conversion

end DeviceAssets
