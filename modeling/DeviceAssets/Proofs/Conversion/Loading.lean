import DeviceAssets.Proofs.Conversion.Failures
import DeviceAssets.Proofs.Png.Reader

/-!
# Sizes before pixels

The size that an image file declares is looked at before its pixels. So an image of another size
is reported as such whatever is wrong with its pixels, and any two files that agree on what tells
the size are reported alike.
-/

namespace DeviceAssets.Conversion

open Files (Path Tree)

/-! ### What is loaded -/

def loaded [ImageReader] (path : Path) (session : Session) : Except Error Grid :=
  ((loadBitmap32 path).run session).1

variable {path : Path} {session : Session}

theorem loaded_eq [ImageReader] (path : Path) (session : Session) :
    loaded path session = bitmapAt path session.files := by
  obtain ⟨lines, hrun⟩ := loadBitmap32_reads path session
  rw [loaded, hrun]

theorem loaded_of_contains [ImageReader] (h : session.files.contains path = true) :
    loaded path session =
      ((session.files.read path).mapError .io >>= fun contents => bitmapIn path contents) := by
  rw [loaded_eq, bitmapAt, inputAt, if_pos h]
  rfl

/-- What can be read exists. -/
theorem contains_of_read {files : Tree} {contents : Bytes} (h : files.read path = .ok contents) :
    files.contains path = true := by
  obtain ⟨node, hnode, _⟩ := bind_eq_ok_iff.mp h
  rw [Tree.contains, hnode]
  rfl

theorem loaded_of_read [ImageReader] {contents : Bytes}
    (h : session.files.read path = .ok contents) :
    loaded path session = bitmapIn path contents := by
  rw [loaded_of_contains (contains_of_read h), h]
  rfl

/-! ### Failures -/

/-- Nothing is reported as missing but what is. -/
theorem loaded_eq_notFound_iff [ImageReader] {other : Path} :
    loaded path session = .error (.notFound other) ↔
      session.files.contains path = false ∧ other = path := by
  cases hthere : session.files.contains path with
  | true =>
    rw [loaded_of_contains hthere]
    have hfails : FailsIn [.io, .image, .dimensionMismatch]
        ((session.files.read path).mapError .io >>= bitmapIn path) :=
      .bind (.mapError (fun _ => by simp) _) fun contents _ =>
        (bitmapIn_failsIn path contents).mono (by decide)
    refine iff_of_false (fun h => ?_) (by simp)
    exact absurd (hfails _ h) (by simp)
  | false =>
    have hmissing : loaded path session = .error (.notFound path) := by
      rw [loaded_eq, bitmapAt, inputAt, if_neg (by simp [hthere])]
      rfl
    simp [hmissing, eq_comm]

/-! ### The order of failures -/

/-- A path without anything is reported first, what keeps a file or its size from being read next,
and then a size other than 32 times 32: this is reported of every file that agrees with the file
on its head. Only pixels of an image that declares this size are decoded, to 32 rows of 32 cells
that tell which luminance is below the midpoint. -/
theorem size_is_checked_before_pixels [reader : ImageReader] (keeps : reader.KeepsSize)
    {head : Path → Bytes → Looked} (told : reader.SizeInHead head) (path : Path)
    (session : Session) :
    (∀ other, loaded path session = .error (.notFound other) ↔
      session.files.contains path = false ∧ other = path) ∧
    (session.files.contains path = true →
      match session.files.read path with
      | .error e => loaded path session = .error (.io e)
      | .ok contents =>
        match reader.size path contents with
        | .error e => loaded path session = .error (.image e)
        | .ok declared =>
          (declared ≠ (32, 32) →
            loaded path session = .error (.dimensionMismatch (32, 32) declared) ∧
            ∀ (other : Path) (later : Session) (replaced : Bytes),
              later.files.read other = .ok replaced →
              (head path contents).Agrees path contents other replaced →
              loaded other later = .error (.dimensionMismatch (32, 32) declared)) ∧
          (declared = (32, 32) →
            match reader.decode path contents with
            | .error e => loaded path session = .error (.image e)
            | .ok image =>
              image.width = 32 ∧ image.height = 32 ∧
              ∃ grid, loaded path session = .ok grid ∧ grid.length = 32 ∧
                (∀ row ∈ grid, row.length = 32) ∧
                ∀ y < 32, ∀ x < 32, ∃ luma, image.pixels[y * 32 + x]? = some luma ∧
                  grid.cell? x y = some (decide (luma.toNat < 128)))) := by
  refine ⟨fun _ => loaded_eq_notFound_iff, fun hthere => ?_⟩
  split
  · rename_i e hread
    rw [loaded_of_contains hthere, hread]
    rfl
  · rename_i contents hread
    rw [loaded_of_read hread]
    split
    · rename_i e hsize
      exact bitmapIn_of_size_error hsize
    · rename_i declared hsize
      constructor
      · intro hother
        refine ⟨bitmapIn_of_size_ne hsize hother, fun other later replaced hlater hagrees => ?_⟩
        rw [loaded_of_read hlater]
        exact bitmapIn_of_size_ne (told path contents declared hsize other replaced hagrees) hother
      · rintro rfl
        rw [bitmapIn_of_size hsize]
        split
        · rename_i e hdecode
          rw [hdecode]
          rfl
        · rename_i image hdecode
          obtain ⟨hwidth, hheight⟩ : image.width = 32 ∧ image.height = 32 :=
            Prod.mk.inj (keeps path contents _ image hsize hdecode)
          rw [hdecode]
          refine ⟨hwidth, hheight, image.threshold, rfl, ?_, ?_, ?_⟩
          · rw [image.length_threshold, hheight]
          · intro row hrow
            rw [image.length_of_mem_threshold row hrow, hwidth]
          · intro y hy x hx
            have hcell := image.cell?_threshold (x := x) (y := y) (by omega) (by omega)
            rwa [hwidth] at hcell

/-- The beginning of an image of 32 rows of `width` black and white pixels, up to the type of
the chunk with its pixels; `sum` is the checksum of the header, and the pixels take 16
octets. -/
def monochromeFront (width : UInt8) (sum : Bytes) : Bytes :=
  Png.signature ++ [0, 0, 0, 13] ++ Png.headerType ++
    [0, 0, 0, width, 0, 0, 0, 32, 1, 0, 0, 0, 0] ++ sum ++ [0, 0, 0, 16] ++ Png.DataKind.plain.type

def wideFront : Bytes := monochromeFront 33 [0xB4, 0xC3, 0x2C, 0x67]

/-- An image with black pixels on the left and white ones on the right. -/
def halves : Bytes :=
  monochromeFront 32 [0x5B, 0x01, 0x47, 0x59] ++
    [0x78, 0xDA, 0x63, 0x60, 0x60, 0xF8, 0xFF, 0x9F, 0x61, 0xF0, 0x12, 0x00, 0xAD, 0xFD, 0x3F, 0xC1,
     0x90, 0xA2, 0x6F, 0xF0, 0x00, 0x00, 0x00, 0x00, 0x49, 0x45, 0x4E, 0x44, 0xAE, 0x42, 0x60, 0x82]

def sessionWith (contents : Bytes) : Session :=
  ⟨⟨[([['b'.toUInt8]], .file contents)]⟩, []⟩

/-- Nothing at the path, a file of no format, a wide image that ends in front of its pixels
or goes on with something else, and an image of the fixed size. -/
theorem size_is_checked_before_pixels_halves :
    loaded ['b'.toUInt8] ⟨Tree.empty, []⟩ = .error (.notFound ['b'.toUInt8]) ∧
    loaded ['b'.toUInt8] (sessionWith []) = .error (.image .unknownFormat) ∧
    loaded ['b'.toUInt8] (sessionWith wideFront) =
      .error (.dimensionMismatch (32, 32) (33, 32)) ∧
    loaded ['b'.toUInt8] (sessionWith (wideFront ++ [0])) =
      .error (.dimensionMismatch (32, 32) (33, 32)) ∧
    ∃ grid, loaded ['b'.toUInt8] (sessionWith halves) = .ok grid ∧ grid.length = 32 ∧
      ∃ luma : UInt8, grid.cell? 16 31 = some (decide (luma.toNat < 128)) := by
  have keeps := Png.imageReader_keepsSize
  have told := Png.imageReader_sizeInHead
  refine ⟨?_, ?_, ?_⟩
  · obtain ⟨hmissing, _⟩ :=
      size_is_checked_before_pixels keeps told ['b'.toUInt8] ⟨Tree.empty, []⟩
    exact (hmissing _).mpr ⟨rfl, rfl⟩
  · exact (size_is_checked_before_pixels keeps told ['b'.toUInt8] (sessionWith [])).2 rfl
  rw [← and_assoc]
  constructor
  · have hread : (sessionWith wideFront).files.read ['b'.toUInt8] = .ok wideFront := rfl
    have hwide : Png.imageReader.size ['b'.toUInt8] wideFront = .ok (33, 32) := by
      rw [← toOption_eq_some_iff]
      decide +kernel
    obtain ⟨_, hload⟩ :=
      size_is_checked_before_pixels keeps told ['b'.toUInt8] (sessionWith wideFront)
    simp only [hread, hwide] at hload
    obtain ⟨hrefused, hagain⟩ := (hload rfl).1 (by decide)
    exact ⟨hrefused, hagain _ _ _ rfl (Png.agrees_append _ _ _ [0])⟩
  · have hread : (sessionWith halves).files.read ['b'.toUInt8] = .ok halves := rfl
    have hfixed : Png.imageReader.size ['b'.toUInt8] halves = .ok (32, 32) := by
      rw [← toOption_eq_some_iff]
      decide +kernel
    have hdecoded : (Png.imageReader.decode ['b'.toUInt8] halves).toOption.isSome = true := by
      decide +kernel
    obtain ⟨image, himage⟩ := Option.isSome_iff_exists.mp hdecoded
    rw [toOption_eq_some_iff] at himage
    obtain ⟨_, hload⟩ :=
      size_is_checked_before_pixels keeps told ['b'.toUInt8] (sessionWith halves)
    simp only [hread, hfixed, himage] at hload
    obtain ⟨_, _, grid, hgrid, hrows, _, hcells⟩ := (hload rfl).2 trivial
    obtain ⟨luma, _, hcell⟩ := hcells 31 (by decide) 16 (by decide)
    exact ⟨grid, hgrid, hrows, luma, hcell⟩

end DeviceAssets.Conversion
