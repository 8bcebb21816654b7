import DeviceAssets.Png.Reader
import DeviceAssets.Proofs.Bitmap.Reading
import DeviceAssets.Proofs.Png.Head

/-!
# The reader of PNG files

The reader of PNG files does what is expected of a reader of images. Its pixels fill a canvas of
the size that the head declares; and the head is in the octets up to the type of the first chunk
with pixel data, under any name, since the signature in front of it tells the format.
-/

namespace DeviceAssets.Png

open Files (Path)

/-- A head can be read from a file under any name. -/
theorem openFile_eq_ok_iff {path : Path} {contents : Bytes} {opening : Opening} :
    openFile path contents = .ok opening ↔ readHead contents = .ok opening := by
  rw [openFile]
  constructor
  · intro h
    split at h
    · exact mapError_eq_ok_iff.mp h
    · cases h
  · intro h
    obtain ⟨front, hcontents, hsignature, _⟩ := exists_front_of_readHead h
    have hprefix : signature <+: contents := by
      rw [hcontents, List.append_assoc]
      exact hsignature.trans (List.prefix_append _ _)
    have hrecognized : recognizes path contents = true := by
      rw [recognizes, List.isPrefixOf_iff_prefix.mpr hprefix, Bool.true_or]
    rw [if_pos hrecognized]
    exact mapError_eq_ok_iff.mpr h

theorem size_eq_ok_iff {path : Path} {contents : Bytes} {declared : Nat × Nat} :
    imageReader.size path contents = .ok declared ↔
      ∃ opening, readHead contents = .ok opening ∧ opening.size = declared := by
  refine map_eq_ok_iff.trans ?_
  simp only [openFile_eq_ok_iff]

/-- A decoded image has the size that its file tells before its pixels. -/
theorem size_of_readImage {opening : Opening} {image : GrayImage}
    (h : readImage opening = .ok image) : (image.width, image.height) = opening.size := by
  rw [readImage] at h
  obtain ⟨source, _, h⟩ := bind_eq_ok_iff.mp h
  obtain ⟨_, _, h⟩ := bind_eq_ok_iff.mp h
  obtain ⟨canvas, _, h⟩ := bind_eq_ok_iff.mp h
  cases h
  rfl

theorem imageReader_keepsSize : imageReader.KeepsSize := by
  intro path contents declared image hsize hdecode
  obtain ⟨opening, hhead, rfl⟩ := size_eq_ok_iff.mp hsize
  obtain ⟨found, hfound, hpixels⟩ := bind_eq_ok_iff.mp hdecode
  rw [openFile_eq_ok_iff, hhead, Except.ok.injEq] at hfound
  subst hfound
  exact size_of_readImage (mapError_eq_ok_iff.mp hpixels)

/-- The octets up to the type of the first chunk with pixel data, and all where there is none. -/
def headLength (contents : Bytes) : Nat :=
  match readHead contents with
  | .ok opening => contents.length - opening.rest.length
  | .error _ => contents.length

/-- What is looked at of a file for its size. -/
def head (_ : Path) (contents : Bytes) : Looked :=
  ⟨{place | place < headLength contents}, False⟩

theorem headLength_le (contents : Bytes) : headLength contents ≤ contents.length := by
  unfold headLength
  split <;> omega

/-- What is behind the end of a file is not looked at. -/
theorem agrees_append (path : Path) (contents : Bytes) (other : Path) (more : Bytes) :
    (head path contents).Agrees path contents other (contents ++ more) where
  octets _ looked :=
    List.getElem?_append_left (Nat.lt_of_lt_of_le looked (headLength_le contents))
  name := nofun

/-- A file that agrees with the head of another begins with the same octets. -/
theorem isPrefix_of_agrees {path other : Path} {front rest later : Bytes} {opening : Opening}
    (hhead : readHead (front ++ rest) = .ok opening) (hrest : opening.rest = rest)
    (h : (head path (front ++ rest)).Agrees path (front ++ rest) other later) :
    front <+: later := by
  have hlength : headLength (front ++ rest) = front.length := by
    simp only [headLength, hhead, hrest, List.length_append]
    omega
  refine List.prefix_iff_getElem?.mpr fun place hplace => ?_
  have hlooked : place < headLength (front ++ rest) := by rwa [hlength]
  rw [h.octets place hlooked, List.getElem?_append_left hplace, List.getElem?_eq_getElem hplace]

theorem imageReader_sizeInHead : imageReader.SizeInHead head := by
  intro path contents declared hsize other later hagrees
  obtain ⟨opening, hhead, rfl⟩ := size_eq_ok_iff.mp hsize
  obtain ⟨front, rfl, _, hagain⟩ := exists_front_of_readHead hhead
  obtain ⟨behind, rfl⟩ := isPrefix_of_agrees hhead rfl hagrees
  exact size_eq_ok_iff.mpr ⟨{ opening with rest := behind }, hagain behind, rfl⟩

end DeviceAssets.Png
