import Mathlib.Data.Set.Defs
import DeviceAssets.Bitmap.Image

/-!
# What is expected of a reader of images

Of a reader of images two things are expected, whatever formats it knows: what it decodes has the
size that was declared, and the size depends only on what is looked at of a file to tell it. The
results on images say which of the two they rest on.
-/

namespace DeviceAssets

open Files (Path)

/-- What is looked at of a file: octets at some places, and perhaps the extension of its name. -/
structure Looked where
  places : Set Nat
  extension : Prop

/-- A file `later` under the name `other` agrees with a file on what is looked at of that one. -/
structure Looked.Agrees (looked : Looked) (path : Path) (contents : Bytes) (other : Path)
    (later : Bytes) : Prop where
  octets : ∀ place ∈ looked.places, later[place]? = contents[place]?
  name : looked.extension → other.extension? = path.extension?

namespace ImageReader

/-- What is decoded has the size that was declared. -/
def KeepsSize (reader : ImageReader) : Prop :=
  ∀ path contents declared image, reader.size path contents = .ok declared →
    reader.decode path contents = .ok image → (image.width, image.height) = declared

/-- The size depends only on the head of a file: one that agrees with it on the head declares the
same size. -/
def SizeInHead (reader : ImageReader) (head : Path → Bytes → Looked) : Prop :=
  ∀ path contents declared, reader.size path contents = .ok declared →
    ∀ other later, (head path contents).Agrees path contents other later →
      reader.size other later = .ok declared

end ImageReader

end DeviceAssets
