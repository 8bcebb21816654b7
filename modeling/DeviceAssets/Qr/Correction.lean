import DeviceAssets.Chunks
import DeviceAssets.Qr.Version

/-!
# Correction codewords

Codewords are elements of the field with 256 elements, with the primitive
polynomial x⁸ + x⁴ + x³ + x² + 1. The data are cut into blocks, each block gets
the remainder of its division by a generator polynomial, and the codewords of all
blocks are interleaved.
-/

namespace DeviceAssets.Qr

namespace Field

/-- `a` times x. -/
def double (a : UInt8) : UInt8 :=
  if 0x80 ≤ a then (a <<< 1) ^^^ 0x1D else a <<< 1

def mul (a b : UInt8) : UInt8 :=
  (List.range 8).foldl
    (fun product i =>
      if b.toNat.testBit (7 - i) then double product ^^^ a else double product) 0

def powers (count : Nat) : List UInt8 :=
  (List.range count).map fun i => (List.range i).foldl (fun a _ => double a) 1

end Field

/-- The coefficients of the product of x - r over the first `degree` powers r of the
primitive element, from the highest on and without the leading one. -/
def generator (degree : Nat) : List UInt8 :=
  (Field.powers degree).foldl
    (fun poly root => List.zipWith (· ^^^ ·) (poly ++ [0]) ((1 :: poly).map (Field.mul root))) []

/-- The remainder of the data, shifted by the degree, on division by a generator. -/
def remainder (generator : List UInt8) (data : List UInt8) : List UInt8 :=
  data.foldl
    (fun rest word =>
      let factor := word ^^^ rest.headD 0
      List.zipWith (· ^^^ ·) (rest.tail ++ [0]) (generator.map (Field.mul factor)))
    (List.replicate generator.length 0)

/-- The data cut into `count` blocks; the last ones are longer by one where the
length is no multiple of the count. -/
def blocks (count : Nat) (data : List UInt8) : List (List UInt8) :=
  let short := data.length / count
  let long := data.length % count
  let front := data.take ((count - long) * short)
  let back := data.drop ((count - long) * short)
  chunks short front ++ chunks (short + 1) back

/-- The first entries of all lists, then the second ones, and so on. -/
def interleave (lists : List (List UInt8)) : List UInt8 :=
  (List.range ((lists.map List.length).foldl max 0)).flatMap fun i => lists.filterMap (·[i]?)

def codewords (version : Version) (level : Level) (data : List UInt8) : List UInt8 :=
  let parts := blocks (version.blockCount level) data
  let poly := generator (version.correctionLength level)
  interleave parts ++ interleave (parts.map (remainder poly))

end DeviceAssets.Qr
