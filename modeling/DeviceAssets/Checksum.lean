import DeviceAssets.Bytes

/-!
# Checksums

The two checksums that the file formats carry. Both are left folds over the octets,
so a checksum can be continued where another part of the data begins.
-/

namespace DeviceAssets.Checksum

/-- One bit of a step of CRC-32, with the reflected polynomial. -/
def crcBit (state : UInt32) : UInt32 :=
  if state &&& 1 = 1 then (state >>> 1) ^^^ 0xEDB88320 else state >>> 1

def crcStep (state : UInt32) (octet : UInt8) : UInt32 :=
  (List.range 8).foldl (fun state _ => crcBit state) (state ^^^ octet.toUInt32)

def crc32 (bytes : Bytes) : UInt32 :=
  bytes.foldl crcStep 0xFFFFFFFF ^^^ 0xFFFFFFFF

/-- The modulus of Adler-32, the largest prime below 65536. -/
def adlerModulus : Nat := 65521

def adlerStep (sums : Nat × Nat) (octet : UInt8) : Nat × Nat :=
  let low := (sums.1 + octet.toNat) % adlerModulus
  (low, (sums.2 + low) % adlerModulus)

def adler32 (bytes : Bytes) : Nat :=
  let sums := bytes.foldl adlerStep (1, 0)
  sums.2 * 65536 + sums.1

end DeviceAssets.Checksum
