import DeviceAssets.Chunks
import DeviceAssets.Qr.Error
import DeviceAssets.Qr.Segment

/-!
# From segments to data codewords

The segments are written one behind the other as bits: mode, character count and
characters. A terminator of up to four zero bits follows, then zero bits up to the
next whole codeword, then two padding codewords in turn.
-/

namespace DeviceAssets.Qr

/-- The `width` low bits of `value`, the highest first. -/
def bits (width value : Nat) : List Bool :=
  (List.range width).map fun i => value.testBit (width - 1 - i)

def ofBits (bits : List Bool) : Nat :=
  bits.foldl (fun value bit => 2 * value + bit.toNat) 0

def digitBits (digits : Bytes) : List Bool :=
  bits (3 * digits.length + 1)
    (digits.foldl (fun value digit => 10 * value + (digit.toNat - 0x30)) 0)

def alphanumericValue (octet : UInt8) : Nat :=
  if isDigit octet then octet.toNat - 0x30
  else if isLetter octet then octet.toNat - 0x41 + 10
  else match octet with
    | 0x20 => 36
    | 0x24 => 37
    | 0x25 => 38
    | 0x2A => 39
    | 0x2B => 40
    | 0x2D => 41
    | 0x2E => 42
    | 0x2F => 43
    | _ => 44

def alphanumericBits (characters : Bytes) : List Bool :=
  bits (5 * characters.length + 1)
    (characters.foldl (fun value octet => 45 * value + alphanumericValue octet) 0)

/-- The bits of a pair of octets: leads below 0xE0 and from there on fill one range. -/
def pairBits (pair : Bytes) : List Bool :=
  let code := Bytes.bigEndian pair
  let offset := if code < 0xE040 then code - 0x8140 else code - 0xC140
  bits 13 (offset / 256 * 0xC0 + offset % 256)

def Segment.dataBits (segment : Segment) : List Bool :=
  match segment.mode with
  | .numeric => (chunks 3 segment.octets).flatMap digitBits
  | .alphanumeric => (chunks 2 segment.octets).flatMap alphanumericBits
  | .octets => segment.octets.flatMap fun octet => bits 8 octet.toNat
  | .kanji => (chunks 2 segment.octets).flatMap pairBits

def Segment.bits (segment : Segment) (group : Version.Group) : List Bool :=
  Qr.bits 4 segment.mode.indicator ++
    Qr.bits (segment.mode.countWidth group) segment.characters ++ segment.dataBits

/-- The codewords that fill up what the data leave empty. -/
def padding (count : Nat) : List UInt8 :=
  (List.range count).map fun i => if i % 2 = 0 then 0xEC else 0x11

def dataCodewords (capacity : Nat) (data : List Bool) : List UInt8 :=
  let terminated := data ++ List.replicate (min 4 (8 * capacity - data.length)) false
  let aligned := terminated ++ List.replicate ((8 - terminated.length % 8) % 8) false
  let words := (chunks 8 aligned).map fun word => UInt8.ofNat (ofBits word)
  words ++ padding (capacity - words.length)

/-- The version that a text needs, and its segments there. The groups are tried in
turn, since the widths of the count fields decide where runs are joined. -/
def fit (level : Level) (content : Bytes) : Except Error (Version × List Segment) :=
  tryGroups [.small, .middle, .large]
where
  /-- The first group whose largest version holds the text. -/
  tryGroups : List Version.Group → Except Error (Version × List Segment)
    | [] => .error .dataTooLong
    | group :: rest =>
      let list := segments group content
      let total := totalWidth group list
      if total ≤ group.last.capacity level then
        match Version.smallest? level total with
        | some version => .ok (version, list)
        | none => tryGroups rest
      else tryGroups rest

def dataBits (version : Version) (list : List Segment) : List Bool :=
  list.flatMap (·.bits version.group)

end DeviceAssets.Qr
