import DeviceAssets.Bytes
import DeviceAssets.Qr.Version

/-!
# Segments

A symbol holds its text in segments, each written in a mode of its own. The text
is first cut into the longest runs that one mode can hold; a pair of octets that
looks like a double-byte character of Shift JIS counts as one, whatever it was
meant to be. Neighbouring runs are then joined wherever that takes no more bits.
-/

namespace DeviceAssets.Qr

/-- How the octets of a segment are written. -/
inductive Mode where
  | numeric
  | alphanumeric
  | octets
  | kanji
  deriving DecidableEq, Repr

namespace Mode

/-- The four bits that announce the mode. -/
def indicator : Mode → Nat
  | numeric => 1
  | alphanumeric => 2
  | octets => 4
  | kanji => 8

/-- The narrowest mode that writes all that either mode writes. -/
def join : Mode → Mode → Mode
  | numeric, numeric => numeric
  | numeric, alphanumeric => alphanumeric
  | alphanumeric, numeric => alphanumeric
  | alphanumeric, alphanumeric => alphanumeric
  | kanji, kanji => kanji
  | _, _ => octets

def countWidth : Mode → Version.Group → Nat
  | numeric, .small => 10
  | numeric, .middle => 12
  | numeric, .large => 14
  | alphanumeric, .small => 9
  | alphanumeric, .middle => 11
  | alphanumeric, .large => 13
  | octets, .small => 8
  | octets, _ => 16
  | kanji, .small => 8
  | kanji, .middle => 10
  | kanji, .large => 12

end Mode

structure Segment where
  mode : Mode
  octets : Bytes
  deriving DecidableEq, Repr

namespace Segment

def characters (segment : Segment) : Nat :=
  match segment.mode with
  | .kanji => segment.octets.length / 2
  | _ => segment.octets.length

def dataWidth (segment : Segment) : Nat :=
  match segment.mode with
  | .numeric => (10 * segment.characters + 2) / 3
  | .alphanumeric => (11 * segment.characters + 1) / 2
  | .octets => 8 * segment.characters
  | .kanji => 13 * segment.characters

def width (segment : Segment) (group : Version.Group) : Nat :=
  4 + segment.mode.countWidth group + segment.dataWidth

def join (left right : Segment) : Segment :=
  ⟨left.mode.join right.mode, left.octets ++ right.octets⟩

end Segment

/-! ### Runs of one mode -/

def isDigit (octet : UInt8) : Bool :=
  0x30 ≤ octet && octet ≤ 0x39

def isLetter (octet : UInt8) : Bool :=
  0x41 ≤ octet && octet ≤ 0x5A

/-- A sign that alphanumeric mode writes: space, `$%*+-./` and the colon. -/
def isSign (octet : UInt8) : Bool :=
  octet = 0x20 || octet = 0x24 || octet = 0x25 || octet = 0x2A || octet = 0x2B ||
    (0x2D ≤ octet && octet ≤ 0x2F) || octet = 0x3A

/-- A letter or sign; digits make runs of their own. -/
def isAlphanumeric (octet : UInt8) : Bool :=
  isLetter octet || isSign octet

def isLead (octet : UInt8) : Bool :=
  (0x81 ≤ octet && octet ≤ 0x9F) || (0xE0 ≤ octet && octet ≤ 0xEB)

/-- The second octet of a pair. Behind the last lead, 0xEB, the range ends early. -/
def completes (lead octet : UInt8) : Bool :=
  (0x40 ≤ octet && octet ≤ 0x7E) || (0x80 ≤ octet && octet ≤ 0xBF) ||
    (lead != 0xEB && 0xC0 ≤ octet && octet ≤ 0xFC)

/-- An octet that no other mode takes. -/
def isOther (octet : UInt8) : Bool :=
  !isDigit octet && !isAlphanumeric octet && !isLead octet

/-- The complete pairs at the front, and what follows them. -/
def pairs : Bytes → Bytes × Bytes
  | lead :: next :: rest =>
    if isLead lead && completes lead next then
      let (run, back) := pairs rest
      (lead :: next :: run, back)
    else ([], lead :: next :: rest)
  | short => ([], short)

/-- The longest runs of one mode. A lead that begins no pair stands alone. -/
def runs : Bytes → List Segment
  | [] => []
  | first :: rest =>
    if isDigit first then
      ⟨.numeric, first :: rest.takeWhile isDigit⟩ :: runs (rest.dropWhile isDigit)
    else if isAlphanumeric first then
      ⟨.alphanumeric, first :: rest.takeWhile isAlphanumeric⟩ ::
        runs (rest.dropWhile isAlphanumeric)
    else if isLead first then
      let (run, back) := pairs (first :: rest)
      if back.length ≤ rest.length then ⟨.kanji, run⟩ :: runs back
      else ⟨.octets, [first]⟩ :: runs rest
    else ⟨.octets, first :: rest.takeWhile isOther⟩ :: runs (rest.dropWhile isOther)
termination_by bytes => bytes.length
decreasing_by
  · exact Nat.lt_succ_of_le (List.dropWhile_sublist _).length_le
  · exact Nat.lt_succ_of_le (List.dropWhile_sublist _).length_le
  · exact Nat.lt_succ_of_le ‹_›
  · exact Nat.lt_succ_self _
  · exact Nat.lt_succ_of_le (List.dropWhile_sublist _).length_le

/-- Joins segments from the left as long as the joined one takes no more bits. -/
def joinFrom (group : Version.Group) (current : Segment) : List Segment → List Segment
  | [] => [current]
  | next :: rest =>
    if (current.join next).width group ≤ current.width group + next.width group then
      joinFrom group (current.join next) rest
    else current :: joinFrom group next rest

def segments (group : Version.Group) (bytes : Bytes) : List Segment :=
  match runs bytes with
  | [] => []
  | first :: rest => joinFrom group first rest

def totalWidth (group : Version.Group) (list : List Segment) : Nat :=
  (list.map (·.width group)).foldr (· + ·) 0

end DeviceAssets.Qr
