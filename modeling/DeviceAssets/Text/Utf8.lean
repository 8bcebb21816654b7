import DeviceAssets.Bytes

/-!
# Reading octets as UTF-8

Any octet string is cut into *pieces*: characters, and stretches that spell
none. A stretch is as long as it can be while it still begins some character,
so it is the least that has to be replaced or reported. Decoding stops at the
first stretch; lenient decoding puts U+FFFD in its place.
-/

namespace DeviceAssets.Utf8

/-- One piece of an octet string read as UTF-8. -/
inductive Piece where
  /-- A character, spelt with `width` octets. -/
  | char (c : Char) (width : Nat)
  /-- Octets that no continuation can make a character. -/
  | malformed (width : Nat)
  /-- The input ends inside a character. -/
  | truncated (width : Nat)
  deriving DecidableEq, Repr

def Piece.width : Piece → Nat
  | .char _ width => width
  | .malformed width => width
  | .truncated width => width

/-- An octet that can only stand behind the first one of a character. -/
def isContinuation (octet : UInt8) : Bool :=
  0x80 ≤ octet && octet ≤ 0xBF

/-- The octets that may follow `lead` in a character of three or four octets:
overlong spellings, surrogates and values above U+10FFFF are ruled out here. -/
def mayFollow (lead octet : UInt8) : Bool :=
  if lead = 0xE0 then 0xA0 ≤ octet && octet ≤ 0xBF
  else if lead = 0xED then 0x80 ≤ octet && octet ≤ 0x9F
  else if lead = 0xF0 then 0x90 ≤ octet && octet ≤ 0xBF
  else if lead = 0xF4 then 0x80 ≤ octet && octet ≤ 0x8F
  else isContinuation octet

/-- The character whose spelling carries these payload bits. -/
def scalar (lead : Nat) (tail : List UInt8) : Char :=
  Char.ofNat (tail.foldl (fun value octet => value * 64 + octet.toNat % 64) lead)

def front (lead : UInt8) (rest : Bytes) : Piece :=
  if lead < 0x80 then .char (scalar lead.toNat []) 1
  else if lead < 0xC2 then .malformed 1
  else if lead < 0xE0 then
    match rest with
    | [] => .truncated 1
    | b :: _ =>
      if isContinuation b then .char (scalar (lead.toNat % 32) [b]) 2 else .malformed 1
  else if lead < 0xF0 then
    match rest with
    | [] => .truncated 1
    | b :: rest =>
      if mayFollow lead b then
        match rest with
        | [] => .truncated 2
        | c :: _ =>
          if isContinuation c then .char (scalar (lead.toNat % 16) [b, c]) 3 else .malformed 2
      else .malformed 1
  else if lead < 0xF5 then
    match rest with
    | [] => .truncated 1
    | b :: rest =>
      if mayFollow lead b then
        match rest with
        | [] => .truncated 2
        | c :: rest =>
          if isContinuation c then
            match rest with
            | [] => .truncated 3
            | d :: _ =>
              if isContinuation d then .char (scalar (lead.toNat % 8) [b, c, d]) 4
              else .malformed 3
          else .malformed 2
      else .malformed 1
  else .malformed 1

def pieces : Bytes → List Piece
  | [] => []
  | lead :: rest =>
    let piece := front lead rest
    piece :: pieces (rest.drop (piece.width - 1))
termination_by bytes => bytes.length
decreasing_by simp only [List.length_drop, List.length_cons]; omega

/-- Why an octet string is not UTF-8: the octets before the fault, and how many
the faulty stretch has, or nothing when the input ends inside a character. -/
structure Fault where
  validUpTo : Nat
  width? : Option Nat
  deriving DecidableEq, Repr

def Fault.message (fault : Fault) : String :=
  match fault.width? with
  | some width =>
    s!"invalid utf-8 sequence of {width} bytes from index {fault.validUpTo}"
  | none => s!"incomplete utf-8 byte sequence from index {fault.validUpTo}"

def charsFrom (start : Nat) : List Piece → Except Fault (List Char)
  | [] => .ok []
  | .char c width :: rest => (charsFrom (start + width) rest).map (c :: ·)
  | .malformed width :: _ => .error ⟨start, some width⟩
  | .truncated _ :: _ => .error ⟨start, none⟩

/-- The text that `bytes` spell, or the first fault. -/
def decode (bytes : Bytes) : Except Fault (List Char) :=
  charsFrom 0 (pieces bytes)

def decode? (bytes : Bytes) : Option (List Char) :=
  (decode bytes).toOption

/-- The character that a piece shows when faults are tolerated. -/
def Piece.shown : Piece → Char
  | .char c _ => c
  | .malformed _ => '\uFFFD'
  | .truncated _ => '\uFFFD'

/-- The text that `bytes` spell, with U+FFFD for every faulty stretch. -/
def decodeLenient (bytes : Bytes) : List Char :=
  (pieces bytes).map Piece.shown

end DeviceAssets.Utf8
