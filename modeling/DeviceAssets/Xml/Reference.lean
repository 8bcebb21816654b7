import DeviceAssets.Xml.Error

/-!
# References in text

A reference begins with an ampersand and ends with a semicolon: it names one of five
characters, or gives the number of any. All other characters stand for themselves.
-/

namespace DeviceAssets.Xml

/-- The number that digits show to a base. `value?` says what one digit stands for, and
`bad` which error a sign is that is no digit. -/
def number (base : Nat) (value? : UInt8 → Option Nat) (bad : UInt8 → Error)
    (digits : Bytes) : Except Error Nat :=
  digits.foldlM
    (fun number digit =>
      match value? digit with
      | some value => .ok (base * number + value)
      | none => .error (bad digit)) 0

def decimalValue? (digit : UInt8) : Option Nat :=
  if 0x30 ≤ digit && digit ≤ 0x39 then some (digit.toNat - 0x30) else none

def hexadecimalValue? (digit : UInt8) : Option Nat :=
  if 0x30 ≤ digit && digit ≤ 0x39 then some (digit.toNat - 0x30)
  else if 0x41 ≤ digit && digit ≤ 0x46 then some (digit.toNat - 0x41 + 10)
  else if 0x61 ≤ digit && digit ≤ 0x66 then some (digit.toNat - 0x61 + 10)
  else none

/-- The number that stands behind the number sign of a reference. -/
def referenceNumber (digits : List Char) : Except Error Nat :=
  match digits with
  | 'x' :: digits =>
    let octets := Bytes.ofChars digits
    if 6 < octets.length then .error .hexadecimalTooLong
    else number 16 hexadecimalValue? .badHexadecimal octets
  | digits =>
    let octets := Bytes.ofChars digits
    if 7 < octets.length then .error .decimalTooLong
    else number 10 decimalValue? .badDecimal octets

def namedCharacter? (name : List Char) : Option Char :=
  if name = ['l', 't'] then some '<'
  else if name = ['g', 't'] then some '>'
  else if name = ['a', 'm', 'p'] then some '&'
  else if name = ['a', 'p', 'o', 's'] then some '\x27'
  else if name = ['q', 'u', 'o', 't'] then some '"'
  else none

/-- The character that a reference stands for. `name` is what stands between the
ampersand at octet `start` and the semicolon at octet `stop`. -/
def character (start stop : Nat) (name : List Char) : Except Error Char :=
  match name with
  | '#' :: digits => do
    let code ← referenceNumber digits
    if code = 0 then .error (.nullCharacter start stop)
    else if code.isValidChar then .ok (Char.ofNat code)
    else .error (.invalidCodePoint code)
  | name =>
    match namedCharacter? name with
    | some c => .ok c
    | none => .error (.unknownReference (start + 1) stop name)

def inReference (c : Char) : Bool :=
  c != '&' && c != ';'

def octetCount (text : List Char) : Nat :=
  (text.map Char.utf8Size).foldr (· + ·) 0

/-- `text`, which begins at octet `start` of `total`, with references replaced. -/
def unescapeFrom (start total : Nat) (text : List Char) : Except Error (List Char) :=
  match text with
  | [] => .ok []
  | c :: rest =>
    if c = '&' then
      let name := rest.takeWhile inReference
      let stop := start + 1 + octetCount name
      match _ : rest.dropWhile inReference with
      | ';' :: back => do
        let replaced ← character start stop name
        return replaced :: (← unescapeFrom (stop + 1) total back)
      | _ => .error (.unterminatedReference start total)
    else do
      return c :: (← unescapeFrom (start + c.utf8Size) total rest)
termination_by text.length
decreasing_by
  · have := (List.dropWhile_sublist (l := rest) inReference).length_le
    rw [‹rest.dropWhile inReference = _›] at this
    simp only [List.length_cons] at this ⊢
    omega
  · exact Nat.lt_succ_self _

def unescape (text : List Char) : Except Error (List Char) :=
  unescapeFrom 0 (octetCount text) text

end DeviceAssets.Xml
