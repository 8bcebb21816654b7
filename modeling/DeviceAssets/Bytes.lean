/-!
# Octet strings

File contents, paths and command-line arguments are strings of octets. This
module fixes their type, the UTF-8 spelling of text, and the two ways in which
the file formats write numbers.
-/

namespace DeviceAssets

/-- A string of octets: the contents of a file, a path, or an argument. -/
abbrev Bytes := List UInt8

namespace Bytes

/-- The octets that spell a list of characters in UTF-8. -/
def ofChars (text : List Char) : Bytes :=
  text.flatMap String.utf8EncodeChar

def ofString (text : String) : Bytes :=
  ofChars text.toList

def bigEndian (bytes : Bytes) : Nat :=
  bytes.foldl (fun value octet => value * 256 + octet.toNat) 0

def littleEndian (bytes : Bytes) : Nat :=
  bytes.foldr (fun octet value => octet.toNat + 256 * value) 0

def splitAt? (count : Nat) (bytes : Bytes) : Option (Bytes × Bytes) :=
  if count ≤ bytes.length then some (bytes.take count, bytes.drop count) else none

/-- The first `count` octets and those behind them, or `shortage` where there are fewer. -/
def splitOr {ε : Type} (count : Nat) (bytes : Bytes) (shortage : ε) :
    Except ε (Bytes × Bytes) :=
  match splitAt? count bytes with
  | some cut => .ok cut
  | none => .error shortage

@[simp] theorem ofChars_nil : ofChars [] = [] := rfl

@[simp] theorem ofChars_cons (c : Char) (text : List Char) :
    ofChars (c :: text) = String.utf8EncodeChar c ++ ofChars text := rfl

theorem splitAt?_eq_some_iff {count : Nat} {bytes front back : Bytes} :
    splitAt? count bytes = some (front, back) ↔
      bytes = front ++ back ∧ front.length = count := by
  constructor
  · intro h
    unfold splitAt? at h
    split at h
    · simp only [Option.some.injEq, Prod.mk.injEq] at h
      obtain ⟨rfl, rfl⟩ := h
      refine ⟨(List.take_append_drop count bytes).symm, ?_⟩
      rw [List.length_take]
      omega
    · exact nomatch h
  · rintro ⟨rfl, rfl⟩
    simp [splitAt?]

theorem splitOr_eq_ok_iff {ε : Type} {count : Nat} {bytes front back : Bytes} {shortage : ε} :
    splitOr count bytes shortage = .ok (front, back) ↔
      bytes = front ++ back ∧ front.length = count := by
  rw [← splitAt?_eq_some_iff, splitOr]
  cases splitAt? count bytes <;> simp

end Bytes

end DeviceAssets
