import Mathlib.Data.String.Basic
import DeviceAssets.Text.Utf8

/-!
# Decoding undoes spelling

The octets that spell a text are read back as that text, with no fault, and an octet
below 0x80 in them spells the character of its number and nothing else.
-/

namespace DeviceAssets.Utf8

/-! ### The front of an octet string -/

theorem not_lt_of_toNat_le {octet bound : UInt8} (h : bound.toNat ≤ octet.toNat) :
    ¬ octet < bound := by
  rw [UInt8.lt_iff_toNat_lt]
  omega

theorem front_one {lead : UInt8} (hlead : lead.toNat < 0x80) (rest : Bytes) :
    front lead rest = .char (Char.ofNat lead.toNat) 1 := by
  have h80 : lead < 0x80 := UInt8.lt_iff_toNat_lt.mpr hlead
  unfold front
  rw [if_pos h80]
  rfl

theorem front_two {lead b : UInt8} (hlead : 0xC2 ≤ lead.toNat ∧ lead.toNat < 0xE0)
    (hb : isContinuation b = true) (rest : Bytes) :
    front lead (b :: rest) = .char (scalar (lead.toNat % 32) [b]) 2 := by
  have h80 : ¬ lead < 0x80 := not_lt_of_toNat_le (Nat.le_trans (by decide) hlead.1)
  have hC2 : ¬ lead < 0xC2 := not_lt_of_toNat_le hlead.1
  have hE0 : lead < 0xE0 := UInt8.lt_iff_toNat_lt.mpr hlead.2
  unfold front
  rw [if_neg h80, if_neg hC2, if_pos hE0]
  simp only [hb, if_true]

theorem front_three {lead b c : UInt8} (hlead : 0xE0 ≤ lead.toNat ∧ lead.toNat < 0xF0)
    (hb : mayFollow lead b = true) (hc : isContinuation c = true) (rest : Bytes) :
    front lead (b :: c :: rest) = .char (scalar (lead.toNat % 16) [b, c]) 3 := by
  have h80 : ¬ lead < 0x80 := not_lt_of_toNat_le (Nat.le_trans (by decide) hlead.1)
  have hC2 : ¬ lead < 0xC2 := not_lt_of_toNat_le (Nat.le_trans (by decide) hlead.1)
  have hE0 : ¬ lead < 0xE0 := not_lt_of_toNat_le hlead.1
  have hF0 : lead < 0xF0 := UInt8.lt_iff_toNat_lt.mpr hlead.2
  unfold front
  rw [if_neg h80, if_neg hC2, if_neg hE0, if_pos hF0]
  simp only [hb, hc, if_true]

theorem front_four {lead b c d : UInt8} (hlead : 0xF0 ≤ lead.toNat ∧ lead.toNat < 0xF5)
    (hb : mayFollow lead b = true) (hc : isContinuation c = true)
    (hd : isContinuation d = true) (rest : Bytes) :
    front lead (b :: c :: d :: rest) = .char (scalar (lead.toNat % 8) [b, c, d]) 4 := by
  have h80 : ¬ lead < 0x80 := not_lt_of_toNat_le (Nat.le_trans (by decide) hlead.1)
  have hC2 : ¬ lead < 0xC2 := not_lt_of_toNat_le (Nat.le_trans (by decide) hlead.1)
  have hE0 : ¬ lead < 0xE0 := not_lt_of_toNat_le (Nat.le_trans (by decide) hlead.1)
  have hF0 : ¬ lead < 0xF0 := not_lt_of_toNat_le hlead.1
  have hF5 : lead < 0xF5 := UInt8.lt_iff_toNat_lt.mpr hlead.2
  rw [front]
  rw [if_neg h80, if_neg hC2, if_neg hE0, if_neg hF0, if_pos hF5]
  simp only [hb, hc, hd, if_true]

/-! ### The spelling of a character -/

theorem isContinuation_iff (octet : UInt8) :
    isContinuation octet = true ↔ 0x80 ≤ octet.toNat ∧ octet.toNat ≤ 0xBF := by
  simp [isContinuation, UInt8.le_iff_toNat_le]

/-- What may follow the first octet of a character, by the numbers of the two octets. -/
theorem mayFollow_iff (lead octet : UInt8) :
    mayFollow lead octet = true ↔
      (0x80 ≤ octet.toNat ∧ octet.toNat ≤ 0xBF) ∧ (lead.toNat = 0xE0 → 0xA0 ≤ octet.toNat) ∧
        (lead.toNat = 0xED → octet.toNat ≤ 0x9F) ∧ (lead.toNat = 0xF0 → 0x90 ≤ octet.toNat) ∧
        (lead.toNat = 0xF4 → octet.toNat ≤ 0x8F) := by
  simp only [mayFollow, isContinuation, ← UInt8.toNat_inj]
  have hE0 : (0xE0 : UInt8).toNat = 0xE0 := rfl
  have hED : (0xED : UInt8).toNat = 0xED := rfl
  have hF0 : (0xF0 : UInt8).toNat = 0xF0 := rfl
  have hF4 : (0xF4 : UInt8).toNat = 0xF4 := rfl
  rw [hE0, hED, hF0, hF4]
  repeat' split
  all_goals simp [UInt8.le_iff_toNat_le]
  all_goals omega

theorem toNat_ofNat_of_lt {n : Nat} (h : n < 256) : (UInt8.ofNat n).toNat = n := by
  rw [UInt8.toNat_ofNat', Nat.mod_eq_of_lt h]

theorem toNat_val_bounds (c : Char) :
    c.val.toNat < 0xD800 ∨ 0xDFFF < c.val.toNat ∧ c.val.toNat < 0x110000 := by
  have h := c.valid
  simpa [UInt32.isValidChar, Nat.isValidChar] using h

/-- The spelling of a character is read back as that character, whatever follows it. -/
theorem exists_front_utf8EncodeChar (c : Char) (rest : Bytes) :
    ∃ lead tail, String.utf8EncodeChar c = lead :: tail ∧
      front lead (tail ++ rest) = .char c (tail.length + 1) := by
  have hbounds := toNat_val_bounds c
  have hc : Char.ofNat c.val.toNat = c := Char.ofNat_toNat c
  unfold String.utf8EncodeChar
  generalize c.val.toNat = v at hbounds hc
  simp only []
  split
  · have hlead := toNat_ofNat_of_lt (n := v) (by omega)
    refine ⟨_, _, rfl, (front_one (by omega) _).trans ?_⟩
    rw [hlead, hc]
    rfl
  · split
    · have hlead := toNat_ofNat_of_lt (n := v / 64 % 0x20 + 0xc0) (by omega)
      have hb := toNat_ofNat_of_lt (n := v % 0x40 + 0x80) (by omega)
      refine ⟨_, _, rfl, (front_two (by omega) ((isContinuation_iff _).mpr (by omega)) _).trans ?_⟩
      have hscalar : (v / 64 % 0x20 + 0xc0) % 32 * 64 + (v % 0x40 + 0x80) % 64 = v := by omega
      simp only [scalar, List.foldl_cons, List.foldl_nil, hlead, hb, hscalar, hc]
      rfl
    · split
      · have hlead := toNat_ofNat_of_lt (n := v / 4096 % 0x10 + 0xe0) (by omega)
        have hb := toNat_ofNat_of_lt (n := v / 64 % 0x40 + 0x80) (by omega)
        have hd := toNat_ofNat_of_lt (n := v % 0x40 + 0x80) (by omega)
        refine ⟨_, _, rfl, (front_three (by omega) ((mayFollow_iff _ _).mpr (by omega))
          ((isContinuation_iff _).mpr (by omega)) _).trans ?_⟩
        have hscalar : ((v / 4096 % 0x10 + 0xe0) % 16 * 64 + (v / 64 % 0x40 + 0x80) % 64) * 64 +
            (v % 0x40 + 0x80) % 64 = v := by omega
        simp only [scalar, List.foldl_cons, List.foldl_nil, hlead, hb, hd, hscalar, hc]
        rfl
      · have hlead := toNat_ofNat_of_lt (n := v / 262144 % 0x08 + 0xf0) (by omega)
        have hb := toNat_ofNat_of_lt (n := v / 4096 % 0x40 + 0x80) (by omega)
        have hd := toNat_ofNat_of_lt (n := v / 64 % 0x40 + 0x80) (by omega)
        have he := toNat_ofNat_of_lt (n := v % 0x40 + 0x80) (by omega)
        refine ⟨_, _, rfl, (front_four (by omega) ((mayFollow_iff _ _).mpr (by omega))
          ((isContinuation_iff _).mpr (by omega)) ((isContinuation_iff _).mpr (by omega)) _).trans
            ?_⟩
        have hscalar : (((v / 262144 % 0x08 + 0xf0) % 8 * 64 + (v / 4096 % 0x40 + 0x80) % 64) * 64 +
            (v / 64 % 0x40 + 0x80) % 64) * 64 + (v % 0x40 + 0x80) % 64 = v := by omega
        simp only [scalar, List.foldl_cons, List.foldl_nil, hlead, hb, hd, he, hscalar, hc]
        rfl

theorem pieces_utf8EncodeChar_append (c : Char) (rest : Bytes) :
    ∃ width, pieces (String.utf8EncodeChar c ++ rest) = .char c width :: pieces rest := by
  obtain ⟨lead, tail, hspelling, hfront⟩ := exists_front_utf8EncodeChar c rest
  refine ⟨tail.length + 1, ?_⟩
  rw [hspelling, List.cons_append, pieces, hfront, Piece.width, Nat.add_sub_cancel,
    List.drop_left]

/-! ### The spelling of a text -/

theorem charsFrom_pieces_ofChars (start : Nat) (text : List Char) :
    charsFrom start (pieces (Bytes.ofChars text)) = .ok text := by
  induction text generalizing start with
  | nil =>
    rw [Bytes.ofChars_nil, pieces]
    rfl
  | cons c rest ih =>
    obtain ⟨width, hpieces⟩ := pieces_utf8EncodeChar_append c (Bytes.ofChars rest)
    rw [Bytes.ofChars_cons, hpieces, charsFrom, ih]
    rfl

/-- The octets that spell a text spell nothing else. -/
theorem decode_ofChars (text : List Char) : decode (Bytes.ofChars text) = .ok text :=
  charsFrom_pieces_ofChars 0 text

/-- A text is spelt with as many octets as the core library counts. -/
theorem length_ofChars (text : List Char) :
    (Bytes.ofChars text).length = String.utf8Len text := by
  induction text with
  | nil => rfl
  | cons c rest ih =>
    rw [Bytes.ofChars_cons, List.length_append, ih, String.length_utf8EncodeChar,
      String.utf8Len_cons, Nat.add_comm]

theorem length_ofString (text : String) :
    (Bytes.ofString text).length = text.utf8ByteSize := by
  rw [Bytes.ofString, length_ofChars, String.utf8Len_toList]

/-- Only a character below 0x80 is spelt with octets below 0x80. -/
theorem toNat_eq_of_mem_utf8EncodeChar {c : Char} {octet : UInt8}
    (h : octet ∈ String.utf8EncodeChar c) (small : octet.toNat < 0x80) :
    c.toNat = octet.toNat := by
  have htoNat : c.toNat = c.val.toNat := rfl
  unfold String.utf8EncodeChar at h
  rw [htoNat]
  generalize c.val.toNat = v at h
  simp only [] at h
  split at h
  · rw [List.mem_singleton] at h
    subst h
    rw [toNat_ofNat_of_lt (by omega)]
  · exfalso
    have high : ∀ n, 0x80 ≤ n → n < 256 → ¬ (UInt8.ofNat n).toNat < 0x80 := by
      intro n hlow hhigh
      rw [toNat_ofNat_of_lt hhigh]
      omega
    split at h
    · simp only [List.mem_cons, List.not_mem_nil, or_false] at h
      rcases h with rfl | rfl
      all_goals exact high _ (by omega) (by omega) small
    · split at h
      · simp only [List.mem_cons, List.not_mem_nil, or_false] at h
        rcases h with rfl | rfl | rfl
        all_goals exact high _ (by omega) (by omega) small
      · simp only [List.mem_cons, List.not_mem_nil, or_false] at h
        rcases h with rfl | rfl | rfl | rfl
        all_goals exact high _ (by omega) (by omega) small

/-- A character below 0x80 whose octet stands in the spelling of a text stands in the
text. -/
theorem mem_of_toUInt8_mem_ofChars {a : Char} (ascii : a.toNat < 0x80) {text : List Char}
    (h : a.toUInt8 ∈ Bytes.ofChars text) : a ∈ text := by
  obtain ⟨c, hc, hmem⟩ := List.mem_flatMap.mp h
  have hoctet : a.toUInt8.toNat = a.toNat := toNat_ofNat_of_lt (n := a.toNat) (by omega)
  have hnumber := toNat_eq_of_mem_utf8EncodeChar hmem (by omega)
  have hsame : c = a := by
    rw [← Char.ofNat_toNat c, hnumber, hoctet, Char.ofNat_toNat]
  exact hsame ▸ hc

end DeviceAssets.Utf8
