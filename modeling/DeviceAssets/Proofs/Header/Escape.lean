import Mathlib.Data.String.Basic
import DeviceAssets.Proofs.Header.CommentEnd

/-!
# The escape of a label

A label is changed where it holds the mark that closes a comment, and nowhere else: a backslash
is put between the two characters of each such mark. What comes out holds no mark, so to escape
it again changes nothing, and a label is left as it is exactly where it holds none. Two labels
that are joined are escaped one by one, unless a mark comes together at their seam.
-/

namespace DeviceAssets.Header

open Mark

/-- The mark that closes a comment stands at place `i` of a text. -/
def ClosesAt (text : List Char) (i : Nat) : Prop :=
  commentClosing <+: text.drop i

instance (text : List Char) (i : Nat) : Decidable (ClosesAt text i) :=
  inferInstanceAs (Decidable (commentClosing <+: text.drop i))

def closings (text : List Char) : Nat :=
  (List.range text.length).countP fun i => ClosesAt text i

/-- A mark comes together where two texts are joined. -/
def ClosesAcross (front back : List Char) : Prop :=
  front.getLast? = some '*' ∧ back.head? = some '/'

instance (front back : List Char) : Decidable (ClosesAcross front back) :=
  inferInstanceAs (Decidable (_ ∧ _))

/-! ### One character -/

theorem closesAt_zero_iff {c : Char} {rest : List Char} :
    ClosesAt (c :: rest) 0 ↔ ClosesAcross [c] rest := by
  cases rest with
  | nil => simp [ClosesAt, ClosesAcross, commentClosing, List.cons_prefix_cons]
  | cons next more => simp [ClosesAt, ClosesAcross, commentClosing, List.cons_prefix_cons, eq_comm]

theorem closings_cons (c : Char) (rest : List Char) :
    closings (c :: rest) = (if ClosesAcross [c] rest then 1 else 0) + closings rest := by
  rw [closings, List.length_cons, List.range_succ_eq_map, List.countP_cons, List.countP_map,
    Nat.add_comm]
  simp only [closesAt_zero_iff, decide_eq_true_eq]
  rfl

/-- Only an asterisk in front of a slash gets a backslash behind it. -/
theorem escape_cons (c : Char) (rest : List Char) :
    escape (c :: rest) = (if ClosesAcross [c] rest then [c, '\\'] else [c]) ++ escape rest := by
  by_cases h : ClosesAcross [c] rest
  · obtain ⟨hstar, hslash⟩ := h
    obtain rfl : c = '*' := Option.some.inj hstar
    obtain ⟨more, rfl⟩ := List.head?_eq_some_iff.mp hslash
    rfl
  · rw [if_neg h, escape]
    · rfl
    · rintro more rfl rfl
      exact h ⟨rfl, rfl⟩

/-! ### All characters -/

theorem escape_eq_flatten (text : List Char) :
    escape text =
      (text.mapIdx fun i c => if ClosesAt text i then [c, '\\'] else [c]).flatten := by
  induction text with
  | nil => rfl
  | cons c rest ih =>
    rw [escape_cons, ih, List.mapIdx_cons, List.flatten_cons]
    simp only [closesAt_zero_iff]
    rfl

theorem length_escape (text : List Char) :
    (escape text).length = text.length + closings text := by
  induction text with
  | nil => rfl
  | cons c rest ih =>
    rw [escape_cons, closings_cons, List.length_append, ih, List.length_cons]
    split
    · rw [List.length_cons, List.length_singleton]
      omega
    · rw [List.length_singleton]
      omega

/-- A backslash is one octet, too. -/
theorem utf8Len_escape (text : List Char) :
    String.utf8Len (escape text) = String.utf8Len text + closings text := by
  have hbackslash : '\\'.utf8Size = 1 := by decide
  induction text with
  | nil => rfl
  | cons c rest ih =>
    rw [escape_cons, closings_cons, String.utf8Len_append, ih, String.utf8Len_cons]
    split
    · rw [String.utf8Len_cons, String.utf8Len_cons, hbackslash, String.utf8Len_nil]
      omega
    · rw [String.utf8Len_cons, String.utf8Len_nil]
      omega

theorem escape_eq_self {text : List Char} (unmarked : ¬ commentClosing <:+: text) :
    escape text = text := by
  induction text with
  | nil => rfl
  | cons c rest ih =>
    rw [commentClosing, pair_in_cons_iff, not_or] at unmarked
    have hapart : ¬ ClosesAcross [c] rest := by
      rintro ⟨hstar, hslash⟩
      exact unmarked.1 ⟨Option.some.inj hstar, hslash⟩
    rw [escape_cons, if_neg hapart, ih unmarked.2]
    rfl

theorem escape_eq_self_iff {text : List Char} :
    escape text = text ↔ ¬ commentClosing <:+: text := by
  constructor
  · intro h
    rw [← h]
    exact closing_notIn_escape text
  · exact escape_eq_self

theorem escape_escape (text : List Char) : escape (escape text) = escape text :=
  escape_eq_self (closing_notIn_escape text)

theorem not_closesAcross_nil_left (back : List Char) : ¬ ClosesAcross [] back := by
  rintro ⟨hstar, -⟩
  cases hstar

theorem not_closesAcross_nil_right (front : List Char) : ¬ ClosesAcross front [] := by
  rintro ⟨-, hslash⟩
  cases hslash

/-- A mark that comes together at the seam is the only one that is not in one of the parts. -/
theorem escape_append (front back : List Char) :
    escape (front ++ back) =
      escape front ++ (if ClosesAcross front back then ['\\'] else []) ++ escape back := by
  induction front with
  | nil =>
    rw [if_neg (not_closesAcross_nil_left back)]
    rfl
  | cons c rest ih =>
    rw [List.cons_append, escape_cons, escape_cons, ih]
    cases rest with
    | nil =>
      rw [if_neg (not_closesAcross_nil_left back), if_neg (not_closesAcross_nil_right [c]),
        List.nil_append]
      by_cases hseam : ClosesAcross [c] back
      · rw [if_pos hseam, if_pos hseam]
        rfl
      · rw [if_neg hseam, if_neg hseam]
        rfl
    | cons next more =>
      -- A mark at `c` ends at `next`, and the seam is behind it.
      have hfront : ClosesAcross [c] (next :: more ++ back) ↔ ClosesAcross [c] (next :: more) :=
        Iff.rfl
      have hseam : ClosesAcross (c :: next :: more) back ↔ ClosesAcross (next :: more) back := by
        rw [ClosesAcross, ClosesAcross, List.getLast?_cons_cons]
      simp only [hfront, hseam, List.append_assoc]

/-! ### Labels -/

theorem toList_escapeComment (text : String) :
    (escapeComment text).toList = escape text.toList :=
  String.toList_ofList

/-- The escape of a label puts a backslash into each mark that would close the comment, behind
its asterisk, and changes nothing else. What comes out holds no such mark. It is longer by one
character, which is one octet, for each mark, and the same exactly where there is none; so the
escape of an escaped label is that label. Labels that are joined are escaped one by one, with a
backslash between them where one ends with an asterisk and the next begins with a slash. -/
theorem escape_is_exact (text more : String) :
    ¬ commentClosing <:+: (escapeComment text).toList ∧
    (escapeComment text).toList =
      (text.toList.mapIdx fun i c => if ClosesAt text.toList i then [c, '\\'] else [c]).flatten ∧
    (escapeComment text).length = text.length + closings text.toList ∧
    (escapeComment text).utf8ByteSize = text.utf8ByteSize + closings text.toList ∧
    (escapeComment text = text ↔ ¬ commentClosing <:+: text.toList) ∧
    escapeComment (escapeComment text) = escapeComment text ∧
    escapeComment (text ++ more) =
      if text.toList.getLast? = some '*' ∧ more.toList.head? = some '/' then
        escapeComment text ++ "\\" ++ escapeComment more
      else escapeComment text ++ escapeComment more := by
  refine ⟨?_, ?_, ?_, ?_, ?_, ?_, ?_⟩
  · rw [toList_escapeComment]
    exact closing_notIn_escape text.toList
  · rw [toList_escapeComment, escape_eq_flatten]
  · rw [← String.length_toList, toList_escapeComment, length_escape, String.length_toList]
  · rw [← String.utf8Len_toList, toList_escapeComment, utf8Len_escape, String.utf8Len_toList]
  · rw [← String.toList_inj, toList_escapeComment, escape_eq_self_iff]
  · rw [← String.toList_inj, toList_escapeComment, toList_escapeComment, escape_escape]
  · have happend := escape_append text.toList more.toList
    rw [← String.toList_inj, toList_escapeComment, String.toList_append, happend]
    by_cases hseam : text.toList.getLast? = some '*' ∧ more.toList.head? = some '/'
    · have hacross : ClosesAcross text.toList more.toList := hseam
      rw [if_pos hseam, if_pos hacross, String.toList_append, String.toList_append,
        toList_escapeComment, toList_escapeComment]
      rfl
    · have hapart : ¬ ClosesAcross text.toList more.toList := hseam
      rw [if_neg hseam, if_neg hapart, String.toList_append, toList_escapeComment,
        toList_escapeComment, List.append_nil]

/-- Asterisks and slashes around a mark stay where they are. -/
example : escape ['/', '*', '*', '/', '/'] = ['/', '*', '*', '\\', '/', '/'] := by decide

end DeviceAssets.Header
