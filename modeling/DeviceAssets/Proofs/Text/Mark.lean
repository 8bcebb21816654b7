import Mathlib.Data.List.Basic

/-!
# Marks of two characters

Comments open and close with marks of two characters each. What is said here is where such
a mark stands in a list that is put together from parts: inside one of the parts, or across
the seam of two.
-/

namespace DeviceAssets.Mark

variable {α : Type} {a b : α}

theorem pair_in_cons_iff {item : α} {rest : List α} :
    [a, b] <:+: item :: rest ↔ (item = a ∧ rest.head? = some b) ∨ [a, b] <:+: rest := by
  have hfront : [a, b] <+: item :: rest ↔ item = a ∧ rest.head? = some b := by
    cases rest with
    | nil => simp [List.prefix_cons_iff]
    | cons next more => simp [List.cons_prefix_cons, eq_comm]
  rw [List.infix_cons_iff, hfront]

/-- A mark in two parts is in one of them, or its two characters meet at the seam. -/
theorem pair_in_append_iff {front back : List α} :
    [a, b] <:+: front ++ back ↔
      [a, b] <:+: front ∨ [a, b] <:+: back ∨
        (front.getLast? = some a ∧ back.head? = some b) := by
  induction front with
  | nil => simp
  | cons item rest ih =>
    rw [List.cons_append, pair_in_cons_iff, ih, pair_in_cons_iff]
    cases rest with
    | nil =>
      simp only [List.nil_append, List.getLast?_singleton, Option.some.injEq, List.head?_nil]
      tauto
    | cons next more =>
      rw [List.getLast?_cons_cons, List.cons_append, List.head?_cons, List.head?_cons]
      tauto

theorem pair_in_append_iff_of_notMem {front back : List α} (free : a ∉ front) :
    [a, b] <:+: front ++ back ↔ [a, b] <:+: back := by
  have hfront : ¬ [a, b] <:+: front := fun h => free (h.subset List.mem_cons_self)
  have hseam : front.getLast? ≠ some a := fun h => free (List.mem_of_getLast? h)
  simp [pair_in_append_iff, hfront, hseam]

/-- A mark of two different characters is found where the part in front of it holds none. -/
theorem dropInfix?_pair_eq_some_iff [BEq α] [LawfulBEq α] (distinct : a ≠ b)
    {text front back : List α} :
    text.dropInfix? [a, b] = some (front, back) ↔
      text = front ++ [a, b] ++ back ∧ ¬ [a, b] <:+: front := by
  rw [List.dropInfix?_eq_some_iff]
  constructor
  · rintro ⟨⟨found, rfl, hfound⟩, first⟩
    obtain rfl : found = [a, b] := eq_of_beq hfound
    refine ⟨rfl, ?_⟩
    rintro ⟨before, behind, rfl⟩
    have hlength := first before [a, b] (behind ++ [a, b] ++ back) (by simp) (by simp)
    simp only [List.length_append, List.length_cons] at hlength
    omega
  · rintro ⟨rfl, free⟩
    refine ⟨⟨[a, b], rfl, by simp⟩, ?_⟩
    intro before found behind hsame hfound
    obtain rfl : found = [a, b] := eq_of_beq hfound
    refine Nat.le_of_not_lt fun hshort => ?_
    -- A mark that begins earlier would end in `front ++ [a]`, which holds none.
    have hin : [a, b] <:+: front ++ [a] := by
      have hsplit : front ++ [a, b] ++ back = (front ++ [a]) ++ b :: back := by simp
      have hprefix : before ++ [a, b] <+: front ++ [a] := by
        refine List.prefix_of_prefix_length_le ⟨behind, hsame.symm⟩ ⟨b :: back, hsplit.symm⟩ ?_
        simp only [List.length_append, List.length_cons, List.length_nil]
        omega
      exact List.IsInfix.trans ⟨before, [], by simp⟩ hprefix.isInfix
    rw [pair_in_append_iff] at hin
    rcases hin with hfront | hlast | ⟨_, hhead⟩
    · exact free hfront
    · simp [pair_in_cons_iff] at hlast
    · simp [distinct] at hhead

end DeviceAssets.Mark
