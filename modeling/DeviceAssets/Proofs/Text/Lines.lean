import Mathlib.Algebra.GroupWithZero.Nat
import Mathlib.Data.List.Basic
import Mathlib.Data.String.Basic

/-!
# Lines that have been joined

Pieces of text are joined with line feeds between them. Cut at its line feeds, the joined text
gives the lines of each piece in turn, so it gives the pieces themselves exactly where none
of them holds a line feed.
-/

namespace DeviceAssets.Text

/-- The stretches between the line feeds of a text; an empty text has none. -/
def lines (text : List Char) : List (List Char) :=
  if text = [] then [] else text.splitOn '\n'

theorem length_splitOn (text : List Char) :
    (text.splitOn '\n').length = text.count '\n' + 1 := by
  induction text with
  | nil => rfl
  | cons c rest ih =>
    rw [List.splitOn_cons_eq_if_modifyHead, List.count_cons]
    split
    · rw [List.length_cons, ih]
    · rw [List.length_modifyHead, ih, Nat.add_zero]

/-- What stands in joined pieces stands between them or in one of them. -/
theorem mem_of_mem_intercalate {α : Type} {separator : List α} {pieces : List (List α)} {item : α}
    (h : item ∈ separator.intercalate pieces) :
    item ∈ separator ∨ ∃ piece ∈ pieces, item ∈ piece := by
  induction pieces with
  | nil => simp at h
  | cons piece rest ih =>
    cases rest with
    | nil =>
      rw [List.intercalate_singleton] at h
      exact .inr ⟨piece, List.mem_cons_self, h⟩
    | cons next more =>
      rw [List.intercalate_cons_cons, List.mem_append, List.mem_append] at h
      rcases h with (hpiece | hseparator) | hrest
      · exact .inr ⟨piece, List.mem_cons_self, hpiece⟩
      · exact .inl hseparator
      · rcases ih hrest with hseparator | ⟨other, hother, hitem⟩
        · exact .inl hseparator
        · exact .inr ⟨other, List.mem_cons_of_mem _ hother, hitem⟩

/-- Lines that each end with a line feed are found again, and nothing stands behind them. -/
theorem splitOn_flatMap_feed {lines : List (List Char)} (single : ∀ line ∈ lines, '\n' ∉ line) :
    (lines.flatMap (· ++ ['\n'])).splitOn '\n' = lines ++ [[]] := by
  induction lines with
  | nil => rfl
  | cons line rest ih =>
    rw [List.forall_mem_cons] at single
    rw [List.flatMap_cons, List.append_assoc, List.singleton_append, List.splitOn_append_cons_self,
      List.splitOn_eq_singleton single.1, ih single.2]
    rfl

theorem splitOn_intercalate {pieces : List (List Char)} (some : pieces ≠ []) :
    (['\n'].intercalate pieces).splitOn '\n' = pieces.flatMap (·.splitOn '\n') := by
  induction pieces with
  | nil => exact absurd rfl some
  | cons piece rest ih =>
    cases rest with
    | nil => simp [List.intercalate]
    | cons next more =>
      have hjoined : ['\n'].intercalate (piece :: next :: more) =
          piece ++ '\n' :: ['\n'].intercalate (next :: more) := by
        simp [List.intercalate]
      rw [hjoined, List.splitOn_append_cons_self, ih (List.cons_ne_nil next more)]
      rfl

theorem intercalate_ne_nil {separator : List Char} {pieces : List (List Char)}
    (filled : ∀ piece ∈ pieces, piece ≠ []) (some : pieces ≠ []) :
    separator.intercalate pieces ≠ [] := by
  obtain ⟨piece, rest, rfl⟩ := List.exists_cons_of_ne_nil some
  have hfilled : piece ≠ [] := filled piece List.mem_cons_self
  cases rest with
  | nil => rwa [List.intercalate_singleton]
  | cons next more =>
    rw [List.intercalate_cons_cons, List.append_assoc]
    exact List.append_ne_nil_of_left_ne_nil hfilled _

/-- Joined pieces have the lines of each piece. -/
theorem lines_intercalate {pieces : List (List Char)} (filled : ∀ piece ∈ pieces, piece ≠ []) :
    lines (['\n'].intercalate pieces) = pieces.flatMap (·.splitOn '\n') := by
  cases pieces with
  | nil => rfl
  | cons piece rest =>
    have hjoined : ['\n'].intercalate (piece :: rest) ≠ [] :=
      intercalate_ne_nil filled (List.cons_ne_nil piece rest)
    rw [lines, if_neg hjoined, splitOn_intercalate (List.cons_ne_nil piece rest)]

/-- Joined pieces end as the last piece does. -/
theorem exists_getLast?_of_intercalate {separator : List Char} {pieces : List (List Char)}
    {last : Char} (filled : ∀ piece ∈ pieces, piece ≠ [])
    (h : (separator.intercalate pieces).getLast? = some last) :
    ∃ piece ∈ pieces, piece.getLast? = some last := by
  induction pieces with
  | nil => cases h
  | cons piece rest ih =>
    cases rest with
    | nil =>
      rw [List.intercalate_singleton] at h
      exact ⟨piece, List.mem_cons_self, h⟩
    | cons next more =>
      rw [List.forall_mem_cons] at filled
      have hrest : separator.intercalate (next :: more) ≠ [] :=
        intercalate_ne_nil filled.2 (List.cons_ne_nil next more)
      rw [List.intercalate_cons_cons, List.getLast?_append_of_ne_nil _ hrest] at h
      obtain ⟨other, hother, hlast⟩ := ih filled.2 h
      exact ⟨other, List.mem_cons_of_mem _ hother, hlast⟩

/-- Joined pieces take their octets, and one more for each line feed between them. -/
theorem utf8Len_intercalate (pieces : List (List Char)) :
    String.utf8Len (['\n'].intercalate pieces) =
      (pieces.map String.utf8Len).sum + (pieces.length - 1) := by
  have hfeed : '\n'.utf8Size = 1 := by decide
  induction pieces with
  | nil => rfl
  | cons piece rest ih =>
    cases rest with
    | nil => simp [List.intercalate]
    | cons next more =>
      rw [List.intercalate_cons_cons, String.utf8Len_append, String.utf8Len_append, ih,
        String.utf8Len_cons, String.utf8Len_nil, hfeed]
      simp only [List.map_cons, List.sum_cons, List.length_cons]
      omega

theorem length_flatMap_splitOn_eq_iff {pieces : List (List Char)} :
    (pieces.flatMap (·.splitOn '\n')).length = pieces.length ↔
      ∀ piece ∈ pieces, '\n' ∉ piece := by
  have hle : ∀ rest : List (List Char),
      rest.length ≤ (rest.flatMap (·.splitOn '\n')).length := by
    intro rest
    induction rest with
    | nil => exact Nat.le_refl 0
    | cons piece rest ih =>
      rw [List.flatMap_cons, List.length_append, length_splitOn, List.length_cons]
      omega
  induction pieces with
  | nil => simp
  | cons piece rest ih =>
    have hrest := hle rest
    rw [List.forall_mem_cons, List.flatMap_cons, List.length_append, length_splitOn,
      List.length_cons]
    constructor
    · intro h
      exact ⟨List.count_eq_zero.mp (by omega), ih.mp (by omega)⟩
    · rintro ⟨hpiece, hmore⟩
      have hcount := List.count_eq_zero.mpr hpiece
      have hlength := ih.mpr hmore
      omega

theorem flatMap_splitOn_eq_iff {pieces : List (List Char)} :
    pieces.flatMap (·.splitOn '\n') = pieces ↔ ∀ piece ∈ pieces, '\n' ∉ piece := by
  constructor
  · intro h
    exact length_flatMap_splitOn_eq_iff.mp (congrArg List.length h)
  · intro single
    induction pieces with
    | nil => rfl
    | cons piece rest ih =>
      rw [List.forall_mem_cons] at single
      rw [List.flatMap_cons, List.splitOn_eq_singleton single.1, ih single.2]
      rfl

end DeviceAssets.Text
