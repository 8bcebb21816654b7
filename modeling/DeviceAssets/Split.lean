/-!
# Cutting a list at separators

Names in a path stand between slashes, and settings between commas. `splitAt` gives
the stretches between separators, empty ones included: there is always one more of
them than there are separators, and putting the separators back gives the list.
-/

namespace DeviceAssets

universe u

variable {α : Type u} [DecidableEq α]

/-- The stretches of `items` between separators. -/
def splitAt (separator : α) : List α → List (List α)
  | [] => [[]]
  | item :: rest =>
    if item = separator then [] :: splitAt separator rest
    else match splitAt separator rest with
      | [] => [[item]]
      | stretch :: more => (item :: stretch) :: more

theorem length_splitAt (separator : α) (items : List α) :
    (splitAt separator items).length = items.count separator + 1 := by
  induction items with
  | nil => rfl
  | cons item rest ih =>
    by_cases h : item = separator
    · simp [splitAt, h, ih]
    · rw [splitAt, if_neg h, List.count_cons_of_ne h]
      split
      · rename_i hnil
        rw [hnil] at ih
        exact nomatch ih
      · rename_i stretch more hcons
        rw [hcons] at ih
        exact ih

theorem splitAt_ne_nil (separator : α) (items : List α) : splitAt separator items ≠ [] := by
  intro h
  have := length_splitAt separator items
  rw [h] at this
  exact nomatch this

/-- Putting the separators back gives the list. -/
theorem intercalate_splitAt (separator : α) (items : List α) :
    [separator].intercalate (splitAt separator items) = items := by
  induction items with
  | nil => rfl
  | cons item rest ih =>
    by_cases h : item = separator
    · rw [splitAt, if_pos h]
      cases hs : splitAt separator rest with
      | nil => exact absurd hs (splitAt_ne_nil separator rest)
      | cons stretch more =>
        rw [hs] at ih
        simp only [List.intercalate, List.intersperse, List.flatten_cons] at ih ⊢
        simp [ih, h]
    · rw [splitAt, if_neg h]
      cases hs : splitAt separator rest with
      | nil => exact absurd hs (splitAt_ne_nil separator rest)
      | cons stretch more =>
        rw [hs] at ih
        cases more with
        | nil => simpa [List.intercalate] using ih
        | cons next more =>
          simp only [List.intercalate, List.intersperse, List.flatten_cons] at ih ⊢
          simpa using ih

end DeviceAssets
