/-!
# Cutting a list into runs of one length

A packed row is cut into groups of eight cells, a data block into lines of
sixteen octets, and a symbol's module list into rows. All three are `chunks`.
Every run but the last has the full length, the last one is never empty, and
joining the runs gives the list back.
-/

namespace DeviceAssets

universe u

variable {α : Type u}

/-- The runs of `width` items that make up `items`; the last one may be shorter.
A width of zero counts as one. -/
def chunks (width : Nat) (items : List α) : List (List α) :=
  match items with
  | [] => []
  | first :: rest =>
    (first :: rest.take (width - 1)) :: chunks width (rest.drop (width - 1))
termination_by items.length
decreasing_by simp only [List.length_drop, List.length_cons]; omega

@[simp] theorem chunks_nil (width : Nat) : chunks width ([] : List α) = [] := by
  rw [chunks]

theorem chunks_cons (width : Nat) (first : α) (rest : List α) :
    chunks width (first :: rest) =
      (first :: rest.take (width - 1)) :: chunks width (rest.drop (width - 1)) := by
  rw [chunks]

/-- Nothing is lost and nothing moves. -/
@[simp] theorem flatten_chunks (width : Nat) (items : List α) :
    (chunks width items).flatten = items := by
  fun_induction chunks width items with
  | case1 => rfl
  | case2 first rest ih => simp [ih]

/-- There are as many runs as it takes to hold all items. -/
theorem length_chunks (width : Nat) (positive : 0 < width) (items : List α) :
    (chunks width items).length = (items.length + width - 1) / width := by
  fun_induction chunks width items with
  | case1 => simp [Nat.div_eq_of_lt (Nat.sub_lt positive Nat.one_pos)]
  | case2 first rest ih =>
    simp only [List.length_cons, ih, List.length_drop]
    by_cases h : rest.length < width
    · have hz : rest.length - (width - 1) + width - 1 = width - 1 := by omega
      rw [hz, Nat.div_eq_of_lt (by omega)]
      have hs : rest.length + 1 + width - 1 = width + rest.length := by omega
      rw [hs, Nat.add_div_left _ positive, Nat.div_eq_of_lt h]
    · have hs : rest.length + 1 + width - 1 =
          rest.length - (width - 1) + width - 1 + width := by omega
      rw [hs, Nat.add_div_right _ positive]

theorem ne_nil_of_mem_chunks {width : Nat} {items : List α} :
    ∀ run ∈ chunks width items, run ≠ [] := by
  fun_induction chunks width items with
  | case1 => simp
  | case2 first rest ih => simpa using ih

theorem length_le_of_mem_chunks {width : Nat} (positive : 0 < width) {items : List α} :
    ∀ run ∈ chunks width items, run.length ≤ width := by
  fun_induction chunks width items with
  | case1 => simp
  | case2 first rest ih =>
    intro run hrun
    rcases List.mem_cons.mp hrun with rfl | hrun
    · simp only [List.length_cons, List.length_take]
      omega
    · exact ih run hrun

/-- All runs but the last one have the full length. -/
theorem length_of_mem_dropLast_chunks {width : Nat} (positive : 0 < width) {items : List α} :
    ∀ run ∈ (chunks width items).dropLast, run.length = width := by
  fun_induction chunks width items with
  | case1 => simp
  | case2 first rest ih =>
    cases hmore : chunks width (rest.drop (width - 1)) with
    | nil => simp
    | cons next more =>
      rw [hmore] at ih
      have hlong : width - 1 < rest.length := by
        apply Nat.lt_of_not_le
        intro hshort
        rw [List.drop_eq_nil_of_le hshort, chunks_nil] at hmore
        cases hmore
      intro run hrun
      rw [List.dropLast_cons_of_ne_nil (List.cons_ne_nil next more), List.mem_cons] at hrun
      rcases hrun with rfl | hrun
      · simp only [List.length_cons, List.length_take]
        omega
      · exact ih run hrun

/-- A list of whole rows is cut into rows of exactly that length. -/
theorem length_of_mem_chunks {width count : Nat} (positive : 0 < width) {items : List α}
    (whole : items.length = count * width) :
    ∀ run ∈ chunks width items, run.length = width := by
  induction count generalizing items with
  | zero =>
    have : items = [] := List.eq_nil_of_length_eq_zero (by simpa using whole)
    simp [this]
  | succ count ih =>
    cases items with
    | nil => simp
    | cons first rest =>
      simp only [List.length_cons, Nat.succ_mul] at whole
      intro run hrun
      rw [chunks_cons, List.mem_cons] at hrun
      rcases hrun with rfl | hrun
      · simp only [List.length_cons, List.length_take]
        omega
      · exact ih (by simp only [List.length_drop]; omega) run hrun

/-- A list of whole rows is cut into as many runs as it has rows. -/
theorem length_chunks_of_whole {width count : Nat} (positive : 0 < width) {items : List α}
    (whole : items.length = count * width) : (chunks width items).length = count := by
  rw [length_chunks width positive, whole,
    show count * width + width - 1 = width - 1 + count * width by omega,
    Nat.add_mul_div_right _ _ positive, Nat.div_eq_of_lt (by omega), Nat.zero_add]

/-- Run number `i` begins behind `i` whole runs. -/
theorem getElem?_chunks {width : Nat} (positive : 0 < width) {items : List α} {i : Nat}
    (h : i * width < items.length) :
    (chunks width items)[i]? = some ((items.drop (i * width)).take width) := by
  obtain ⟨last, rfl⟩ : ∃ last, width = last + 1 := ⟨width - 1, by omega⟩
  fun_induction chunks (last + 1) items generalizing i with
  | case1 => simp at h
  | case2 first rest ih =>
    cases i with
    | zero => simp
    | succ i =>
      rw [Nat.succ_mul] at h ⊢
      have hrest : i * (last + 1) < (rest.drop (last + 1 - 1)).length := by
        simp only [List.length_drop, List.length_cons] at h ⊢
        omega
      rw [List.getElem?_cons_succ, ih hrest, List.drop_drop, ← Nat.add_assoc,
        List.drop_succ_cons, Nat.add_sub_cancel, Nat.add_comm last (i * (last + 1))]

/-- A list of `count` whole rows is cut into its rows. -/
theorem chunks_eq_map_range {width count : Nat} (positive : 0 < width) {items : List α}
    (whole : items.length = count * width) :
    chunks width items =
      (List.range count).map fun i => (items.drop (i * width)).take width := by
  have hlength := length_chunks_of_whole positive whole
  apply List.ext_getElem?
  intro i
  by_cases hi : i < count
  · have hplace : i * width < items.length := by
      rw [whole]
      exact Nat.mul_lt_mul_of_pos_right hi positive
    rw [getElem?_chunks positive hplace, List.getElem?_map, List.getElem?_range hi,
      Option.map_some]
  · rw [List.getElem?_eq_none (by omega), List.getElem?_eq_none (by simp; omega)]

end DeviceAssets
