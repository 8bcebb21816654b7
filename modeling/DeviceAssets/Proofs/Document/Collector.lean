import DeviceAssets.Document.Paragraphs
import DeviceAssets.Proofs.Results

/-!
# What a collector does with text

A collector writes text into all open lines at once. Here this is said line by line,
so that two texts in a row are one text, and lines that come later stay apart from
those that are open now.
-/

namespace DeviceAssets.Document.Collector

/-- The places of the open lines are the places of lines, each one above the next. -/
structure WellFormed (collector : Collector) : Prop where
  descending : collector.openLines.Pairwise (· > ·)
  bounded : ∀ i ∈ collector.openLines, i < collector.lines.size

/-- The collector with finished lines behind its own; each is given from its first
character on. -/
def adding (collector : Collector) (lines : List (List Char)) : Collector :=
  { collector with lines := collector.lines ++ (lines.map List.reverse).toArray }

theorem start_wellFormed : start.WellFormed :=
  ⟨List.Pairwise.nil, fun _ hi => absurd hi List.not_mem_nil⟩

/-- Changing some places of an array one after the other changes each of them once. -/
theorem foldl_modify_eq_mapIdx {α : Type} (change : α → α) (places : List Nat)
    (distinct : places.Nodup) (items : Array α) :
    places.foldl (fun items i => items.modify i change) items =
      items.mapIdx fun i item => if i ∈ places then change item else item := by
  induction places generalizing items with
  | nil => exact (Array.mapIdx_eq_iff.mpr (by simp)).symm
  | cons place rest ih =>
    obtain ⟨hplace, hrest⟩ := List.nodup_cons.mp distinct
    rw [List.foldl_cons, ih hrest]
    apply Array.ext
    · simp
    · intro i hi _
      have hi : i < items.size := by simpa using hi
      simp only [Array.getElem_mapIdx, Array.getElem_modify, List.mem_cons]
      by_cases heq : place = i
      · subst i
        simp [hplace]
      · have : ¬ i = place := fun h => heq h.symm
        simp [heq, this]

theorem lines_append {collector : Collector} (well : collector.WellFormed)
    (text : List Char) :
    (collector.append text).lines = collector.lines.mapIdx fun i line =>
      if i ∈ collector.openLines then text.reverse ++ line else line := by
  have distinct : collector.openLines.Nodup :=
    well.descending.imp fun h => Nat.ne_of_gt h
  exact foldl_modify_eq_mapIdx _ _ distinct _

@[simp] theorem openLines_append (collector : Collector) (text : List Char) :
    (collector.append text).openLines = collector.openLines := rfl

@[simp] theorem textDepth_append (collector : Collector) (text : List Char) :
    (collector.append text).textDepth = collector.textDepth := rfl

@[simp] theorem openLines_adding (collector : Collector) (lines : List (List Char)) :
    (collector.adding lines).openLines = collector.openLines := rfl

@[simp] theorem textDepth_adding (collector : Collector) (lines : List (List Char)) :
    (collector.adding lines).textDepth = collector.textDepth := rfl

theorem size_lines_append {collector : Collector} (well : collector.WellFormed)
    (text : List Char) : (collector.append text).lines.size = collector.lines.size := by
  rw [lines_append well, Array.size_mapIdx]

theorem WellFormed.append {collector : Collector} (well : collector.WellFormed)
    (text : List Char) : (collector.append text).WellFormed where
  descending := well.descending
  bounded := by
    rw [size_lines_append well]
    exact well.bounded

theorem WellFormed.adding {collector : Collector} (well : collector.WellFormed)
    (lines : List (List Char)) : (collector.adding lines).WellFormed where
  descending := well.descending
  bounded := by
    intro i hi
    have hlt := well.bounded i hi
    simp only [Collector.adding, Array.size_append]
    omega

/-- An opening tag keeps the places in order: a new one is above all others. -/
theorem WellFormed.opening {collector : Collector} (well : collector.WellFormed)
    (role : Role) : (collector.opening role).WellFormed := by
  cases role with
  | paragraph =>
    refine ⟨List.pairwise_cons.mpr ⟨well.bounded, well.descending⟩, ?_⟩
    intro i hi
    simp only [Collector.opening, Array.size_push, List.mem_cons] at hi ⊢
    rcases hi with rfl | hi
    · exact Nat.lt_succ_self _
    · exact Nat.lt_succ_of_lt (well.bounded i hi)
  | text => exact ⟨well.descending, well.bounded⟩
  | other => exact well

theorem lines_closing (collector : Collector) (role : Role) :
    (collector.closing role).lines = collector.lines := by
  cases role <;> rfl

theorem WellFormed.closing {collector : Collector} (well : collector.WellFormed)
    (role : Role) : (collector.closing role).WellFormed := by
  cases role with
  | paragraph =>
    constructor
    · exact well.descending.sublist (List.tail_sublist _)
    · intro i hi
      exact well.bounded i (List.mem_of_mem_tail hi)
  | text => exact ⟨well.descending, well.bounded⟩
  | other => exact well

/-! ### Events -/

/-- An empty element is opened and closed at once. -/
theorem step_empty (collector : Collector) (name : Xml.Name) :
    collector.step (.empty name) =
      .ok ((collector.opening (roleOf name)).closing (roleOf name)) := by
  simp only [step]
  cases roleOf name <;> rfl

/-- Text is passed over, or put at the end of the open lines. -/
theorem eq_or_append_of_step_text {collector later : Collector} {octets : Bytes}
    (h : collector.step (.text octets) = .ok later) :
    later = collector ∨ ∃ text, later = collector.append text := by
  rw [step] at h
  split at h
  · obtain ⟨text, _, rfl⟩ := map_eq_ok_iff.mp h
    exact .inr ⟨text, rfl⟩
  · cases h
    exact .inl rfl

theorem eq_or_append_of_step_cdata {collector later : Collector} {octets : Bytes}
    (h : collector.step (.cdata octets) = .ok later) :
    later = collector ∨ ∃ text, later = collector.append text := by
  rw [step] at h
  split at h
  · cases h
    exact .inr ⟨_, rfl⟩
  · cases h
    exact .inl rfl

/-- Whatever is read next, a place of an open line is the place of a line. -/
theorem WellFormed.step {collector later : Collector} (well : collector.WellFormed)
    {event : Xml.Event} (h : collector.step event = .ok later) : later.WellFormed := by
  cases event with
  | opened name =>
    cases h
    exact well.opening _
  | empty name =>
    rw [step_empty] at h
    cases h
    exact (well.opening _).closing _
  | closed name =>
    cases h
    exact well.closing _
  | text octets =>
    rcases eq_or_append_of_step_text h with rfl | ⟨text, rfl⟩
    · exact well
    · exact well.append text
  | cdata octets =>
    rcases eq_or_append_of_step_cdata h with rfl | ⟨text, rfl⟩
    · exact well
    · exact well.append text
  | other =>
    cases h
    exact well

/-- Events that are read one after the other keep what each of them keeps. -/
theorem WellFormed.foldlM {events : List Xml.Event} {collector later : Collector}
    (well : collector.WellFormed)
    (h : events.foldlM Collector.step collector = .ok later) : later.WellFormed :=
  holds_of_foldlM (fun before hstep => before.step hstep) well h

/-! ### Texts in a row -/

/-- An empty text changes nothing. -/
theorem append_nil {collector : Collector} (well : collector.WellFormed) :
    collector.append [] = collector := by
  have hlines : (collector.append []).lines = collector.lines := by
    rw [lines_append well]
    exact Array.mapIdx_eq_iff.mpr (by simp)
  exact congrArg (fun lines => { collector with lines }) hlines

/-- Two texts in a row are one text. -/
theorem append_append {collector : Collector} (well : collector.WellFormed)
    (first second : List Char) :
    (collector.append first).append second = collector.append (first ++ second) := by
  have hlines : ((collector.append first).append second).lines =
      (collector.append (first ++ second)).lines := by
    rw [lines_append (well.append first), lines_append well, lines_append well,
      Array.mapIdx_mapIdx]
    congr 1
    funext i line
    by_cases hi : i ∈ collector.openLines <;> simp [hi]
  exact congrArg (fun lines => { collector with lines }) hlines

@[simp] theorem adding_nil (collector : Collector) : collector.adding [] = collector := by
  simp [adding]

@[simp] theorem adding_adding (collector : Collector) (first second : List (List Char)) :
    (collector.adding first).adding second = collector.adding (first ++ second) := by
  simp [adding]

/-- Finished lines do not get the text of those that are open. -/
theorem adding_append {collector : Collector} (well : collector.WellFormed)
    (lines : List (List Char)) (text : List Char) :
    (collector.adding lines).append text = (collector.append text).adding lines := by
  have hlines : ((collector.adding lines).append text).lines =
      ((collector.append text).adding lines).lines := by
    rw [lines_append (well.adding lines)]
    simp only [adding, lines_append well, openLines_append, Array.mapIdx_append]
    congr 1
    have finished : ∀ i, ¬ i + collector.lines.size ∈ collector.openLines := by
      intro i hi
      have := well.bounded _ hi
      omega
    simp only [finished, if_false]
    exact Array.mapIdx_eq_iff.mpr (by simp [Function.comp_def])
  exact congrArg (fun lines => { collector with lines }) hlines

/-- What siblings bring one after the other, they bring together. -/
theorem append_adding_append {collector : Collector} (well : collector.WellFormed)
    (first second : List Char) (before behind : List (List Char)) :
    (((collector.append first).adding before).append second).adding behind =
      (collector.append (first ++ second)).adding (before ++ behind) := by
  rw [adding_append (well.append first), append_append well, adding_adding]

/-- Where no line is open yet, what comes behind is all that there is. -/
theorem texts_start (text : List Char) (lines : List (List Char)) :
    ((start.append text).adding lines).texts = lines := by
  have hlines : ((start.append text).adding lines).lines.toList = lines.map List.reverse := by
    simp [adding, append, start]
  have hreverse : ∀ line ∈ lines, (List.reverse ∘ List.reverse) line = id line :=
    fun line _ => List.reverse_reverse line
  rw [texts, hlines, List.map_map, List.map_congr_left hreverse, List.map_id]

theorem append_opening_paragraph {collector : Collector} (well : collector.WellFormed)
    (text : List Char) :
    ((collector.opening .paragraph).append text).lines =
      (collector.append text).lines.push text.reverse := by
  rw [lines_append (well.opening .paragraph), lines_append well]
  simp only [opening, Array.mapIdx_push, List.mem_cons, true_or, if_true, List.append_nil]
  congr 1
  apply Array.ext
  · simp
  · intro i hi _
    have hi : i < collector.lines.size := by simpa using hi
    have : ¬ i = collector.lines.size := Nat.ne_of_lt hi
    simp [this]

/-- The text of an element goes into the lines around it, and that of a paragraph makes
one more line, before all lines below it. -/
theorem closing_opening {collector : Collector} (well : collector.WellFormed) (role : Role)
    (text : List Char) (lines : List (List Char)) :
    (((collector.opening role).append text).adding lines).closing role =
      (collector.append text).adding
        ((if role = .paragraph then [text] else []) ++ lines) := by
  cases role with
  | paragraph =>
    simp only [closing, adding, append_opening_paragraph well]
    simp [opening, append]
  | text => rfl
  | other => rfl

theorem textDepth_opening (collector : Collector) (role : Role) :
    0 < (collector.opening role).textDepth ↔ 0 < collector.textDepth ∨ role = .text := by
  cases role <;> simp [opening]

end DeviceAssets.Document.Collector
