import DeviceAssets.Proofs.Xml.Nesting
import DeviceAssets.Proofs.Xml.Tag
import Mathlib.Data.List.TakeWhile

/-!
# Markup with a closing bracket

Markup that a bracket closes is known when the bracket has been read: what stands behind
it is left alone, and other octets in its place would be left alone too. Only the end of a
document can end markup without a bracket, and more octets could then become part of it.
-/

namespace DeviceAssets.Xml

/-- Whether a bracket closes the markup whose opening bracket stands before `bytes`. Markup
that begins with an exclamation mark is not read without one. -/
def isClosed (bytes : Bytes) : Bool :=
  match bytes with
  | [] => false
  | first :: rest =>
    if first = '!'.toUInt8 then true
    else if first = '/'.toUInt8 || first = '?'.toUInt8 then rest.contains '>'.toUInt8
    else (tag none bytes).1 != bytes

/-- `scan` goes through the front of `bytes` and leaves `rest`, and whatever it leaves, the
same front gives the same `result`. -/
def Delimited {β : Type} (scan result : Bytes → β) (bytes rest : Bytes) : Prop :=
  ∃ piece, bytes = piece ++ rest ∧ ∀ more, scan (piece ++ more) = result more

namespace Delimited

variable {β γ : Type} {scan result : Bytes → β} {bytes rest : Bytes}

theorem map (through : β → γ) (h : Delimited scan result bytes rest) :
    Delimited (fun more => through (scan more)) (fun more => through (result more))
      bytes rest := by
  obtain ⟨piece, hbytes, hpiece⟩ := h
  exact ⟨piece, hbytes, fun more => congrArg through (hpiece more)⟩

/-- What is read behind an octet is read together with it. -/
theorem cons {whole : Bytes → γ} {octet : UInt8} (through : β → γ)
    (h : Delimited scan result bytes rest)
    (step : ∀ more, whole (octet :: more) = through (scan more)) :
    Delimited whole (fun more => through (result more)) (octet :: bytes) rest := by
  obtain ⟨piece, rfl, hpiece⟩ := h
  refine ⟨octet :: piece, rfl, fun more => ?_⟩
  rw [List.cons_append, step, hpiece]

end Delimited

/-! ### Looking for the bracket -/

theorem delimited_upTo {stop : UInt8} {bytes : Bytes} (h : stop ∈ bytes) :
    Delimited (upTo stop) (fun more => ((upTo stop bytes).1, more)) bytes (upTo stop bytes).2 := by
  obtain ⟨before, behind, rfl, free⟩ := List.eq_append_cons_of_mem h
  rw [upTo_append free]
  refine ⟨before ++ [stop], by simp, fun more => ?_⟩
  rw [List.append_assoc]
  exact upTo_append free more

/-- An octet closes a tag or belongs to it, whatever follows. -/
theorem tag_cons (quote? : Option UInt8) (octet : UInt8) :
    (∀ more, tag quote? (octet :: more) = ([], more)) ∨
      ∃ later?, ∀ more, tag quote? (octet :: more) =
        (octet :: (tag later? more).1, (tag later? more).2) := by
  cases quote? with
  | some quote => exact .inr ⟨_, fun _ => rfl⟩
  | none =>
    by_cases hclose : octet = '>'.toUInt8
    · exact .inl fun more => by rw [tag, if_pos hclose]
    · exact .inr ⟨_, fun more => by rw [tag, if_neg hclose]⟩

/-- A tag that does not reach to the end of what is there is closed by a bracket. -/
theorem delimited_tag {quote? : Option UInt8} {octet : UInt8} {back content rest : Bytes}
    (h : tag quote? (octet :: back) = (content, rest)) (closed : content ≠ octet :: back) :
    Delimited (fun more => tag quote? (octet :: more)) (fun more => (content, more)) back rest := by
  induction back generalizing quote? octet content with
  | nil =>
    rcases tag_cons quote? octet with hcloses | ⟨later?, hpasses⟩
    · rw [hcloses] at h
      cases h
      exact ⟨[], rfl, hcloses⟩
    · rw [hpasses] at h
      cases h
      exact absurd rfl closed
  | cons next back ih =>
    rcases tag_cons quote? octet with hcloses | ⟨later?, hpasses⟩
    · rw [hcloses] at h
      cases h
      exact ⟨[], rfl, hcloses⟩
    · rw [hpasses] at h
      cases h
      have hinner : (tag later? (next :: back)).1 ≠ next :: back :=
        fun hsame => closed (congrArg (octet :: ·) hsame)
      refine (ih rfl hinner).cons (fun cut => (octet :: cut.1, cut.2)) ?_
      exact fun more => hpasses (next :: more)

theorem upToClosing_cons (closes : Bytes → Bool) (passed : Bytes) (octet : UInt8) :
    (∀ more, upToClosing closes passed (octet :: more) = some (passed.reverse, more)) ∨
      ∀ more, upToClosing closes passed (octet :: more) =
        upToClosing closes (octet :: passed) more := by
  by_cases hcloses : octet = '>'.toUInt8 && closes passed
  · exact .inl fun more => by rw [upToClosing, if_pos hcloses]
  · exact .inr fun more => by rw [upToClosing, if_neg hcloses]

/-- Looking for the bracket that closes takes at least one octet. -/
theorem delimited_upToClosing {closes : Bytes → Bool} {passed : Bytes} {octet : UInt8}
    {back content rest : Bytes}
    (h : upToClosing closes passed (octet :: back) = some (content, rest)) :
    Delimited (fun more => upToClosing closes passed (octet :: more))
      (fun more => some (content, more)) back rest := by
  induction back generalizing passed octet with
  | nil =>
    rcases upToClosing_cons closes passed octet with hcloses | hpasses
    · rw [hcloses] at h
      cases h
      exact ⟨[], rfl, hcloses⟩
    · rw [hpasses] at h
      cases h
  | cons next back ih =>
    rcases upToClosing_cons closes passed octet with hcloses | hpasses
    · rw [hcloses] at h
      cases h
      exact ⟨[], rfl, hcloses⟩
    · rw [hpasses] at h
      exact (ih h).cons id fun more => hpasses (next :: more)

/-! ### Markup -/

theorem delimited_bang {bytes rest : Bytes} {token : Token}
    (h : bang bytes = .ok (token, rest)) :
    Delimited bang (fun more => .ok (token, more)) bytes rest := by
  cases bytes with
  | nil => cases h
  | cons first back =>
    unfold bang at h
    dsimp only at h
    repeat' split at h
    all_goals cases h
    -- What is left are the three kinds, each with the bracket that was found for it.
    all_goals
      obtain ⟨piece, rfl, hpiece⟩ := delimited_upToClosing ‹upToClosing _ _ _ = some _›
      refine ⟨first :: piece, rfl, fun more => ?_⟩
      simp_all [bang]

theorem delimited_declaration {bytes rest : Bytes} {token : Token}
    (h : declaration bytes = .ok (token, rest)) (closed : '>'.toUInt8 ∈ bytes) :
    Delimited declaration (fun more => .ok (token, more)) bytes rest := by
  obtain ⟨piece, hbytes, hpiece⟩ := delimited_upTo closed
  unfold declaration at h
  dsimp only at h
  split at h
  · rename_i hends
    cases h
    refine ⟨piece, hbytes, fun more => ?_⟩
    simp only [declaration, hpiece, hends, if_true]
  · cases h

theorem delimited_closing {bytes rest : Bytes} {token : Token}
    (h : closing bytes = (token, rest)) (closed : '>'.toUInt8 ∈ bytes) :
    Delimited closing (fun more => (token, more)) bytes rest := by
  cases h
  exact (delimited_upTo closed).map fun cut : Bytes × Bytes => (Token.close cut.1, cut.2)

def elementToken (content : Bytes) : Token :=
  if content.getLast? = some '/'.toUInt8 then .empty content.dropLast else .start content

theorem element_eq (bytes : Bytes) :
    element bytes = (elementToken (tag none bytes).1, (tag none bytes).2) := by
  simp only [element, elementToken]
  split <;> rfl

theorem delimited_element {first : UInt8} {back rest : Bytes} {token : Token}
    (h : element (first :: back) = (token, rest))
    (closed : (tag none (first :: back)).1 ≠ first :: back) :
    Delimited (fun more => element (first :: more)) (fun more => (token, more)) back rest := by
  rw [element_eq] at h
  cases hcut : tag none (first :: back) with
  | mk content behind =>
    rw [hcut] at h closed
    cases h
    have hpiece := (delimited_tag hcut closed).map fun cut => (elementToken cut.1, cut.2)
    simpa only [element_eq] using hpiece

def markupFrom (first : UInt8) (bytes : Bytes) : Except Error (Token × Bytes) :=
  if first = '!'.toUInt8 then bang bytes
  else if first = '/'.toUInt8 then .ok (closing bytes)
  else if first = '?'.toUInt8 then declaration bytes
  else .ok (element (first :: bytes))

theorem markup?_cons (first : UInt8) (bytes : Bytes) :
    markup? (first :: bytes) = (markupFrom first bytes).map some := by
  rw [markup?, markupFrom]
  split
  · rfl
  · split
    · rfl
    · split <;> rfl

/-- The first octet says which of four kinds of markup there is, and what closes it. -/
theorem markupFrom_cases (first : UInt8) :
    (markupFrom first = bang ∧ ∀ bytes, isClosed (first :: bytes) = true) ∨
    (markupFrom first = (fun bytes => .ok (closing bytes)) ∧
      ∀ bytes, isClosed (first :: bytes) = true ↔ '>'.toUInt8 ∈ bytes) ∨
    (markupFrom first = declaration ∧
      ∀ bytes, isClosed (first :: bytes) = true ↔ '>'.toUInt8 ∈ bytes) ∨
    (markupFrom first = (fun bytes => .ok (element (first :: bytes))) ∧
      ∀ bytes, isClosed (first :: bytes) = true ↔
        (tag none (first :: bytes)).1 ≠ first :: bytes) := by
  by_cases hbang : first = '!'.toUInt8
  · left
    constructor
    · funext bytes
      rw [markupFrom, if_pos hbang]
    · intro bytes
      rw [isClosed, if_pos hbang]
  · right
    by_cases hslash : first = '/'.toUInt8
    · left
      constructor
      · funext bytes
        rw [markupFrom, if_neg hbang, if_pos hslash]
      · intro bytes
        rw [isClosed, if_neg hbang, if_pos (by simp [hslash]), List.contains_iff_mem]
    · right
      by_cases hquestion : first = '?'.toUInt8
      · left
        constructor
        · funext bytes
          rw [markupFrom, if_neg hbang, if_neg hslash, if_pos hquestion]
        · intro bytes
          rw [isClosed, if_neg hbang, if_pos (by simp [hquestion]), List.contains_iff_mem]
      · right
        constructor
        · funext bytes
          rw [markupFrom, if_neg hbang, if_neg hslash, if_neg hquestion]
        · intro bytes
          rw [isClosed, if_neg hbang, if_neg (by simp [hslash, hquestion]), bne_iff_ne]

theorem delimited_markupFrom {first : UInt8} {bytes rest : Bytes} {token : Token}
    (h : markupFrom first bytes = .ok (token, rest))
    (closed : isClosed (first :: bytes) = true) :
    Delimited (markupFrom first) (fun more => .ok (token, more)) bytes rest := by
  rcases markupFrom_cases first with
    ⟨hfrom, _⟩ | ⟨hfrom, hclosed⟩ | ⟨hfrom, hclosed⟩ | ⟨hfrom, hclosed⟩ <;> rw [hfrom] at h ⊢
  · exact delimited_bang h
  · exact (delimited_closing (Except.ok.inj h) ((hclosed bytes).mp closed)).map Except.ok
  · exact delimited_declaration h ((hclosed bytes).mp closed)
  · exact (delimited_element (Except.ok.inj h) ((hclosed bytes).mp closed)).map Except.ok

/-- What the closing bracket closes does not depend on what stands behind it. -/
theorem delimited_markup? {bytes rest : Bytes} {token : Token}
    (h : markup? bytes = .ok (some (token, rest))) (closed : isClosed bytes = true) :
    Delimited markup? (fun more => .ok (some (token, more))) bytes rest := by
  cases bytes with
  | nil => cases h
  | cons first bytes =>
    rw [markup?_cons] at h
    obtain ⟨cut, hfrom, hcut⟩ := map_eq_ok_iff.mp h
    cases hcut
    exact (delimited_markupFrom hfrom closed).cons (Except.map some) (markup?_cons first)

/-! ### Only the end of a document lacks the bracket -/

theorem upTo_of_notMem {stop : UInt8} {bytes : Bytes} (free : stop ∉ bytes) :
    (upTo stop bytes).2 = [] := by
  have hdrop : bytes.dropWhile (· != stop) = [] :=
    List.dropWhile_eq_nil_iff.mpr (bne_of_mem free)
  rw [upTo, hdrop]
  rfl

theorem length_tag_add_le (quote? : Option UInt8) (bytes : Bytes) :
    (tag quote? bytes).1.length + (tag quote? bytes).2.length ≤ bytes.length := by
  induction bytes generalizing quote? with
  | nil => simp [tag]
  | cons octet rest ih =>
    rcases tag_cons quote? octet with hcloses | ⟨later?, hpasses⟩
    · simp [hcloses]
    · have := ih later?
      simp only [hpasses, List.length_cons]
      omega

theorem isClosed_of_markupFrom {first : UInt8} {bytes rest : Bytes} {token : Token}
    (h : markupFrom first bytes = .ok (token, rest)) (behind : rest ≠ []) :
    isClosed (first :: bytes) = true := by
  rcases markupFrom_cases first with
    ⟨hfrom, hclosed⟩ | ⟨hfrom, hclosed⟩ | ⟨hfrom, hclosed⟩ | ⟨hfrom, hclosed⟩ <;> rw [hfrom] at h
  · exact hclosed bytes
  · rw [hclosed]
    refine Decidable.byContradiction fun free => behind ?_
    cases h
    exact upTo_of_notMem free
  · rw [hclosed]
    refine Decidable.byContradiction fun free => behind ?_
    unfold declaration at h
    dsimp only at h
    split at h
    · cases h
      exact upTo_of_notMem free
    · cases h
  · rw [hclosed]
    intro hreach
    have hlength := length_tag_add_le none (first :: bytes)
    rw [hreach] at hlength
    apply behind
    rw [Except.ok.injEq, element_eq] at h
    cases h
    exact List.eq_nil_of_length_eq_zero (by omega)

/-- Markup with something behind it has a closing bracket. -/
theorem isClosed_of_markup? {bytes rest : Bytes} {token : Token}
    (h : markup? bytes = .ok (some (token, rest))) (behind : rest ≠ []) :
    isClosed bytes = true := by
  cases bytes with
  | nil => cases h
  | cons first bytes =>
    rw [markup?_cons] at h
    obtain ⟨cut, hfrom, hcut⟩ := map_eq_ok_iff.mp h
    cases hcut
    exact isClosed_of_markupFrom hfrom behind

/-- An event of markup that a bracket closes is the same whatever stands behind it. -/
theorem Reader.delimited_next? {bytes back : Bytes} {frames later : List Frame} {found : Event}
    (h : Reader.next? ⟨'<'.toUInt8 :: bytes, frames⟩ = .ok (some (found, ⟨back, later⟩)))
    (closed : isClosed bytes = true) :
    Delimited (fun more => Reader.next? ⟨'<'.toUInt8 :: more, frames⟩)
      (fun more => .ok (some (found, ⟨more, later⟩))) bytes back := by
  obtain ⟨token, htoken, hevent⟩ := Reader.exists_token_of_next? h
  obtain ⟨piece, hbytes, hpiece⟩ := delimited_markup? htoken closed
  refine ⟨piece, hbytes, fun more => ?_⟩
  have hmore : Token.next? ('<'.toUInt8 :: (piece ++ more)) = .ok (some (token, more)) :=
    hpiece more
  have hscope : Reader.scope ⟨'<'.toUInt8 :: (piece ++ more), frames⟩ =
      Reader.scope ⟨'<'.toUInt8 :: bytes, frames⟩ := rfl
  simp only [Reader.next?, hmore, hscope, hevent]
  rfl

end DeviceAssets.Xml
