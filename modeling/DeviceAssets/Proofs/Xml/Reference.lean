import DeviceAssets.Xml.Reference

/-!
# Unescaping undoes escaping

A text is written into a document with references in place of the two characters that
begin markup. Reading it replaces exactly these references, so that a text which looks
like a reference comes back as it was.
-/

namespace DeviceAssets.Xml

def escapeChar (c : Char) : List Char :=
  if c = '&' then ['&', 'a', 'm', 'p', ';']
  else if c = '<' then ['&', 'l', 't', ';']
  else [c]

def escape (text : List Char) : List Char :=
  text.flatMap escapeChar

theorem unescapeFrom_nil (start total : Nat) : unescapeFrom start total [] = .ok [] := by
  rw [unescapeFrom]

theorem unescapeFrom_cons {c : Char} (h : c ≠ '&') (start total : Nat) (rest : List Char) :
    unescapeFrom start total (c :: rest) =
      (unescapeFrom (start + c.utf8Size) total rest).map (c :: ·) := by
  rw [unescapeFrom, if_neg h]
  cases unescapeFrom (start + c.utf8Size) total rest <;> rfl

/-- A reference is replaced, and reading goes on behind its semicolon. -/
theorem unescapeFrom_reference {name : List Char} (free : name.all inReference = true)
    {start : Nat} {replaced : Char}
    (known : character start (start + 1 + octetCount name) name = .ok replaced)
    (total : Nat) (rest : List Char) :
    unescapeFrom start total ('&' :: (name ++ ';' :: rest)) =
      (unescapeFrom (start + 1 + octetCount name + 1) total rest).map (replaced :: ·) := by
  have hfree : ∀ c ∈ name, inReference c = true := List.all_eq_true.mp free
  have hstop : inReference ';' = false := by decide
  have htake : (name ++ ';' :: rest).takeWhile inReference = name := by
    rw [List.takeWhile_append_of_pos hfree, List.takeWhile_cons, hstop]
    simp
  have hdrop : (name ++ ';' :: rest).dropWhile inReference = ';' :: rest := by
    rw [List.dropWhile_append_of_pos hfree, List.dropWhile_cons, hstop]
    simp
  rw [unescapeFrom, if_pos rfl]
  simp only [htake]
  split
  · rename_i back hback
    rw [hdrop, List.cons.injEq] at hback
    rw [known, hback.2]
    cases unescapeFrom (start + 1 + octetCount name + 1) total back <;> rfl
  · rename_i hother
    exact absurd hdrop (hother rest)

theorem unescapeFrom_escape (start total : Nat) (text : List Char) :
    unescapeFrom start total (escape text) = .ok text := by
  induction text generalizing start with
  | nil => exact unescapeFrom_nil start total
  | cons c rest ih =>
    rw [escape, List.flatMap_cons]
    change unescapeFrom start total (escapeChar c ++ escape rest) = _
    rw [escapeChar]
    split
    · subst c
      have hknown : character start (start + 1 + octetCount ['a', 'm', 'p']) ['a', 'm', 'p'] =
          .ok '&' := rfl
      have h := unescapeFrom_reference (by decide) hknown total (escape rest)
      rw [ih] at h
      exact h
    · split
      · subst c
        have hknown : character start (start + 1 + octetCount ['l', 't']) ['l', 't'] =
            .ok '<' := rfl
        have h := unescapeFrom_reference (by decide) hknown total (escape rest)
        rw [ih] at h
        exact h
      · rename_i hamp _
        exact (unescapeFrom_cons hamp start total (escape rest)).trans (by rw [ih]; rfl)

/-- A text that has been escaped is read back as it was. -/
theorem unescape_escape (text : List Char) : unescape (escape text) = .ok text :=
  unescapeFrom_escape 0 _ text

/-- No markup begins in a text that has been escaped. -/
theorem lt_notMem_escape (text : List Char) : '<' ∉ escape text := by
  intro h
  obtain ⟨c, _, hc⟩ := List.mem_flatMap.mp h
  unfold escapeChar at hc
  split at hc
  · exact absurd hc (by decide)
  · split at hc
    · exact absurd hc (by decide)
    · rename_i hlt
      exact hlt (List.mem_singleton.mp hc).symm

end DeviceAssets.Xml
