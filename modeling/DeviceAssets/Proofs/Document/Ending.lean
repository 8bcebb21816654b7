import DeviceAssets.Proofs.Document.Reading
import DeviceAssets.Proofs.Xml.Closed

/-!
# Reading a document ends

A reader takes the octets of an event from the front of what is left, and one at least,
whether a bracket closes the markup or the end of the document cuts it off. So a loop that asks
for one event after the other and hands each to a collector comes to the end or to a fault
before it has asked more than once for every octet and once more.
-/

namespace DeviceAssets.Xml

/-! ### What an event takes -/

/-- Markup stands at the front, with its bracket or up to the end of the document. -/
theorem suffix_markup? {bytes rest : Bytes} {token : Token}
    (h : markup? bytes = .ok (some (token, rest))) : rest <:+ bytes := by
  by_cases behind : rest = []
  · rw [behind]
    exact List.nil_suffix
  · obtain ⟨piece, rfl, _⟩ := delimited_markup? h (isClosed_of_markup? h behind)
    exact List.suffix_append piece rest

theorem Token.suffix_next? {bytes rest : Bytes} {token : Token}
    (h : Token.next? bytes = .ok (some (token, rest))) : rest <:+ bytes := by
  cases bytes with
  | nil => cases h
  | cons first back =>
    rw [Token.next?] at h
    split at h
    · exact (suffix_markup? h).trans (List.suffix_cons first back)
    · cases h
      exact (List.dropWhile_suffix _).trans (List.suffix_cons first back)

namespace Reader

/-- An event takes one octet or more from the front of what is left. -/
theorem exists_taken_of_next? {reader rest : Reader} {found : Event}
    (h : reader.next? = .ok (some (found, rest))) :
    ∃ taken, taken ≠ [] ∧ reader.input = taken ++ rest.input := by
  obtain ⟨token, htoken, _⟩ := exists_token_of_next? h
  obtain ⟨taken, htaken⟩ := Token.suffix_next? htoken
  have hshorter := length_next?_lt h
  refine ⟨taken, ?_, htaken.symm⟩
  rintro rfl
  rw [← htaken, List.nil_append] at hshorter
  exact Nat.lt_irrefl _ hshorter

/-- Some events take as many octets at least. -/
theorem Advances.exists_taken {reader rest : Reader} {events : List Event}
    (advances : reader.Advances events rest) :
    ∃ taken, reader.input = taken ++ rest.input ∧ events.length ≤ taken.length := by
  induction advances with
  | nil reader => exact ⟨[], rfl, Nat.le_refl 0⟩
  | cons next _ ih =>
    obtain ⟨first, nonempty, hfirst⟩ := exists_taken_of_next? next
    obtain ⟨others, hothers, hlength⟩ := ih
    have hpositive := List.length_pos_iff.mpr nonempty
    refine ⟨first ++ others, ?_, ?_⟩
    · rw [hfirst, hothers, List.append_assoc]
    · rw [List.length_cons, List.length_append]
      omega

/-- A mark at the beginning of a document is passed over. -/
theorem suffix_ofDocument (document : Bytes) : (ofDocument document).input <:+ document := by
  rw [ofDocument]
  split
  · exact List.drop_suffix 3 document
  · exact List.suffix_refl document

end Reader

end DeviceAssets.Xml

namespace DeviceAssets.Document

open Xml (Event Reader)

/-! ### The loop -/

/-- The lines that a collector gets from a reader that is asked for one event after the other,
`bound` times at most. There is no outcome where that is not often enough. -/
def linesWithin : Nat → Reader → Collector → Option (Except Xml.Error (List String))
  | 0, _, _ => none
  | bound + 1, reader, collector =>
    match reader.next? with
    | .error e => some (.error e)
    | .ok none => some (.ok (kept collector.texts))
    | .ok (some (found, rest)) =>
      match collector.step found with
      | .error e => some (.error e)
      | .ok later => linesWithin bound rest later

/-- The loop asks so many times, no more and no less, and then has its outcome. -/
def EndsAfter (asks : Nat) (reader : Reader) (collector : Collector)
    (outcome : Except Xml.Error (List String)) : Prop :=
  ∀ bound, linesWithin bound reader collector = if asks ≤ bound then some outcome else none

namespace EndsAfter

variable {reader rest : Reader} {collector later : Collector}
  {outcome : Except Xml.Error (List String)} {asks : Nat}

/-- The end of the document and a fault end the loop at once. -/
theorem one (ends : ∀ bound, linesWithin (bound + 1) reader collector = some outcome) :
    EndsAfter 1 reader collector outcome := by
  intro bound
  cases bound with
  | zero => rfl
  | succ bound => rw [ends, if_pos (Nat.le_add_left 1 bound)]

/-- An event asks once, and then the loop goes on. -/
theorem succ
    (goes : ∀ bound, linesWithin (bound + 1) reader collector = linesWithin bound rest later)
    (behind : EndsAfter asks rest later outcome) :
    EndsAfter (asks + 1) reader collector outcome := by
  intro bound
  cases bound with
  | zero => rfl
  | succ bound => simp only [goes, behind bound, Nat.succ_le_succ_iff]

end EndsAfter

/-- Whatever is still to be read, the loop ends, with the lines that all events give. -/
theorem exists_endsAfter (reader : Reader) (collector : Collector) :
    ∃ asks ≤ reader.input.length + 1,
      EndsAfter asks reader collector (linesFrom collector reader.run) := by
  fun_induction Reader.run reader generalizing collector with
  | case1 reader e h =>
    refine ⟨1, Nat.le_add_left 1 _, .one fun bound => ?_⟩
    rw [linesWithin, h]
    rfl
  | case2 reader h =>
    refine ⟨1, Nat.le_add_left 1 _, .one fun bound => ?_⟩
    rw [linesWithin, h]
    rfl
  | case3 reader found rest h transcript ih =>
    have hshorter := Reader.length_next?_lt h
    rw [linesFrom_cons]
    cases hstep : collector.step found with
    | error e =>
      refine ⟨1, Nat.le_add_left 1 _, .one fun bound => ?_⟩
      rw [linesWithin, h]
      simp only [hstep]
      rfl
    | ok later =>
      obtain ⟨asks, hasks, hends⟩ := ih later
      refine ⟨asks + 1, by omega, .succ (fun bound => ?_) hends⟩
      rw [linesWithin, h]
      simp only [hstep]

/-- Reading any document ends, well-formed or not and wherever it breaks off. After some events
what is left is a suffix of the document that is shorter by as many octets at least, and the
next event takes one octet more at least. So the loop over the document asks for an event once
for every octet at most, and once more, and gives the paragraphs or the fault. -/
theorem reading_ends (document : Bytes) :
    (∀ events reader, (Reader.ofDocument document).Advances events reader →
      (∃ taken, document = taken ++ reader.input ∧ events.length ≤ taken.length) ∧
      ∀ found rest, reader.next? = .ok (some (found, rest)) →
        ∃ taken, taken ≠ [] ∧ reader.input = taken ++ rest.input) ∧
    ∃ asks ≤ document.length + 1, ∃ outcome,
      EndsAfter asks (Reader.ofDocument document) .start outcome ∧
      paragraphs document = outcome.mapError .xml := by
  have hsuffix := Reader.suffix_ofDocument document
  constructor
  · intro events reader advances
    constructor
    · obtain ⟨mark, hmark⟩ := hsuffix
      obtain ⟨taken, htaken, hlength⟩ := advances.exists_taken
      refine ⟨mark ++ taken, ?_, ?_⟩
      · rw [List.append_assoc, ← htaken, hmark]
      · rw [List.length_append]
        omega
    · intro found rest next
      exact Reader.exists_taken_of_next? next
  · obtain ⟨asks, hasks, hends⟩ := exists_endsAfter (Reader.ofDocument document) .start
    have hlength := hsuffix.length_le
    exact ⟨asks, by omega, _, hends, rfl⟩

/-- A mark, a document type with brackets in it, a comment, and a start tag that the end of the
document cuts off. -/
def cutOff : Bytes :=
  Reader.byteOrderMark ++ Bytes.ofString "<!DOCTYPE a [<!ENTITY b>]><!----><p"

/-- The start tag is read behind two other events, and the loop ends without a line. -/
theorem reading_ends_cutOff :
    ∃ reader rest : Reader, (Reader.ofDocument cutOff).Advances [.other, .other] reader ∧
      (∃ taken, cutOff = taken ++ reader.input ∧ 2 ≤ taken.length) ∧
      reader.next? = .ok (some (.opened ⟨none, ['p'.toUInt8]⟩, rest)) ∧
      (∃ taken, taken ≠ [] ∧ reader.input = taken ++ rest.input) ∧
      ∃ asks ≤ 39, EndsAfter asks (Reader.ofDocument cutOff) .start (.ok []) := by
  have hdoctype : (Reader.ofDocument cutOff).next? =
      .ok (some (.other, ⟨Bytes.ofString "<!----><p", []⟩)) := by
    rw [← toOption_eq_some_iff]
    decide +kernel
  have hcomment : Reader.next? ⟨Bytes.ofString "<!----><p", []⟩ =
      .ok (some (.other, ⟨Bytes.ofString "<p", []⟩)) := by
    rw [← toOption_eq_some_iff]
    decide +kernel
  have hstart : Reader.next? ⟨Bytes.ofString "<p", []⟩ =
      .ok (some (.opened ⟨none, ['p'.toUInt8]⟩,
        ⟨[], [⟨['p'.toUInt8], Xml.Scope.initial⟩]⟩)) := by
    rw [← toOption_eq_some_iff]
    decide +kernel
  have hlines : paragraphs cutOff = .ok [] := by
    rw [← toOption_eq_some_iff]
    decide +kernel
  have hadvances := Reader.Advances.cons hdoctype (.cons hcomment (.nil _))
  obtain ⟨hevents, asks, hasks, outcome, hends, houtcome⟩ := reading_ends cutOff
  obtain ⟨htaken, hnext⟩ := hevents _ _ hadvances
  rw [hlines, eq_comm, mapError_eq_ok_iff] at houtcome
  subst houtcome
  exact ⟨_, _, hadvances, htaken, hstart, hnext _ _ hstart, asks, hasks, hends⟩

end DeviceAssets.Document
