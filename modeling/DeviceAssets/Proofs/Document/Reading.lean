import DeviceAssets.Document.Paragraphs
import DeviceAssets.Proofs.Xml.Tag

/-!
# Reading on from a place

A document is read event by event, and what has been read is known to the collector
alone. So the lines of a document are those that a collector gets from the place where
reading has come to, and one event moves both the collector and the place.
-/

namespace DeviceAssets.Xml.Reader

theorem run_of_next? {reader rest : Reader} {found : Event}
    (h : reader.next? = .ok (some (found, rest))) :
    reader.run = ⟨found :: rest.run.events, rest.run.failure?⟩ := by
  rw [run]
  split
  · rename_i hnext
    rw [h] at hnext
    cases hnext
  · rename_i hnext
    rw [h] at hnext
    cases hnext
  · rename_i hnext
    rw [h] at hnext
    cases hnext
    rfl

/-- Octets that begin no markup are a text, up to the next opening bracket. -/
theorem next?_text {first : UInt8} (plain : first ≠ '<'.toUInt8) (rest : Bytes)
    (frames : List Frame) :
    next? ⟨first :: rest, frames⟩ =
      .ok (some (.text (first :: rest.takeWhile (· != '<'.toUInt8)),
        ⟨rest.dropWhile (· != '<'.toUInt8), frames⟩)) := by
  rw [next?, Token.next?, if_neg plain]
  rfl

theorem next?_text_append {octets : Bytes} (nonempty : octets ≠ [])
    (free : '<'.toUInt8 ∉ octets) (rest : Bytes) (frames : List Frame) :
    next? ⟨octets ++ '<'.toUInt8 :: rest, frames⟩ =
      .ok (some (.text octets, ⟨'<'.toUInt8 :: rest, frames⟩)) := by
  obtain ⟨first, more, rfl⟩ := List.exists_cons_of_ne_nil nonempty
  have hfirst : first ≠ '<'.toUInt8 := fun h => free (h ▸ List.mem_cons_self)
  have hmore := bne_of_mem fun h => free (List.mem_cons_of_mem first h)
  rw [List.cons_append, next?_text hfirst, List.takeWhile_append_of_pos hmore,
    List.dropWhile_append_of_pos hmore]
  simp

end DeviceAssets.Xml.Reader

namespace DeviceAssets.Document

open Xml (Event Frame Reader Transcript)

def linesFrom (collector : Collector) (transcript : Transcript) :
    Except Xml.Error (List String) := do
  let collector ← transcript.events.foldlM Collector.step collector
  match transcript.failure? with
  | some e => .error e
  | none => .ok (kept collector.texts)

theorem linesOf_eq_linesFrom (transcript : Transcript) :
    linesOf transcript = linesFrom Collector.start transcript := rfl

theorem linesFrom_cons (collector : Collector) (event : Event) (rest : List Event)
    (failure? : Option Xml.Error) :
    linesFrom collector ⟨event :: rest, failure?⟩ =
      (collector.step event).bind fun collector => linesFrom collector ⟨rest, failure?⟩ := by
  simp only [linesFrom, List.foldlM_cons]
  cases collector.step event <;> rfl

/-- Two collectors that go on alike give the same lines. -/
theorem linesFrom_cons_congr {rest other : List Event} {failure? : Option Xml.Error}
    (same : ∀ collector, linesFrom collector ⟨rest, failure?⟩ =
      linesFrom collector ⟨other, failure?⟩) (collector : Collector) (event : Event) :
    linesFrom collector ⟨event :: rest, failure?⟩ =
      linesFrom collector ⟨event :: other, failure?⟩ := by
  rw [linesFrom_cons, linesFrom_cons]
  cases collector.step event with
  | error e => rfl
  | ok collector => exact same collector

/-! ### One event -/

theorem linesFrom_run {reader rest : Reader} {found : Event}
    (h : reader.next? = .ok (some (found, rest))) (collector : Collector) :
    linesFrom collector reader.run =
      (collector.step found).bind fun collector => linesFrom collector rest.run := by
  rw [Reader.run_of_next? h, linesFrom_cons]

/-- Outside text elements everything up to the next tag is passed over. -/
theorem linesFrom_dropWhile {collector : Collector} (outside : collector.textDepth = 0)
    (input : Bytes) (frames : List Frame) :
    linesFrom collector (Reader.run ⟨input, frames⟩) =
      linesFrom collector (Reader.run ⟨input.dropWhile (· != '<'.toUInt8), frames⟩) := by
  cases input with
  | nil => rfl
  | cons first rest =>
    by_cases hfirst : first = '<'.toUInt8
    · subst hfirst
      rfl
    · have hnext := Reader.next?_text hfirst rest frames
      have hdepth : ¬ 0 < collector.textDepth := by omega
      have hdrop : (first :: rest).dropWhile (· != '<'.toUInt8) =
          rest.dropWhile (· != '<'.toUInt8) := by
        simp [hfirst]
      rw [linesFrom_run hnext, Collector.step, if_neg hdepth, hdrop]
      rfl

end DeviceAssets.Document
