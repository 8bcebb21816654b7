import DeviceAssets.Proofs.Document.Collector
import DeviceAssets.Proofs.Document.Forest
import DeviceAssets.Proofs.Document.Reading
import DeviceAssets.Proofs.Xml.Nesting

/-!
# Streaming gives what the forest says

Reading events one by one, with places of open lines and a count of open text elements,
gives the lines of the forest that the events make up. Events that close all elements are
related to their forest first; other events are read as if the elements that stay open
were closed at the end.
-/

namespace DeviceAssets.Document

open Xml (Event Name Nested Transcript)

namespace Collector

theorem foldlM_step_cons (collector : Collector) (event : Event) (rest : List Event) :
    (event :: rest).foldlM step collector =
      (collector.step event).bind fun collector => rest.foldlM step collector := by
  rw [List.foldlM_cons]
  rfl

theorem step_text {collector : Collector} {within : Bool}
    (depth : within = decide (0 < collector.textDepth)) (octets : Bytes) :
    collector.step (.text octets) =
      if within then (shownText octets).map collector.append else .ok collector := by
  simp [step, depth]

theorem step_cdata {collector : Collector} {within : Bool}
    (depth : within = decide (0 < collector.textDepth)) (octets : Bytes) :
    collector.step (.cdata octets) =
      if within then .ok (collector.append (Utf8.decodeLenient octets)) else .ok collector := by
  simp [step, depth]

end Collector

namespace Forest

/-- Closing what is still open changes no line. -/
theorem linesFrom_eventsBehind_nil (collector : Collector) (names : List Name)
    (failure? : Option Xml.Error) :
    linesFrom collector ⟨eventsBehind names [], failure?⟩ =
      linesFrom collector ⟨[], failure?⟩ := by
  induction names generalizing collector with
  | nil => rfl
  | cons name names ih =>
    rw [eventsBehind, linesFrom_cons]
    refine (ih (collector.closing (roleOf name))).trans ?_
    simp only [linesFrom, List.foldlM_nil, pure_bind, Collector.texts,
      Collector.lines_closing]

/-- The forest that events are read as gives the lines that the events give, and what
follows the elements that stay open comes behind it. -/
theorem linesFrom_siblings {names : List Name} {events : List Event}
    (nested : Nested names events) (failure? : Option Xml.Error) (collector : Collector) :
    linesFrom collector ⟨events, failure?⟩ =
      linesFrom collector
        ⟨(siblings events).1.events ++ eventsBehind names (siblings events).2, failure?⟩ := by
  induction events generalizing names collector with
  | nil => exact (linesFrom_eventsBehind_nil collector names failure?).symm
  | cons event rest ih =>
    cases event with
    | opened name =>
      have hnested : Nested (name :: names) rest := nested
      have hrest := linesFrom_cons_congr (ih hnested) collector (.opened name)
      rw [hrest, siblings]
      cases hs : siblings rest with
      | mk children later =>
        cases later with
        | nil => simp [Forest.events, eventsBehind]
        | cons behind outer => simp [Forest.events, eventsBehind]
    | closed name =>
      cases names with
      | nil => exact nested.elim
      | cons innermost outer =>
        obtain ⟨rfl, hnested⟩ := nested
        exact linesFrom_cons_congr (ih hnested) collector (.closed name)
    | empty name =>
      rw [linesFrom_cons, Collector.step_empty]
      have hnested : Nested names rest := nested
      refine (ih hnested _).trans ?_
      simp only [siblings, Forest.events, List.nil_append, List.cons_append]
      rw [linesFrom_cons]
      simp only [Collector.step, Except.bind]
      rw [linesFrom_cons]
      rfl
    | text octets | cdata octets =>
      have hnested : Nested names rest := nested
      exact linesFrom_cons_congr (ih hnested) collector _
    | other => exact (linesFrom_cons collector .other rest failure?).trans (ih nested collector)

theorem withinText_opening {collector : Collector} {within : Bool}
    (depth : within = decide (0 < collector.textDepth)) (name : Name) :
    withinText within name = decide (0 < (collector.opening (roleOf name)).textDepth) := by
  simp [withinText, depth, Collector.textDepth_opening]

/-- What a forest does to a collector: its text goes into the open lines, and its own
lines come behind them. -/
def bring (within : Bool) (collector : Collector) (forest : Forest) :
    Except Xml.Error Collector :=
  match forest.fault? within with
  | some e => .error e
  | none => .ok ((collector.append (forest.shown within)).adding (forest.lines within))

/-- What siblings bring behind some text and some lines. -/
theorem bring_append_adding {collector : Collector} (well : collector.WellFormed)
    (within : Bool) (text : List Char) (before : List (List Char)) (behind : Forest) :
    behind.bring within ((collector.append text).adding before) =
      match behind.fault? within with
      | some e => .error e
      | none => .ok ((collector.append (text ++ behind.shown within)).adding
          (before ++ behind.lines within)) := by
  rw [bring, Collector.append_adding_append well]

theorem bring_append {collector : Collector} (well : collector.WellFormed)
    (within : Bool) (text : List Char) (behind : Forest) :
    behind.bring within (collector.append text) =
      match behind.fault? within with
      | some e => .error e
      | none => .ok ((collector.append (text ++ behind.shown within)).adding
          (behind.lines within)) := by
  have h := bring_append_adding well within text [] behind
  simpa using h

/-- A whole forest, read event by event, brings its text and its lines. -/
theorem foldlM_events (forest : Forest) {collector : Collector}
    (well : collector.WellFormed) {within : Bool}
    (depth : within = decide (0 < collector.textDepth)) :
    forest.events.foldlM Collector.step collector = forest.bring within collector := by
  induction forest generalizing collector within with
  | nil =>
    rw [bring, shown, lines, Collector.append_nil well, Collector.adding_nil]
    rfl
  | element name children behind ihChildren ihBehind =>
    have hchildren := ihChildren (well.opening (roleOf name)) (withinText_opening depth name)
    rw [events, Collector.foldlM_step_cons, Collector.step, Except.bind, List.foldlM_append,
      hchildren]
    simp only [bring, fault?, shown, lines]
    cases children.fault? (withinText within name) with
    | some e => rfl
    | none =>
      have hclosed := Collector.closing_opening well (roleOf name)
        (children.shown (withinText within name)) (children.lines (withinText within name))
      have hbehind := ihBehind ((well.append (children.shown (withinText within name))).adding
        ((if roleOf name = .paragraph then [children.shown (withinText within name)] else []) ++
          children.lines (withinText within name))) depth
      change behind.events.foldlM Collector.step _ = _
      rw [hclosed, hbehind, bring_append_adding well, List.append_assoc]
      rfl
  | text octets behind ih =>
    rw [events, Collector.foldlM_step_cons, Collector.step_text depth]
    cases within with
    | false => exact ih well depth
    | true =>
      simp only [bring, fault?, shown, lines, textFault?, if_true]
      cases Collector.shownText octets with
      | error e => rfl
      | ok text => exact (ih (well.append text) depth).trans (bring_append well true text behind)
  | cdata octets behind ih =>
    rw [events, Collector.foldlM_step_cons, Collector.step_cdata depth]
    cases within with
    | false => exact ih well depth
    | true =>
      have hbehind := ih (well.append (Utf8.decodeLenient octets)) depth
      exact hbehind.trans (bring_append well true _ behind)

/-- A collector in which nothing stands gives the lines of the forest. -/
theorem linesFrom_start_events (forest : Forest) (failure? : Option Xml.Error) :
    linesFrom Collector.start ⟨forest.events, failure?⟩ = forest.linesOr failure? := by
  have hdepth : false = decide (0 < Collector.start.textDepth) := rfl
  have hrun := forest.foldlM_events Collector.start_wellFormed hdepth
  simp only [linesFrom, linesOr]
  rw [hrun, bring]
  cases forest.fault? false with
  | some e => rfl
  | none =>
    have hlines := Collector.texts_start (forest.shown false) (forest.lines false)
    cases failure? with
    | some e => rfl
    | none => exact congrArg (fun lines => Except.ok (kept lines)) hlines

end Forest

theorem linesOf_of_nested {transcript : Transcript} (nested : Nested [] transcript.events) :
    linesOf transcript = (Forest.ofEvents transcript.events).linesOr transcript.failure? := by
  have hsiblings := Forest.linesFrom_siblings nested transcript.failure? Collector.start
  rw [Forest.eventsBehind, List.append_nil] at hsiblings
  exact hsiblings.trans (Forest.linesFrom_start_events _ _)

def leftOpen : Transcript where
  events :=
    [.opened ⟨some wordNamespace, ['p'.toUInt8]⟩, .text [0x78],
      .opened ⟨some wordNamespace, ['t'.toUInt8]⟩, .text [0x61],
      .opened ⟨some wordNamespace, ['p'.toUInt8]⟩, .cdata [0x26]]
  failure? := none

end DeviceAssets.Document
