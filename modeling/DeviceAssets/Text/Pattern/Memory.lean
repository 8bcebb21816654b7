import DeviceAssets.Split
import DeviceAssets.Text.Pattern
import DeviceAssets.Text.Utf8

/-!
# The memory for a pattern

Patterns are found by two automata, which take the octets of a text from its beginning on
and from its end on. `Pattern.memory` counts the octets that the states of an automaton
take up: every state has a fixed size, and what leads from it to other states comes on
top. A repetition has states of its own for each time, so that a short pattern may be too
large.
-/

namespace DeviceAssets.Text

inductive Direction where
  | forwards
  | backwards
  deriving DecidableEq, Repr

namespace Memory

def state : Nat := 32

/-- The octets of a step that a state takes with one of several octets of the text. -/
def step : Nat := 8

/-- The octets of a step that a state takes without an octet of the text. -/
def choice : Nat := 4

/-- The octets of a state with some steps; a single octet of the text leads on without any
choice. -/
def stateWithSteps (count : Nat) : Nat := state + if count = 1 then 0 else count * step

end Memory

/-! ### Sets of characters -/

/-- For each place of an octet, the octets there of characters with UTF-8 forms of the same
length; any octets that are allowed at their places make up one of these forms. -/
abbrev OctetBox := List Interval

namespace OctetBox

/-- The octets of numbers from `low` to `high` to the base 64, from the highest digit on
with `digits` digits behind it. Numbers that differ in a digit belong to different boxes
unless all lower digits are free. -/
def ofNumbers : Nat → Nat → Nat → List OctetBox
  | 0, low, high => [[⟨low, high⟩]]
  | digits + 1, low, high =>
    let unit := 1 <<< (6 * (digits + 1))
    let first := low / unit
    let last := high / unit
    let inside (digit low high : Nat) : List OctetBox :=
      (ofNumbers digits low high).map (⟨digit, digit⟩ :: ·)
    if first = last then inside first (low % unit) (high % unit)
    else
      let isCut := low % unit ≠ 0
      let isShort := high % unit ≠ unit - 1
      let fullFrom := if isCut then first + 1 else first
      let fullTo := if isShort then last - 1 else last
      (if isCut then inside first (low % unit) (unit - 1) else []) ++
        (if fullFrom ≤ fullTo then
          [⟨fullFrom, fullTo⟩ :: List.replicate (digits + 1) ⟨0, 63⟩] else []) ++
        (if isShort then inside last 0 (high % unit) else [])

/-- The code points with UTF-8 forms of the same length without a gap between them: the
first, the last, the number of continuation octets, and the mark of the leading octet. -/
def forms : List (Nat × Nat × Nat × Nat) :=
  [(0, 0x7F, 0, 0), (0x80, 0x7FF, 1, 0xC0), (0x800, 0xD7FF, 2, 0xE0), (0xE000, 0xFFFF, 2, 0xE0),
   (0x10000, 0x10FFFF, 3, 0xF0)]

def continuationMark : Nat := 0x80

def marked (mark : Nat) (octets : Interval) : Interval := ⟨mark + octets.low, mark + octets.high⟩

def ofSet (set : CharSet) : List OctetBox :=
  set.flatMap fun interval => forms.flatMap fun (first, last, continuations, mark) =>
    let low := max interval.low first
    let high := min interval.high last
    if low ≤ high then
      (ofNumbers continuations low high).map fun box =>
        (box.take 1).map (marked mark) ++ (box.drop 1).map (marked continuationMark)
    else []

/-- The states of an automaton: for each, the octets that it takes and the numbers of the
states that they lead to. The states are numbered from one on; zero is the end. -/
abbrev States := List (List (Interval × Nat))

/-- The number of a state with these steps, which may be there already. -/
def States.add (states : States) (steps : List (Interval × Nat)) : Nat × States :=
  match states.idxOf? steps with
  | some i => (i + 1, states)
  | none => (states.length + 1, states ++ [steps])

/-- Adds the states that take the octets of boxes, and tells the first of them. `bound`
bounds the length of the boxes. -/
def addStates : Nat → List OctetBox → States → Nat × States
  | 0, _, states => (0, states)
  | bound + 1, boxes, states =>
    let groups := boxes.splitBy fun a b => a.head? == b.head?
    let (steps, states) := groups.foldl
      (fun (steps, states) group =>
        match group with
        | (octets :: _) :: _ =>
          let (next, states) := addStates bound (group.map (·.drop 1)) states
          (steps ++ [(octets, next)], states)
        | _ => (steps, states)) ([], states)
    if steps = [] then (0, states) else states.add steps

def beginnings (boxes : List OctetBox) : List OctetBox :=
  (boxes.flatMap fun box => (List.range box.length).map fun i => box.take (i + 1)).eraseDups

end OctetBox

def CharSet.memory (set : CharSet) (direction : Direction) : Nat :=
  let boxes := OctetBox.ofSet set
  let single := match set, boxes with
    | [interval], [box] => if interval.low = interval.high then some box.length else none
    | _, _ => none
  match single with
  | some octets => octets * Memory.state
  | none =>
    if set.isAscii then 2 * Memory.state + set.length * Memory.step
    else
      match direction with
      | .forwards =>
        let (_, states) := OctetBox.addStates 5 boxes []
        Memory.state +
          (states.map fun steps => Memory.state + steps.length * Memory.step).foldr (· + ·) 0
      | .backwards =>
        (2 + (OctetBox.beginnings boxes).length) * Memory.state + boxes.length * Memory.choice

/-! ### Words -/

namespace Memory

/-- The words in front of each word that ends here, and those behind the last of these.
Of several words that end here before all others, one is kept. -/
def parts (words : List Bytes) : List (List Bytes) :=
  let ended := words.takeWhile (· = [])
  splitAt [] (ended.take 1 ++ words.drop ended.length)

/-- The memory for a choice between words: words that begin alike share states as long as
they do. `bound` bounds their length. -/
def tree : Nat → List Bytes → Nat
  | 0, _ => 0
  | bound + 1, words =>
    let parts := parts words
    let sizes := parts.map fun part =>
      let octets := (part.filterMap List.head?).eraseDups
      let behind := octets.map fun octet =>
        tree bound ((part.filter (·.head? = some octet)).map (·.drop 1))
      if octets = [] then 0 else stateWithSteps octets.length + behind.foldr (· + ·) 0
    let total := sizes.foldr (· + ·) 0
    if total = 0 then 0
    else
      state + ((sizes.filter (0 < ·)).length + (parts.length - 1)) * choice + total

end Memory

namespace Pattern

def word? : Pattern → Option Bytes
  | char [interval] =>
    if interval.low = interval.high then
      some (Bytes.ofString (String.singleton (Char.ofNat interval.low)))
    else none
  | sequence first next => do return (← first.word?) ++ (← next.word?)
  | _ => none

/-- The alternatives of a pattern, if each of them is a single stretch. -/
def words? : Pattern → Option (List Bytes)
  | either left right => do return (← left.words?) ++ (← right.words?)
  | pattern => pattern.word?.map fun word => [word]

def isNeverEmpty : Pattern → Bool
  | char set => set ≠ []
  | sequence first next => first.isNeverEmpty || next.isNeverEmpty
  | either left right => left.isNeverEmpty && right.isNeverEmpty
  | repeated item least _ => 0 < least && item.isNeverEmpty
  | group inner => inner.isNeverEmpty
  | empty | anchor _ => false

open Memory in
def timesMemory (size : Nat) (isNeverEmpty : Bool) (least : Nat) (most? : Option Nat) : Nat :=
  let optional := state + 2 * choice + size
  match least, most? with
  | 0, none => if isNeverEmpty then optional else 3 * state + 4 * choice + size
  | least, none => state + 2 * choice + least * size
  | 0, some 1 => optional + state
  | least, some most =>
    if least = most then least * size
    else (if least = 0 then state else least * size) + state + (most - least) * optional

open Memory in
/-- The memory for a pattern, which may be one of several alternatives: these share the
states around them. -/
def partMemory (direction : Direction) : Bool → Pattern → Nat
  | isAlternative, either left right =>
    let together := partMemory direction true left + partMemory direction true right
    match isAlternative, words? (either left right) with
    | false, some words =>
      let words := if direction = .backwards then words.map List.reverse else words
      state + tree ((words.map List.length).foldl max 0) words
    | false, none => 2 * state + together
    | true, _ => together
  | isAlternative, pattern =>
    let alone := match pattern with
      | empty | anchor _ => state
      | char set => set.memory direction
      | sequence first next =>
        partMemory direction false first + partMemory direction false next
      | repeated item least most? =>
        timesMemory (partMemory direction false item) item.isNeverEmpty least most?
      | group inner =>
        partMemory direction false inner + if direction = .forwards then 2 * state else 0
      | either _ _ => 0
    alone + if isAlternative then choice else 0

/-- Whether a pattern describes stretches only that begin at the beginning of a text, or,
backwards, that end at its end. -/
def isFixed (direction : Direction) : Pattern → Bool
  | anchor place => place = if direction = .forwards then .textStart else .textEnd
  | sequence first next =>
    if direction = .forwards then
      first.isFixed direction || first.isAlwaysEmpty && next.isFixed direction
    else next.isFixed direction || next.isAlwaysEmpty && first.isFixed direction
  | either left right => left.isFixed direction && right.isFixed direction
  | repeated item least _ => 0 < least && item.isFixed direction
  | group inner => inner.isFixed direction
  | empty | char _ => false

open Memory in
def memory (pattern : Pattern) (direction : Direction) : Nat :=
  let search :=
    if pattern.isFixed direction then state else 3 * state + step + 2 * choice
  let ends := if direction = .forwards then 3 * state else state
  search + ends + pattern.partMemory direction false

end Pattern

end DeviceAssets.Text
