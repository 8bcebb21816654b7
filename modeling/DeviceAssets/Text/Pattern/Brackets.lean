import DeviceAssets.Text.Pattern.Escape

/-!
# Sets between brackets

Brackets enclose characters, ranges, sets with a name and other brackets, which make up a
set together. Signs of operations combine what is before them with what is behind them,
from left to right.
-/

namespace DeviceAssets.Text.Pattern

def namedSet? (name : String) : Option CharSet :=
  let ranges? : Option (List (Char × Char)) :=
    match name with
    | "alnum" => some [('0', '9'), ('A', 'Z'), ('a', 'z')]
    | "alpha" => some [('A', 'Z'), ('a', 'z')]
    | "ascii" => some [('\x00', '\x7f')]
    | "blank" => some [('\t', '\t'), (' ', ' ')]
    | "cntrl" => some [('\x00', '\x1f'), ('\x7f', '\x7f')]
    | "digit" => some [('0', '9')]
    | "graph" => some [('!', '~')]
    | "lower" => some [('a', 'z')]
    | "print" => some [(' ', '~')]
    | "punct" => some [('!', '/'), (':', '@'), ('[', '\x60'), ('\x7b', '~')]
    | "space" => some [('\t', '\r'), (' ', ' ')]
    | "upper" => some [('A', 'Z')]
    | "word" => some [('0', '9'), ('A', 'Z'), ('_', '_'), ('a', 'z')]
    | "xdigit" => some [('0', '9'), ('A', 'F'), ('a', 'f')]
    | _ => none
  ranges?.map CharSet.ofRanges

def namedSetAt? (cursor : Cursor) : Option (SetExpression × Cursor) := do
  let start ← cursor.after? "[:"
  let negated? := start.after? "^"
  let (name, stop) := (negated?.getD start).span (· ≠ ':')
  let stop ← stop.after? ":]"
  let set ← namedSet? (String.ofList name)
  return (.named (stop.since cursor.place) negated?.isSome set, stop)

/-- Reads a character, an escape or a range between brackets; `opening` is where the
brackets begin. -/
def readMember (verbose : Bool) (opening : Extent) (cursor : Cursor) :
    Except Fault (SetExpression × Cursor) := do
  let (first, stop) ← readAtom verbose cursor
  let stop := stop.settle verbose
  if stop.isAtEnd then fault .classUnclosed opening
  else if stop.char? ≠ some '-' || [some ']', some '-'].contains (stop.second? verbose) then
    return (← first.member, stop)
  else
    let behind := stop.advance verbose
    if behind.isAtEnd then fault .classUnclosed opening
    else
      let (last, stop) ← readAtom verbose behind
      let extent : Extent := ⟨first.extent.start, last.extent.stop⟩
      let low ← first.boundary
      let high ← last.boundary
      if low.char ≤ high.char then return (.range extent low high, stop)
      else fault .classRangeInvalid extent

def setOperationAt? (cursor : Cursor) : Option (SetOperation × Cursor) :=
  [("&&", SetOperation.intersection), ("--", .difference),
    ("~~", .symmetricDifference)].findSome? fun (sign, operation) =>
      (cursor.after? sign).map (operation, ·)

structure Brackets where
  opening : Extent
  negated : Bool
  /-- The set before the last operation sign, and that operation. -/
  before? : Option (SetExpression × SetOperation)
  /-- The place behind that sign. -/
  since : Place
  /-- What has been read since then, the latest first. -/
  parts : List SetExpression
  deriving Repr

namespace Brackets

def add (brackets : Brackets) (part : SetExpression) : Brackets :=
  { brackets with parts := part :: brackets.parts }

def soFar (brackets : Brackets) : SetExpression :=
  let right := SetExpression.ofParts brackets.since brackets.parts.reverse
  match brackets.before? with
  | some (left, operation) =>
    .operation ⟨left.extent.start, right.extent.stop⟩ operation left right
  | none => right

def operated (brackets : Brackets) (operation : SetOperation) (place : Place) : Brackets :=
  { brackets with before? := some (brackets.soFar, operation), since := place, parts := [] }

def extent (brackets : Brackets) (stop : Place) : Extent := ⟨brackets.opening.start, stop⟩

end Brackets

/-- Passes over hyphens at the beginning of brackets, which stand for themselves. `opening` is
the place of the bracket, and `bound` bounds their number. -/
def readHyphens (verbose : Bool) (opening : Place) :
    Nat → List SetExpression → Cursor → Except Fault (List SetExpression × Cursor)
  | 0, parts, cursor => .ok (parts, cursor)
  | bound + 1, parts, cursor =>
    if cursor.char? = some '-' then
      let stop := cursor.advance verbose
      if stop.isAtEnd then fault .classUnclosed ⟨opening, opening⟩
      else
        let hyphen := SetExpression.literal ⟨cursor.nextExtent, '-', false⟩
        readHyphens verbose opening bound (hyphen :: parts) stop
    else .ok (parts, cursor)

/-- Reads the opening bracket, a sign of negation, and the characters that stand for
themselves only there. -/
def openBrackets (verbose : Bool) (cursor : Cursor) : Except Fault (Brackets × Cursor) := do
  let unclosed (stop : Cursor) : Except Fault Unit :=
    if stop.isAtEnd then fault .classUnclosed (stop.since cursor.place) else .ok ()
  let stop := cursor.advance verbose
  unclosed stop
  let negated := stop.char? = some '^'
  let begun := if negated then stop.advance verbose else stop
  unclosed begun
  let (parts, stop) ← readHyphens verbose cursor.place begun.rest.length [] begun
  if parts.isEmpty && stop.char? = some ']' then
    let behind := stop.advance verbose
    unclosed behind
    return (⟨behind.since cursor.place, negated, none, begun.place,
      [.literal ⟨stop.nextExtent, ']', false⟩]⟩, behind)
  else return (⟨stop.since cursor.place, negated, none, begun.place, parts⟩, stop)

/-- Reads a set from behind its opening bracket on. `outer` are the brackets around it.
Each step takes a character, so their number bounds that of steps. -/
def readBrackets (verbose : Bool) :
    Nat → Brackets → List Brackets → Cursor → Except Fault (Expression × Cursor)
  | 0, brackets, _, _ => fault .classUnclosed brackets.opening
  | bound + 1, brackets, outer, cursor => do
    let cursor := cursor.settle verbose
    match cursor.char? with
    | none => fault .classUnclosed brackets.opening
    | some ']' =>
      let extent := brackets.extent cursor.next.place
      match outer with
      | [] => return (.brackets extent brackets.negated brackets.soFar, cursor.next)
      | around :: outer =>
        let part := SetExpression.brackets extent brackets.negated brackets.soFar
        readBrackets verbose bound (around.add part) outer cursor.next
    | some '[' =>
      match namedSetAt? cursor with
      | some (set, stop) => readBrackets verbose bound (brackets.add set) outer stop
      | none =>
        let (inner, stop) ← openBrackets verbose cursor
        readBrackets verbose bound inner (brackets :: outer) stop
    | some _ =>
      match setOperationAt? cursor with
      | some (operation, stop) =>
        readBrackets verbose bound (brackets.operated operation stop.place) outer stop
      | none =>
        let (part, stop) ← readMember verbose brackets.opening cursor
        readBrackets verbose bound (brackets.add part) outer stop

def readSet (verbose : Bool) (cursor : Cursor) : Except Fault (Expression × Cursor) := do
  let (brackets, stop) ← openBrackets verbose cursor
  readBrackets verbose (stop.rest.length + 1) brackets [] stop

end DeviceAssets.Text.Pattern
