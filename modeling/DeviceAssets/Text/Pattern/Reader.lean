import DeviceAssets.Text.Letter
import DeviceAssets.Text.Pattern.Brackets
import DeviceAssets.Text.Pattern.Meaning
import DeviceAssets.Text.Pattern.Memory

/-!
# Reading patterns

Most characters of a written pattern stand for themselves. A dot stands for any
character, brackets enclose a set of them, a bar separates alternatives, parentheses
group, and `*`, `+`, `?` and numbers in braces repeat what is before them. Flags between
parentheses hold up to the end of their group. A pattern is read as a whole before it is
found out what it means, and then it must not take too much memory.
-/

namespace DeviceAssets.Text.Pattern

/-! ### Repetitions -/

/-- Numbers from here on are too great for a repetition. -/
def timesLimit : Nat := 1 <<< 32

def readTimes (verbose : Bool) (cursor : Cursor) : Except Fault Nat × Cursor :=
  let (_, start) := cursor.span isBlank
  let (digits, stop) := start.spanSettled verbose Char.isDigit
  let extent := stop.since start.place
  let value := digits.foldl (fun value digit => value * 10 + (digit.toNat - '0'.toNat)) 0
  let result :=
    if digits = [] then fault .repetitionNumberMissing extent
    else if timesLimit ≤ value then fault .numberInvalid extent
    else .ok value
  (result, (stop.spanSettled verbose isBlank).2)

/-- Reads numbers in braces; the cursor is at the opening one. That braces are not closed is
found before a fault of the first number, if nothing at all follows it. -/
def readBraces (verbose : Bool) (cursor : Cursor) : Except Fault (Times × Cursor) := do
  let unclosed {α : Type} (stop : Cursor) : Except Fault α :=
    fault .repetitionUnclosed (stop.since cursor.place)
  let (least, stop) := readTimes verbose (cursor.advance verbose)
  if stop.isAtEnd then unclosed stop
  else
    let (times, stop) ←
      if stop.char? = some ',' then
        let stop := stop.advance verbose
        if stop.isAtEnd then unclosed stop
        else do
          let least ← least
          if stop.char? = some '}' then pure (Times.mk least none, stop)
          else
            let (most, stop) := readTimes verbose stop
            pure (⟨least, some (← most)⟩, stop)
      else do
        let least ← least
        pure (⟨least, some least⟩, stop)
    if stop.char? = some '}' then
      let stop := stop.advance verbose
      let stop := (stop.after? "?").getD stop
      if times.most?.all (times.least ≤ ·) then return (times, stop)
      else fault .repetitionRangeInvalid (stop.since cursor.place)
    else unclosed stop

def timesOfSign? : Char → Option Times
  | '*' => some ⟨0, none⟩
  | '+' => some ⟨1, none⟩
  | '?' => some ⟨0, some 1⟩
  | _ => none

/-- Reads a sign of repetition for an item. A question mark behind it changes only which of
several stretches is taken. -/
def readRepetition (verbose : Bool) (item : Expression) (cursor : Cursor) :
    Except Fault (Expression × Cursor) := do
  let (times, stop) ←
    match cursor.char?.bind timesOfSign? with
    | some times => pure (times, (cursor.next.after? "?").getD cursor.next)
    | none => readBraces verbose cursor
  return (.repeated ⟨item.extent.start, stop.place⟩ times item, stop)

/-! ### Flags -/

/-- Reads flag letters up to a colon or a parenthesis. `seen` are those so far with their
places, the negation among them. -/
def readFlags (value : Bool) (seen : List (Char × Extent)) (place : Place) :
    List Char → Except Fault (FlagChanges × Cursor)
  | [] => fault .flagsUnfinished ⟨place, place⟩
  | letter :: rest =>
    let here := Cursor.nextExtent ⟨place, letter :: rest⟩
    if letter = ':' || letter = ')' then
      match seen with
      | ('-', negation) :: _ => fault .flagNegationDangling negation
      | _ => .ok ([], ⟨place, letter :: rest⟩)
    else
      let earlier? := seen.lookup letter
      let seen := (letter, here) :: seen
      if letter = '-' then
        match earlier? with
        | some earlier => .error ⟨.flagNegationRepeated, [earlier, here]⟩
        | none => readFlags false seen here.stop rest
      else
        match Flag.ofLetter? letter, earlier? with
        | none, _ => fault .flagUnknown here
        | _, some earlier => .error ⟨.flagRepeated, [earlier, here]⟩
        | some flag, none =>
          (readFlags value seen here.stop rest).map fun (changes, stop) =>
            ((flag, value) :: changes, stop)

def verboseAfter (verbose : Bool) (changes : FlagChanges) : Bool :=
  (changes.lookup .verbose).getD verbose

/-! ### Groups -/

abbrev Names := List (List Char × Extent)

/-- What a parenthesis begins: flags for what follows, or a group. -/
inductive Opening where
  | flags (extent : Extent) (changes : FlagChanges)
  | group (remembered : Bool) (changes : FlagChanges)
  deriving DecidableEq, Repr

def isNameChar (first : Bool) (c : Char) : Bool :=
  c = '_' || isLetter c || !first && (isNumeral c || ['.', '[', ']'].contains c)

def badNameChar? (first : Bool) (place : Place) : List Char → Option Cursor
  | [] => none
  | c :: rest =>
    if isNameChar first c then badNameChar? false (place.behind c) rest
    else some ⟨place, c :: rest⟩

def readGroupName (names : Names) (cursor : Cursor) : Except Fault (Names × Cursor) :=
  let (name, stop) := cursor.span (· ≠ '>')
  match badNameChar? true cursor.place name with
  | some bad => fault .groupNameInvalid bad.nextExtent
  | none =>
    let extent := stop.since cursor.place
    if stop.isAtEnd then fault .groupNameUnfinished stop.here
    else if name = [] then fault .groupNameEmpty extent
    else
      match names.lookup name with
      | some earlier => .error ⟨.groupNameRepeated, [earlier, extent]⟩
      | none => .ok ((name, extent) :: names, stop.next)

/-- Reads what follows an opening parenthesis; the cursor is at the parenthesis. -/
def readOpening (verbose : Bool) (names : Names) (cursor : Cursor) :
    Except Fault (Opening × Names × Cursor) := do
  let start := cursor.advance verbose
  match ["?=", "?!", "?<=", "?<!"].findSome? start.after? with
  | some stop => fault .lookAround (stop.since cursor.place)
  | none =>
    match ["?P<", "?<"].findSome? start.after? with
    | some name => return (.group true [], ← readGroupName names name)
    | none =>
      match start.after? "?" with
      | none => return (.group true [], names, start)
      | some letters =>
        if letters.isAtEnd then fault .groupUnclosed cursor.nextExtent
        else
          let (changes, stop) ← readFlags true [] letters.place letters.rest
          if stop.char? = some ':' then return (.group false changes, names, stop.next)
          else if stop.place = letters.place then fault .repetitionMissing start.here
          else return (.flags (stop.next.since cursor.place) changes, names, stop.next)

structure Level where
  /-- The parenthesis. -/
  opening : Extent
  remembered : Bool
  changes : FlagChanges
  /-- Whether the pattern is verbose behind the group. -/
  outerVerbose : Bool
  /-- The place behind the parenthesis. -/
  start : Place
  /-- The alternatives that are complete, the latest first. -/
  alternatives : List Expression
  /-- The place where the current alternative begins. -/
  since : Place
  /-- The items of the current alternative, the latest first. -/
  items : List Expression
  deriving Repr

namespace Level

def opened (opening : Extent) (remembered : Bool) (changes : FlagChanges)
    (outerVerbose : Bool) (start : Place) : Level :=
  ⟨opening, remembered, changes, outerVerbose, start, [], start, []⟩

def outermost : Level :=
  opened ⟨Place.initial, Place.initial⟩ false [] false Place.initial

def alternative (level : Level) (stop : Place) : Expression :=
  Expression.ofItems ⟨level.since, stop⟩ level.items.reverse

def inner (level : Level) (stop : Place) : Expression :=
  let last := level.alternative stop
  if level.alternatives.isEmpty then last
  else .choice ⟨level.start, stop⟩ (level.alternatives.reverse ++ [last])

def add (level : Level) (item : Expression) : Level :=
  { level with items := item :: level.items }

def branched (level : Level) (cursor : Cursor) : Level :=
  { level with
    alternatives := level.alternative cursor.place :: level.alternatives
    since := cursor.next.place
    items := [] }

def closed (level : Level) (cursor : Cursor) : Expression :=
  .group ⟨level.opening.start, cursor.next.place⟩ level.remembered level.changes
    (level.inner cursor.place)

end Level

/-! ### Patterns -/

def isRepetitionSign (c : Char) : Bool := ['*', '+', '?', '{'].contains c

/-- Reads one item that is neither a group nor a repetition. -/
def readItem (verbose : Bool) (cursor : Cursor) : Except Fault (Expression × Cursor) :=
  let extent := cursor.nextExtent
  match cursor.char? with
  | some '[' => readSet verbose cursor
  | some '.' => .ok (.dot extent, cursor.next)
  | some '^' => .ok (.anchor extent .lineStart, cursor.next)
  | some '$' => .ok (.anchor extent .lineEnd, cursor.next)
  | _ => (readAtom verbose cursor).map fun (atom, stop) => (atom.expression, stop)

/-- Reads a pattern to its end; `outer` are the groups around the current one. Each step
takes a character, so their number bounds that of steps. -/
def readItems : Nat → Bool → Names → Level → List Level → Cursor → Except Fault Expression
  | 0, _, _, level, _, cursor => .ok (level.inner cursor.place)
  | bound + 1, verbose, names, level, outer, cursor => do
    let cursor := cursor.settle verbose
    match cursor.char? with
    | none =>
      if outer.isEmpty then return level.inner cursor.place
      else fault .groupUnclosed level.opening
    | some '(' =>
      match ← readOpening verbose names cursor with
      | (.flags extent changes, names, stop) =>
        readItems bound (verboseAfter verbose changes) names (level.add (.flags extent changes))
          outer stop
      | (.group remembered changes, names, stop) =>
        readItems bound (verboseAfter verbose changes) names
          (Level.opened cursor.nextExtent remembered changes verbose stop.place)
          (level :: outer) stop
    | some ')' =>
      match outer with
      | [] => fault .groupUnopened cursor.nextExtent
      | around :: outer =>
        readItems bound level.outerVerbose names (around.add (level.closed cursor)) outer
          cursor.next
    | some '|' => readItems bound verbose names (level.branched cursor) outer cursor.next
    | some c =>
      if isRepetitionSign c then
        match level.items with
        | [] => fault .repetitionMissing cursor.here
        | item :: items =>
          if item.isRepeatable then
            let (whole, stop) ← readRepetition verbose item cursor
            readItems bound verbose names { level with items := whole :: items } outer stop
          else fault .repetitionMissing cursor.here
      else
        let (item, stop) ← readItem verbose cursor
        readItems bound verbose names (level.add item) outer stop

def Expression.ofText (text : String) : Except Fault Expression := do
  let cursor := Cursor.ofText text
  let expression ←
    readItems (cursor.rest.length + 1) false [] Level.outermost [] cursor
  match expression.tooDeep? 0 with
  | some extent => fault .tooDeep extent
  | none => return expression

/-- The pattern that a text spells. What takes too much memory forwards is refused before
what cannot be decided, and that before what takes too much memory backwards. -/
def ofText (text : String) : Except Refusal Pattern := do
  let expression ← (Expression.ofText text).mapError .fault
  let (pattern, _) ← (expression.meaning Flags.initial).mapError .fault
  if memoryLimit < pattern.memory .forwards then .error .tooLarge
  else if pattern.isUndecidable then .error .undecidable
  else if memoryLimit < pattern.memory .backwards then .error .tooLarge
  else return pattern

end DeviceAssets.Text.Pattern
