import DeviceAssets.Text.Pattern.Expression

/-!
# Characters and escapes

Most characters of a written pattern stand for themselves. A backslash makes a sign stand
for itself, and a letter or a digit for something else: a control character, a number, a
set of characters, or a condition on a place.
-/

namespace DeviceAssets.Text.Pattern

inductive Atom where
  | literal (written : Literal)
  | letter (extent : Extent) (negated : Bool) (set : LetterSet)
  | property (extent : Extent) (name : PropertyName)
  | anchor (extent : Extent) (place : WrittenAnchor)
  deriving DecidableEq, Repr

namespace Atom

def expression : Atom → Expression
  | literal written => .literal written
  | letter extent negated set => .letter extent negated set
  | property extent name => .property extent name
  | anchor extent place => .anchor extent place

def extent (atom : Atom) : Extent := atom.expression.extent

def member : Atom → Except Fault SetExpression
  | literal written => .ok (.literal written)
  | letter extent negated set => .ok (.letter extent negated set)
  | property extent name => .ok (.property extent name)
  | anchor extent _ => fault .classEscapeInvalid extent

/-- The character at an end of a range. -/
def boundary : Atom → Except Fault Literal
  | literal written => .ok written
  | atom => fault .classRangeOfSets atom.extent

end Atom

/-! ### Numbers -/

def hexValue? (c : Char) : Option Nat :=
  if c.isDigit then some (c.toNat - '0'.toNat)
  else if 'a' ≤ c.toLower && c.toLower ≤ 'f' then some (c.toLower.toNat - 'a'.toNat + 10)
  else none

def isHexDigit (c : Char) : Bool := (hexValue? c).isSome

def charOfDigits (digits : List Char) (extent : Extent) : Except Fault Char :=
  let value := digits.foldl (fun value digit => value * 16 + (hexValue? digit).getD 0) 0
  if value.isValidChar then .ok (Char.ofNat value) else fault .hexInvalid extent

/-- Reads a number in braces to the base sixteen; the cursor is at the opening one. -/
def readBracedHex (verbose : Bool) (cursor : Cursor) : Except Fault (Char × Cursor) := do
  let (digits, stop) := (cursor.advance verbose).spanSettled verbose isHexDigit
  match stop.char? with
  | none => fault .escapeUnfinished (stop.since cursor.place)
  | some '}' =>
    let behind := stop.advance verbose
    if digits = [] then fault .hexEmpty (behind.since cursor.place)
    else return (← charOfDigits digits (stop.since cursor.next.place), behind)
  | some _ => fault .hexDigitInvalid stop.nextExtent

def readHexDigits (verbose : Bool) : Nat → Cursor → Except Fault (List Char × Cursor)
  | 0, cursor => .ok ([], cursor)
  | count + 1, cursor =>
    match cursor.char? with
    | none => fault .escapeUnfinished cursor.here
    | some c =>
      if isHexDigit c then
        (readHexDigits verbose count (cursor.advance verbose)).map fun (others, stop) =>
          (c :: others, stop)
      else fault .hexDigitInvalid cursor.nextExtent

def hexDigits? : Char → Option Nat
  | 'x' => some 2
  | 'u' => some 4
  | 'U' => some 8
  | _ => none

/-- Reads a character that is given by its number; `start` is the place of the backslash,
and the cursor is at the letter, behind which `count` digits stand unless there are
braces. Two digits may stand for an octet. -/
def readNumber (verbose : Bool) (start : Place) (count : Nat) (cursor : Cursor) :
    Except Fault (Atom × Cursor) := do
  let digits := cursor.advance verbose
  match digits.char? with
  | none => fault .escapeUnfinished digits.here
  | some '{' =>
    let (c, stop) ← readBracedHex verbose digits
    return (.literal ⟨stop.since start, c, false⟩, stop)
  | some _ =>
    let (list, stop) ← readHexDigits verbose count digits
    let c ← charOfDigits list (stop.since digits.place)
    return (.literal ⟨stop.since start, c, count = 2⟩, stop)

/-! ### Properties -/

def cutAt? (mark : List Char) : List Char → Option (List Char × List Char)
  | [] => none
  | c :: rest =>
    if mark.isPrefixOf (c :: rest) then some ([], (c :: rest).drop mark.length)
    else (cutAt? mark rest).map fun (before, behind) => (c :: before, behind)

def PropertyName.ofText (text : List Char) : PropertyName :=
  match [['!', '='], [':'], ['=']].findSome? fun mark => cutAt? mark text with
  | some (name, value) => .withValue name value
  | none => .alone text

/-- Reads a property of characters; `start` is the place of the backslash, and the cursor
is at the letter behind it. -/
def readProperty (verbose : Bool) (start : Place) (cursor : Cursor) :
    Except Fault (Atom × Cursor) :=
  let name := cursor.advance verbose
  match name.char? with
  | none => fault .escapeUnfinished name.here
  | some '{' =>
    let (text, stop) := (name.advance verbose).spanSettled verbose (· ≠ '}')
    if stop.isAtEnd then fault .escapeUnfinished stop.here
    else .ok (.property (stop.next.since start) (PropertyName.ofText text), stop.next)
  | some '\\' => fault .propertyInvalid name.nextExtent
  | some c =>
    let stop := name.advance verbose
    .ok (.property (stop.since start) (.alone [c]), stop)

/-! ### Conditions on words -/

def WordEdge.ofName? (name : String) : Option WordEdge :=
  match name with
  | "start" => some .start
  | "end" => some .stop
  | "start-half" => some .startHalf
  | "end-half" => some .stopHalf
  | _ => none

/-- Reads the name of a condition on words in braces; `start` is the place of the backslash,
and the cursor is at the opening brace. What does not begin like a name may be a
repetition. -/
def readEdge? (verbose : Bool) (start : Place) (cursor : Cursor) :
    Except Fault (Option (WordEdge × Cursor)) :=
  let isNameChar (c : Char) : Bool := c.isAlpha || c = '-'
  let name := cursor.advance verbose
  match name.char? with
  | none => fault .edgeUnfinished (name.since start)
  | some c =>
    if isNameChar c then
      let (letters, stop) := name.spanSettled verbose isNameChar
      if stop.char? = some '}' then
        match WordEdge.ofName? (String.ofList letters) with
        | some edge => .ok (some (edge, stop.next))
        | none => fault .edgeUnknown (stop.since name.place)
      else fault .edgeUnclosed (stop.since cursor.place)
    else .ok none

/-! ### Escapes -/

/-- Whether a backslash before a character makes it stand for itself. -/
def isEscapable (c : Char) : Bool :=
  c.toNat < 0x80 && !c.isAlphanum && c ≠ '<' && c ≠ '>'

def controlOfLetter? : Char → Option Char
  | 'a' => some '\x07'
  | 'f' => some '\x0c'
  | 't' => some '\t'
  | 'n' => some '\n'
  | 'r' => some '\r'
  | 'v' => some '\x0b'
  | _ => none

/-- The set that a backslash and a letter stand for, and whether it is negated. -/
def setOfLetter? : Char → Option (Bool × LetterSet)
  | 'd' => some (false, .digit)
  | 'D' => some (true, .digit)
  | 's' => some (false, .blank)
  | 'S' => some (true, .blank)
  | 'w' => some (false, .word)
  | 'W' => some (true, .word)
  | _ => none

def anchorOfLetter? : Char → Option WrittenAnchor
  | 'A' => some .textStart
  | 'z' => some .textEnd
  | 'b' => some (.word .change)
  | 'B' => some (.word .noChange)
  | '<' => some (.word .start)
  | '>' => some (.word .stop)
  | _ => none

def atomOfLetter? (extent : Extent) (letter : Char) : Option Atom :=
  if isEscapable letter then some (.literal ⟨extent, letter, false⟩)
  else
    ((controlOfLetter? letter).map fun c => .literal ⟨extent, c, false⟩).or <|
      ((setOfLetter? letter).map fun (negated, set) => .letter extent negated set).or <|
        (anchorOfLetter? letter).map fun place => .anchor extent place

def readEscape (verbose : Bool) (cursor : Cursor) : Except Fault (Atom × Cursor) :=
  let start := cursor.place
  let letter := cursor.next
  match letter.char? with
  | none => fault .escapeUnfinished (letter.since start)
  | some c =>
    let stop := letter.next
    let extent := stop.since start
    if c.isDigit then fault .backreference extent
    else if c = 'p' || c = 'P' then readProperty verbose start letter
    else
      match hexDigits? c, atomOfLetter? extent c with
      | some count, _ => readNumber verbose start count letter
      | none, none => fault .escapeUnknown extent
      | none, some atom =>
        if c = 'b' && stop.char? = some '{' then do
          match ← readEdge? verbose start stop with
          | some (edge, stop) => return (.anchor (stop.since start) (.word edge), stop)
          | none => return (atom, stop)
        else .ok (atom, stop)

def readAtom (verbose : Bool) (cursor : Cursor) : Except Fault (Atom × Cursor) :=
  match cursor.char? with
  | some '\\' => readEscape verbose cursor
  | some c => .ok (.literal ⟨cursor.nextExtent, c, false⟩, cursor.next)
  | none => fault .escapeUnfinished cursor.here

end DeviceAssets.Text.Pattern
