import DeviceAssets.Text.Blank

/-!
# Places in written patterns

A cursor is a place in a written pattern together with what follows. Places are told
apart by the number of characters before them, and shown by line and column.
-/

namespace DeviceAssets.Text.Pattern

structure Place where
  /-- The number of characters before it. -/
  offset : Nat
  /-- The number of its line, from one on. -/
  line : Nat
  /-- The number of its column, from one on. -/
  column : Nat
  deriving DecidableEq, Repr

namespace Place

def initial : Place := ⟨0, 1, 1⟩

def behind (place : Place) (c : Char) : Place :=
  if c = '\n' then ⟨place.offset + 1, place.line + 1, 1⟩
  else ⟨place.offset + 1, place.line, place.column + 1⟩

end Place

/-- A stretch of a written pattern, from one place up to another. -/
structure Extent where
  start : Place
  stop : Place
  deriving DecidableEq, Repr

/-- What is left of a written pattern, and the place where it begins. -/
structure Cursor where
  place : Place
  rest : List Char
  deriving DecidableEq, Repr

namespace Cursor

def ofText (text : String) : Cursor := ⟨Place.initial, text.toList⟩

def isAtEnd (cursor : Cursor) : Bool := cursor.rest = []

def char? (cursor : Cursor) : Option Char := cursor.rest.head?

def next (cursor : Cursor) : Cursor :=
  match cursor.rest with
  | [] => cursor
  | c :: rest => ⟨cursor.place.behind c, rest⟩

def skip (cursor : Cursor) (count : Nat) : Cursor :=
  ⟨(cursor.rest.take count).foldl Place.behind cursor.place, cursor.rest.drop count⟩

def after? (cursor : Cursor) (text : String) : Option Cursor :=
  if text.toList.isPrefixOf cursor.rest then some (cursor.skip text.toList.length) else none

/-- The next characters with a property, and the cursor behind them. -/
def span (cursor : Cursor) (holds : Char → Bool) : List Char × Cursor :=
  let front := cursor.rest.takeWhile holds
  (front, cursor.skip front.length)

def since (cursor : Cursor) (start : Place) : Extent := ⟨start, cursor.place⟩

def here (cursor : Cursor) : Extent := ⟨cursor.place, cursor.place⟩

def nextExtent (cursor : Cursor) : Extent := ⟨cursor.place, cursor.next.place⟩

/-- The cursor behind blanks and comments, which go from a number sign up to the end of
the line. `inComment` tells whether a comment has begun. -/
def behindBlanks (inComment : Bool) (place : Place) : List Char → Cursor
  | [] => ⟨place, []⟩
  | c :: rest =>
    if inComment then behindBlanks (c ≠ '\n') (place.behind c) rest
    else if isBlank c then behindBlanks false (place.behind c) rest
    else if c = '#' then behindBlanks true (place.behind c) rest
    else ⟨place, c :: rest⟩

/-- The cursor where reading goes on: in a verbose pattern, blanks and comments are passed
over. -/
def settle (cursor : Cursor) (verbose : Bool) : Cursor :=
  if verbose then behindBlanks false cursor.place cursor.rest else cursor

def advance (cursor : Cursor) (verbose : Bool) : Cursor := cursor.next.settle verbose

/-- The next characters with a property, what is passed over left out, and the cursor behind
them. `bound` bounds their number. -/
def gather (verbose : Bool) (holds : Char → Bool) : Nat → Cursor → List Char × Cursor
  | 0, cursor => ([], cursor)
  | bound + 1, cursor =>
    match cursor.char? with
    | none => ([], cursor)
    | some c =>
      if holds c then
        let (others, stop) := gather verbose holds bound (cursor.advance verbose)
        (c :: others, stop)
      else ([], cursor)

def spanSettled (cursor : Cursor) (verbose : Bool) (holds : Char → Bool) : List Char × Cursor :=
  gather verbose holds cursor.rest.length cursor

/-- The character after the next one. In a verbose pattern, blanks and the mark of a comment
are passed over, unless nothing else follows. -/
def second? (cursor : Cursor) (verbose : Bool) : Option Char :=
  let behind := cursor.next.rest
  if verbose then
    match behind.dropWhile isBlank with
    | [] => behind.head?
    | '#' :: comment => (comment.dropWhile isBlank).head?.or behind.head?
    | c :: _ => some c
  else behind.head?

end Cursor

end DeviceAssets.Text.Pattern
