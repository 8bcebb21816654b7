import DeviceAssets.Text.CharSet

/-!
# Search patterns

A pattern describes stretches of text, and is found in a text if it describes one of the
stretches there. `Pattern.follow` leads from the places where a stretch may begin to those
where it may end; a pattern is found where it leads anywhere from all places of a text.
-/

namespace DeviceAssets.Text

/-! ### Conditions -/

/-- Whether a character of ASCII belongs to words: letters, digits and the low line. -/
def isWordChar (c : Char) : Bool := c.isAlphanum || c = '_'

/-- How a place lies to the words around it. -/
inductive WordEdge where
  | change
  | noChange
  | start
  | stop
  /-- The character before it, if there is one, belongs to no word. -/
  | startHalf
  /-- The character after it, if there is one, belongs to no word. -/
  | stopHalf
  deriving DecidableEq, Repr

/-- Whether a place between these characters lies like this, where only some characters
belong to words. -/
def WordEdge.holds (edge : WordEdge) (before after : Bool) : Bool :=
  match edge with
  | .change => before != after
  | .noChange => before == after
  | .start => !before && after
  | .stop => before && !after
  | .startHalf => !before
  | .stopHalf => !after

inductive Anchor where
  | textStart
  | textEnd
  | lineStart
  | lineEnd
  /-- A line begins behind a line feed, a carriage return, or both together. -/
  | anyLineStart
  | anyLineEnd
  /-- Only characters of ASCII belong to words. -/
  | word (edge : WordEdge)
  /-- Letters of all scripts belong to words. There is no table to decide this, so it
  holds nowhere, and a pattern with it is refused. -/
  | scriptWord (edge : WordEdge)
  deriving DecidableEq, Repr

def Anchor.holds (anchor : Anchor) (before? after? : Option Char) : Bool :=
  match anchor with
  | textStart => before?.isNone
  | textEnd => after?.isNone
  | lineStart => before?.all (· = '\n')
  | lineEnd => after?.all (· = '\n')
  | anyLineStart =>
    before?.all (· = '\n') || before?.all (· = '\r') && !after?.any (· = '\n')
  | anyLineEnd =>
    after?.all (· = '\r') || after?.all (· = '\n') && !before?.any (· = '\r')
  | word edge => edge.holds (before?.any isWordChar) (after?.any isWordChar)
  | scriptWord _ => false

/-! ### Patterns -/

inductive Pattern where
  | empty
  | char (set : CharSet)
  | anchor (place : Anchor)
  | sequence (first next : Pattern)
  | either (left right : Pattern)
  /-- At least `least` stretches in a row, and at most as many as given. -/
  | repeated (item : Pattern) (least : Nat) (most? : Option Nat)
  /-- A stretch of which the place is to be remembered. -/
  | group (inner : Pattern)
  deriving DecidableEq, Repr

/-- A set of places in a text: bit `i` tells whether the place before character number `i`
belongs to it. -/
abbrev Places := Nat

namespace Places

def ofProperty (size : Nat) (holds : Nat → Bool) : Places :=
  (List.range (size + 1)).foldl (fun places i => if holds i then places ||| 1 <<< i else places) 0

def all (size : Nat) : Places := (1 <<< (size + 1)) - 1

def without (places others : Places) : Places := places ^^^ (places &&& others)

end Places

namespace Pattern

/-- Does a step a number of times; stops where a step changes nothing. -/
def iterate (step : Places → Places) : Nat → Places → Places
  | 0, places => places
  | count + 1, places =>
    let reached := step places
    if reached = places then places else iterate step count reached

/-- The places found so far and all that at most so many steps lead to from the latest of
them; stops where nothing new is found. -/
def spread (step : Places → Places) : Nat → Places → Places → Places
  | 0, found, _ => found
  | bound + 1, found, latest =>
    let new := Places.without (step latest) found
    if new = 0 then found else spread step bound (found ||| new) new

/-- Whether a pattern describes two stretches in a row wherever it describes each of them. -/
def absorbsItself : Pattern → Bool
  | repeated _ least none => least ≤ 1
  | group inner => inner.absorbsItself
  | _ => false

/-- The places where a stretch may end that begins at one of the given places. A repetition
without bound needs no more steps than there are places. -/
def follow (text : Array Char) : Pattern → Places → Places
  | empty, starts => starts
  | char set, starts =>
    (starts &&& Places.ofProperty text.size fun i => text[i]?.any set.contains) <<< 1
  | anchor place, starts =>
    starts &&& Places.ofProperty text.size fun i =>
      place.holds (if i = 0 then none else text[i - 1]?) text[i]?
  | sequence first next, starts => follow text next (follow text first starts)
  | either left right, starts => follow text left starts ||| follow text right starts
  | repeated item least most?, starts =>
    let reached := iterate (follow text item) least starts
    let more := most?.elim (text.size + 1) (· - least)
    let more := if item.absorbsItself then min more (1 - least) else more
    spread (follow text item) more reached reached
  | group inner, starts => follow text inner starts

def isFoundIn (pattern : Pattern) (text : List Char) : Bool :=
  pattern.follow text.toArray (Places.all text.length) ≠ 0

/-! ### Making patterns -/

def isAlwaysEmpty : Pattern → Bool
  | empty | anchor _ => true
  | char _ => false
  | sequence first next => first.isAlwaysEmpty && next.isAlwaysEmpty
  | either left right => left.isAlwaysEmpty && right.isAlwaysEmpty
  | repeated item _ most? => item.isAlwaysEmpty || most? = some 0
  | group inner => inner.isAlwaysEmpty

/-- The pattern for an item that is repeated; what is always empty need not be there more
than once. -/
def times (item : Pattern) (least : Nat) (most? : Option Nat) : Pattern :=
  let once := item.isAlwaysEmpty
  let least := if once then min least 1 else least
  let most? := if once then some (most?.elim 1 (min · 1)) else most?
  if most? = some 0 then empty
  else if least = 1 && most? = some 1 then item
  else repeated item least most?

def inSequence (items : List Pattern) : Pattern :=
  match items.filter (· ≠ empty) with
  | [] => empty
  | first :: rest => rest.foldl sequence first

def isSingle : Pattern → Bool
  | char [interval] => interval.low = interval.high
  | _ => false

def remembers : Pattern → Bool
  | empty | char _ | anchor _ => false
  | sequence first next => first.remembers || next.remembers
  | either left right => left.remembers || right.remembers
  | repeated item _ _ => item.remembers
  | group _ => true

/-- The patterns that a pattern puts one behind the other, and others behind them. -/
def factorsBefore (others : List Pattern) : Pattern → List Pattern
  | sequence first next => factorsBefore (factorsBefore others next) first
  | pattern => pattern :: others

/-- The patterns that a pattern puts one behind the other. Single characters in a row make
up a run, and everything else is a run of its own. -/
def runs (pattern : Pattern) : List (List Pattern) :=
  (factorsBefore [] pattern).splitBy fun left right => left.isSingle && right.isSingle

/-- What two lists of runs begin with alike. What is remembered is never alike. -/
def commonRuns : List (List Pattern) → List (List Pattern) → List (List Pattern)
  | left :: lefts, right :: rights =>
    if left = right && !left.any remembers then left :: commonRuns lefts rights else []
  | _, _ => []

/-- The pattern for any of some patterns. They make up a set if they are single characters,
or sets of other than one character. -/
def anyOfThese (alternatives : List Pattern) : Pattern :=
  let set? : Option CharSet := alternatives.foldlM
    (fun set alternative =>
      match alternative with
      | char other => some (set.union other)
      | _ => none) CharSet.nothing
  let isUniform := alternatives.all isSingle || alternatives.all (!·.isSingle)
  match set?, isUniform, alternatives with
  | some set, true, _ => char set
  | _, _, [] => char CharSet.nothing
  | _, _, first :: rest => rest.foldl either first

/-- The pattern for any of some patterns. If each is made of several runs, the runs with
which all of them begin come first, and the choice is between what follows. -/
def anyOf (alternatives : List Pattern) : Pattern :=
  match alternatives.map runs with
  | [] | [_] => anyOfThese alternatives
  | first :: rest =>
    let common :=
      if (first :: rest).all (2 ≤ ·.length) then rest.foldl commonRuns first else []
    if common = [] then anyOfThese alternatives
    else
      let others := (first :: rest).map fun runs =>
        inSequence (runs.drop common.length).flatten
      inSequence (common.flatten ++ [anyOfThese others])

def isUndecidable : Pattern → Bool
  | empty | char _ => false
  | anchor place => match place with
    | .scriptWord _ => true
    | _ => false
  | sequence first next => first.isUndecidable || next.isUndecidable
  | either left right => left.isUndecidable || right.isUndecidable
  | repeated item _ _ => item.isUndecidable
  | group inner => inner.isUndecidable

end Pattern

end DeviceAssets.Text
