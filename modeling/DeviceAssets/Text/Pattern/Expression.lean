import DeviceAssets.Text.Pattern
import DeviceAssets.Text.Pattern.Fault

/-!
# Expressions

An expression is a written pattern taken apart, with the stretch of text of each of its
parts. What the parts stand for depends on flags, and is found out later.
-/

namespace DeviceAssets.Text.Pattern

inductive Flag where
  /-- Letters stand for either case. -/
  | anyCase
  /-- Anchors hold at every line. -/
  | lines
  /-- The dot stands for line ends, too. -/
  | dotAll
  /-- Repetitions prefer the shorter stretch, which changes nothing that is found. -/
  | shortest
  /-- Characters are matched, and not octets. -/
  | characters
  /-- Carriage returns end lines, too. -/
  | returns
  /-- Blanks and comments are passed over. -/
  | verbose
  deriving DecidableEq, Repr

def Flag.ofLetter? : Char → Option Flag
  | 'i' => some anyCase
  | 'm' => some lines
  | 's' => some dotAll
  | 'U' => some shortest
  | 'u' => some characters
  | 'R' => some returns
  | 'x' => some verbose
  | _ => none

abbrev FlagChanges := List (Flag × Bool)

/-- A character of a written pattern that stands for a character. -/
structure Literal where
  extent : Extent
  char : Char
  /-- Whether it is written as an octet in two digits to the base sixteen. -/
  isOctet : Bool
  deriving DecidableEq, Repr

inductive LetterSet where
  | digit
  | blank
  | word
  deriving DecidableEq, Repr

inductive PropertyName where
  | alone (name : List Char)
  | withValue (name value : List Char)
  deriving DecidableEq, Repr

inductive SetOperation where
  | intersection
  | difference
  | symmetricDifference
  deriving DecidableEq, Repr

inductive SetExpression where
  | nothing (extent : Extent)
  | literal (written : Literal)
  | range (extent : Extent) (low high : Literal)
  /-- A set of ASCII with a name. -/
  | named (extent : Extent) (negated : Bool) (set : CharSet)
  | letter (extent : Extent) (negated : Bool) (set : LetterSet)
  | property (extent : Extent) (name : PropertyName)
  | brackets (extent : Extent) (negated : Bool) (inner : SetExpression)
  | union (extent : Extent) (parts : List SetExpression)
  | operation (extent : Extent) (operation : SetOperation) (left right : SetExpression)
  deriving Repr

namespace SetExpression

def extent : SetExpression → Extent
  | literal written => written.extent
  | nothing extent | range extent .. | named extent .. | letter extent .. | property extent ..
  | brackets extent .. | union extent .. | operation extent .. => extent

/-- The set of all that is in one of several parts, which stand in this order. Without any
part, the set stands at `place`. -/
def ofParts (place : Place) : List SetExpression → SetExpression
  | [] => nothing ⟨place, place⟩
  | [part] => part
  | first :: rest =>
    union ⟨first.extent.start, ((rest.getLast?.map extent).getD first.extent).stop⟩ (first :: rest)

end SetExpression

inductive WrittenAnchor where
  | lineStart
  | lineEnd
  | textStart
  | textEnd
  | word (edge : WordEdge)
  deriving DecidableEq, Repr

structure Times where
  least : Nat
  most? : Option Nat
  deriving DecidableEq, Repr

inductive Expression where
  | empty (extent : Extent)
  | flags (extent : Extent) (changes : FlagChanges)
  | literal (written : Literal)
  | dot (extent : Extent)
  | anchor (extent : Extent) (place : WrittenAnchor)
  | letter (extent : Extent) (negated : Bool) (set : LetterSet)
  | property (extent : Extent) (name : PropertyName)
  | brackets (extent : Extent) (negated : Bool) (inner : SetExpression)
  | repeated (extent : Extent) (times : Times) (item : Expression)
  /-- A group, which may be remembered or have flags of its own. -/
  | group (extent : Extent) (remembered : Bool) (changes : FlagChanges) (inner : Expression)
  | choice (extent : Extent) (alternatives : List Expression)
  | sequence (extent : Extent) (items : List Expression)
  deriving Repr

namespace Expression

def extent : Expression → Extent
  | literal written => written.extent
  | empty extent | flags extent .. | dot extent | anchor extent .. | letter extent ..
  | property extent .. | brackets extent .. | repeated extent .. | group extent ..
  | choice extent .. | sequence extent .. => extent

/-- The expression for items that stand in this order between two places. -/
def ofItems (extent : Extent) : List Expression → Expression
  | [] => empty extent
  | [item] => item
  | items => sequence extent items

def isRepeatable : Expression → Bool
  | empty _ | flags .. => false
  | _ => true

end Expression

/-! ### Depth -/

mutual

/-- The first part of a set below `depth` other parts that is too deep. -/
def SetExpression.tooDeep? (depth : Nat) : SetExpression → Option Extent
  | .brackets extent _ inner =>
    if depthLimit ≤ depth then some extent else inner.tooDeep? (depth + 1)
  | .union extent parts =>
    if depthLimit ≤ depth then some extent else tooDeepSet? (depth + 1) parts
  | .operation extent _ left right =>
    if depthLimit ≤ depth then some extent
    else (left.tooDeep? (depth + 1)).or (right.tooDeep? (depth + 1))
  | _ => none

def tooDeepSet? (depth : Nat) : List SetExpression → Option Extent
  | [] => none
  | first :: rest => (first.tooDeep? depth).or (tooDeepSet? depth rest)

end

mutual

/-- The first part of an expression below `depth` other parts that is too deep. -/
def Expression.tooDeep? (depth : Nat) : Expression → Option Extent
  | .brackets extent _ inner =>
    if depthLimit ≤ depth then some extent else inner.tooDeep? (depth + 1)
  | .repeated extent _ item =>
    if depthLimit ≤ depth then some extent else item.tooDeep? (depth + 1)
  | .group extent _ _ inner =>
    if depthLimit ≤ depth then some extent else inner.tooDeep? (depth + 1)
  | .choice extent alternatives =>
    if depthLimit ≤ depth then some extent else tooDeepItem? (depth + 1) alternatives
  | .sequence extent items =>
    if depthLimit ≤ depth then some extent else tooDeepItem? (depth + 1) items
  | _ => none

def tooDeepItem? (depth : Nat) : List Expression → Option Extent
  | [] => none
  | first :: rest => (first.tooDeep? depth).or (tooDeepItem? depth rest)

end

end DeviceAssets.Text.Pattern
