import DeviceAssets.Text.Pattern.Expression

/-!
# What expressions mean

An expression means a pattern under flags, which hold from where they are set up to the
end of their group. Matched are characters or, without the flag for that, octets: then
only those of ASCII are known, and what would take part of a character is a fault. There
are no tables of letters: cases and classes of letters are known for ASCII alone.
-/

namespace DeviceAssets.Text.Pattern

structure Flags where
  anyCase : Bool
  lines : Bool
  dotAll : Bool
  characters : Bool
  returns : Bool
  deriving DecidableEq, Repr

namespace Flags

def initial : Flags := ⟨false, false, false, true, false⟩

/-- The flags after a change; some matter to reading only. -/
def set (flags : Flags) (flag : Flag) (value : Bool) : Flags :=
  match flag with
  | .anyCase => { flags with anyCase := value }
  | .lines => { flags with lines := value }
  | .dotAll => { flags with dotAll := value }
  | .characters => { flags with characters := value }
  | .returns => { flags with returns := value }
  | .shortest | .verbose => flags

def changed (flags : Flags) (changes : FlagChanges) : Flags :=
  changes.foldl (fun flags (flag, value) => flags.set flag value) flags

end Flags

/-! ### Sets -/

def LetterSet.meaning : LetterSet → CharSet
  | digit => CharSet.ofRanges [('0', '9')]
  | blank => CharSet.ofRanges [('\t', '\r'), (' ', ' ')]
  | word => CharSet.ofRanges [('0', '9'), ('A', 'Z'), ('_', '_'), ('a', 'z')]

/-- A set in either case, and then perhaps its complement. -/
def foldAndNegate (flags : Flags) (extent : Extent) (negated : Bool) (set : CharSet) :
    Except Fault CharSet :=
  if flags.characters then
    if flags.anyCase && set ≠ CharSet.nothing then fault .caseUnknown extent
    else .ok (if negated then set.complement else set)
  else if negated then fault .noCharacter extent
  else .ok (if flags.anyCase then set.anyCase else set)

def letterMeaning (flags : Flags) (extent : Extent) (negated : Bool) (set : LetterSet) :
    Except Fault CharSet :=
  if flags.characters then fault .classUnknown extent
  else if negated then fault .noCharacter extent
  else .ok set.meaning

/-- The name of a property without what does not count in it: blanks, hyphens, low lines,
all beyond ASCII, the case of letters, and a leading "is". -/
def plainName (name : List Char) : List Char :=
  let lower := name.map Char.toLower
  let stem := if ['i', 's'].isPrefixOf lower then lower.drop 2 else lower
  let plain := stem.filter fun c => c.toNat < 0x80 && !(['-', '_', ' '].contains c)
  if plain = ['c'] && stem ≠ lower then ['i', 's', 'c'] else plain

/-- The short names of categories that are no short names of properties. -/
def categoryNames : List (List Char) := [['c', 'f'], ['s', 'c'], ['l', 'c']]

/-- No property is known; of a category, it is its characters that are not. -/
def propertyMeaning (flags : Flags) (extent : Extent) (name : PropertyName) :
    Except Fault CharSet :=
  if !flags.characters then fault .noOctet extent
  else
    match name with
    | .alone name =>
      if categoryNames.contains (plainName name) then fault .propertyValueUnknown extent
      else fault .propertyUnknown extent
    | .withValue _ _ => fault .propertyUnknown extent

def literalMeaning (flags : Flags) (written : Literal) : Except Fault Char :=
  if !flags.characters && written.isOctet && 0x80 ≤ written.char.toNat then
    fault .noCharacter written.extent
  else .ok written.char

def memberMeaning (flags : Flags) (written : Literal) : Except Fault Char := do
  let c ← literalMeaning flags written
  if !flags.characters && 0x80 ≤ c.toNat then fault .noOctet written.extent
  else return c

def SetOperation.apply (operation : SetOperation) (left right : CharSet) : CharSet :=
  match operation with
  | intersection => left.intersection right
  | difference => left.difference right
  | symmetricDifference => left.symmetricDifference right

mutual

def SetExpression.meaning (flags : Flags) : SetExpression → Except Fault CharSet
  | .nothing _ => .ok CharSet.nothing
  | .literal written => (memberMeaning flags written).map CharSet.single
  | .range _ low high => do
    return CharSet.range (← memberMeaning flags low) (← memberMeaning flags high)
  | .named extent negated set => foldAndNegate flags extent negated set
  | .letter extent negated set => letterMeaning flags extent negated set
  | .property extent name => propertyMeaning flags extent name
  | .brackets extent negated inner => do
    foldAndNegate flags extent negated (← inner.meaning flags)
  | .union _ parts => meaningOfParts flags parts
  | .operation _ operation left right => do
    let leftSet ← left.meaning flags
    let rightSet ← right.meaning flags
    let rightSet ← foldAndNegate flags right.extent false rightSet
    let leftSet ← foldAndNegate flags left.extent false leftSet
    return operation.apply leftSet rightSet

def meaningOfParts (flags : Flags) : List SetExpression → Except Fault CharSet
  | [] => .ok CharSet.nothing
  | first :: rest => do
    return CharSet.union (← first.meaning flags) (← meaningOfParts flags rest)

end

/-! ### Expressions -/

def literalPattern (flags : Flags) (written : Literal) : Except Fault Pattern := do
  let c ← literalMeaning flags written
  if flags.characters && flags.anyCase then fault .caseUnknown written.extent
  else
    let set := CharSet.single c
    return .char (if flags.anyCase then set.anyCase else set)

def dotMeaning (flags : Flags) (extent : Extent) : Except Fault CharSet :=
  if !flags.characters then fault .noCharacter extent
  else
    .ok (if flags.dotAll then CharSet.everything
      else if flags.returns then (CharSet.ofRanges [('\n', '\n'), ('\r', '\r')]).complement
      else (CharSet.single '\n').complement)

def WrittenAnchor.meaning (flags : Flags) : WrittenAnchor → Anchor
  | lineStart =>
    if flags.lines then if flags.returns then .anyLineStart else .lineStart else .textStart
  | lineEnd =>
    if flags.lines then if flags.returns then .anyLineEnd else .lineEnd else .textEnd
  | textStart => .textStart
  | textEnd => .textEnd
  | word edge => if flags.characters then .scriptWord edge else .word edge

mutual

/-- The pattern that an expression means under flags, and the flags behind it. -/
def Expression.meaning (flags : Flags) : Expression → Except Fault (Pattern × Flags)
  | .empty _ => .ok (.empty, flags)
  | .flags _ changes => .ok (.empty, flags.changed changes)
  | .literal written => return (← literalPattern flags written, flags)
  | .dot extent => return (.char (← dotMeaning flags extent), flags)
  | .anchor _ place => .ok (.anchor (place.meaning flags), flags)
  | .letter extent negated set =>
    return (.char (← letterMeaning flags extent negated set), flags)
  | .property extent name => return (.char (← propertyMeaning flags extent name), flags)
  | .brackets extent negated inner => do
    return (.char (← foldAndNegate flags extent negated (← inner.meaning flags)), flags)
  | .repeated _ times item => do
    let (pattern, behind) ← item.meaning flags
    return (pattern.times times.least times.most?, behind)
  | .group _ remembered changes inner => do
    let (pattern, _) ← inner.meaning (flags.changed changes)
    return (if remembered then .group pattern else pattern, flags)
  | .choice _ alternatives => do
    let (patterns, behind) ← meaningOfItems flags alternatives
    return (Pattern.anyOf patterns, behind)
  | .sequence _ items => do
    let (patterns, behind) ← meaningOfItems flags items
    return (Pattern.inSequence patterns, behind)

/-- The patterns that expressions mean, each under the flags behind the one before. -/
def meaningOfItems (flags : Flags) : List Expression → Except Fault (List Pattern × Flags)
  | [] => .ok ([], flags)
  | first :: rest => do
    let (pattern, flags) ← first.meaning flags
    let (patterns, flags) ← meaningOfItems flags rest
    return (pattern :: patterns, flags)

end

end DeviceAssets.Text.Pattern
