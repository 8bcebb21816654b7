import DeviceAssets.Qr.Version

/-!
# Function patterns

The modules of a symbol that carry no data: finder patterns with their light
borders, timing lines, alignment patterns, the version and the format. Column `x`
counts from the left and row `y` from the top.
-/

namespace DeviceAssets.Qr

def distance (a b : Nat) : Nat :=
  (a - b) + (b - a)

/-- The distance of two modules in steps that may go diagonally. -/
def distanceBetween (x y centerX centerY : Nat) : Nat :=
  max (distance x centerX) (distance y centerY)

/-- The remainder of `value`, shifted by the degree, on division by a polynomial
over the two-element field. -/
def binaryRemainder (degree polynomial value : Nat) : Nat :=
  (List.range degree).foldl
    (fun rest _ =>
      let shifted := 2 * rest
      if shifted.testBit degree then shifted ^^^ polynomial else shifted) value

namespace Version

variable (version : Version)

/-- The finder pattern or its border at a module, if one covers it. -/
def finder? (x y : Nat) : Option Bool :=
  let far := version.side - 4
  [(3, 3), (far, 3), (3, far)].findSome? fun (centerX, centerY) =>
    let d := distanceBetween x y centerX centerY
    if d ≤ 4 then some (d != 2 && d != 4) else none

/-- The centers of the alignment patterns: all pairs but the three that lie in
finder patterns. -/
def alignmentPatterns : List (Nat × Nat) :=
  let far := version.side - 7
  version.alignmentCenters.flatMap fun x =>
    version.alignmentCenters.filterMap fun y =>
      if (x = 6 && y = 6) || (x = 6 && y = far) || (x = far && y = 6) then none else some (x, y)

def alignment? (x y : Nat) : Option Bool :=
  version.alignmentPatterns.findSome? fun (centerX, centerY) =>
    let d := distanceBetween x y centerX centerY
    if d ≤ 2 then some (d != 1) else none

def timing? (x y : Nat) : Option Bool :=
  if x = 6 then some (y % 2 = 0)
  else if y = 6 then some (x % 2 = 0)
  else none

def versionBits : Nat :=
  (version.number <<< 12) + binaryRemainder 12 0x1F25 version.number

/-- The version information at a module, if it covers it. Small symbols have none. -/
def version? (x y : Nat) : Option Bool :=
  let start := version.side - 11
  if version.number < 7 then none
  else if start ≤ x && x < start + 3 && y < 6 then
    some (version.versionBits.testBit (3 * y + (x - start)))
  else if start ≤ y && y < start + 3 && x < 6 then
    some (version.versionBits.testBit (3 * x + (y - start)))
  else none

/-- The bit of the format that stands at a module, if one does. The format is
written twice. -/
def formatIndex? (x y : Nat) : Option Nat :=
  if x = 8 then
    if y < 6 then some y
    else if y = 7 then some 6
    else if y = 8 then some 7
    else if version.side ≤ y + 7 then some (y + 15 - version.side)
    else none
  else if y = 8 then
    if x = 7 then some 8
    else if x < 6 then some (14 - x)
    else if version.side ≤ x + 8 then some (version.side - 1 - x)
    else none
  else none

/-- The module above the lower copy of the format is always dark. -/
def darkModule? (x y : Nat) : Option Bool :=
  if x = 8 && y + 8 = version.side then some true else none

/-- The function pattern at a module, if one covers it; the format counts as light. -/
def pattern? (x y : Nat) : Option Bool :=
  version.finder? x y <|> version.version? x y <|> version.darkModule? x y <|>
    (version.formatIndex? x y).map (fun _ => false) <|> timing? x y <|>
    version.alignment? x y

end Version

def formatBits (level : Level) (mask : Nat) : Nat :=
  let value := level.indicator * 8 + mask
  ((value <<< 10) + binaryRemainder 10 0x537 value) ^^^ 0x5412

end DeviceAssets.Qr
