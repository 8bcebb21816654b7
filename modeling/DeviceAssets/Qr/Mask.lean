/-!
# Masks

Eight fixed patterns, one of which is laid over the data of a symbol to break up
large areas and shapes that look like a finder pattern. `penalty` says how much of
either is left.
-/

namespace DeviceAssets.Qr

def maskFlips (mask x y : Nat) : Bool :=
  match mask with
  | 0 => (x + y) % 2 = 0
  | 1 => y % 2 = 0
  | 2 => x % 3 = 0
  | 3 => (x + y) % 3 = 0
  | 4 => (x / 3 + y / 2) % 2 = 0
  | 5 => x * y % 2 + x * y % 3 = 0
  | 6 => (x * y % 2 + x * y % 3) % 2 = 0
  | _ => ((x + y) % 2 + x * y % 3) % 2 = 0

def maskCount : Nat := 8

namespace Penalty

/-- A run of five or more equal modules counts two less than its length. -/
def runs (line : List Bool) : Nat :=
  ((line.splitBy (· == ·)).map fun run =>
    if 5 ≤ run.length then run.length - 2 else 0).foldr (· + ·) 0

/-- Each square of four equal modules in two neighbouring lines counts three. -/
def squares : List Bool → List Bool → Nat
  | a :: b :: upper, c :: d :: lower =>
    (if a = b && c = d && a = c then 3 else 0) + squares (b :: upper) (d :: lower)
  | _, _ => 0

/-- Each `#.###.#` in a line counts forty where the four modules before it or the
four behind it are all light; outside the symbol all is light. `before` holds the
modules already passed, the nearest first. -/
def shapes (before : List Bool) : List Bool → Nat
  | [] => 0
  | module :: rest =>
    let here :=
      match module, rest with
      | true, false :: true :: true :: true :: false :: true :: behind =>
        if (before.take 4).all (!·) || (behind.take 4).all (!·) then 40 else 0
      | _, _ => 0
    here + shapes (module :: before) rest

/-- The distance of the share of dark modules from one half, in half percents. -/
def balance (rows : List (List Bool)) : Nat :=
  let dark := (rows.map fun row => row.count true).foldr (· + ·) 0
  let total := (rows.map List.length).foldr (· + ·) 0
  let ratio := dark * 200 / total
  (ratio - 100) + (100 - ratio)

def allSquares : List (List Bool) → Nat
  | upper :: lower :: rest => squares upper lower + allSquares (lower :: rest)
  | _ => 0

end Penalty

/-- What is taken off for shapes, once for the rows and once for the columns. -/
def Penalty.allowance : Nat := 360

/-- How badly a symbol with these rows and columns can be read. The parts are added up in
words of sixteen bits: a large and badly masked symbol starts again from zero. -/
def penalty (rows columns : List (List Bool)) : UInt16 :=
  let lines := rows ++ columns
  let found := (lines.map Penalty.runs).foldr (· + ·) 0 + Penalty.allSquares rows +
    (lines.map (Penalty.shapes [])).foldr (· + ·) 0 + Penalty.balance rows
  UInt16.ofNat found - UInt16.ofNat (2 * Penalty.allowance)

end DeviceAssets.Qr
