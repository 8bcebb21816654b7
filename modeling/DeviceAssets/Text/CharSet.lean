/-!
# Sets of characters

A set of characters is a list of intervals of code points. The operations keep the
intervals in ascending order and apart from each other, so that every set that they make
has one form only.
-/

namespace DeviceAssets.Text

/-- The numbers from one to another, both included. -/
structure Interval where
  low : Nat
  high : Nat
  deriving DecidableEq, Repr

def Interval.contains (interval : Interval) (n : Nat) : Bool :=
  interval.low ≤ n && n ≤ interval.high

/-- A set of characters, given by the intervals of its code points. -/
abbrev CharSet := List Interval

namespace CharSet

def lastCode : Nat := 0x10FFFF

def nothing : CharSet := []

def everything : CharSet := [⟨0, lastCode⟩]

def range (low high : Char) : CharSet := [⟨low.toNat, high.toNat⟩]

def single (c : Char) : CharSet := range c c

def contains (set : CharSet) (c : Char) : Bool :=
  set.any fun interval => interval.contains c.toNat

/-- The set together with an interval, which swallows all that it overlaps or touches. -/
def insert (interval : Interval) : CharSet → CharSet
  | [] => [interval]
  | first :: rest =>
    if interval.high + 1 < first.low then interval :: first :: rest
    else if first.high + 1 < interval.low then first :: insert interval rest
    else insert ⟨min interval.low first.low, max interval.high first.high⟩ rest

def union (left right : CharSet) : CharSet := right.foldl (fun set i => insert i set) left

/-- The code points from `start` on that lie between the intervals. -/
def gaps (start : Nat) : CharSet → CharSet
  | [] => if start ≤ lastCode then [⟨start, lastCode⟩] else []
  | first :: rest =>
    let behind := gaps (first.high + 1) rest
    if start < first.low then ⟨start, first.low - 1⟩ :: behind else behind

def complement (set : CharSet) : CharSet := gaps 0 set

def intersection (left right : CharSet) : CharSet :=
  complement (union (complement left) (complement right))

def difference (left right : CharSet) : CharSet := intersection left (complement right)

def symmetricDifference (left right : CharSet) : CharSet :=
  union (difference left right) (difference right left)

def isAscii (set : CharSet) : Bool := set.all fun interval => interval.high < 0x80

/-- The set with the letters of ASCII in either case. -/
def anyCase (set : CharSet) : CharSet :=
  let moved (low high : Char) (move : Nat → Nat) : CharSet :=
    (intersection set (range low high)).map fun interval =>
      ⟨move interval.low, move interval.high⟩
  union (union set (moved 'a' 'z' (· - 32))) (moved 'A' 'Z' (· + 32))

def ofRanges (ranges : List (Char × Char)) : CharSet :=
  ranges.foldl (fun set (low, high) => union set (range low high)) nothing

end CharSet

end DeviceAssets.Text
