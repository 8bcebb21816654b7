import DeviceAssets.Chunks
import DeviceAssets.Error
import DeviceAssets.Grid

/-!
# Packed bitmaps

One bit per cell, row by row, the leftmost cell of every eight in the highest
bit. Every row begins a new octet, so the low bits of a row's last octet are
padding, which `pack` leaves clear.
-/

namespace DeviceAssets

/-- The octets that one packed row of `n` cells takes. -/
def stride (n : Nat) : Nat :=
  (n + 7) / 8

def packedLength (n : Nat) : Nat :=
  n * stride n

/-- What is said of the size of a packed grid. -/
structure Extent where
  side : Nat
  stride : Nat
  length : Nat
  deriving DecidableEq, Repr

def Extent.ofSide (n : Nat) : Extent :=
  ⟨n, DeviceAssets.stride n, packedLength n⟩

/-- The extent as words of 64 bits hold it: what a word cannot hold of a sum or a product is
lost. -/
def Extent.ofWord (n : UInt64) : Extent :=
  let stride := (n + 7) / 8
  ⟨n.toNat, stride.toNat, (n * stride).toNat⟩

/-- Nothing is lost where a word holds the length. -/
theorem Extent.ofWord_eq {n : UInt64} (fits : packedLength n.toNat < UInt64.size) :
    ofWord n = ofSide n.toNat := by
  have hsum : n.toNat + 7 < UInt64.size := by
    refine Nat.lt_of_not_le fun overflow => Nat.not_le_of_lt fits ?_
    have hstride : UInt64.size / 8 ≤ DeviceAssets.stride n.toNat :=
      Nat.div_le_div_right overflow
    calc UInt64.size
        ≤ (UInt64.size - 7) * (UInt64.size / 8) := by decide
      _ ≤ packedLength n.toNat := Nat.mul_le_mul (Nat.sub_le_of_le_add overflow) hstride
  have hstride : ((n + 7) / 8).toNat = DeviceAssets.stride n.toNat := by
    rw [UInt64.toNat_div, UInt64.toNat_add, DeviceAssets.stride]
    exact congrArg (· / 8) (Nat.mod_eq_of_lt hsum)
  have hlength : (n * ((n + 7) / 8)).toNat = packedLength n.toNat := by
    rw [UInt64.toNat_mul, hstride]
    exact Nat.mod_eq_of_lt fits
  rw [ofWord, ofSide, hstride, hlength]

/-- A square grid of `modules` rows, one bit per cell. -/
structure Packed where
  modules : Nat
  bytes : Bytes
  length_bytes : bytes.length = packedLength modules
  deriving DecidableEq

/-- The octet that shows up to eight cells, the first one in the highest bit. -/
def octet (cells : List Bool) : UInt8 :=
  UInt8.ofNat ((List.range 8).foldl (fun value i => 2 * value + (cells.getD i false).toNat) 0)

/-- Bit `7 - i` of an octet shows cell number `i`; where there is none, it is clear. -/
theorem testBit_octet (cells : List Bool) (i : Fin 8) :
    (octet cells).toNat.testBit (7 - i.val) = cells.getD i.val false := by
  have bits : ∀ b0 b1 b2 b3 b4 b5 b6 b7 : Bool, ∀ i : Fin 8,
      (UInt8.ofNat (2 * (2 * (2 * (2 * (2 * (2 * (2 * (2 * 0 + b0.toNat) + b1.toNat) + b2.toNat)
        + b3.toNat) + b4.toNat) + b5.toNat) + b6.toNat) + b7.toNat)).toNat.testBit (7 - i.val) =
      [b0, b1, b2, b3, b4, b5, b6, b7].getD i.val false := by decide +kernel
  refine (bits _ _ _ _ _ _ _ _ i).trans ?_
  match i with
  | 0 | 1 | 2 | 3 | 4 | 5 | 6 | 7 => rfl

def packRow (cells : List Bool) : Bytes :=
  (chunks 8 cells).map octet

theorem length_packRow (cells : List Bool) : (packRow cells).length = stride cells.length := by
  simp [packRow, stride, length_chunks]

theorem length_flatMap_packRow {side : Nat} {grid : Grid}
    (wide : ∀ row ∈ grid, row.length = side) :
    (grid.flatMap packRow).length = grid.length * stride side := by
  induction grid with
  | nil => simp
  | cons row rest ih =>
    have hrow : row.length = side := wide row List.mem_cons_self
    have hrest : ∀ row ∈ rest, row.length = side :=
      fun row h => wide row (List.mem_cons_of_mem _ h)
    rw [List.flatMap_cons, List.length_append, length_packRow, hrow, ih hrest,
      List.length_cons, Nat.succ_mul, Nat.add_comm]

namespace Packed

def stride (packed : Packed) : Nat :=
  DeviceAssets.stride packed.modules

/-- The bit for column `x` of the row with which some octets begin, if its octet is there. -/
def bit? (octets : Bytes) (x : Nat) : Option Bool :=
  octets[x / 8]?.map fun octet => octet.toNat.testBit (7 - x % 8)

/-- The bit for column `x` of row `y`, read without regard to the side: a column
behind the last one runs into the padding and then into the rows below. There is
none where the octet would lie behind the last one. -/
def get? (packed : Packed) (x y : Nat) : Option Bool :=
  bit? (packed.bytes.drop (y * packed.stride)) x

/-- The grid that `packed` shows; padding is left out. -/
def unpack (packed : Packed) : Grid :=
  (chunks packed.stride packed.bytes).map fun row =>
    (List.range packed.modules).map fun x => (bit? row x).getD false

/-- The grid is made of the bits for all columns of all rows. -/
theorem unpack_eq (packed : Packed) :
    packed.unpack = (List.range packed.modules).map fun y =>
      (List.range packed.modules).map fun x => (packed.get? x y).getD false := by
  unfold unpack
  by_cases h : packed.modules = 0
  · have : packed.bytes = [] :=
      List.eq_nil_of_length_eq_zero (by rw [packed.length_bytes, h]; simp [packedLength])
    simp [h, this]
  · have positive : 0 < packed.stride := by
      unfold stride DeviceAssets.stride
      omega
    rw [chunks_eq_map_range positive packed.length_bytes, List.map_map]
    refine List.map_congr_left fun y _ => List.map_congr_left fun x hx => ?_
    have hx : x / 8 < packed.stride := by
      have := List.mem_range.mp hx
      unfold stride DeviceAssets.stride
      omega
    simp only [get?, bit?, List.getElem?_take, if_pos hx]

end Packed

/-- The packed form of a square grid; a grid without rows or with a row of another length
is refused. -/
def pack (grid : Grid) : Except Error Packed :=
  if grid = [] then .error .emptyGrid
  else match misfit : grid.firstMisfit? grid.length 0 with
    | some (row, length) => .error (.notSquare row length grid.length)
    | none => .ok
      { modules := grid.length
        bytes := grid.flatMap packRow
        length_bytes := length_flatMap_packRow (Grid.firstMisfit?_eq_none_iff.mp misfit) }

end DeviceAssets
