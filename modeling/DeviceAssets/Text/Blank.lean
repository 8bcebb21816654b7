/-!
# Blank characters

The characters with the property White_Space, and trimming by them.
-/

namespace DeviceAssets.Text

/-- The code points with the property White_Space. -/
def blankCodes : List Nat :=
  [0x09, 0x0A, 0x0B, 0x0C, 0x0D, 0x20, 0x85, 0xA0, 0x1680,
   0x2000, 0x2001, 0x2002, 0x2003, 0x2004, 0x2005, 0x2006, 0x2007, 0x2008, 0x2009, 0x200A,
   0x2028, 0x2029, 0x202F, 0x205F, 0x3000]

def isBlank (c : Char) : Bool :=
  blankCodes.contains c.toNat

def trim (text : List Char) : List Char :=
  ((text.dropWhile isBlank).reverse.dropWhile isBlank).reverse

/-- What is left of a text when it is trimmed does not end with a blank. -/
theorem isBlank_of_getLast?_trim {text : List Char} {last : Char}
    (h : (trim text).getLast? = some last) : isBlank last = false := by
  rw [trim, List.getLast?_reverse] at h
  have hfirst := List.head?_dropWhile_not isBlank (text.dropWhile isBlank).reverse
  rw [h] at hfirst
  exact hfirst

end DeviceAssets.Text
