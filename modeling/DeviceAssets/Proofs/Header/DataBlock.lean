import DeviceAssets.Header.Render
import DeviceAssets.Proofs.Bitmap.Expansion
import DeviceAssets.Proofs.Text.Lines
import DeviceAssets.Split
import DeviceAssets.Text.Blank

/-!
# Reading a header back

A program that includes a header sees the octets of its array: the literals between
the last opening brace and the closing brace behind it. Read in this way, a header
gives the grid that it was rendered for, whatever the names and the labels in it are.
Nothing is said here of what stands in front of the array.
-/

namespace DeviceAssets.Header

/-! ### The reader -/

def behindLastBrace (text : List Char) : List Char :=
  (text.reverse.takeWhile (· != '\x7b')).reverse

def hexValue? (digit : Char) : Option Nat :=
  if '0' ≤ digit && digit ≤ '9' then some (digit.toNat - 0x30)
  else if 'A' ≤ digit && digit ≤ 'F' then some (digit.toNat - 0x41 + 10)
  else none

/-- The octet that a literal of two digits stands for; white space may stand before it. -/
def literal? (text : List Char) : Option UInt8 :=
  match text.dropWhile Text.isBlank with
  | ['0', 'x', high, low] => do
    return UInt8.ofNat (16 * (← hexValue? high) + (← hexValue? low))
  | _ => none

/-- The octets of some literals. There may be nothing but white space in place of the last
one, where a comma stands behind all others. -/
def literals? : List (List Char) → Option Bytes
  | [] => some []
  | [last] =>
    if last.all Text.isBlank then some [] else (literal? last).map fun octet => [octet]
  | text :: next :: more => do return (← literal? text) :: (← literals? (next :: more))

def separated? (text : List Char) : Option Bytes :=
  literals? (splitAt ',' text)

/-- The octets in the last braces of a header. -/
def readOctets? (header : String) : Option Bytes :=
  separated? ((behindLastBrace header.toList).takeWhile (· != '\x7d'))

/-- The grid of `n` rows of `n` cells that a header shows. -/
def readGrid? (n : Nat) (header : String) : Option Grid :=
  (readOctets? header).map (expand n)

/-! ### Literals -/

theorem hexValue?_hexDigit : ∀ n < 16, hexValue? (hexDigit n) = some n := by decide

theorem literal?_literal {before : List Char} (blank : before.all Text.isBlank = true)
    (octet : UInt8) : literal? (before ++ literal octet) = some octet := by
  have hdrop : (before ++ literal octet).dropWhile Text.isBlank = literal octet := by
    rw [List.dropWhile_append_of_pos (by simpa using blank)]
    rfl
  have hhigh := hexValue?_hexDigit (octet.toNat / 16) (by have := octet.toNat_lt; omega)
  have hlow := hexValue?_hexDigit (octet.toNat % 16) (by omega)
  have hvalue : 16 * (octet.toNat / 16) + octet.toNat % 16 = octet.toNat := by omega
  rw [literal?, hdrop]
  simp only [literal, hhigh, hlow]
  change some (UInt8.ofNat (16 * (octet.toNat / 16) + octet.toNat % 16)) = some octet
  rw [hvalue, UInt8.ofNat_toNat]

def inData (c : Char) : Bool :=
  " ,\nx0123456789ABCDEF".toList.contains c

theorem inData_hexDigit : ∀ n < 16, inData (hexDigit n) = true ∧ hexDigit n ≠ ',' := by decide

theorem all_inData_literal (octet : UInt8) : (literal octet).all inData = true := by
  have hhigh := (inData_hexDigit (octet.toNat / 16) (by have := octet.toNat_lt; omega)).1
  have hlow := (inData_hexDigit (octet.toNat % 16) (by omega)).1
  have h0 : inData '0' = true := by decide
  have hx : inData 'x' = true := by decide
  simp [literal, hhigh, hlow, h0, hx]

theorem comma_notMem_literal (octet : UInt8) : ',' ∉ literal octet := by
  have hhigh := (inData_hexDigit (octet.toNat / 16) (by have := octet.toNat_lt; omega)).2
  have hlow := (inData_hexDigit (octet.toNat % 16) (by omega)).2
  simp [literal, hhigh.symm, hlow.symm]

/-! ### Lines -/

theorem splitAt_append_cons {α : Type} [DecidableEq α] {separator : α} {before : List α}
    (free : separator ∉ before) (behind : List α) :
    splitAt separator (before ++ separator :: behind) =
      before :: splitAt separator behind := by
  induction before with
  | nil => simp [splitAt]
  | cons item rest ih =>
    have hitem : ¬ item = separator := fun h => free (h ▸ List.mem_cons_self)
    have hrest := ih fun h => free (List.mem_cons_of_mem _ h)
    rw [List.cons_append, splitAt, if_neg hitem, hrest]

theorem splitAt_of_notMem {α : Type} [DecidableEq α] {separator : α} {items : List α}
    (free : separator ∉ items) : splitAt separator items = [items] := by
  induction items with
  | nil => rfl
  | cons item rest ih =>
    have hitem : ¬ item = separator := fun h => free (h ▸ List.mem_cons_self)
    rw [splitAt, if_neg hitem, ih fun h => free (List.mem_cons_of_mem _ h)]

theorem comma_notMem_of_blank {text : List Char} (blank : text.all Text.isBlank = true) :
    ',' ∉ text := by
  intro h
  have hcomma := List.all_eq_true.mp blank ',' h
  exact absurd hcomma (by decide)

/-- A literal and a comma give one octet. -/
theorem separated?_literal {before : List Char} (blank : before.all Text.isBlank = true)
    (octet : UInt8) (behind : List Char) :
    separated? (before ++ literal octet ++ ',' :: behind) =
      (separated? behind).map (octet :: ·) := by
  have free : ',' ∉ before ++ literal octet := by
    rw [List.mem_append, not_or]
    exact ⟨comma_notMem_of_blank blank, comma_notMem_literal octet⟩
  unfold separated?
  rw [splitAt_append_cons free]
  cases hsplit : splitAt ',' behind with
  | nil => exact absurd hsplit (splitAt_ne_nil ',' behind)
  | cons next more =>
    rw [literals?, literal?_literal blank]
    cases literals? (next :: more) <;> rfl

/-- Literals with commas between and one behind them give their octets. -/
theorem separated?_intercalate {before : List Char} (blank : before.all Text.isBlank = true)
    {octets : Bytes} (nonempty : octets ≠ []) (behind : List Char) :
    separated? (before ++ [',', ' '].intercalate (octets.map literal) ++ ',' :: behind) =
      (separated? behind).map (octets ++ ·) := by
  induction octets generalizing before with
  | nil => exact absurd rfl nonempty
  | cons octet rest ih =>
    cases rest with
    | nil => simpa [List.intercalate] using separated?_literal blank octet behind
    | cons next more =>
      have hspace : [' '].all Text.isBlank = true := by decide
      have hmore := ih hspace (List.cons_ne_nil next more)
      have hfirst := separated?_literal blank octet
        ([' '] ++ [',', ' '].intercalate ((next :: more).map literal) ++ ',' :: behind)
      rw [hmore, Option.map_map] at hfirst
      simpa [List.intercalate, Function.comp_def] using hfirst

/-- The lines of an array give the octets on them. -/
theorem separated?_dataLines {before : List Char} (blank : before.all Text.isBlank = true)
    {lines : List Bytes} (nonempty : ∀ line ∈ lines, line ≠ []) :
    separated? (before ++ lines.flatMap dataLine) = some lines.flatten := by
  induction lines generalizing before with
  | nil =>
    rw [separated?, List.flatMap_nil, List.append_nil,
      splitAt_of_notMem (comma_notMem_of_blank blank)]
    simp only [literals?, blank, if_true, List.flatten_nil]
  | cons line rest ih =>
    have hfeed : ['\n'].all Text.isBlank = true := by decide
    have hrest := ih hfeed fun line h => nonempty line (List.mem_cons_of_mem _ h)
    have hindented : (before ++ "    ".toList).all Text.isBlank = true := by
      rw [List.all_append, blank]
      decide
    have hline := separated?_intercalate hindented (nonempty line List.mem_cons_self)
      (['\n'] ++ rest.flatMap dataLine)
    rw [hrest] at hline
    simpa [dataLine] using hline

/-- The lines between the braces give the octets of the array. -/
theorem separated?_dataBlock (bytes : Bytes) :
    separated? ('\n' :: dataBlock bytes) = some bytes := by
  have hfeed : ['\n'].all Text.isBlank = true := by decide
  have hlines : ∀ line ∈ chunks octetsPerLine bytes, line ≠ [] := ne_nil_of_mem_chunks
  have h := separated?_dataLines hfeed hlines
  rw [flatten_chunks] at h
  exact h

/-! ### Braces -/

theorem all_inData_intercalate (octets : Bytes) :
    ([',', ' '].intercalate (octets.map literal)).all inData = true := by
  rw [List.all_eq_true]
  intro c hc
  rcases Text.mem_of_mem_intercalate hc with hseparator | ⟨piece, hpiece, hc⟩
  · have hends : [',', ' '].all inData = true := by decide
    exact List.all_eq_true.mp hends c hseparator
  · obtain ⟨octet, _, rfl⟩ := List.mem_map.mp hpiece
    exact List.all_eq_true.mp (all_inData_literal octet) c hc

theorem all_inData_dataBlock (bytes : Bytes) : (dataBlock bytes).all inData = true := by
  rw [dataBlock, List.all_flatMap, List.all_eq_true]
  intro octets _
  have hends : "    ".toList.all inData = true ∧ [',', '\n'].all inData = true := by decide
  simp only [dataLine, List.all_append, hends, all_inData_intercalate, Bool.and_true]

theorem notMem_dataBlock {c : Char} (outside : inData c = false) (bytes : Bytes) :
    c ∉ dataBlock bytes := by
  intro h
  have hc := List.all_eq_true.mp (all_inData_dataBlock bytes) c h
  rw [outside] at hc
  exact Bool.false_ne_true hc

theorem behindLastBrace_append {before behind : List Char} (free : '\x7b' ∉ behind) :
    behindLastBrace (before ++ '\x7b' :: behind) = behind := by
  have hreverse : (before ++ '\x7b' :: behind).reverse =
      behind.reverse ++ '\x7b' :: before.reverse := by simp
  have hall : ∀ c ∈ behind.reverse, (c != '\x7b') = true := by
    intro c hc
    have hne : c ≠ '\x7b' := fun h => free (h ▸ List.mem_reverse.mp hc)
    simpa using hne
  rw [behindLastBrace, hreverse, List.takeWhile_append_of_pos hall]
  simp

def frontOfArray (layout : Layout) (n : Nat) (content : String) : List Char :=
  "#pragma once\n\n#include <stdint.h>\n\n".toList ++ comment layout content ++ ['\n'] ++
    defines layout (.ofSide n) ++ ['\n'] ++
    ("static const uint8_t ".toList ++ layout.arrayName.toList ++ ['['] ++
      layout.lengthMacro.toList ++ "] = ".toList)

theorem text_eq (layout : Layout) (n : Nat) (bytes : Bytes) (content : String) :
    text layout n bytes content =
      frontOfArray layout n content ++
        '\x7b' :: ('\n' :: dataBlock bytes ++ ['\x7d', ';', '\n']) := by
  have hopening : "] = \x7b\n".toList = "] = ".toList ++ ['\x7b', '\n'] := by decide
  have hclosing : "\x7d;\n".toList = ['\x7d', ';', '\n'] := by decide
  unfold text textAs arrayOpening frontOfArray
  rw [hopening, hclosing]
  -- Only the places of the literals matter, and comparing them would spell them out.
  generalize "#pragma once\n\n#include <stdint.h>\n\n".toList = preamble
  generalize "static const uint8_t ".toList = declaration
  generalize "] = ".toList = assignment
  simp

/-- The braces of the array are the last ones, so its lines are found whatever stands before
them. -/
theorem takeWhile_behindLastBrace_text (layout : Layout) (n : Nat) (bytes : Bytes)
    (content : String) :
    (behindLastBrace (text layout n bytes content)).takeWhile (· != '\x7d') =
      '\n' :: dataBlock bytes := by
  have hopening : '\x7b' ∉ '\n' :: dataBlock bytes ++ ['\x7d', ';', '\n'] := by
    have hdata : '\x7b' ∉ dataBlock bytes := notMem_dataBlock (by decide) bytes
    simp [hdata]
  have hclosing : ∀ c ∈ '\n' :: dataBlock bytes, (c != '\x7d') = true := by
    have hdata : '\x7d' ∉ dataBlock bytes := notMem_dataBlock (by decide) bytes
    intro c hc
    have hne : c ≠ '\x7d' := by
      rintro rfl
      simp [hdata] at hc
    simpa using hne
  have hnothing : ['\x7d', ';', '\n'].takeWhile (· != '\x7d') = [] := by decide
  rw [text_eq, behindLastBrace_append hopening, List.takeWhile_append_of_pos hclosing, hnothing,
    List.append_nil]

theorem readOctets?_text (layout : Layout) (n : Nat) (bytes : Bytes) (content : String) :
    readOctets? (String.ofList (text layout n bytes content)) = some bytes := by
  rw [readOctets?, String.toList_ofList, takeWhile_behindLastBrace_text, separated?_dataBlock]

/-! ### Headers of grids -/

def ofGrid (layout : Layout) (content : String) (grid : Grid) : Except Error String := do
  let packed ← pack grid
  render layout packed.modules packed.bytes content

theorem render_packed (layout : Layout) (content : String) {packed : Packed}
    (positive : 0 < packed.modules) :
    render layout packed.modules packed.bytes content =
      .ok (String.ofList (text layout packed.modules packed.bytes content)) :=
  render_eq_ok positive packed.length_bytes layout content

/-- A square grid is packed and rendered, and its header shows the packed rows. -/
theorem exists_header {grid : Grid} (nonempty : grid ≠ []) (square : grid.IsSquare)
    (layout : Layout) (content : String) :
    ∃ packed header, pack grid = .ok packed ∧
      render layout packed.modules packed.bytes content = .ok header ∧
      readOctets? header = some (grid.flatMap packRow) := by
  obtain ⟨packed, hpack, hmodules, hbytes⟩ := exists_pack_eq_ok nonempty square
  have positive : 0 < packed.modules := by
    rw [hmodules]
    exact List.length_pos_iff.mpr nonempty
  refine ⟨packed, _, hpack, render_packed layout content positive, ?_⟩
  rw [readOctets?_text, hbytes]

/-- Grids with the same packed rows are the same: the number of octets tells the size. -/
theorem eq_of_flatMap_packRow_eq {grid other : Grid} (nonempty : grid ≠ [])
    (square : grid.IsSquare) (otherSquare : other.IsSquare)
    (same : other.flatMap packRow = grid.flatMap packRow) : other = grid := by
  have hlength : packedLength other.length = packedLength grid.length := by
    rw [packedLength, packedLength, ← length_flatMap_packRow otherSquare,
      ← length_flatMap_packRow square, same]
  have hside : other.length = grid.length := packedLength_injective hlength
  have positive : 0 < grid.length := List.length_pos_iff.mpr nonempty
  calc other = expand grid.length (other.flatMap packRow) :=
        (expand_flatMap_packRow positive fun row h => (otherSquare row h).trans hside).symm
    _ = expand grid.length (grid.flatMap packRow) := by rw [same]
    _ = grid := expand_flatMap_packRow positive square

/-- A header says exactly which grid it was rendered for. Under every layout and label, a
square grid is packed and rendered, reading its header at the size of the grid gives the
grid, and a grid that differs, in size or in a cell, has another header. -/
theorem header_determines_grid (layout : Layout) (content : String) {grid : Grid}
    (nonempty : grid ≠ []) (square : grid.IsSquare) :
    (∃ packed header, pack grid = .ok packed ∧
      render layout packed.modules packed.bytes content = .ok header ∧
      readGrid? grid.length header = some grid) ∧
    ∀ other : Grid, other ≠ [] → other.IsSquare → other ≠ grid →
      ofGrid layout content other ≠ ofGrid layout content grid := by
  obtain ⟨packed, header, hpack, hrender, hread⟩ := exists_header nonempty square layout content
  constructor
  · refine ⟨packed, header, hpack, hrender, ?_⟩
    rw [readGrid?, hread, Option.map_some,
      expand_flatMap_packRow (List.length_pos_iff.mpr nonempty) square]
  · intro other otherNonempty otherSquare different same
    obtain ⟨otherPacked, otherHeader, hotherPack, hotherRender, hotherRead⟩ :=
      exists_header otherNonempty otherSquare layout content
    have hheaders : ofGrid layout content other = .ok otherHeader ∧
        ofGrid layout content grid = .ok header := by
      simp only [ofGrid, hpack, hotherPack]
      exact ⟨hotherRender, hrender⟩
    rw [hheaders.1, hheaders.2, Except.ok.injEq] at same
    rw [same, hread, Option.some.injEq] at hotherRead
    exact different
      (eq_of_flatMap_packRow_eq nonempty square otherSquare hotherRead.symm)

/-- A layout whose names and lines are full of braces and literals. -/
def bracedLayout : Layout where
  description := ["\x7b 0xAA, \x7d", "*/"]
  countMacro := "\x7b"
  strideMacro := "0x01,"
  lengthMacro := "\x7d] = \x7b"
  arrayName := "\x7b0xFF\x7d"

theorem header_determines_grid_braced :
    (∃ packed header, pack [[true, false], [false, true]] = .ok packed ∧
      render bracedLayout packed.modules packed.bytes "\x7b0x00,\x7d;" = .ok header ∧
      readGrid? 2 header = some [[true, false], [false, true]]) ∧
    ofGrid bracedLayout "\x7b0x00,\x7d;" [[true]] ≠
      ofGrid bracedLayout "\x7b0x00,\x7d;" [[true, false], [false, true]] := by
  have nonempty : [[true, false], [false, true]] ≠ ([] : Grid) := by decide
  have h := header_determines_grid bracedLayout "\x7b0x00,\x7d;" nonempty (by decide)
  exact ⟨h.1, h.2 [[true]] (by decide) (by decide) (by decide)⟩

end DeviceAssets.Header
