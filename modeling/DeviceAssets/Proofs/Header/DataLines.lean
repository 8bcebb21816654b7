import Mathlib.Data.List.Forall2
import DeviceAssets.Proofs.Header.CommentEnd
import DeviceAssets.Proofs.Header.DataBlock
import DeviceAssets.Proofs.Header.DeclaredSize

/-!
# What a header shows

Behind its comment a header gives three numbers, and between its last braces the octets of its
array, sixteen to a line. Both are found in the text of a header by the names of its macros and
by its braces alone, so two headers that are the same are for the same number of modules and for
the same buffer.
-/

namespace DeviceAssets.Header

/-! ### Reading lines and numbers -/

/-- The lines between the last braces of a header. The opening brace ends a line of its own, and
the closing one begins one. -/
def arrayLines (header : String) : List (List Char) :=
  (((behindLastBrace header.toList).takeWhile (· != '\x7d')).splitOn '\n').tail.dropLast

def IsLiteral (octet : UInt8) (text : List Char) : Prop :=
  ∃ high low, text = ['0', 'x', high, low] ∧
    hexValue? high = some (octet.toNat / 16) ∧ hexValue? low = some (octet.toNat % 16)

/-- A line that shows some octets: four spaces, their literals with a comma and a space between
any two, and a comma. -/
def ShowsOctets (octets : Bytes) (line : List Char) : Prop :=
  ∃ literals, List.Forall₂ IsLiteral octets literals ∧
    line = "    ".toList ++ [',', ' '].intercalate literals ++ [',']

/-- What a macro is defined as, if its definition stands in front of `text`, and what follows
the line. -/
def macroValue? (name : String) (text : List Char) : Option (List Char × List Char) :=
  (text.dropPrefix? ("#define ".toList ++ name.toList ++ [' '])).map fun rest =>
    (rest.takeWhile (· != '\n'), (rest.dropWhile (· != '\n')).drop 1)

/-- The values of the three macros, which are defined behind the first comment and a blank
line. -/
def macroValues? (layout : Layout) (header : String) : Option (List (List Char)) := do
  let comment ← firstComment? header.toList
  let text ← comment.behind.dropPrefix? ['\n', '\n']
  let (count, text) ← macroValue? layout.countMacro text
  let (stride, text) ← macroValue? layout.strideMacro text
  let (length, _) ← macroValue? layout.lengthMacro text
  return [count, stride, length]

/-! ### Lines -/

theorem isLiteral_literal (octet : UInt8) : IsLiteral octet (literal octet) := by
  have hhigh := hexValue?_hexDigit (octet.toNat / 16) (by have := octet.toNat_lt; omega)
  have hlow := hexValue?_hexDigit (octet.toNat % 16) (by omega)
  exact ⟨_, _, rfl, hhigh, hlow⟩

def arrayLine (octets : Bytes) : List Char :=
  "    ".toList ++ [',', ' '].intercalate (octets.map literal) ++ [',']

theorem showsOctets_arrayLine (octets : Bytes) : ShowsOctets octets (arrayLine octets) := by
  refine ⟨octets.map literal, ?_, rfl⟩
  rw [List.forall₂_map_right_iff, List.forall₂_same]
  intro octet _
  exact isLiteral_literal octet

theorem feed_notMem_arrayLine (octets : Bytes) : '\n' ∉ arrayLine octets := by
  have hdigit : ∀ n < 16, hexDigit n ≠ '\n' := by decide
  have hliteral : ∀ octet : UInt8, '\n' ∉ literal octet := by
    intro octet
    have hhigh := hdigit (octet.toNat / 16) (by have := octet.toNat_lt; omega)
    have hlow := hdigit (octet.toNat % 16) (by omega)
    simp [literal, hhigh.symm, hlow.symm]
  have hliterals : '\n' ∉ [',', ' '].intercalate (octets.map literal) := by
    intro h
    rcases Text.mem_of_mem_intercalate h with hseparator | ⟨piece, hpiece, hfeed⟩
    · exact absurd hseparator (by decide)
    · obtain ⟨octet, _, rfl⟩ := List.mem_map.mp hpiece
      exact hliteral octet hfeed
  have hends : '\n' ∉ "    ".toList ∧ '\n' ∉ [','] := by decide
  simp only [arrayLine, List.mem_append, hliterals, hends, or_self, not_false_eq_true]

theorem dataBlock_eq (bytes : Bytes) :
    dataBlock bytes = ((chunks octetsPerLine bytes).map arrayLine).flatMap (· ++ ['\n']) := by
  have hline : dataLine = fun octets => arrayLine octets ++ ['\n'] := by
    funext octets
    rw [dataLine, arrayLine, List.append_assoc _ [','] ['\n']]
    rfl
  rw [dataBlock, hline, List.flatMap_map]

/-- The lines of the array are those of the octets, sixteen at a time. -/
theorem arrayLines_text (layout : Layout) (n : Nat) (bytes : Bytes) (content : String) :
    arrayLines (String.ofList (text layout n bytes content)) =
      (chunks octetsPerLine bytes).map arrayLine := by
  have single : ∀ line ∈ (chunks octetsPerLine bytes).map arrayLine, '\n' ∉ line := by
    rw [List.forall_mem_map]
    intro octets _
    exact feed_notMem_arrayLine octets
  have hsplit : ('\n' :: dataBlock bytes).splitOn '\n' =
      [] :: ((chunks octetsPerLine bytes).map arrayLine ++ [[]]) := by
    have hfirst := List.splitOn_append_cons_self (a := '\n') [] (dataBlock bytes)
    rw [dataBlock_eq, Text.splitOn_flatMap_feed single] at hfirst
    rw [dataBlock_eq]
    exact hfirst
  rw [arrayLines, String.toList_ofList, takeWhile_behindLastBrace_text, hsplit, List.tail_cons,
    List.dropLast_concat]

/-! ### Numbers -/

theorem feed_notMem_decimal (n : Nat) : '\n' ∉ decimal n := by
  intro h
  have hdigit : '\n'.isDigit = true := Nat.isDigit_of_mem_toDigits (by decide) (by decide) h
  exact absurd hdigit (by decide)

theorem macroValue?_define (name : String) (value : Nat) (behind : List Char) :
    macroValue? name (define name value ++ behind) = some (Nat.toDigits 10 value, behind) := by
  have hdigits : ∀ c ∈ decimal value, (c != '\n') = true := by
    intro c hc
    have hne : c ≠ '\n' := fun h => feed_notMem_decimal value (h ▸ hc)
    simpa using hne
  unfold macroValue? define
  generalize "#define ".toList = directive
  have hsplit : directive ++ name.toList ++ [' '] ++ decimal value ++ ['\n'] ++ behind =
      (directive ++ name.toList ++ [' ']) ++ (decimal value ++ '\n' :: behind) := by
    simp
  rw [hsplit, List.dropPrefix?_append_of_beq _ (beq_self_eq_true _), Option.map_some,
    List.takeWhile_append_of_pos hdigits, List.dropWhile_append_of_pos hdigits]
  simp [decimal]

/-- The three macros have the side, the octets of a row and the octets of the array. -/
theorem macroValues?_text (layout : Layout) (n : Nat) (bytes : Bytes) (content : String) :
    macroValues? layout (String.ofList (text layout n bytes content)) =
      some ([n, stride n, packedLength n].map (Nat.toDigits 10)) := by
  obtain ⟨array, hcode⟩ : ∃ array, code layout n bytes =
      define layout.countMacro n ++ (define layout.strideMacro (stride n) ++
        (define layout.lengthMacro (packedLength n) ++ array)) := by
    refine ⟨['\n'] ++ arrayOpening layout ++ dataBlock bytes ++ "\x7d;\n".toList, ?_⟩
    simp only [code, defines, Extent.ofSide, List.append_assoc]
  have hblank : ('\n' :: '\n' :: code layout n bytes).dropPrefix? ['\n', '\n'] =
      some (code layout n bytes) :=
    List.dropPrefix?_append_of_beq _ (beq_self_eq_true ['\n', '\n'])
  simp only [macroValues?, String.toList_ofList, firstComment?_text, Option.bind_eq_bind,
    Option.bind_some, hblank]
  simp only [hcode, macroValue?_define, Option.bind_some, Option.pure_def, List.map_cons,
    List.map_nil]

/-! ### Headers -/

theorem readOctets?_of_render {layout : Layout} {n : Nat} {bytes : Bytes} {content header : String}
    (h : render layout n bytes content = .ok header) : readOctets? header = some bytes := by
  obtain ⟨_, rfl⟩ := render_eq_ok_iff.mp h
  exact readOctets?_text layout n bytes content

/-- A header tells its number of modules and its buffer, whatever its names and labels are. -/
theorem eq_of_render_eq_render {layout other : Layout} {m n : Nat} {bytes octets : Bytes}
    {content label header : String} (h : render layout n bytes content = .ok header)
    (hother : render other m octets label = .ok header) : m = n ∧ octets = bytes := by
  have hread := readOctets?_of_render h
  rw [readOctets?_of_render hother, Option.some.injEq] at hread
  subst hread
  exact ⟨eq_of_render_eq_ok h hother, rfl⟩

/-- The array is the last thing in a header: its opening, its lines and its end. -/
theorem exists_text_eq_arrayLines (layout : Layout) (n : Nat) (bytes : Bytes) (content : String) :
    ∃ front, text layout n bytes content = front ++ arrayOpening layout ++
      (arrayLines (String.ofList (text layout n bytes content))).flatMap (· ++ ['\n']) ++
      "\x7d;\n".toList := by
  rw [arrayLines_text, ← dataBlock_eq]
  exact ⟨_, rfl⟩

/-- What a header shows is its side and its buffer, exactly. The array ends it: between the
braces the octets stand in their order, sixteen on every line but the last, each as a literal of
two digits. The macros have the side, the octets of a row and the octets of the array to the
base ten. So two headers, if they are the same, are for the same side and for the same
buffer. -/
theorem header_shows_size_and_octets (layout : Layout) (content : String) {n : Nat}
    (positive : 0 < n) {bytes : Bytes} (whole : bytes.length = n * (n ⌈/⌉ 8)) :
    ∃ header front rows, render layout n bytes content = .ok header ∧
      header.toList = front ++ arrayOpening layout ++
        (arrayLines header).flatMap (· ++ ['\n']) ++ "\x7d;\n".toList ∧
      (arrayLines header).length = bytes.length ⌈/⌉ 16 ∧
      List.Forall₂ ShowsOctets rows (arrayLines header) ∧
      rows.flatten = bytes ∧
      (∀ row ∈ rows.dropLast, row.length = 16) ∧
      (∀ row ∈ rows, 1 ≤ row.length ∧ row.length ≤ 16) ∧
      macroValues? layout header =
        some ([n, n ⌈/⌉ 8, rows.flatten.length].map (Nat.toDigits 10)) ∧
      rows.flatten.length = n * (n ⌈/⌉ 8) ∧
      ∀ other m octets label, render other m octets label = .ok header →
        m = n ∧ octets = bytes := by
  have fits : bytes.length = packedLength n := whole.trans (packedLength_eq n).symm
  have hrender := render_eq_ok positive fits layout content
  have hlines := arrayLines_text layout n bytes content
  have hrows : (chunks octetsPerLine bytes).flatten = bytes := flatten_chunks octetsPerLine bytes
  obtain ⟨front, htext⟩ := exists_text_eq_arrayLines layout n bytes content
  refine ⟨_, front, chunks octetsPerLine bytes, hrender, ?_, ?_, ?_, hrows, ?_, ?_, ?_, ?_, ?_⟩
  · rw [String.toList_ofList]
    exact htext
  · rw [hlines, List.length_map, length_chunks octetsPerLine (by decide),
      Nat.ceilDiv_eq_add_pred_div]
    rfl
  · rw [hlines, List.forall₂_map_right_iff, List.forall₂_same]
    intro row _
    exact showsOctets_arrayLine row
  · exact length_of_mem_dropLast_chunks (by decide)
  · intro row hrow
    exact ⟨List.length_pos_iff.mpr (ne_nil_of_mem_chunks row hrow),
      length_le_of_mem_chunks (by decide) row hrow⟩
  · rw [hrows, macroValues?_text, stride_eq_ceilDiv, fits]
  · rw [hrows, whole]
  · intro other m octets label hother
    exact eq_of_render_eq_render hrender hother

def firstOctets : Bytes :=
  (List.range 18).map UInt8.ofNat

/-- Nine rows of two octets make a full line and one of two octets, although the names of the
layout look like braces, literals and macros. -/
theorem header_shows_size_and_octets_braced :
    0 < 9 ∧ firstOctets.length = 9 * (9 ⌈/⌉ 8) ∧
      ∃ header, render bracedLayout 9 firstOctets "\x7b0x00,\x7d;" = .ok header ∧
        (arrayLines header).length = 2 ∧
        macroValues? bracedLayout header = some [['9'], ['2'], ['1', '8']] ∧
        ¬ render bracedLayout 9 (List.replicate 18 0) "" = .ok header := by
  have whole : firstOctets.length = 9 * (9 ⌈/⌉ 8) := by decide
  obtain ⟨header, _, rows, hrender, _, hcount, _, hrows, _, _, hvalues, _, hunique⟩ :=
    header_shows_size_and_octets bracedLayout "\x7b0x00,\x7d;" (by decide) whole
  refine ⟨by decide, whole, header, hrender, hcount.trans (by decide), ?_, ?_⟩
  · rw [hvalues, hrows]
    decide
  · intro hother
    obtain ⟨_, hsame⟩ := hunique _ _ _ _ hother
    exact absurd hsame (by decide)

end DeviceAssets.Header
