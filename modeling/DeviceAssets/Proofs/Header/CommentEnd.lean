import DeviceAssets.Header.Render
import DeviceAssets.Proofs.Text.Mark

/-!
# Where the comment of a header ends

A program that includes a header sees what is left when comments are dropped. The labels of
a header stand in its comment, which ends on the line that the header closes it with,
whatever they say: so two headers that agree in their names and their data are the same
without comments. Comments are looked for in the text as it is written.
-/

namespace DeviceAssets.Header

open Mark

/-! ### Comments -/

def commentOpening : List Char := ['/', '*']

def commentClosing : List Char := ['*', '/']

mutual

def stripComments : List Char → List Char
  | '/' :: '*' :: rest => skipComment rest
  | c :: rest => c :: stripComments rest
  | [] => []

/-- What is left of a text that begins inside a comment. One that is not closed reaches to
the end. -/
def skipComment : List Char → List Char
  | '*' :: '/' :: rest => stripComments rest
  | _ :: rest => skipComment rest
  | [] => []

end

structure Commented where
  before : List Char
  inside : List Char
  behind : List Char
  deriving DecidableEq, Repr

/-- The text cut at the first mark that opens a comment, and behind it at the first that
closes one. -/
def firstComment? (text : List Char) : Option Commented := do
  let (before, rest) ← text.dropInfix? commentOpening
  let (inside, behind) ← rest.dropInfix? commentClosing
  return ⟨before, inside, behind⟩

theorem firstComment?_eq_some_iff {text before inside behind : List Char} :
    firstComment? text = some ⟨before, inside, behind⟩ ↔
      text = before ++ commentOpening ++ (inside ++ commentClosing ++ behind) ∧
        ¬ commentOpening <:+: before ∧ ¬ commentClosing <:+: inside := by
  have hopening : ∀ front rest, text.dropInfix? commentOpening = some (front, rest) ↔
      text = front ++ commentOpening ++ rest ∧ ¬ commentOpening <:+: front :=
    fun _ _ => dropInfix?_pair_eq_some_iff (by decide)
  have hclosing : ∀ rest middle back, rest.dropInfix? commentClosing = some (middle, back) ↔
      rest = middle ++ commentClosing ++ back ∧ ¬ commentClosing <:+: middle :=
    fun _ _ _ => dropInfix?_pair_eq_some_iff (by decide)
  constructor
  · intro h
    simp only [firstComment?, Option.bind_eq_bind, Option.bind_eq_some_iff, Option.pure_def,
      Option.some.injEq, Commented.mk.injEq] at h
    obtain ⟨⟨front, rest⟩, hfront, ⟨middle, back⟩, hmiddle, rfl, rfl, rfl⟩ := h
    obtain ⟨htext, unopened⟩ := (hopening front rest).mp hfront
    obtain ⟨rfl, unclosed⟩ := (hclosing rest middle back).mp hmiddle
    exact ⟨htext, unopened, unclosed⟩
  · rintro ⟨htext, unopened, unclosed⟩
    have hfront := (hopening before (inside ++ commentClosing ++ behind)).mpr ⟨htext, unopened⟩
    have hmiddle := (hclosing _ inside behind).mpr ⟨rfl, unclosed⟩
    simp only [firstComment?, Option.bind_eq_bind, hfront, Option.bind_some, hmiddle,
      Option.pure_def]

theorem stripComments_append_opening {before : List Char}
    (unopened : ¬ commentOpening <:+: before) (rest : List Char) :
    stripComments (before ++ '/' :: '*' :: rest) = before ++ skipComment rest := by
  induction before with
  | nil => rw [List.nil_append, stripComments, List.nil_append]
  | cons c more ih =>
    rw [commentOpening, pair_in_cons_iff, not_or] at unopened
    have hcopied : ∀ tail, c = '/' → more ++ '/' :: '*' :: rest = '*' :: tail → False := by
      intro tail hslash hstar
      cases more with
      | nil => cases hstar
      | cons next others =>
        cases hstar
        exact unopened.1 ⟨hslash, rfl⟩
    rw [List.cons_append, stripComments, ih unopened.2, List.cons_append]
    exact hcopied

theorem skipComment_append_closing {inside : List Char}
    (unclosed : ¬ commentClosing <:+: inside) (rest : List Char) :
    skipComment (inside ++ '*' :: '/' :: rest) = stripComments rest := by
  induction inside with
  | nil => rw [List.nil_append, skipComment]
  | cons c more ih =>
    rw [commentClosing, pair_in_cons_iff, not_or] at unclosed
    have hskipped : ∀ tail, c = '*' → more ++ '*' :: '/' :: rest = '/' :: tail → False := by
      intro tail hstar hslash
      cases more with
      | nil => cases hslash
      | cons next others =>
        cases hslash
        exact unclosed.1 ⟨hstar, rfl⟩
    rw [List.cons_append, skipComment, ih unclosed.2]
    exact hskipped

/-- Without its first comment, a text is what stands around it. -/
theorem stripComments_of_firstComment? {text before inside behind : List Char}
    (h : firstComment? text = some ⟨before, inside, behind⟩) :
    stripComments text = before ++ stripComments behind := by
  obtain ⟨rfl, unopened, unclosed⟩ := firstComment?_eq_some_iff.mp h
  have hopening := stripComments_append_opening unopened (inside ++ '*' :: '/' :: behind)
  rw [skipComment_append_closing unclosed] at hopening
  simpa [commentOpening, commentClosing] using hopening

/-- The mark that opens a comment does not close it. -/
example : stripComments ['a', '/', '*', '/', 'b', '*', '/', 'c'] = ['a', 'c'] := by decide

/-! ### Labels -/

theorem head?_escape (text : List Char) : (escape text).head? = text.head? := by
  fun_cases escape text <;> rfl

/-- A label does not close a comment. -/
theorem closing_notIn_escape (text : List Char) : ¬ commentClosing <:+: escape text := by
  unfold commentClosing
  fun_induction escape text with
  | case1 rest ih =>
    simp [pair_in_cons_iff, ih]
  | case2 c rest unmarked ih =>
    rw [pair_in_cons_iff, head?_escape]
    rintro (⟨rfl, hslash⟩ | hrest)
    · obtain ⟨more, rfl⟩ := List.head?_eq_some_iff.mp hslash
      exact unmarked more rfl rfl
    · exact ih hrest
  | case3 => simp

/-! ### Headers -/

def preamble : List Char :=
  "#pragma once\n\n#include <stdint.h>\n\n".toList

def labels (layout : Layout) (content : String) : List (List Char) :=
  layout.description.map (fun line => escape line.toList) ++
    ["- Content: ".toList ++ escape content.toList]

/-- What stands between the marks of the comment. The closing mark is on a line of its own,
behind one space. -/
def insideComment (layout : Layout) (content : String) : List Char :=
  '\n' :: ((labels layout content).flatMap commentLine ++ [' '])

/-- What the comment of a header must not reach: the macros and the array. -/
def code (layout : Layout) (n : Nat) (bytes : Bytes) : List Char :=
  defines layout (.ofSide n) ++ ['\n'] ++ arrayOpening layout ++ dataBlock bytes ++
    "\x7d;\n".toList

theorem text_eq_commented (layout : Layout) (n : Nat) (bytes : Bytes) (content : String) :
    text layout n bytes content =
      preamble ++ commentOpening ++
        (insideComment layout content ++ commentClosing ++
          '\n' :: '\n' :: code layout n bytes) := by
  have hopening : "/*\n".toList = commentOpening ++ ['\n'] := by decide
  have hclosing : " */\n".toList = ' ' :: commentClosing ++ ['\n'] := by decide
  unfold text textAs comment preamble insideComment labels code
  rw [hopening, hclosing]
  -- Only the places of the literals matter, and comparing them would spell them out.
  generalize "#pragma once\n\n#include <stdint.h>\n\n".toList = preamble
  generalize "- Content: ".toList = heading
  generalize "\x7d;\n".toList = ending
  simp [List.flatMap_map]

theorem opening_notIn_preamble : ¬ commentOpening <:+: preamble := by
  have hslash : '/' ∉ preamble := by decide
  intro h
  exact hslash (h.subset List.mem_cons_self)

def lineStart : List Char := [' ', '*', ' ']

theorem flatMap_commentLine (lines : List (List Char)) :
    lines.flatMap commentLine = (lines.map (· ++ ['\n'])).flatMap (lineStart ++ ·) := by
  have hstart : " * ".toList = lineStart := by decide
  have hline : commentLine = fun line => lineStart ++ (line ++ ['\n']) := by
    funext line
    rw [commentLine, hstart, List.append_assoc]
  rw [hline, List.flatMap_map]

/-- A mark that closes the comment early would have to stand in what one of its lines says:
it does not reach over the start of a line. -/
theorem closing_in_lines_iff {bodies : List (List Char)} :
    commentClosing <:+: bodies.flatMap (lineStart ++ ·) ++ [' '] ↔
      ∃ body ∈ bodies, commentClosing <:+: body := by
  unfold commentClosing lineStart
  induction bodies with
  | nil => simp [pair_in_cons_iff]
  | cons body rest ih =>
    have hhead : (rest.flatMap ([' ', '*', ' '] ++ ·) ++ [' ']).head? = some ' ' := by
      cases rest <;> rfl
    have hstart : ¬ ['*', '/'] <:+: [' ', '*', ' '] := by simp [pair_in_cons_iff]
    rw [List.flatMap_cons, List.append_assoc, pair_in_append_iff, pair_in_append_iff, ih, hhead]
    simp [hstart]

theorem closing_in_feed_iff {label : List Char} :
    commentClosing <:+: label ++ ['\n'] ↔ commentClosing <:+: label := by
  simp [commentClosing, pair_in_append_iff, pair_in_cons_iff]

theorem star_notMem_heading : '*' ∉ "- Content: ".toList := by decide

theorem closing_notIn_labels {layout : Layout} {content : String} :
    ∀ label ∈ labels layout content, ¬ commentClosing <:+: label := by
  intro label hlabel
  rw [labels, List.mem_append, List.mem_map, List.mem_singleton] at hlabel
  rcases hlabel with ⟨line, _, rfl⟩ | rfl
  · exact closing_notIn_escape line.toList
  · rw [commentClosing, pair_in_append_iff_of_notMem star_notMem_heading]
    exact closing_notIn_escape content.toList

theorem closing_notIn_insideComment (layout : Layout) (content : String) :
    ¬ commentClosing <:+: insideComment layout content := by
  have hlines : ¬ commentClosing <:+: (labels layout content).flatMap commentLine ++ [' '] := by
    rw [flatMap_commentLine, closing_in_lines_iff]
    rintro ⟨body, hbody, hclosing⟩
    obtain ⟨label, hlabel, rfl⟩ := List.mem_map.mp hbody
    exact closing_notIn_labels label hlabel (closing_in_feed_iff.mp hclosing)
  unfold commentClosing at hlines ⊢
  rw [insideComment, pair_in_cons_iff]
  rintro (⟨hstar, _⟩ | h)
  · exact absurd hstar (by decide)
  · exact hlines h

/-- The first comment of a header is the one that it opens and closes itself. -/
theorem firstComment?_text (layout : Layout) (n : Nat) (bytes : Bytes) (content : String) :
    firstComment? (text layout n bytes content) =
      some ⟨preamble, insideComment layout content, '\n' :: '\n' :: code layout n bytes⟩ :=
  firstComment?_eq_some_iff.mpr ⟨text_eq_commented layout n bytes content,
    opening_notIn_preamble, closing_notIn_insideComment layout content⟩

/-- Two layouts in which the macros and the array have the same names. -/
structure Layout.SameNames (layout other : Layout) : Prop where
  countMacro : layout.countMacro = other.countMacro
  strideMacro : layout.strideMacro = other.strideMacro
  lengthMacro : layout.lengthMacro = other.lengthMacro
  arrayName : layout.arrayName = other.arrayName

theorem code_congr {layout other : Layout} (same : layout.SameNames other) (n : Nat)
    (bytes : Bytes) : code layout n bytes = code other n bytes := by
  unfold code defines arrayOpening
  rw [same.countMacro, same.strideMacro, same.lengthMacro, same.arrayName]

/-- The first comment of a header closes on a line of its own, and behind it stand a blank
line and `code`. -/
def ClosesAbove (code header : List Char) : Prop :=
  ∃ lines, firstComment? header = some ⟨preamble, lines ++ ['\n', ' '], '\n' :: '\n' :: code⟩

theorem exists_insideComment_eq (layout : Layout) (content : String) :
    ∃ lines, insideComment layout content = lines ++ ['\n', ' '] := by
  refine ⟨'\n' :: ((layout.description.map fun line => escape line.toList).flatMap commentLine ++
    (" * ".toList ++ ("- Content: ".toList ++ escape content.toList))), ?_⟩
  rw [insideComment, labels, List.flatMap_append, List.flatMap_singleton, commentLine]
  simp only [List.append_assoc, List.cons_append, List.nil_append]

theorem closesAbove_text (layout : Layout) (n : Nat) (bytes : Bytes) (content : String) :
    ClosesAbove (code layout n bytes) (text layout n bytes content) := by
  obtain ⟨lines, hlines⟩ := exists_insideComment_eq layout content
  exact ⟨lines, hlines ▸ firstComment?_text layout n bytes content⟩

theorem define_isPrefix_code (layout : Layout) (n : Nat) (bytes : Bytes) :
    "#define ".toList <+: code layout n bytes := by
  unfold code defines define
  simp only [List.append_assoc]
  exact List.prefix_append _ _

/-- Labels have no influence on what stands outside the comment. Whatever the description
and the label of a header say, its comment closes on its own closing line, behind which the
blank line and the macros follow; so headers of the same data that differ in their labels
only are the same without comments. -/
theorem labels_stay_in_comment {n : Nat} (positive : 0 < n) {bytes : Bytes}
    (whole : bytes.length = packedLength n) {layout other : Layout}
    (same : layout.SameNames other) (content label : String) :
    ∃ header otherHeader, render layout n bytes content = .ok header ∧
      render other n bytes label = .ok otherHeader ∧
      stripComments header.toList = stripComments otherHeader.toList ∧
      ClosesAbove (code layout n bytes) header.toList ∧
      ClosesAbove (code layout n bytes) otherHeader.toList ∧
      "#define ".toList <+: code layout n bytes := by
  have hstripped := stripComments_of_firstComment? (firstComment?_text layout n bytes content)
  have hotherStripped := stripComments_of_firstComment? (firstComment?_text other n bytes label)
  have hcloses := closesAbove_text layout n bytes content
  have hotherCloses := closesAbove_text other n bytes label
  rw [← code_congr same] at hotherStripped hotherCloses
  refine ⟨_, _, render_eq_ok positive whole layout content,
    render_eq_ok positive whole other label, ?_⟩
  rw [String.toList_ofList, String.toList_ofList]
  exact ⟨hstripped.trans hotherStripped.symm, hcloses, hotherCloses,
    define_isPrefix_code layout n bytes⟩

/-- A layout whose lines are made of pieces of the marks. -/
def markedLayout : Layout :=
  { Layout.qrModules with description := ["**/", "*//*/", "/", "*\\", "*"] }

theorem labels_stay_in_comment_marked :
    0 < 1 ∧ [0x80].length = packedLength 1 ∧ markedLayout.SameNames Layout.qrModules ∧
      ∃ header otherHeader,
        render markedLayout 1 [0x80] "/ */\n#define QR_MODULES 9\n/* **/ *" = .ok header ∧
        render Layout.qrModules 1 [0x80] "" = .ok otherHeader ∧
        stripComments header.toList = stripComments otherHeader.toList ∧
        ClosesAbove (code markedLayout 1 [0x80]) header.toList ∧
        ClosesAbove (code markedLayout 1 [0x80]) otherHeader.toList ∧
        "#define ".toList <+: code markedLayout 1 [0x80] :=
  have same : markedLayout.SameNames Layout.qrModules := ⟨rfl, rfl, rfl, rfl⟩
  ⟨by decide, by decide, same, labels_stay_in_comment (by decide) (by decide) same _ _⟩

end DeviceAssets.Header
