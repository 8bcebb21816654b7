import DeviceAssets.Proofs.Header.CommentEnd

/-!
# Comments and continued lines

A compiler looks for comments only after it has joined continued lines: a backslash and the
line feed behind it are taken out first. A label in which nothing but such pairs stand between
an asterisk and a slash then closes the comment, as `escape` sees no mark in it. These are
the only labels that do: the comment of a header ends on its own closing line exactly
where no label is of this kind.
-/

namespace DeviceAssets.Header

open Mark

/-- The text with continued lines joined: every backslash in front of a line feed is taken
out together with it. -/
def splice : List Char → List Char
  | '\\' :: '\n' :: rest => splice rest
  | c :: rest => c :: splice rest
  | [] => []

/-- A slash on the last of some continued lines that hold nothing else. -/
def continuedSlash (continuations : Nat) : List Char :=
  (List.replicate continuations ['\\', '\n']).flatten ++ ['/']

/-- In a text an asterisk and a slash are parted by continued lines and nothing else. -/
def HidesClosing (text : List Char) : Prop :=
  ∃ continuations, 0 < continuations ∧ '*' :: continuedSlash continuations <:+: text

/-! ### Joining lines -/

theorem splice_of_notMem {text : List Char} (plain : '\\' ∉ text) : splice text = text := by
  fun_induction splice text with
  | case1 rest => exact absurd List.mem_cons_self plain
  | case2 c rest _ ih => rw [ih fun h => plain (List.mem_cons_of_mem c h)]
  | case3 => rfl

/-- Texts are joined one by one where no line is continued from one to the next. -/
theorem splice_append {front back : List Char}
    (apart : ¬ (front.getLast? = some '\\' ∧ back.head? = some '\n')) :
    splice (front ++ back) = splice front ++ splice back := by
  fun_induction splice front with
  | case1 rest ih =>
    have hrest : ¬ (rest.getLast? = some '\\' ∧ back.head? = some '\n') := by
      rintro ⟨hlast, hhead⟩
      refine apart ⟨?_, hhead⟩
      rw [List.getLast?_cons, List.getLast?_cons, hlast]
      rfl
    rw [List.cons_append, List.cons_append, splice, ih hrest]
  | case2 c rest unspliced ih =>
    have hrest : ¬ (rest.getLast? = some '\\' ∧ back.head? = some '\n') := by
      rintro ⟨hlast, hhead⟩
      refine apart ⟨?_, hhead⟩
      rw [List.getLast?_cons, hlast]
      rfl
    have hkept : ∀ more, c = '\\' → rest ++ back = '\n' :: more → False := by
      rintro more rfl hfeed
      cases rest with
      | nil => exact apart ⟨rfl, by rw [List.nil_append] at hfeed; rw [hfeed]; rfl⟩
      | cons next others =>
        cases hfeed
        exact unspliced others rfl rfl
    rw [List.cons_append, splice, ih hrest, List.cons_append]
    exact hkept
  | case3 => rfl

theorem splice_append_of_getLast?_ne {front : List Char} (ends : front.getLast? ≠ some '\\')
    (back : List Char) : splice (front ++ back) = splice front ++ splice back :=
  splice_append fun h => ends h.1

theorem splice_append_of_head?_ne (front : List Char) {back : List Char}
    (begins : back.head? ≠ some '\n') : splice (front ++ back) = splice front ++ splice back :=
  splice_append fun h => begins h.2

/-! ### Marks in joined lines -/

theorem continuedSlash_zero : continuedSlash 0 = ['/'] := rfl

theorem continuedSlash_succ (continuations : Nat) :
    continuedSlash (continuations + 1) = '\\' :: '\n' :: continuedSlash continuations := rfl

theorem head?_splice_eq_slash_iff {text : List Char} :
    (splice text).head? = some '/' ↔ ∃ continuations, continuedSlash continuations <+: text := by
  fun_induction splice text with
  | case1 rest ih =>
    rw [ih]
    constructor
    · rintro ⟨continuations, h⟩
      refine ⟨continuations + 1, ?_⟩
      rw [continuedSlash_succ]
      simpa using h
    · rintro ⟨continuations, h⟩
      cases continuations with
      | zero => simp [continuedSlash_zero] at h
      | succ continuations =>
        rw [continuedSlash_succ] at h
        exact ⟨continuations, by simpa using h⟩
  | case2 c rest unspliced ih =>
    constructor
    · intro h
      refine ⟨0, ?_⟩
      rw [continuedSlash_zero]
      simpa [eq_comm] using h
    · rintro ⟨continuations, h⟩
      cases continuations with
      | zero => simpa [continuedSlash_zero, eq_comm] using h
      | succ continuations =>
        rw [continuedSlash_succ, List.cons_prefix_cons] at h
        obtain ⟨rfl, more, rfl⟩ := h
        exact (unspliced _ rfl rfl).elim
  | case3 => simp [continuedSlash]

theorem closing_in_splice_iff {text : List Char} :
    commentClosing <:+: splice text ↔
      ∃ continuations, '*' :: continuedSlash continuations <:+: text := by
  fun_induction splice text with
  | case1 rest ih =>
    rw [ih]
    simp [List.infix_cons_iff, List.cons_prefix_cons]
  | case2 c rest unspliced ih =>
    unfold commentClosing at ih ⊢
    rw [pair_in_cons_iff, ih, head?_splice_eq_slash_iff]
    simp only [List.infix_cons_iff, List.cons_prefix_cons, exists_or, exists_and_left]
    rw [eq_comm]
  | case3 => simp [commentClosing]

/-- Taking out a pair may bring another together, which then stays. -/
example : splice ['\\', '\\', '\n', '\n', '/'] = ['\\', '\n', '/'] := by decide

/-! ### Labels -/

/-- Only an asterisk is changed by what stands behind it. -/
theorem cons_prefix_escape_iff {c : Char} (plain : c ≠ '*') {front text : List Char} :
    c :: front <+: escape text ↔ ∃ rest, text = c :: rest ∧ front <+: escape rest := by
  fun_cases escape text with
  | case1 rest => simp [List.cons_prefix_cons, plain, plain.symm]
  | case2 first rest unmarked =>
    rw [List.cons_prefix_cons]
    constructor
    · rintro ⟨rfl, h⟩
      exact ⟨rest, rfl, h⟩
    · rintro ⟨more, hsame, h⟩
      cases hsame
      exact ⟨rfl, h⟩
  | case3 => simp

theorem continuedSlash_prefix_escape_iff {continuations : Nat} {text : List Char} :
    continuedSlash continuations <+: escape text ↔ continuedSlash continuations <+: text := by
  induction continuations generalizing text with
  | zero =>
    rw [continuedSlash_zero, cons_prefix_escape_iff (by decide)]
    cases text <;> simp [List.cons_prefix_cons, eq_comm]
  | succ continuations ih =>
    rw [continuedSlash_succ, cons_prefix_escape_iff (by decide)]
    constructor
    · rintro ⟨rest, rfl, hfeed⟩
      obtain ⟨more, rfl, hslash⟩ := (cons_prefix_escape_iff (by decide)).mp hfeed
      simpa using ih.mp hslash
    · rintro ⟨behind, rfl⟩
      refine ⟨_, rfl, (cons_prefix_escape_iff (by decide)).mpr ⟨_, rfl, ih.mpr ?_⟩⟩
      exact List.prefix_append _ _

/-- An escape never stands in front of a line feed, so it neither makes nor removes what is
hidden in a label. -/
theorem hidden_in_escape_iff {continuations : Nat} {text : List Char} :
    '*' :: continuedSlash (continuations + 1) <:+: escape text ↔
      '*' :: continuedSlash (continuations + 1) <:+: text := by
  fun_induction escape text with
  | case1 rest ih =>
    rw [continuedSlash_succ] at ih ⊢
    simpa [List.infix_cons_iff, List.cons_prefix_cons] using ih
  | case2 c rest unmarked ih =>
    rw [List.infix_cons_iff, List.infix_cons_iff, ih, List.cons_prefix_cons,
      List.cons_prefix_cons, continuedSlash_prefix_escape_iff]
  | case3 => rfl

theorem closing_in_splice_escape_iff {text : List Char} :
    commentClosing <:+: splice (escape text) ↔ HidesClosing text := by
  rw [closing_in_splice_iff]
  constructor
  · rintro ⟨continuations, h⟩
    cases continuations with
    | zero => exact absurd h (closing_notIn_escape text)
    | succ continuations =>
      exact ⟨continuations + 1, Nat.succ_pos _, hidden_in_escape_iff.mp h⟩
  · rintro ⟨continuations, positive, h⟩
    obtain ⟨fewer, rfl⟩ : ∃ fewer, continuations = fewer + 1 := ⟨continuations - 1, by omega⟩
    exact ⟨fewer + 1, hidden_in_escape_iff.mpr h⟩

/-- A label may end in a backslash, and then the next line is joined to it. -/
theorem closing_in_splice_feed_iff {label : List Char} :
    commentClosing <:+: splice (label ++ ['\n']) ↔ commentClosing <:+: splice label := by
  have hlast : ∀ continuations, ¬ '*' :: continuedSlash continuations <:+ label ++ ['\n'] := by
    rintro continuations ⟨front, h⟩
    have hends := congrArg List.getLast? h
    simp [continuedSlash, List.getLast?_cons] at hends
  rw [closing_in_splice_iff, closing_in_splice_iff]
  simp only [List.infix_concat_iff, hlast, false_or]

/-! ### Headers -/

/-- A line may be continued on the next one, but only up to its start. -/
theorem splice_lines (lines : List (List Char)) :
    splice (lines.flatMap commentLine ++ [' ']) =
      (lines.map fun line => splice (line ++ ['\n'])).flatMap (lineStart ++ ·) ++ [' '] := by
  rw [flatMap_commentLine]
  induction lines with
  | nil => rfl
  | cons line rest ih =>
    have hstart : splice lineStart = lineStart := splice_of_notMem (by decide)
    have hindent : ∀ back, splice (lineStart ++ back) = lineStart ++ splice back := by
      intro back
      rw [splice_append_of_getLast?_ne (by decide), hstart]
    have hfeed : ∀ back, splice (line ++ ['\n'] ++ back) = splice (line ++ ['\n']) ++ splice back :=
      splice_append_of_getLast?_ne (by simp)
    rw [List.map_cons, List.flatMap_cons, List.append_assoc, List.append_assoc, hindent, hfeed, ih,
      List.map_cons, List.flatMap_cons, List.append_assoc, List.append_assoc]

theorem splice_insideComment (layout : Layout) (content : String) :
    splice (insideComment layout content) =
      '\n' :: (((labels layout content).map fun label => splice (label ++ ['\n'])).flatMap
        (lineStart ++ ·) ++ [' ']) := by
  have hkept : ∀ more, '\n' = '\\' → (labels layout content).flatMap commentLine ++ [' '] =
      '\n' :: more → False := fun _ h => absurd h (by decide)
  rw [insideComment, splice, splice_lines]
  exact hkept

theorem closing_in_splice_labels_iff {layout : Layout} {content : String} :
    (∃ label ∈ labels layout content, commentClosing <:+: splice label) ↔
      ∃ label ∈ content :: layout.description, HidesClosing label.toList := by
  have hheading : commentClosing <:+:
      splice ("- Content: ".toList ++ escape content.toList) ↔ HidesClosing content.toList := by
    have hplain : splice "- Content: ".toList = "- Content: ".toList :=
      splice_of_notMem (by decide)
    rw [splice_append_of_getLast?_ne (by decide), hplain, ← closing_in_splice_escape_iff,
      commentClosing, pair_in_append_iff_of_notMem star_notMem_heading]
  simp only [labels, List.mem_append, List.mem_map, or_and_right, exists_or, exists_eq_left,
    hheading, List.mem_cons]
  rw [or_comm]
  simp [closing_in_splice_escape_iff]

theorem closing_in_splice_insideComment_iff {layout : Layout} {content : String} :
    commentClosing <:+: splice (insideComment layout content) ↔
      ∃ label ∈ content :: layout.description, HidesClosing label.toList := by
  rw [splice_insideComment, commentClosing, pair_in_cons_iff, ← commentClosing,
    closing_in_lines_iff, ← closing_in_splice_labels_iff]
  simp [closing_in_splice_feed_iff]

/-- The marks of the comment are there after lines have been joined, whatever its labels
are. -/
theorem splice_text (layout : Layout) (n : Nat) (bytes : Bytes) (content : String) :
    splice (text layout n bytes content) =
      preamble ++ commentOpening ++ (splice (insideComment layout content) ++ commentClosing ++
        splice ('\n' :: '\n' :: code layout n bytes)) := by
  have hfront : splice (preamble ++ commentOpening) = preamble ++ commentOpening :=
    splice_of_notMem (by decide)
  have hclosing : splice commentClosing = commentClosing := splice_of_notMem (by decide)
  rw [text_eq_commented, splice_append_of_getLast?_ne (by decide), hfront,
    splice_append_of_getLast?_ne (by simp [commentClosing]),
    splice_append_of_head?_ne _ (by decide), hclosing]

theorem firstComment?_splice_text_iff {layout : Layout} {n : Nat} {bytes : Bytes}
    {content : String} :
    firstComment? (splice (text layout n bytes content)) =
        some ⟨preamble, splice (insideComment layout content),
          splice ('\n' :: '\n' :: code layout n bytes)⟩ ↔
      ∀ label ∈ content :: layout.description, ¬ HidesClosing label.toList := by
  rw [firstComment?_eq_some_iff, closing_in_splice_insideComment_iff]
  constructor
  · rintro ⟨_, _, unhidden⟩ label hlabel hides
    exact unhidden ⟨label, hlabel, hides⟩
  · intro unhidden
    refine ⟨splice_text layout n bytes content, opening_notIn_preamble, ?_⟩
    rintro ⟨label, hlabel, hides⟩
    exact unhidden label hlabel hides

/-- With continued lines joined, the comment of a header still has its own marks around it,
and the closing one is the first exactly where no label hides one. -/
theorem closes_after_splicing_iff {n : Nat} (positive : 0 < n) {bytes : Bytes}
    (whole : bytes.length = packedLength n) (layout : Layout) (content : String) :
    ∃ header, render layout n bytes content = .ok header ∧
      splice header.toList =
        preamble ++ commentOpening ++ (splice (insideComment layout content) ++ commentClosing ++
          splice ('\n' :: '\n' :: code layout n bytes)) ∧
      (firstComment? (splice header.toList) =
          some ⟨preamble, splice (insideComment layout content),
            splice ('\n' :: '\n' :: code layout n bytes)⟩ ↔
        ∀ label ∈ content :: layout.description, ¬ HidesClosing label.toList) := by
  refine ⟨_, render_eq_ok positive whole layout content, ?_⟩
  rw [String.toList_ofList]
  exact ⟨splice_text layout n bytes content, firstComment?_splice_text_iff⟩

/-- An asterisk at the end of a continued line and a slash on the next. -/
theorem hidesClosing_continued : HidesClosing "*\\\n/".toList :=
  ⟨1, Nat.one_pos, by decide⟩

theorem closes_after_splicing_iff_continued :
    0 < 1 ∧ [0x80].length = packedLength 1 ∧
      ∃ header, render Layout.qrModules 1 [0x80] "*\\\n/" = .ok header ∧
        splice header.toList =
          preamble ++ commentOpening ++ (splice (insideComment Layout.qrModules "*\\\n/") ++
            commentClosing ++ splice ('\n' :: '\n' :: code Layout.qrModules 1 [0x80])) ∧
        (firstComment? (splice header.toList) =
            some ⟨preamble, splice (insideComment Layout.qrModules "*\\\n/"),
              splice ('\n' :: '\n' :: code Layout.qrModules 1 [0x80])⟩ ↔
          ∀ label ∈ "*\\\n/" :: Layout.qrModules.description, ¬ HidesClosing label.toList) :=
  ⟨by decide, by decide, closes_after_splicing_iff (by decide) (by decide) _ _⟩

/-- A label can close the comment: the escape looks at lines as they are written. -/
theorem label_closes_comment_when_spliced :
    ¬ ∀ (layout : Layout) (n : Nat) (bytes : Bytes) (content : String), 0 < n →
      bytes.length = packedLength n →
      ∃ header, render layout n bytes content = .ok header ∧
        firstComment? (splice header.toList) =
          some ⟨preamble, splice (insideComment layout content),
            splice ('\n' :: '\n' :: code layout n bytes)⟩ := by
  intro h
  obtain ⟨header, hrender, hcomment⟩ :=
    h Layout.qrModules 1 [0x80] "*\\\n/" (by decide) (by decide)
  rw [render_eq_ok (by decide) (by decide), Except.ok.injEq] at hrender
  rw [← hrender, String.toList_ofList, firstComment?_splice_text_iff] at hcomment
  exact hcomment _ List.mem_cons_self hidesClosing_continued

end DeviceAssets.Header
