import DeviceAssets.Xml.Reader

/-!
# Tags as they are written

A start tag is written with its name and its attributes, each value between double
quotation marks, and an end tag with its name alone. Reading what has been written gives
the name and the attributes back, and leaves what follows the tag.
-/

namespace DeviceAssets.Xml

def isMarkup (octet : UInt8) : Bool :=
  isSpace octet || ("<>/=\"'!?".toList.map Char.toUInt8).contains octet

/-- A name of an element or an attribute, with or without a prefix. -/
structure IsName (name : Bytes) : Prop where
  nonempty : name ≠ []
  plain : name.any isMarkup = false

def Attribute.written (found : Attribute) : Bytes :=
  0x20 :: (found.key ++ '='.toUInt8 :: 0x22 :: (found.value ++ [0x22]))

/-- An attribute that can be written: the value holds no double quotation mark. -/
structure Attribute.Writable (found : Attribute) : Prop where
  key : IsName found.key
  value : 0x22 ∉ found.value

def tagContent (name : Bytes) (list : List Attribute) : Bytes :=
  name ++ list.flatMap Attribute.written

def startTag (name : Bytes) (list : List Attribute) : Bytes :=
  '<'.toUInt8 :: (tagContent name list ++ ['>'.toUInt8])

def endTag (name : Bytes) : Bytes :=
  '<'.toUInt8 :: '/'.toUInt8 :: (name ++ ['>'.toUInt8])

/-! ### The brackets of tags -/

theorem IsName.isMarkup_of_mem {name : Bytes} (h : IsName name) {octet : UInt8}
    (hmem : octet ∈ name) : isMarkup octet = false :=
  Bool.eq_false_iff.mpr (List.any_eq_false.mp h.plain octet hmem)

theorem IsName.ne_of_mem {name : Bytes} (h : IsName name) {octet mark : UInt8}
    (hmark : isMarkup mark = true) (hmem : octet ∈ name) : octet ≠ mark := by
  rintro rfl
  rw [h.isMarkup_of_mem hmem] at hmark
  exact Bool.false_ne_true hmark

theorem IsName.notMem {name : Bytes} (h : IsName name) {mark : UInt8}
    (hmark : isMarkup mark = true) : mark ∉ name :=
  fun hmem => h.ne_of_mem hmark hmem rfl

/-- Octets that a tag goes through, whatever follows them, with no quotation mark open
before or behind them. -/
def InTag (bytes : Bytes) : Prop :=
  ∀ rest, tag none (bytes ++ rest) = (bytes ++ (tag none rest).1, (tag none rest).2)

theorem InTag.append {first second : Bytes} (hfirst : InTag first) (hsecond : InTag second) :
    InTag (first ++ second) := by
  intro rest
  rw [List.append_assoc, hfirst, hsecond, List.append_assoc]

theorem inTag_nil : InTag [] := fun _ => rfl

theorem inTag_cons {octet : UInt8} {bytes : Bytes} (hclose : octet ≠ '>'.toUInt8)
    (hdouble : octet ≠ 0x22) (hsingle : octet ≠ 0x27) (hbytes : InTag bytes) :
    InTag (octet :: bytes) := by
  intro rest
  simp [tag, hclose, hdouble, hsingle, hbytes rest]

theorem inTag_of_plain {name : Bytes} (plain : ∀ octet ∈ name, isMarkup octet = false) :
    InTag name := by
  induction name with
  | nil => exact inTag_nil
  | cons octet rest ih =>
    have hne : ∀ mark, isMarkup mark = true → octet ≠ mark := by
      rintro mark hmark rfl
      rw [plain octet List.mem_cons_self] at hmark
      exact Bool.false_ne_true hmark
    exact inTag_cons (hne _ (by decide)) (hne _ (by decide)) (hne _ (by decide))
      (ih fun other hmem => plain other (List.mem_cons_of_mem _ hmem))

theorem IsName.inTag {name : Bytes} (h : IsName name) : InTag name :=
  inTag_of_plain fun _ hmem => h.isMarkup_of_mem hmem

/-- Between quotation marks everything but the mark is passed over. -/
theorem tag_some_append {quote : UInt8} {value : Bytes} (free : quote ∉ value)
    (rest : Bytes) :
    tag (some quote) (value ++ quote :: rest) =
      (value ++ quote :: (tag none rest).1, (tag none rest).2) := by
  induction value with
  | nil => simp [tag]
  | cons octet value ih =>
    have hne : ¬ octet = quote := fun h => free (h ▸ List.mem_cons_self)
    have hvalue := ih fun h => free (List.mem_cons_of_mem _ h)
    simp [tag, hne, hvalue]

theorem Attribute.Writable.inTag {found : Attribute} (h : found.Writable) :
    InTag found.written := by
  have hquoted : InTag (0x22 :: (found.value ++ [0x22])) := by
    intro rest
    have hvalue := tag_some_append h.value rest
    have hclose : ¬ (0x22 : UInt8) = '>'.toUInt8 := by decide
    simp [tag, hvalue, hclose]
  have hsign : InTag ('='.toUInt8 :: 0x22 :: (found.value ++ [0x22])) :=
    inTag_cons (by decide) (by decide) (by decide) hquoted
  exact inTag_cons (by decide) (by decide) (by decide) (h.key.inTag.append hsign)

theorem inTag_flatMap_written {list : List Attribute} (h : ∀ found ∈ list, found.Writable) :
    InTag (list.flatMap Attribute.written) := by
  induction list with
  | nil => exact inTag_nil
  | cons found rest ih =>
    exact (h found List.mem_cons_self).inTag.append
      (ih fun other hmem => h other (List.mem_cons_of_mem _ hmem))

theorem tag_tagContent {name : Bytes} (hname : IsName name) {list : List Attribute}
    (hlist : ∀ found ∈ list, found.Writable) (rest : Bytes) :
    tag none (tagContent name list ++ '>'.toUInt8 :: rest) = (tagContent name list, rest) := by
  have h := hname.inTag.append (inTag_flatMap_written hlist) ('>'.toUInt8 :: rest)
  simpa [tagContent, tag] using h

/-- No start tag that is written ends like the tag of an empty element. -/
theorem getLast?_tagContent {name : Bytes} (hname : IsName name) {list : List Attribute} :
    (tagContent name list).getLast? ≠ some '/'.toUInt8 := by
  rcases List.eq_nil_or_concat list with rfl | ⟨before, last, rfl⟩
  · intro h
    rw [tagContent, List.flatMap_nil, List.append_nil] at h
    exact hname.notMem (by decide) (List.mem_of_getLast? h)
  · have hcontent : tagContent name (before ++ [last]) =
        name ++ before.flatMap Attribute.written ++
          (0x20 :: (last.key ++ '='.toUInt8 :: 0x22 :: last.value)) ++ [0x22] := by
      simp [tagContent, Attribute.written]
    rw [List.concat_eq_append, hcontent, List.getLast?_concat]
    decide

theorem head?_tagContent {name : Bytes} (hname : IsName name) (list : List Attribute) :
    ∃ first rest, tagContent name list = first :: rest ∧ first ≠ '!'.toUInt8 ∧
      first ≠ '/'.toUInt8 ∧ first ≠ '?'.toUInt8 := by
  obtain ⟨first, rest, rfl⟩ := List.exists_cons_of_ne_nil hname.nonempty
  refine ⟨first, rest ++ list.flatMap Attribute.written, rfl, ?_, ?_, ?_⟩
  · exact hname.ne_of_mem (by decide) List.mem_cons_self
  · exact hname.ne_of_mem (by decide) List.mem_cons_self
  · exact hname.ne_of_mem (by decide) List.mem_cons_self

theorem next?_startTag {name : Bytes} (hname : IsName name) {list : List Attribute}
    (hlist : ∀ found ∈ list, found.Writable) (rest : Bytes) :
    Token.next? (startTag name list ++ rest) =
      .ok (some (.start (tagContent name list), rest)) := by
  have helement : element (tagContent name list ++ '>'.toUInt8 :: rest) =
      (.start (tagContent name list), rest) := by
    rw [element, tag_tagContent hname hlist]
    simp only [getLast?_tagContent hname, if_false]
  obtain ⟨first, more, hcontent, hbang, hslash, hquestion⟩ := head?_tagContent hname list
  have hmarkup : markup? (tagContent name list ++ '>'.toUInt8 :: rest) =
      .ok (some (.start (tagContent name list), rest)) := by
    rw [← helement, hcontent, List.cons_append, markup?, if_neg hbang, if_neg hslash,
      if_neg hquestion]
  rw [startTag, List.cons_append, List.append_assoc, Token.next?, if_pos rfl]
  exact hmarkup

theorem bne_of_mem {stop : UInt8} {before : Bytes} (free : stop ∉ before) :
    ∀ octet ∈ before, (octet != stop) = true := by
  intro octet hmem
  have hne : octet ≠ stop := fun h => free (h ▸ hmem)
  simpa using hne

theorem upTo_append {stop : UInt8} {before : Bytes} (free : stop ∉ before) (rest : Bytes) :
    upTo stop (before ++ stop :: rest) = (before, rest) := by
  have hfree := bne_of_mem free
  simp [upTo, List.takeWhile_append_of_pos hfree, List.dropWhile_append_of_pos hfree]

theorem next?_endTag {name : Bytes} (hname : IsName name) (rest : Bytes) :
    Token.next? (endTag name ++ rest) = .ok (some (.close name, rest)) := by
  have hfree : '>'.toUInt8 ∉ name := hname.notMem (by decide)
  have hupTo := upTo_append hfree rest
  rw [endTag, List.cons_append, Token.next?, if_pos rfl, List.cons_append, markup?,
    if_neg (by decide), if_pos rfl, closing, List.append_assoc]
  simp only [List.cons_append, List.nil_append, hupTo]

/-! ### Names and attributes -/

theorem isSpace_of_mem {name : Bytes} (h : IsName name) {octet : UInt8} (hmem : octet ∈ name) :
    isSpace octet = false := by
  have hplain := h.isMarkup_of_mem hmem
  rw [isMarkup, Bool.or_eq_false_iff] at hplain
  exact hplain.1

theorem takeWhile_name {name : Bytes} (h : IsName name) (list : List Attribute) :
    nameOf (tagContent name list) = name ∧
      behindName (tagContent name list) = list.flatMap Attribute.written := by
  have hall : ∀ octet ∈ name, (!isSpace octet) = true := by
    intro octet hmem
    rw [isSpace_of_mem h hmem]
    rfl
  have hspace : isSpace 0x20 = true := by decide
  rw [nameOf, behindName, tagContent]
  rw [List.takeWhile_append_of_pos hall, List.dropWhile_append_of_pos hall]
  cases list with
  | nil => simp
  | cons found rest => simp [Attribute.written, hspace]

theorem attribute?_written {found : Attribute} (h : found.Writable) (rest : Bytes) :
    attribute? (found.written ++ rest) = some (found, rest) := by
  obtain ⟨key, value⟩ := found
  obtain ⟨hkey, hvalue⟩ := h
  obtain ⟨first, more, rfl⟩ := List.exists_cons_of_ne_nil hkey.nonempty
  let inKey := fun octet : UInt8 => octet != '='.toUInt8 && !isSpace octet
  have hmore : ∀ octet ∈ more, inKey octet = true := by
    intro octet hmem
    have hsign : octet ≠ '='.toUInt8 :=
      hkey.ne_of_mem (by decide) (List.mem_cons_of_mem first hmem)
    have hspace := isSpace_of_mem hkey (List.mem_cons_of_mem first hmem)
    simp [inKey, hsign, hspace]
  have hfirst : isSpace first = false := isSpace_of_mem hkey List.mem_cons_self
  have hfront : (Attribute.written ⟨first :: more, value⟩ ++ rest).dropWhile isSpace =
      first :: (more ++ '='.toUInt8 :: 0x22 :: (value ++ 0x22 :: rest)) := by
    have hspace : isSpace 0x20 = true := by decide
    simp [Attribute.written, hspace, hfirst]
  have hsign : inKey '='.toUInt8 = false := by decide
  have htake : (more ++ '='.toUInt8 :: 0x22 :: (value ++ 0x22 :: rest)).takeWhile inKey =
      more := by
    rw [List.takeWhile_append_of_pos hmore, List.takeWhile_cons, hsign]
    simp
  have hdrop : (more ++ '='.toUInt8 :: 0x22 :: (value ++ 0x22 :: rest)).dropWhile inKey =
      '='.toUInt8 :: 0x22 :: (value ++ 0x22 :: rest) := by
    rw [List.dropWhile_append_of_pos hmore, List.dropWhile_cons, hsign]
    simp
  have hback : ('='.toUInt8 :: 0x22 :: (value ++ 0x22 :: rest)).dropWhile isSpace =
      '='.toUInt8 :: 0x22 :: (value ++ 0x22 :: rest) := by
    rw [List.dropWhile_cons, show isSpace '='.toUInt8 = false by decide]
    simp
  have hquote : ((0x22 : UInt8) :: (value ++ 0x22 :: rest)).dropWhile isSpace =
      0x22 :: (value ++ 0x22 :: rest) := by
    rw [List.dropWhile_cons, show isSpace 0x22 = false by decide]
    simp
  have hcontains : (value ++ 0x22 :: rest).contains (0x22 : UInt8) = true := by simp
  rw [attribute?]
  simp only [hfront, inKey] at *
  simp only [hdrop, hback, hquote, htake, hcontains, upTo_append hvalue]
  rfl

theorem attributes_written {list : List Attribute} (h : ∀ found ∈ list, found.Writable) :
    attributes (list.flatMap Attribute.written) = list := by
  induction list with
  | nil =>
    rw [List.flatMap_nil, attributes]
    rfl
  | cons found rest ih =>
    have hfound := attribute?_written (h found List.mem_cons_self)
      (rest.flatMap Attribute.written)
    have hrest := ih fun other hmem => h other (List.mem_cons_of_mem _ hmem)
    rw [List.flatMap_cons, attributes]
    split
    · rename_i hnone
      rw [hfound] at hnone
      cases hnone
    · rename_i other back hsome
      rw [hfound] at hsome
      cases hsome
      rw [hrest]

theorem closingName_name {name : Bytes} (h : IsName name) :
    Reader.closingName name = name := by
  have hreverse : name.reverse.dropWhile isSpace = name.reverse := by
    obtain ⟨last, before, hname⟩ := List.exists_cons_of_ne_nil
      (List.reverse_ne_nil_iff.mpr h.nonempty)
    have hlast : isSpace last = false := by
      apply isSpace_of_mem h
      rw [← List.mem_reverse, hname]
      exact List.mem_cons_self
    rw [hname, List.dropWhile_cons, hlast]
    rfl
  rw [Reader.closingName, hreverse, List.reverse_reverse, ite_self]

end DeviceAssets.Xml
