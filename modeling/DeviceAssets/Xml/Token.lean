import DeviceAssets.Xml.Error

/-!
# Tokens

A document is cut into tokens by looking for the ends of markup, and no more:
nothing is checked but what must be there to find the end. A start tag, an end tag
or a declaration that the end of the document cuts off is taken as if it were closed
there; comments, character data and document types have to be closed.

`Token.next?` reads one token. Its rest is always shorter, so reading ends.
-/

namespace DeviceAssets.Xml

def isSpace (octet : UInt8) : Bool :=
  octet = 0x20 || octet = 0x09 || octet = 0x0D || octet = 0x0A

inductive Token where
  /-- Octets outside markup. -/
  | text (octets : Bytes)
  /-- A start tag: all between its brackets. -/
  | start (content : Bytes)
  /-- An empty element: all between its brackets but the last slash. -/
  | empty (content : Bytes)
  /-- An end tag: all behind its slash. -/
  | close (content : Bytes)
  /-- Character data. -/
  | cdata (octets : Bytes)
  /-- A comment, a document type, a declaration or a processing instruction. -/
  | other
  deriving DecidableEq, Repr

/-- The octets before the first `stop`, and those behind it. -/
def upTo (stop : UInt8) (bytes : Bytes) : Bytes × Bytes :=
  (bytes.takeWhile (· != stop), (bytes.dropWhile (· != stop)).drop 1)

/-- The octets of a tag, up to the first closing bracket outside quotation marks, and
those behind the bracket. `quote?` is the quotation mark that is open. -/
def tag (quote? : Option UInt8) : Bytes → Bytes × Bytes
  | [] => ([], [])
  | octet :: rest =>
    match quote? with
    | some quote =>
      let (content, back) := tag (if octet = quote then none else some quote) rest
      (octet :: content, back)
    | none =>
      if octet = '>'.toUInt8 then ([], rest)
      else
        let quoted := octet = 0x22 || octet = 0x27
        let (content, back) := tag (if quoted then some octet else none) rest
        (octet :: content, back)

/-- The octets up to the first closing bracket before which `closes` holds, and those
behind it. `closes` is given the octets passed so far, the nearest first. -/
def upToClosing (closes : Bytes → Bool) (passed : Bytes) : Bytes → Option (Bytes × Bytes)
  | [] => none
  | octet :: rest =>
    if octet = '>'.toUInt8 && closes passed then some (passed.reverse, rest)
    else upToClosing closes (octet :: passed) rest

/-- Whether `bytes` begin with `word`, which is in upper case, in any case. -/
def beginsWith (word : String) (bytes : Bytes) : Bool :=
  let letters := Bytes.ofString word
  (bytes.take letters.length).map toUpper = letters
where
  /-- An ASCII letter in upper case. -/
  toUpper (octet : UInt8) : UInt8 :=
    if 0x61 ≤ octet && octet ≤ 0x7A then octet - 0x20 else octet

/-- A comment ends with two hyphens that are not those of its beginning. -/
def closesComment (passed : Bytes) : Bool :=
  4 ≤ passed.length && passed.take 2 = [0x2D, 0x2D]

def closesCData (passed : Bytes) : Bool :=
  passed.take 2 = [0x5D, 0x5D]

/-- A document type ends where all brackets within it are paired. -/
def closesDoctype (passed : Bytes) : Bool :=
  passed.count '<'.toUInt8 = passed.count '>'.toUInt8

/-- The token whose markup begins with an exclamation mark; `bytes` follow the mark. -/
def bang (bytes : Bytes) : Except Error (Token × Bytes) :=
  match bytes with
  | [] => .error (.unexpectedEnd .bang)
  | first :: _ =>
    if first = '['.toUInt8 then
      match upToClosing closesCData [] bytes with
      | some (content, rest) =>
        if beginsWith "[CDATA[" (content.take (content.length - 2)) then
          .ok (.cdata ((content.take (content.length - 2)).drop 7), rest)
        else .error (.unexpectedEnd .cdata)
      | none => .error (.unexpectedEnd .cdata)
    else if first = '-'.toUInt8 then
      match upToClosing closesComment [] bytes with
      | some (content, rest) =>
        if content.take 2 = [0x2D, 0x2D] then .ok (.other, rest)
        else .error (.unexpectedEnd .comment)
      | none => .error (.unexpectedEnd .comment)
    else if first = 'D'.toUInt8 || first = 'd'.toUInt8 then
      match upToClosing closesDoctype [] bytes with
      | some (content, rest) =>
        if beginsWith "DOCTYPE" content then
          if (content.drop 7).all isSpace then .error .emptyDoctype else .ok (.other, rest)
        else .error (.unexpectedEnd .doctype)
      | none => .error (.unexpectedEnd .doctype)
    else .error (.unknownMarkup first)

def declaration (bytes : Bytes) : Except Error (Token × Bytes) :=
  let (content, rest) := upTo '>'.toUInt8 bytes
  if 2 ≤ content.length && content.getLast? = some '?'.toUInt8 then .ok (.other, rest)
  else .error (.unexpectedEnd .declaration)

def element (bytes : Bytes) : Token × Bytes :=
  let (content, rest) := tag none bytes
  if content.getLast? = some '/'.toUInt8 then (.empty content.dropLast, rest)
  else (.start content, rest)

def closing (bytes : Bytes) : Token × Bytes :=
  let (content, rest) := upTo '>'.toUInt8 bytes
  (.close content, rest)

/-- The token whose opening bracket stands before `bytes`. There is none where the
document ends behind the bracket. -/
def markup? (bytes : Bytes) : Except Error (Option (Token × Bytes)) :=
  match bytes with
  | [] => .ok none
  | first :: rest =>
    if first = '!'.toUInt8 then (bang rest).map some
    else if first = '/'.toUInt8 then .ok (some (closing rest))
    else if first = '?'.toUInt8 then (declaration rest).map some
    else .ok (some (element bytes))

def Token.next? (bytes : Bytes) : Except Error (Option (Token × Bytes)) :=
  match bytes with
  | [] => .ok none
  | first :: rest =>
    if first = '<'.toUInt8 then markup? rest
    else .ok (some (.text (first :: rest.takeWhile (· != '<'.toUInt8)),
      rest.dropWhile (· != '<'.toUInt8)))

/-! ### Reading goes forward -/

theorem length_dropWhile_le {α : Type} (p : α → Bool) (list : List α) :
    (list.dropWhile p).length ≤ list.length :=
  (List.dropWhile_sublist p).length_le

theorem length_upTo_le (stop : UInt8) (bytes : Bytes) :
    (upTo stop bytes).2.length ≤ bytes.length := by
  have := length_dropWhile_le (· != stop) bytes
  simp only [upTo, List.length_drop]
  omega

theorem length_tag_le (quote? : Option UInt8) (bytes : Bytes) :
    (tag quote? bytes).2.length ≤ bytes.length := by
  induction bytes generalizing quote? with
  | nil => simp [tag]
  | cons octet rest ih =>
    cases quote? with
    | some quote => exact Nat.le_succ_of_le (ih _)
    | none =>
      rw [tag]
      split
      · exact Nat.le_succ _
      · exact Nat.le_succ_of_le (ih _)

theorem length_upToClosing_lt {closes : Bytes → Bool} {passed bytes content rest : Bytes}
    (h : upToClosing closes passed bytes = some (content, rest)) :
    rest.length < bytes.length := by
  induction bytes generalizing passed with
  | nil => exact nomatch h
  | cons octet back ih =>
    rw [upToClosing] at h
    split at h
    · cases h
      exact Nat.lt_succ_self _
    · exact Nat.lt_succ_of_lt (ih h)

theorem length_bang_lt {bytes rest : Bytes} {token : Token} (h : bang bytes = .ok (token, rest)) :
    rest.length < bytes.length := by
  unfold bang at h
  repeat' split at h
  all_goals simp only [Except.ok.injEq, Prod.mk.injEq, reduceCtorEq] at h
  all_goals
    obtain ⟨-, rfl⟩ := h
    exact length_upToClosing_lt ‹upToClosing _ _ _ = some _›

theorem length_declaration_le {bytes rest : Bytes} {token : Token}
    (h : declaration bytes = .ok (token, rest)) : rest.length ≤ bytes.length := by
  unfold declaration at h
  have := length_upTo_le '>'.toUInt8 bytes
  dsimp only at h
  split at h
  · cases h
    exact this
  · exact nomatch h

theorem length_element_le (bytes : Bytes) : (element bytes).2.length ≤ bytes.length := by
  have := length_tag_le none bytes
  unfold element
  split
  rename_i hcut
  rw [hcut] at this
  split <;> exact this

/-- Every token takes at least one octet. -/
theorem Token.length_next?_lt {bytes rest : Bytes} {token : Token}
    (h : Token.next? bytes = .ok (some (token, rest))) : rest.length < bytes.length := by
  unfold Token.next? at h
  split at h
  · cases h
  · rename_i first back
    split at h
    · unfold markup? at h
      split at h
      · cases h
      · rename_i second back
        split at h
        · cases hb : bang back with
          | error e => rw [hb] at h; cases h
          | ok pair =>
            rw [hb] at h
            cases h
            have := length_bang_lt hb
            simp only [List.length_cons]
            omega
        · split at h
          · simp only [Except.ok.injEq, Option.some.injEq] at h
            have hrest : (upTo '>'.toUInt8 back).2 = rest := congrArg Prod.snd h
            have := length_upTo_le '>'.toUInt8 back
            rw [hrest] at this
            simp only [List.length_cons]
            omega
          · split at h
            · cases hd : declaration back with
              | error e => rw [hd] at h; cases h
              | ok pair =>
                rw [hd] at h
                cases h
                have := length_declaration_le hd
                simp only [List.length_cons]
                omega
            · simp only [Except.ok.injEq, Option.some.injEq] at h
              have := length_element_le (second :: back)
              rw [h] at this
              simp only [List.length_cons] at this ⊢
              omega
    · cases h
      exact Nat.lt_succ_of_le (length_dropWhile_le _ back)

end DeviceAssets.Xml
