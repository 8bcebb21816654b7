import DeviceAssets.Png.Head
import DeviceAssets.Proofs.Results

/-!
# What the head of a PNG file depends on

The search for pixel data takes chunks off the front of a file and stops behind the type
of the first chunk with such data. It never looks further: the same front gives the same
head whatever follows it.
-/

namespace DeviceAssets.Png

/-! ### Steps of the search -/

theorem require_eq_ok_iff {condition : Bool} {e : Error} {done : Unit} :
    require condition e = .ok done ↔ condition = true := by
  cases condition <;> simp [require]

theorem readStart_eq_ok_iff {bytes : Bytes} {length : Nat} {type rest : Bytes} :
    readStart bytes = .ok (length, type, rest) ↔
      ∃ word, bytes = word ++ (type ++ rest) ∧ word.length = 4 ∧ type.length = 4 ∧
        Bytes.bigEndian word = length := by
  simp only [readStart, bind_eq_ok_iff, Prod.exists, Bytes.splitOr_eq_ok_iff]
  constructor
  · rintro ⟨word, _, ⟨rfl, hword⟩, _, _, ⟨rfl, htype⟩, h⟩
    cases h
    exact ⟨word, rfl, hword, htype, rfl⟩
  · rintro ⟨word, rfl, hword, htype, rfl⟩
    exact ⟨word, _, ⟨rfl, hword⟩, type, rest, ⟨rfl, htype⟩, rfl⟩

theorem readChecksum_eq_ok_iff {type contents bytes rest : Bytes} :
    readChecksum type contents bytes = .ok rest ↔
      ∃ sum, bytes = sum ++ rest ∧ sum.length = 4 ∧
        Bytes.bigEndian sum = (Checksum.crc32 (type ++ contents)).toNat := by
  simp only [readChecksum, bind_eq_ok_iff, Prod.exists, Bytes.splitOr_eq_ok_iff, require_eq_ok_iff,
    decide_eq_true_eq]
  constructor
  · rintro ⟨sum, _, ⟨rfl, hsum⟩, _, hvalue, h⟩
    cases h
    exact ⟨sum, rfl, hsum, hvalue⟩
  · rintro ⟨sum, rfl, hsum, hvalue⟩
    exact ⟨sum, rest, ⟨rfl, hsum⟩, (), hvalue, rfl⟩

def headAfter (head? : Option Head) (type contents : Bytes) : Except Error (Option Head) :=
  if contents = [] then .ok head?
  else (readContents head? type (lastPiece contents)).map some

theorem readPlainChunk_eq (head? : Option Head) (length : Nat) (type bytes : Bytes) :
    readPlainChunk head? length type bytes =
      Bytes.splitOr length bytes .unexpectedEnd >>= fun (contents, rest) =>
        require (!rest.isEmpty) .unexpectedEnd >>= fun _ =>
          headAfter head? type contents >>= fun next? =>
            readChecksum type contents rest >>= fun rest =>
              if type = endType then .error .dataMissing else .ok (next?, rest) := by
  refine bind_congr fun cut => bind_congr fun _ => ?_
  by_cases hempty : cut.1 = []
  · simp only [headAfter, if_pos hempty]
    rfl
  · simp only [headAfter, if_neg hempty]
    rfl

/-- A chunk without pixel data is its contents and its checksum. That more of the file is
there once the contents have been taken asks for nothing, since the checksum is. -/
theorem readPlainChunk_eq_ok_iff {head? next? : Option Head} {length : Nat}
    {type bytes rest : Bytes} :
    readPlainChunk head? length type bytes = .ok (next?, rest) ↔
      ∃ contents sum, bytes = contents ++ (sum ++ rest) ∧ contents.length = length ∧
        sum.length = 4 ∧
        Bytes.bigEndian sum = (Checksum.crc32 (type ++ contents)).toNat ∧
        headAfter head? type contents = .ok next? ∧ type ≠ endType := by
  simp only [readPlainChunk_eq, bind_eq_ok_iff, Prod.exists, Bytes.splitOr_eq_ok_iff,
    require_eq_ok_iff, readChecksum_eq_ok_iff]
  constructor
  · rintro ⟨contents, _, ⟨rfl, hlength⟩, _, _, other?, hother, _, ⟨sum, rfl, hsum, hvalue⟩, h⟩
    split at h
    · cases h
    · rename_i goesOn
      cases h
      exact ⟨contents, sum, rfl, hlength, hsum, hvalue, hother, goesOn⟩
  · rintro ⟨contents, sum, rfl, hlength, hsum, hvalue, hnext, goesOn⟩
    refine ⟨contents, _, ⟨rfl, hlength⟩, (), ?_, next?, hnext, rest, ⟨sum, rfl, hsum, hvalue⟩,
      if_neg goesOn⟩
    cases sum with
    | nil => cases hsum
    | cons octet more => rfl

theorem DataKind.type_of_ofType? {type : Bytes} {kind : DataKind}
    (h : ofType? type = some kind) : kind.type = type := by
  simpa using List.find?_some h

/-! ### The search -/

/-- The search passes over octets that end with the type of the first chunk with pixel
data, and the same octets are passed over whatever follows them. -/
theorem exists_passed_of_readChunks {bound : Nat} {head? : Option Head} {length : Nat}
    {type bytes : Bytes} {opening : Opening}
    (h : readChunks bound head? length type bytes = .ok opening) :
    ∃ passed, bytes = passed ++ opening.rest ∧ opening.kind.type <:+ type ++ passed ∧
      ∀ (larger : Nat) (later : Bytes), passed.length < larger →
        readChunks larger head? length type (passed ++ later) =
          .ok { opening with rest := later } := by
  induction bound generalizing head? length type bytes with
  | zero => cases h
  | succ bound ih =>
    rw [readChunks] at h
    split at h
    · rename_i kind hkind
      split at h
      · cases h
      · rename_i head
        cases h
        have htype : kind.type = type := DataKind.type_of_ofType? hkind
        refine ⟨[], rfl, ⟨[], by rw [htype, List.append_nil, List.nil_append]⟩, ?_⟩
        · intro larger later hlarger
          obtain ⟨larger, rfl⟩ := Nat.exists_eq_succ_of_ne_zero (Nat.ne_zero_of_lt hlarger)
          simp [readChunks, hkind]
    · rename_i hkind
      obtain ⟨⟨next?, behind⟩, hchunk, hbehind⟩ := bind_eq_ok_iff.mp h
      obtain ⟨⟨nextLength, nextType, rest⟩, hstart, hmore⟩ := bind_eq_ok_iff.mp hbehind
      change readChunks bound next? nextLength nextType rest = .ok opening at hmore
      obtain ⟨contents, sum, rfl, hcontents⟩ := readPlainChunk_eq_ok_iff.mp hchunk
      obtain ⟨word, rfl, hword⟩ := readStart_eq_ok_iff.mp hstart
      obtain ⟨passed, rfl, hsuffix, hagain⟩ := ih hmore
      refine ⟨contents ++ (sum ++ (word ++ (nextType ++ passed))), by simp, ?_, ?_⟩
      · refine hsuffix.trans ⟨type ++ (contents ++ (sum ++ word)), by simp⟩
      · intro larger later hlarger
        obtain ⟨larger, rfl⟩ := Nat.exists_eq_succ_of_ne_zero (Nat.ne_zero_of_lt hlarger)
        have hbound : passed.length < larger := by
          simp only [List.length_append] at hlarger
          have := hcontents.2.1
          omega
        have hbytes : contents ++ (sum ++ (word ++ (nextType ++ passed))) ++ later =
            contents ++ (sum ++ (word ++ (nextType ++ (passed ++ later)))) := by simp
        simp only [readChunks, hkind, hbytes]
        refine bind_eq_ok_iff.mpr ⟨(next?, word ++ (nextType ++ (passed ++ later))),
          readPlainChunk_eq_ok_iff.mpr ⟨contents, sum, rfl, hcontents⟩, ?_⟩
        refine bind_eq_ok_iff.mpr ⟨(nextLength, nextType, passed ++ later),
          readStart_eq_ok_iff.mpr ⟨word, rfl, hword⟩, ?_⟩
        exact hagain larger later hbound

/-- The head of a file is in its octets up to the type of the first chunk with pixel
data. The signature is at their beginning, and a file that begins with the same octets
has the same head. -/
theorem exists_front_of_readHead {file : Bytes} {opening : Opening}
    (h : readHead file = .ok opening) :
    ∃ front, file = front ++ opening.kind.type ++ opening.rest ∧ signature <+: front ∧
      ∀ later, readHead (front ++ opening.kind.type ++ later) =
        .ok { opening with rest := later } := by
  rw [readHead] at h
  obtain ⟨⟨first, behind⟩, hfirst, hmore⟩ := bind_eq_ok_iff.mp h
  obtain ⟨_, hsignature, hmore⟩ := bind_eq_ok_iff.mp hmore
  obtain ⟨⟨length, type, rest⟩, hstart, hmore⟩ := bind_eq_ok_iff.mp hmore
  obtain ⟨found, hfound, hmore⟩ := bind_eq_ok_iff.mp hmore
  obtain ⟨_, hform, hmore⟩ := bind_eq_ok_iff.mp hmore
  obtain rfl : opening = found := (Except.ok.inj hmore).symm
  obtain ⟨rfl, height⟩ := Bytes.splitOr_eq_ok_iff.mp hfirst
  obtain rfl : first = signature := by simpa [require_eq_ok_iff] using hsignature
  obtain ⟨word, rfl, hword⟩ := readStart_eq_ok_iff.mp hstart
  obtain ⟨passed, rfl, ⟨before, hbefore⟩, hagain⟩ := exists_passed_of_readChunks hfound
  have hpassed (later : Bytes) : signature ++ (word ++ (type ++ (passed ++ later))) =
      signature ++ (word ++ before) ++ opening.kind.type ++ later := by
    rw [← List.append_assoc type, ← hbefore]
    simp
  refine ⟨signature ++ (word ++ before), hpassed _, List.prefix_append _ _, fun later => ?_⟩
  rw [← hpassed, readHead]
  refine bind_eq_ok_iff.mpr ⟨(signature, word ++ (type ++ (passed ++ later))),
    Bytes.splitOr_eq_ok_iff.mpr ⟨rfl, height⟩, ?_⟩
  refine bind_eq_ok_iff.mpr ⟨(), hsignature, ?_⟩
  refine bind_eq_ok_iff.mpr ⟨(length, type, passed ++ later),
    readStart_eq_ok_iff.mpr ⟨word, rfl, hword⟩, ?_⟩
  refine bind_eq_ok_iff.mpr ⟨{ opening with rest := later }, hagain _ later ?_, ?_⟩
  · simp only [List.length_append]
    omega
  · exact bind_eq_ok_iff.mpr ⟨(), hform, rfl⟩

end DeviceAssets.Png
