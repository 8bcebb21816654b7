import DeviceAssets.Conversion
import DeviceAssets.Proofs.Bitmap.Bits

/-!
# The declared size of a bitmap

A header is rendered for a buffer and for the number of modules that it is said to have. As a
larger grid always takes more octets, a buffer fits one number at most, and the packed form of
a grid fits the side of that grid alone. A buffer under any other number is refused, before
anything is written.
-/

namespace DeviceAssets

theorem packedLength_eq (n : Nat) : packedLength n = n * (n ⌈/⌉ 8) := by
  rw [packedLength, stride_eq_ceilDiv]

theorem packedLength_strictMono : StrictMono packedLength :=
  fun _ _ h => packedLength_lt_packedLength h

namespace Header

variable {layout : Layout} {n : Nat} {bytes : Bytes} {content : String}

theorem render_eq_ok_iff {header : String} :
    render layout n bytes content = .ok header ↔
      (0 < n ∧ bytes.length = packedLength n) ∧
        header = String.ofList (text layout n bytes content) := by
  rw [render_eq]
  split
  · rename_i fits
    rw [Except.ok.injEq, eq_comm]
    exact (and_iff_right fits).symm
  · rename_i misfit
    constructor
    · intro h
      cases h
    · rintro ⟨fits, _⟩
      exact absurd fits misfit

theorem exists_render_eq_ok_iff :
    (∃ header, render layout n bytes content = .ok header) ↔
      0 < n ∧ bytes.length = packedLength n := by
  simp only [render_eq_ok_iff, exists_and_left, exists_eq, and_true]

theorem render_eq_sizeMismatch (misfit : ¬ (0 < n ∧ bytes.length = packedLength n)) :
    render layout n bytes content = .error (.sizeMismatch (packedLength n) bytes.length) := by
  rw [render_eq, if_neg misfit]

/-- A buffer fits one number of modules at most, whatever is said in the header. -/
theorem eq_of_render_eq_ok {other : Layout} {m : Nat} {label header otherHeader : String}
    (h : render layout n bytes content = .ok header)
    (hother : render other m bytes label = .ok otherHeader) : m = n := by
  obtain ⟨⟨_, hlength⟩, _⟩ := render_eq_ok_iff.mp h
  obtain ⟨⟨_, hotherLength⟩, _⟩ := render_eq_ok_iff.mp hother
  exact packedLength_injective (hotherLength.symm.trans hlength)

/-- The packed form of a grid fits the side of the grid alone. -/
theorem exists_render_of_pack_iff {grid : Grid} {packed : Packed} (h : pack grid = .ok packed) :
    (∃ header, render layout n packed.bytes content = .ok header) ↔ n = grid.length := by
  obtain ⟨nonempty, _, hmodules, _⟩ := pack_eq_ok_iff.mp h
  have hlength : packed.bytes.length = packedLength grid.length := by
    rw [packed.length_bytes, hmodules]
  rw [exists_render_eq_ok_iff, hlength]
  constructor
  · rintro ⟨_, hsame⟩
    exact (packedLength_injective hsame).symm
  · rintro rfl
    exact ⟨List.length_pos_iff.mpr nonempty, rfl⟩

end Header

namespace Conversion

/-- Under a number that does not fit, nothing is written and nothing is noted. -/
theorem run_emit_of_misfit {n : Nat} {bytes : Bytes}
    (misfit : ¬ (0 < n ∧ bytes.length = packedLength n)) (path : Files.Path)
    (layout : Header.Layout) (content : String) (session : Session) :
    (emit path layout n bytes content).run session =
      (.error (.sizeMismatch (packedLength n) bytes.length), session) := by
  have hrefused : Header.renderAs layout (.ofSide n) bytes content =
      .error (.sizeMismatch (packedLength n) bytes.length) :=
    Header.render_eq_sizeMismatch misfit
  rw [emit, emitAs, hrefused, Action.run_bind, Action.run_ofResult]

end Conversion

namespace Header

/-- The declared number of modules is always checked against the buffer. A header is rendered
exactly where the number is positive and calls for the length that the buffer has, and all else
is refused with both lengths. Since the length grows with the number, a buffer fits at most one;
the packed form of a grid fits its side, and under any other number it is refused with nothing
written. -/
theorem declared_size_is_checked :
    (∀ layout n bytes content,
      ((∃ header, render layout n bytes content = .ok header) ↔
        0 < n ∧ bytes.length = n * (n ⌈/⌉ 8)) ∧
      (¬ (0 < n ∧ bytes.length = n * (n ⌈/⌉ 8)) →
        render layout n bytes content =
          .error (.sizeMismatch (n * (n ⌈/⌉ 8)) bytes.length))) ∧
    StrictMono (fun n : Nat => n * (n ⌈/⌉ 8)) ∧
    (∀ bytes layout other m n content label header otherHeader,
      render layout n bytes content = .ok header →
      render other m bytes label = .ok otherHeader → m = n) ∧
    ∀ grid : Grid, grid ≠ [] → grid.IsSquare → ∃ packed, pack grid = .ok packed ∧
      ∀ layout n content,
        ((∃ header, render layout n packed.bytes content = .ok header) ↔ n = grid.length) ∧
        (n ≠ grid.length → ∀ path session,
          (Conversion.emit path layout n packed.bytes content).run session =
            (.error (.sizeMismatch (n * (n ⌈/⌉ 8)) packed.bytes.length), session)) := by
  simp only [← packedLength_eq]
  refine ⟨?_, packedLength_strictMono, ?_, ?_⟩
  · intro layout n bytes content
    exact ⟨exists_render_eq_ok_iff, render_eq_sizeMismatch⟩
  · intro bytes layout other m n content label header otherHeader h hother
    exact eq_of_render_eq_ok h hother
  · intro grid nonempty square
    obtain ⟨packed, h, _⟩ := exists_pack_eq_ok nonempty square
    refine ⟨packed, h, fun layout n content => ?_⟩
    have hfits : (∃ header, render layout n packed.bytes content = .ok header) ↔
        n = grid.length := exists_render_of_pack_iff h
    refine ⟨hfits, fun wrong path session => ?_⟩
    apply Conversion.run_emit_of_misfit
    intro fits
    exact wrong (hfits.mp (exists_render_eq_ok_iff.mpr fits))

/-- Eleven octets are too few for nine modules, and the eighteen that nine rows of nine cells
are packed into are too many for eight. -/
theorem declared_size_is_checked_diagonal :
    render Layout.qrModules 9 (List.replicate 11 0) "" = .error (.sizeMismatch 18 11) ∧
      diagonal ≠ [] ∧ diagonal.IsSquare ∧ ∃ packed, pack diagonal = .ok packed ∧
        (∃ header, render Layout.qrModules 9 packed.bytes "" = .ok header) ∧
        (¬ ∃ header, render Layout.bitmap32 8 packed.bytes "" = .ok header) ∧
        ∀ path session, (Conversion.emit path Layout.qrModules 8 packed.bytes "").run session =
          (.error (.sizeMismatch 8 packed.bytes.length), session) := by
  have nonempty : diagonal ≠ [] := by decide
  have square : diagonal.IsSquare := by decide
  have hside : 9 * (9 ⌈/⌉ 8) = 18 := by decide
  obtain ⟨hrender, _, hunique, hgrid⟩ := declared_size_is_checked
  obtain ⟨packed, h, hpacked⟩ := hgrid diagonal nonempty square
  obtain ⟨header, hheader⟩ := (hpacked Layout.qrModules 9 "").1.mpr (by decide)
  refine ⟨?_, nonempty, square, packed, h, ⟨header, hheader⟩, ?_, ?_⟩
  · have hrefused := (hrender Layout.qrModules 9 (List.replicate 11 0) "").2 (by decide)
    rwa [hside, List.length_replicate] at hrefused
  · rintro ⟨other, hother⟩
    have hsame : 8 = 9 := hunique _ _ _ _ _ _ _ _ _ hheader hother
    exact absurd hsame (by decide)
  · exact (hpacked Layout.qrModules 8 "").2 (by decide)

end Header

end DeviceAssets
