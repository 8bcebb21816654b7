import DeviceAssets.Proofs.Document.Collector
import DeviceAssets.Proofs.Png.Reader
import DeviceAssets.Proofs.Tool.Outcome

/-!
# Checks between stages

Between its stages a tool checks again what the stage before has made: that a grid is square
and has rows, that a buffer has the length of its grid. Here it is said that these checks
always hold, so a run fails only over its arguments, its input or its output, and that no
stage looks for a cell, a bit or a line where there is none.
-/

namespace DeviceAssets

open DeviceAssets.Action (Writes settled written)
open Files (Path Tree)

/-- An action that makes contents and writes them fails as the making does, or over the
file. -/
theorem FailsIn.of_writes {α : Type} {kinds : List Error.Kind} {action : Action α} {path : Path}
    {made : Tree → Except Error (α × Bytes)} (h : Writes action path made)
    (hmade : ∀ files, FailsIn kinds (made files)) (io : .io ∈ kinds) (session : Session) :
    FailsIn kinds (action.run session).1 := by
  obtain ⟨lines, hrun⟩ := h session
  rw [hrun]
  cases hvalue : made session.files with
  | error e => exact .error (hmade session.files e hvalue)
  | ok value =>
    simp only [written]
    cases session.files.write path value.2 with
    | error e => exact .error io
    | ok later => exact .ok _

namespace Conversion

/-- With a packed grid that has rows, only the file can be at fault. -/
theorem emit_failsIn {packed : Packed} (positive : 0 < packed.modules) (path : Path)
    (layout : Header.Layout) (label : String) (session : Session) :
    FailsIn [.io] ((emit path layout packed.modules packed.bytes label).run session).1 := by
  obtain ⟨file, hfile⟩ := exists_headerFile_eq positive layout label
  apply FailsIn.of_writes (emit_writes path layout packed.modules packed.bytes label)
  · intro _
    rw [hfile]
    exact .ok _
  · exact List.mem_singleton_self _

/-- With a packed bitmap of fixed size, only the file can be at fault. -/
theorem emitBitmap32_failsIn {packed : Packed} (size : packed.modules = bitmapSide) (path : Path)
    (label : String) (session : Session) :
    FailsIn [.io] ((emitBitmap32 path packed.bytes label).run session).1 := by
  obtain ⟨file, hfile⟩ := exists_bitmap32File_eq size label
  apply FailsIn.of_writes (emitBitmap32_writes path packed.bytes label)
  · intro _
    rw [hfile]
    exact .ok _
  · exact List.mem_singleton_self _

end Conversion

/-- Within a grid that is packed, every column of every row has a cell. -/
theorem exists_cell?_of_pack {grid : Grid} {packed : Packed} (h : pack grid = .ok packed)
    {x y : Nat} (hx : x < grid.length) (hy : y < grid.length) :
    ∃ cell, grid.cell? x y = some cell := by
  obtain ⟨_, square, _, _⟩ := pack_eq_ok_iff.mp h
  exact Grid.exists_cell? square hx hy

namespace Tool

/-- The ways in which a tool fails: over the number of its arguments, or in a stage. -/
def failures (tool : Tool) : List Error.Kind :=
  .usage :: tool.stageFailures

theorem twoPositional_failsIn {α : Type} (arguments : List α) (usage : String) :
    FailsIn [.usage] (twoPositional arguments usage) := by
  unfold twoPositional
  split
  · exact .ok _
  · exact .error (by simp)

/-- With a reader that keeps to the size that was declared, no check between stages fails. -/
theorem product_failsIn [reader : ImageReader] (keeps : reader.KeepsSize) (tool : Tool)
    (source output : Path) (files : Tree) :
    FailsIn tool.stageFailures (tool.product source output files) := by
  rw [← List.append_nil tool.stageFailures]
  exact product_failsIn_of ((Conversion.pngFile_failsIn keeps source files).mono (by decide))
    tool output

theorem act_failsIn [reader : ImageReader] (keeps : reader.KeepsSize) (tool : Tool)
    (arguments : List Bytes) (session : Session) :
    FailsIn tool.failures ((tool.act arguments).run session).1 := by
  rw [act, Action.run_bind, Action.run_ofResult]
  cases hpair : twoPositional arguments tool.usage with
  | error e =>
    have hkind := twoPositional_failsIn arguments tool.usage e hpair
    rw [List.mem_singleton] at hkind
    apply FailsIn.error
    rw [hkind]
    exact List.mem_cons_self
  | ok pair =>
    have hstages : tool.stageFailures ⊆ tool.failures := List.subset_cons_self _ _
    apply FailsIn.of_writes (tool.convert_writes pair.1 pair.2)
    · intro files
      exact (product_failsIn keeps tool pair.1 pair.2 files).mono hstages
    · exact hstages (io_mem_stageFailures tool)

/-- A run fails only over its arguments, its input or its output: a grid that a source gives
is packed, and what it is packed into is written unless the file is at fault. Every cell, bit
and line that is looked at on the way is there. -/
theorem checks_between_stages_hold [reader : ImageReader] (keeps : reader.KeepsSize) :
    (∀ (tool : Tool) (arguments : List Bytes) (session : Session),
      FailsIn tool.failures ((tool.act arguments).run session).1) ∧
    (∀ content level session grid,
      ((Conversion.moduleGrid content level).run session).1 = .ok grid →
      ∃ packed, pack grid = .ok packed ∧ ∀ path layout label later,
        FailsIn [.io]
          ((Conversion.emit path layout packed.modules packed.bytes label).run later).1) ∧
    (∀ source session grid, ((Conversion.loadBitmap32 source).run session).1 = .ok grid →
      ∃ packed, pack grid = .ok packed ∧ packed.modules = bitmapSide ∧
        packed.bytes.length = bitmapLength ∧ ∀ path label later,
          FailsIn [.io] ((Conversion.emitBitmap32 path packed.bytes label).run later).1) ∧
    (∀ grid packed, pack grid = .ok packed → ∀ y < grid.length, ∀ x < grid.length,
      ∃ cell, grid.cell? x y = some cell) ∧
    (∀ packed : Packed, ∀ y < packed.modules, ∀ x < packed.modules,
      ∃ bit, packed.get? x y = some bit) ∧
    (∀ (events : List Xml.Event) (collector : Document.Collector),
      events.foldlM Document.Collector.step Document.Collector.start = .ok collector →
      ∀ i ∈ collector.openLines, i < collector.lines.size) := by
  refine ⟨act_failsIn keeps, ?_, ?_, ?_, ?_, ?_⟩
  · intro content level session grid h
    obtain ⟨lines, hrun⟩ := Conversion.moduleGrid_reads content level session
    rw [hrun] at h
    obtain ⟨packed, hpack, positive⟩ := Conversion.exists_pack_of_symbolGrid h
    exact ⟨packed, hpack, Conversion.emit_failsIn positive⟩
  · intro source session grid h
    obtain ⟨lines, hrun⟩ := Conversion.loadBitmap32_reads source session
    rw [hrun] at h
    obtain ⟨packed, hpack, size⟩ := Conversion.exists_pack_of_bitmapAt keeps h
    exact ⟨packed, hpack, size, Conversion.length_bytes_of_bitmapSide size,
      Conversion.emitBitmap32_failsIn size⟩
  · intro grid packed h y hy x hx
    exact exists_cell?_of_pack h hx hy
  · intro packed y hy x hx
    exact packed.exists_get?_eq (Packed.lt_stride hx) hy
  · intro events collector h
    exact (Document.Collector.start_wellFormed.foldlM h).bounded

def blackBitmap : Bytes :=
  [0x89, 0x50, 0x4E, 0x47, 0x0D, 0x0A, 0x1A, 0x0A, 0x00, 0x00, 0x00, 0x0D, 0x49, 0x48, 0x44, 0x52,
   0x00, 0x00, 0x00, 0x20, 0x00, 0x00, 0x00, 0x20, 0x01, 0x00, 0x00, 0x00, 0x00, 0x5B, 0x01, 0x47,
   0x59, 0x00, 0x00, 0x00, 0x0C, 0x49, 0x44, 0x41, 0x54, 0x18, 0xD3, 0x63, 0x60, 0x18, 0xDC, 0x00,
   0x00, 0x00, 0xA0, 0x00, 0x01, 0xDD, 0xE4, 0xE3, 0x39, 0x00, 0x00, 0x00, 0x00, 0x49, 0x45, 0x4E,
   0x44, 0xAE, 0x42, 0x60, 0x82]

def blackBitmapTree : Tree := ⟨[([['b'.toUInt8]], .file blackBitmap)]⟩

theorem exists_bitmapAt_blackBitmapTree :
    ∃ grid, Conversion.bitmapAt ['b'.toUInt8] blackBitmapTree = .ok grid := by
  have hpixels : (Conversion.bitmapAt ['b'.toUInt8] blackBitmapTree).toOption.isSome = true := by
    decide +kernel
  obtain ⟨grid, hgrid⟩ := Option.isSome_iff_exists.mp hpixels
  exact ⟨grid, toOption_eq_some_iff.mp hgrid⟩

/-- Without arguments, with an empty text, with an image that is read and packed, and behind
the start of a paragraph. -/
theorem checks_between_stages_hold_blackBitmap :
    FailsIn genQrHeader.failures ((genQrHeader.act []).run ⟨Tree.empty, []⟩).1 ∧
      (∃ grid packed, ((Conversion.moduleGrid "" .low).run ⟨Tree.empty, []⟩).1 = .ok grid ∧
        pack grid = .ok packed ∧ ∀ layout label, FailsIn [.io] ((Conversion.emit ['h'.toUInt8]
          layout packed.modules packed.bytes label).run ⟨Tree.empty, []⟩).1) ∧
      ∃ grid packed,
        ((Conversion.loadBitmap32 ['b'.toUInt8]).run ⟨blackBitmapTree, []⟩).1 = .ok grid ∧
          pack grid = .ok packed ∧ packed.bytes.length = 128 ∧
          (∃ cell, grid.cell? 31 31 = some cell) ∧ (∃ bit, packed.get? 31 31 = some bit) ∧
          ∀ i ∈ (Document.Collector.start.opening .paragraph).openLines, i < 1 := by
  obtain ⟨hfails, hsymbol, hbitmap, hcell, hbit, hline⟩ :=
    checks_between_stages_hold Png.imageReader_keepsSize
  refine ⟨hfails genQrHeader [] ⟨Tree.empty, []⟩, ?_, ?_⟩
  · have hsome : (Conversion.symbolGrid "" .low).toOption.isSome = true := by decide +kernel
    obtain ⟨grid, hgrid⟩ := Option.isSome_iff_exists.mp hsome
    rw [toOption_eq_some_iff] at hgrid
    obtain ⟨lines, hrun⟩ := Conversion.moduleGrid_reads "" .low ⟨Tree.empty, []⟩
    have hread : ((Conversion.moduleGrid "" .low).run ⟨Tree.empty, []⟩).1 = .ok grid := by
      rw [hrun]
      exact hgrid
    obtain ⟨packed, hpack, hemit⟩ := hsymbol _ _ _ grid hread
    exact ⟨grid, packed, hread, hpack, fun layout label => hemit _ layout label _⟩
  · obtain ⟨grid, hgrid⟩ := exists_bitmapAt_blackBitmapTree
    obtain ⟨lines, hrun⟩ := Conversion.loadBitmap32_reads ['b'.toUInt8] ⟨blackBitmapTree, []⟩
    have hread :
        ((Conversion.loadBitmap32 ['b'.toUInt8]).run ⟨blackBitmapTree, []⟩).1 = .ok grid := by
      rw [hrun]
      exact hgrid
    obtain ⟨packed, hpack, hsize, hlength, _⟩ := hbitmap _ _ grid hread
    have hside : grid.length = 32 := (pack_eq_ok_iff.mp hpack).2.2.1.symm.trans hsize
    refine ⟨grid, packed, hread, hpack, hlength, ?_, ?_, ?_⟩
    · exact hcell grid packed hpack 31 (by omega) 31 (by omega)
    · exact hbit packed 31 (by rw [hsize]; decide) 31 (by rw [hsize]; decide)
    · exact hline [.opened ⟨some Document.wordNamespace, ['p'.toUInt8]⟩] _ (by rfl)

end Tool

end DeviceAssets
