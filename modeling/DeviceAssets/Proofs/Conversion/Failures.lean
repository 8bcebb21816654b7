import DeviceAssets.Proofs.Conversion.Shapes

/-!
# How stages fail

Every stage has its own kinds of failure, and a chain fails in no way in which none of
its stages does. The packer and the writers of headers have theirs too, but within a chain
they are given nothing that they refuse.
-/

namespace DeviceAssets

/-- A failure without what it carries. -/
inductive Error.Kind where
  | emptyGrid
  | notSquare
  | sizeMismatch
  | dimensionMismatch
  | usage
  | nonUnicodeArgument
  | notFound
  | missingEntry
  | qr
  | io
  | image
  | zip
  | xml
  deriving DecidableEq, Repr

@[simp] def Error.kind : Error → Kind
  | .emptyGrid => .emptyGrid
  | .notSquare _ _ _ => .notSquare
  | .sizeMismatch _ _ => .sizeMismatch
  | .dimensionMismatch _ _ => .dimensionMismatch
  | .usage _ => .usage
  | .nonUnicodeArgument _ => .nonUnicodeArgument
  | .notFound _ => .notFound
  | .missingEntry _ => .missingEntry
  | .qr _ => .qr
  | .io _ => .io
  | .image _ => .image
  | .zip _ => .zip
  | .xml _ => .xml

theorem Error.isUsage_eq (e : Error) : e.isUsage = decide (e.kind = .usage) := by
  cases e <;> rfl

/-- A result that is a failure of one of these kinds, or no failure. -/
def FailsIn {α : Type} (kinds : List Error.Kind) (result : Except Error α) : Prop :=
  ∀ e, result = .error e → e.kind ∈ kinds

namespace FailsIn

variable {α β : Type} {kinds more : List Error.Kind}

theorem ok (value : α) : FailsIn kinds (.ok value) := nofun

theorem error {e : Error} (h : e.kind ∈ kinds) : FailsIn kinds (.error e : Except Error α) := by
  rintro other ⟨⟩
  exact h

theorem of_eq_ok {result : Except Error α} {value : α} (h : result = .ok value) :
    FailsIn kinds result := by
  rw [h]
  exact ok value

theorem mono {result : Except Error α} (h : FailsIn kinds result) (sub : kinds ⊆ more) :
    FailsIn more result :=
  fun e he => sub (h e he)

theorem bind {result : Except Error α} {next : α → Except Error β} (h : FailsIn kinds result)
    (hnext : ∀ value, result = .ok value → FailsIn kinds (next value)) :
    FailsIn kinds (result >>= next) := by
  cases result with
  | error e => exact error (h e rfl)
  | ok value => exact hnext value rfl

theorem map {result : Except Error α} (h : FailsIn kinds result) (f : α → β) :
    FailsIn kinds (result.map f) := by
  cases result with
  | error e => exact error (h e rfl)
  | ok value => exact ok _

theorem mapError {ε : Type} {f : ε → Error} (h : ∀ e, (f e).kind ∈ kinds)
    (result : Except ε α) : FailsIn kinds (result.mapError f) := by
  cases result with
  | error e => exact error (h e)
  | ok value => exact ok _

theorem ite {condition : Prop} [Decidable condition] {result other : Except Error α}
    (h : FailsIn kinds result) (hother : FailsIn kinds other) :
    FailsIn kinds (if condition then result else other) := by
  split
  · exact h
  · exact hother

end FailsIn

/-! ### Stages -/

theorem pack_failsIn (grid : Grid) : FailsIn [.emptyGrid, .notSquare] (pack grid) := by
  rw [pack]
  split
  · exact .error (by simp)
  · split
    · exact .error (by simp)
    · exact .ok _

theorem body_failsIn (archive : Bytes) :
    FailsIn [.zip, .missingEntry, .io] (Document.body archive) := by
  refine .bind (.mapError (fun _ => by simp) _) fun entries _ => ?_
  cases Zip.find? entries (Bytes.ofString Document.memberName) with
  | none => exact .error (by simp)
  | some entry =>
    exact .bind (.mapError (fun _ => by simp) _) fun _ _ => .mapError (fun _ => by simp) _

namespace Conversion

open Files (Path Tree)

theorem symbolGrid_failsIn (content : String) (level : Qr.Level) :
    FailsIn [.qr] (symbolGrid content level) :=
  (FailsIn.mapError (fun _ => by simp) _).map _

theorem inputAt_failsIn (path : Path) (files : Tree) :
    FailsIn [.notFound] (inputAt path files) :=
  .ite (.ok _) (.error (by simp))

/-- An image that is there is never reported as missing. -/
theorem bitmapIn_failsIn [ImageReader] (path : Path) (contents : Bytes) :
    FailsIn [.image, .dimensionMismatch] (bitmapIn path contents) := by
  refine .bind (.mapError (fun _ => by simp) _) fun size _ => .ite ?_ (.error (by simp))
  exact .bind (.mapError (fun _ => by simp) _) fun _ _ => .ok _

theorem bitmapAt_failsIn [ImageReader] (path : Path) (files : Tree) :
    FailsIn [.notFound, .io, .image, .dimensionMismatch] (bitmapAt path files) := by
  refine .bind ((inputAt_failsIn path files).mono (by decide)) fun _ _ => ?_
  refine .bind (.mapError (fun _ => by simp) _) fun contents _ => ?_
  exact (bitmapIn_failsIn path contents).mono (by decide)

theorem paragraphsAt_failsIn (path : Path) (files : Tree) :
    FailsIn [.notFound, .zip, .missingEntry, .io, .xml] (paragraphsAt path files) := by
  refine .bind ((inputAt_failsIn path files).mono (by decide)) fun _ _ => ?_
  refine .bind (.mapError (fun _ => by simp) _) fun archive _ => ?_
  refine .bind ((body_failsIn archive).mono (by decide)) fun body _ => ?_
  exact .mapError (fun _ => by simp) _

theorem bitmap32File_failsIn (bytes : Bytes) (content : String) :
    FailsIn [.sizeMismatch] (bitmap32File bytes content) := by
  refine .ite (.map ?_ _) (.error (by simp))
  rw [Header.render_eq]
  exact .ite (.ok _) (.error (by simp))

/-! ### Chains -/

/-- The text decides: once it has a symbol, nothing behind it fails. -/
theorem qrFile_failsIn (content : String) (level : Qr.Level) :
    FailsIn [.qr] (qrFile content level) := by
  cases hgrid : symbolGrid content level with
  | error e =>
    rw [qrFile, hgrid]
    exact .error (symbolGrid_failsIn content level e hgrid)
  | ok grid =>
    obtain ⟨made, hmade⟩ := exists_qrFile_of_symbolGrid hgrid
    exact .of_eq_ok hmade

/-- Whatever is decoded, the chain fails only in one of its stages. -/
theorem pngFile_failsIn_checks [ImageReader] (source : Path) (files : Tree) :
    FailsIn [.notFound, .io, .image, .dimensionMismatch, .emptyGrid, .notSquare, .sizeMismatch]
      (pngFile source files) := by
  refine .bind ((bitmapAt_failsIn source files).mono (by decide)) fun grid _ => ?_
  refine .bind ((pack_failsIn grid).mono (by decide)) fun packed _ => ?_
  exact .bind ((bitmap32File_failsIn packed.bytes _).mono (by decide)) fun _ _ => .ok _

/-- The image decides: once it has been decoded to the size that it declares, nothing behind it
fails. -/
theorem pngFile_failsIn [reader : ImageReader] (keeps : reader.KeepsSize) (source : Path)
    (files : Tree) :
    FailsIn [.notFound, .io, .image, .dimensionMismatch] (pngFile source files) := by
  cases hgrid : bitmapAt source files with
  | error e =>
    rw [pngFile, hgrid]
    exact .error (bitmapAt_failsIn source files e hgrid)
  | ok grid =>
    obtain ⟨made, hmade⟩ := exists_pngFile_of_bitmapAt keeps hgrid
    exact .of_eq_ok hmade

theorem docxFile_failsIn (source : Path) (files : Tree) :
    FailsIn [.notFound, .zip, .missingEntry, .io, .xml] (docxFile source files) :=
  .bind (paragraphsAt_failsIn source files) fun _ _ => .ok _

end Conversion

end DeviceAssets
