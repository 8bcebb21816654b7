import DeviceAssets.Job
import DeviceAssets.Proofs.Conversion.Stages
import DeviceAssets.Proofs.Files.Writing

/-!
# What a job does to files

A job either reads only, or it makes the contents of one file out of the files as they are
and then writes them. Which of the two it is, and what it makes, is said here for each job;
how it ends, and the files after it, follow from that alone.
-/

namespace DeviceAssets.Job

open DeviceAssets.Action (Reads Writes written)
open Files (Location Node Path Tree)

inductive Effect where
  | reads (result : Tree → Except Error Answer)
  /-- Makes an answer and contents, and writes the contents under `path`. -/
  | writes (path : Path) (made : Tree → Except Error (Answer × Bytes))

def effect [ImageReader] : Job → Effect
  | emit path layout n bytes content =>
    .writes path fun _ =>
      (Conversion.headerFileAs layout (.ofWord n) bytes content).map fun file => (.done, file)
  | emitBitmap32 path bytes content =>
    .writes path fun _ => (Conversion.bitmap32File bytes content).map fun file => (.done, file)
  | writeText path lines =>
    .writes path fun _ =>
      .ok (.count (Conversion.textFile lines).length, Conversion.textFile lines)
  | loadBitmap32 path => .reads fun files => (Conversion.bitmapAt path files).map .grid
  | extract path => .reads fun files => (Conversion.paragraphsAt path files).map .lines
  | qrToHeader path content level =>
    .writes path fun _ =>
      (Conversion.qrFile content level).map fun (packed, file) => (.count packed.modules, file)
  | pngToHeader source path =>
    .writes path fun files =>
      (Conversion.pngFile source files).map fun (packed, file) =>
        (.count packed.bytes.length, file)
  | docxToText source path =>
    .writes path fun files =>
      (Conversion.docxFile source files).map fun (made, file) => (.count made.2, file)

def Effect.Of (action : Action Answer) : Effect → Prop
  | reads result => Reads action result
  | writes path made => Writes action path made

/-- How an action of this effect ends on files, and the files after it. -/
def Effect.outcome (files : Tree) : Effect → Except Error Answer × Tree
  | reads result => (result files, files)
  | writes path made =>
    match written path (made files) files with
    | .error e => (.error e, files)
    | .ok (answer, later) => (.ok answer, later)

theorem Effect.Of.runOn_eq {action : Action Answer} {effect : Effect} (h : effect.Of action)
    (files : Tree) :
    ((action.runOn files).1, (action.runOn files).2.files) = effect.outcome files := by
  cases effect with
  | reads result =>
    obtain ⟨lines, hrun⟩ := h ⟨files, []⟩
    rw [Action.runOn, hrun]
    rfl
  | writes path made =>
    obtain ⟨lines, hrun⟩ := h ⟨files, []⟩
    rw [Action.runOn, hrun, Effect.outcome]
    cases written path (made files) files <;> rfl

theorem effect_of_perform [ImageReader] (job : Job) : job.effect.Of job.perform := by
  cases job with
  | emit path layout n bytes content =>
    rw [effect, Effect.Of]
    refine Writes.congr ((Conversion.emitAs_writes path layout (.ofWord n) bytes
      content).bind_pure fun _ => Reads.pure Answer.done) fun _ => ?_
    cases Conversion.headerFileAs layout (.ofWord n) bytes content <;> rfl
  | emitBitmap32 path bytes content =>
    rw [effect, Effect.Of]
    refine Writes.congr ((Conversion.emitBitmap32_writes path bytes content).bind_pure fun _ =>
      Reads.pure Answer.done) fun _ => ?_
    cases Conversion.bitmap32File bytes content <;> rfl
  | writeText path lines =>
    exact (Conversion.writeText_writes path lines).bind_pure fun count =>
      Reads.pure (Answer.count count)
  | loadBitmap32 path =>
    rw [effect, Effect.Of]
    refine Reads.congr ((Conversion.loadBitmap32_reads path).bind fun grid =>
      Reads.pure (Answer.grid grid)) fun files => ?_
    cases Conversion.bitmapAt path files <;> rfl
  | extract path =>
    rw [effect, Effect.Of]
    refine Reads.congr ((Conversion.extract_reads path).bind fun lines =>
      Reads.pure (Answer.lines lines)) fun files => ?_
    cases Conversion.paragraphsAt path files <;> rfl
  | qrToHeader path content level =>
    exact (Conversion.qrToHeader_writes content level path).bind_pure fun packed =>
      Reads.pure (Answer.count packed.modules)
  | pngToHeader source path =>
    exact (Conversion.pngToHeader_writes source path).bind_pure fun packed =>
      Reads.pure (Answer.count packed.bytes.length)
  | docxToText source path =>
    exact (Conversion.docxToText_writes source path).bind_pure fun made =>
      Reads.pure (Answer.count made.2)

/-- A job ends as its effect says. -/
theorem run_eq_outcome [ImageReader] (job : Job) (files : Tree) :
    job.run files = job.effect.outcome files :=
  job.effect_of_perform.runOn_eq files

end DeviceAssets.Job
