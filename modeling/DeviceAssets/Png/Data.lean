import DeviceAssets.Chunks
import DeviceAssets.Deflate.Inflate
import DeviceAssets.Png.Head

/-!
# The pixel data of a PNG file

The pixel data are spread over a run of chunks and compressed as a whole. They are taken
in piece by piece, and what they stand for goes through a buffer: octets are handed on
once 32 KiB more are there, and the last ones at the end of the run. So a fault is met
after some octets have been handed on, which `Interruption` keeps beside its cause.

Where a header makes void a frame that was described before it, the first chunk with
pixel data is taken for one of the void frame, and `Opening.source` goes on to the next.
-/

namespace DeviceAssets.Png

/-- The buffer between the compressed data and the rows. -/
structure Buffer where
  /-- The octets that have been handed on. -/
  handedOn : Nat
  /-- The octets in the buffer. -/
  held : Nat
  /-- The octets that the buffer has room for. -/
  room : Nat
  deriving DecidableEq, Repr

namespace Buffer

def initial : Buffer := ⟨0, 0, 2 * pieceLength⟩

/-- The buffer after the description of a frame. -/
def reset : Buffer := ⟨0, 0, 0⟩

def enlarged (buffer : Buffer) : Buffer :=
  if buffer.room < buffer.held + pieceLength then
    { buffer with room := buffer.room + max pieceLength buffer.room }
  else buffer

def limit (buffer : Buffer) : Nat := buffer.handedOn + buffer.room

/-- The buffer once it holds `held` octets and has handed on all that it need not hold
back. -/
def drained (buffer : Buffer) (held : Nat) : Buffer :=
  let excess := held - pieceLength
  ⟨buffer.handedOn + excess, held - excess, buffer.room - excess⟩

/-- The buffer when `produced` octets have come by: it is drained whenever it is full and
more are to come. Each time there is room for one more at least, so `produced` bounds how
often that is. -/
def filled : Nat → Nat → Buffer → Buffer
  | 0, _, buffer => buffer
  | bound + 1, produced, buffer =>
    let buffer := buffer.enlarged
    if buffer.limit < produced then filled bound produced (buffer.drained buffer.room)
    else buffer

/-- The buffer when `produced` octets have come by and a fault follows. -/
def beforeFault (buffer : Buffer) (produced : Nat) : Buffer :=
  filled (produced + 1) produced buffer

/-- The buffer when `produced` octets have come by and nothing more can be produced. -/
def advanced (buffer : Buffer) (produced : Nat) : Buffer :=
  let buffer := buffer.beforeFault produced
  buffer.drained (produced - buffer.handedOn)

end Buffer

/-- The rules for pixel data: nothing precedes them. -/
def deflateRules : Deflate.Rules := ⟨.lenient, none⟩

/-- A run of data chunks of which some pieces have been taken in. -/
structure Run where
  kind : DataKind
  compressed : Bytes
  /-- Whether there has been a piece, if only an empty one. -/
  begun : Bool
  progress : Deflate.Progress
  buffer : Buffer
  /-- The last sequence number. -/
  sequence? : Option Nat
  /-- The octets at the beginning that nobody was there to receive. -/
  lost : Nat

/-- A fault in a run, and the octets that were handed on before it. -/
structure Interruption where
  octets : Bytes
  cause : Error

namespace Run

def start (opening : Opening) : Run where
  kind := opening.kind
  compressed := []
  begun := false
  progress := Deflate.inflateZlib deflateRules []
  buffer := if opening.head.sequence?.isSome then Buffer.reset else Buffer.initial
  sequence? := opening.head.sequence?
  lost := 0

def interrupted (run : Run) (cause : Error) : Interruption :=
  ⟨(run.progress.out.take run.buffer.handedOn).toList.drop run.lost, cause⟩

/-- The outcome of a step that takes no octets in. -/
def step {α : Type} (run : Run) : Except Error α → Except Interruption α
  | .ok value => .ok value
  | .error cause => .error (run.interrupted cause)

def takeIn (run : Run) (piece : Bytes) : Except Interruption Run :=
  let compressed := run.compressed ++ piece
  let progress := Deflate.inflateZlib deflateRules compressed
  let produced := progress.out.size
  match progress.rest with
  | .error .corrupt =>
    .error (interrupted { run with progress, buffer := run.buffer.beforeFault produced }
      .corruptData)
  | _ =>
    .ok { run with compressed, begun := true, progress, buffer := run.buffer.advanced produced }

def readNumber (run : Run) (piece : Bytes) : Except Error (Nat × Bytes) :=
  match run.sequence? with
  | none => .error .frameMissing
  | some last => do
    let (number, rest) ← nextWord piece
    checkSequence (some last) number
    return (number, rest)

def takeInAll (run : Run) (pieces : List Bytes) : Except Interruption Run := do
  match run.kind, pieces with
  | .numbered, first :: rest =>
    let (number, first) ← run.step (run.readNumber first)
    (first :: rest).foldlM takeIn { run with sequence? := some number }
  | _, pieces => pieces.foldlM takeIn run

/-- Of the contents of a chunk, what can be taken in. A piece is complete when it is full
or the contents end, and it is taken in once more of the file is there. -/
def available (length : Nat) (bytes : Bytes) : Bytes :=
  if length < bytes.length then bytes.take length
  else bytes.take ((bytes.length - 1) / pieceLength * pieceLength)

def readEnd (kind : DataKind) (length : Nat) (bytes : Bytes) :
    Except Error (Nat × Bytes × Bytes) := do
  let (contents, rest) ← Bytes.splitOr length bytes .unexpectedEnd
  let rest ← readChecksum kind.type contents rest
  readStart rest

/-- The octets at the end of the run. Data that were begun have to be complete. -/
def finish (run : Run) : Except Interruption Bytes :=
  if run.begun then
    match run.progress.rest with
    | .ok _ => .ok (run.progress.out.toList.drop run.lost)
    | .error _ => .error (run.interrupted .corruptData)
  else .ok []

/-- Reads chunks, of which the first has `length` octets of contents, up to the type of
a chunk that does not belong to the run. Each chunk takes an octet, so the number of
octets bounds their number. -/
def readAll : Nat → Run → Nat → Bytes → Except Interruption Bytes
  | 0, run, _, _ => .error (run.interrupted .unexpectedEnd)
  | bound + 1, run, length, bytes => do
    let run ← run.takeInAll (chunks pieceLength (available length bytes))
    let (length, type, rest) ← run.step (readEnd run.kind length bytes)
    if type = run.kind.type then readAll bound run length rest else run.finish

end Run

structure Source where
  head : Head
  run : Run
  dataLength : Nat
  rest : Bytes

def Opening.run (opening : Opening) : Source :=
  ⟨opening.head, Run.start opening, opening.dataLength, opening.rest⟩

namespace Source

def octets (source : Source) : Except Interruption Bytes :=
  source.run.readAll (source.rest.length + 1) source.dataLength source.rest

/-- Passes over the next chunk of a run, and goes on to the next chunk with pixel data:
it may belong to the same run, of which the octets handed on so far are lost. -/
def passChunk (source : Source) : Except Error Source := do
  let pieces := chunks pieceLength (Run.available source.dataLength source.rest)
  let run ← causeOnly (source.run.takeInAll pieces)
  let (length, type, rest) ← Run.readEnd run.kind source.dataLength source.rest
  if type = run.kind.type then
    return ⟨source.head, { run with lost := run.buffer.handedOn }, length, rest⟩
  else
    let _ ← causeOnly run.finish
    let head := { source.head with
      sequence? := run.sequence?, dataSeen := run.kind = .plain && run.begun }
    return (← readChunks (rest.length + 1) (some head) length type rest).run
where
  /-- A step of which only the cause of its failure is of interest. -/
  causeOnly {α : Type} : Except Interruption α → Except Error α :=
    Except.mapError (·.cause)

end Source

def Opening.source (opening : Opening) : Except Error Source :=
  if opening.head.hasVoidFrame then opening.run.passChunk else .ok opening.run

end DeviceAssets.Png
