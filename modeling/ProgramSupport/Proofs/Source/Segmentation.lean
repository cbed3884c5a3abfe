import ProgramSupport.Proofs.Source.Fills

/-!
# Reads and the segments of a source

A session reads lines and integers from one source, in any order.  This file provides

* `ReadCall` and `ReadValue` — a read, and what it gives;
* `Source.reads` — the results of a session and the number of bytes left after each of them;
* `Source.readsByFills` — the same session with every read made by fills;
* `Stream.reads` — the session on a stream;
* `Source.reads_eq` and `Source.readsByFills_eq` — a session on a source is the session on its
  stream, and every read by fills returns;
* `Source.sessions_agree` — two sources of one stream give the same sessions.

Each step leaves the stream of the next, so both equations follow by induction on the calls.
-/

namespace ProgramSupport

/-- A read from a source. -/
inductive ReadCall where
  | line
  | int
deriving Repr, DecidableEq

/-- What a read gives. -/
inductive ReadValue where
  | line (value : ByteString)
  | int (value : Int64)
deriving Repr, DecidableEq

/-- The result of a read, and the number of bytes left behind it. -/
abbrev ReadStep := Except Violation ReadValue × Nat

namespace ReadCall

/-- Make a read: its result, and the source behind. -/
def read : ReadCall → Source → Except Violation ReadValue × Source
  | .line, source => (source.readLine.result.map .line, source.readLine.rest)
  | .int, source => (source.readInt.result.map .int, source.readInt.rest)

/-- Make a read by fills, in no more turns than there are segments, bytes and three. -/
def readByFills : ReadCall → Source → Option (Except Violation ReadValue × Source)
  | .line, source =>
    (Loop.run Loop.lineTurn (source.extent + 3) (.withCapacity Source.lineCapacity) source).map
      fun (result, rest) => (result.map .line, rest)
  | .int, source =>
    (Loop.run Loop.intTurn (source.extent + 3) .spaces source).map
      fun (result, rest) => (result.map .int, rest)

/-- Make a read of a stream. -/
def readStream : ReadCall → List Cell → Except Violation ReadValue × List Cell
  | .line, cells => ((Stream.line cells).1.map .line, (Stream.line cells).2)
  | .int, cells => ((Stream.int cells).1.map .int, (Stream.int cells).2)

/-- A read of a source is the read of its stream. -/
theorem read_stream (call : ReadCall) (source : Source) :
    ((call.read source).1, (call.read source).2.stream) = call.readStream source.stream := by
  cases call with
  | line =>
    rw [readStream, ← Source.readLine_stream]
    rfl
  | int =>
    rw [readStream, ← Source.readInt_stream]
    rfl

/-- A read by fills returns, and it is the read of the stream. -/
theorem readByFills_stream (call : ReadCall) (source : Source) :
    ∃ rest, call.readByFills source = some ((call.readStream source.stream).1, rest) ∧
      rest.stream = (call.readStream source.stream).2 := by
  cases call with
  | line =>
    have hempty := Buffer.wellFormed_withCapacity (α := UInt8) Source.lineCapacity
    obtain ⟨rest, hrun, hrest⟩ := Loop.run_lineTurn (source.extent + 3) hempty source (by omega)
    refine ⟨rest, ?_, hrest⟩
    rw [readByFills, hrun]
    rfl
  | int =>
    have hbound : source.extent + Loop.Phase.spaces.rank < source.extent + 3 := by
      show source.extent + 2 < source.extent + 3
      omega
    obtain ⟨rest, hrun, hrest⟩ := Loop.run_intTurn (source.extent + 3) .spaces source hbound
    refine ⟨rest, ?_, hrest⟩
    rw [readByFills, hrun]
    rfl

end ReadCall

/-! ### Sessions -/

namespace Stream

/-- A session on a stream. -/
def reads : List ReadCall → List Cell → List ReadStep
  | [], _ => []
  | call :: calls, cells =>
    ((call.readStream cells).1, byteCount (call.readStream cells).2) ::
      reads calls (call.readStream cells).2

end Stream

namespace Source

/-- A session on a source: the result of each read, and the number of bytes left after it. -/
def reads : List ReadCall → Source → List ReadStep
  | [], _ => []
  | call :: calls, source =>
    ((call.read source).1, (call.read source).2.unread) :: reads calls (call.read source).2

/-- A session of reads by fills; none if a read does not return. -/
def readsByFills : List ReadCall → Source → Option (List ReadStep)
  | [], _ => some []
  | call :: calls, source => do
    let (result, rest) ← call.readByFills source
    let steps ← readsByFills calls rest
    return (result, rest.unread) :: steps

theorem reads_eq (calls : List ReadCall) (source : Source) :
    reads calls source = Stream.reads calls source.stream := by
  induction calls generalizing source with
  | nil => rfl
  | cons call calls ih =>
    have hread := call.read_stream source
    rw [reads, Stream.reads, ← hread, unread_eq, ih]

theorem readsByFills_eq (calls : List ReadCall) (source : Source) :
    readsByFills calls source = some (Stream.reads calls source.stream) := by
  induction calls generalizing source with
  | nil => rfl
  | cons call calls ih =>
    obtain ⟨rest, hread, hrest⟩ := call.readByFills_stream source
    rw [readsByFills, hread, Stream.reads, ← hrest]
    simp only [Option.bind_eq_bind, Option.bind_some, ih, unread_eq, Option.pure_def]

/-- Two sources of one stream give the same results at every step of a session and leave the
same number of bytes, and every read by fills returns on both. -/
theorem sessions_agree {a b : Source} (h : a.stream = b.stream) (calls : List ReadCall) :
    reads calls a = reads calls b ∧
      readsByFills calls a = some (reads calls a) ∧
      readsByFills calls b = some (reads calls b) := by
  refine ⟨?_, ?_, ?_⟩
  · rw [reads_eq, reads_eq, h]
  · rw [readsByFills_eq, reads_eq]
  · rw [readsByFills_eq, reads_eq]

/-- A number cut in two, with an interruption and an empty segment between the digits. -/
theorem sessions_agree_cut :
    reads [.int, .line, .line] [.data [52, 50, 10, 120]] =
        reads [.int, .line, .line]
          [.data [52], .interrupted, .data [], .data [50, 10], .interrupted, .data [120]] ∧
      readsByFills [.int, .line, .line] [.data [52, 50, 10, 120]] =
        some [(.ok (.int 42), 2), (.ok (.line ⟨[]⟩), 1), (.ok (.line ⟨[120]⟩), 0)] := by
  have hstream : stream [.data [52, 50, 10, 120]] =
      stream [.data [52], .interrupted, .data [], .data [50, 10], .interrupted, .data [120]] := rfl
  obtain ⟨hsame, hfills, -⟩ := sessions_agree hstream [.int, .line, .line]
  refine ⟨hsame, ?_⟩
  rw [hfills]
  decide +kernel

end Source

end ProgramSupport
