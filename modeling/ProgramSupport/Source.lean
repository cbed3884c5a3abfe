import ProgramSupport.Violation
import ProgramSupport.Buffer

/-!
# Sources of input

Input arrives in segments.  A segment is a run of data bytes, an interruption that passes when
it is tried again, or a failure that is met once.  This file provides

* `Segment` and `Source` with the number of data bytes ahead, `Source.unread`;
* `Cell` and `Source.stream` — what a source carries, apart from how it is cut into segments;
* `Source.ofBytes` — the source of bytes that a stream hands out in fills of one size;
* `Source.nextByte` — the first byte of a source, across interruptions and empty segments;
* `Reading` — the result of a read, the source it leaves, and the moves of storage on its way.
-/

namespace ProgramSupport

/-- A portion of input that one fill of a reader takes. -/
inductive Segment where
  | data (bytes : List UInt8)
  /-- An attempt that has to be repeated. -/
  | interrupted
  /-- An attempt that fails with this text. -/
  | failure (text : String)
deriving Repr, DecidableEq

/-- Input, in the order in which it arrives; behind the last segment it ends. -/
abbrev Source := List Segment

/-- A byte or a failure: what a reader meets on its way. -/
inductive Cell where
  | byte (value : UInt8)
  | failure (text : String)
deriving Repr, DecidableEq

/-- The cells of a segment. -/
def Segment.cells : Segment → List Cell
  | .data bytes => bytes.map .byte
  | .interrupted => []
  | .failure text => [.failure text]

/-- The data bytes of a segment. -/
def Segment.dataLength : Segment → Nat
  | .data bytes => bytes.length
  | .interrupted | .failure _ => 0

namespace Source

/-- The cells of a source, whatever segments they come in. -/
def stream (source : Source) : List Cell := source.flatMap Segment.cells

/-- The number of data bytes ahead, over all segments. -/
def unread : Source → Nat
  | [] => 0
  | segment :: source => segment.dataLength + unread source

/-- The most bytes that one fill of a stream takes. -/
def fillSize : Nat := 8192

/-- The source of bytes that are all there from the beginning: every fill but the last takes as
much as it can. -/
def ofBytes : List UInt8 → Source
  | [] => []
  | b :: bytes =>
    .data ((b :: bytes).take fillSize) :: ofBytes ((b :: bytes).drop fillSize)
termination_by bytes => bytes.length
decreasing_by
  rw [List.length_drop]
  exact Nat.sub_lt (Nat.succ_pos _) (by decide)

/-- Fills hand out the bytes in order and lose none. -/
theorem stream_ofBytes (bytes : List UInt8) : (ofBytes bytes).stream = bytes.map .byte := by
  fun_induction ofBytes bytes with
  | case1 => rfl
  | case2 b bytes ih =>
    rw [stream] at ih
    rw [stream, List.flatMap_cons, ih, Segment.cells, ← List.map_append, List.take_append_drop]

/-- What stands first in a source, and the source behind it. -/
inductive Front where
  | ended
  | byte (value : UInt8) (rest : Source)
  | failure (text : String) (rest : Source)
deriving Repr, DecidableEq

/-- The first byte or failure of a source. -/
def nextByte : Source → Front
  | [] => .ended
  | .interrupted :: rest => nextByte rest
  | .failure text :: rest => .failure text rest
  | .data [] :: rest => nextByte rest
  | .data (b :: bytes) :: rest => .byte b (.data bytes :: rest)

/-- The first cell of a source and the stream behind it. -/
theorem stream_eq_of_nextByte (source : Source) :
    source.stream = match source.nextByte with
      | .ended => []
      | .byte b rest => .byte b :: stream rest
      | .failure text rest => .failure text :: stream rest := by
  fun_induction nextByte source with
  | case1 => rfl
  | case2 rest ih => simpa [stream, Segment.cells] using ih
  | case3 text rest => simp [stream, Segment.cells]
  | case4 rest ih => simpa [stream, Segment.cells] using ih
  | case5 b bytes rest => simp [stream, Segment.cells]

end Source

/-- The end of a read: its result, the source it leaves, and the moves of storage it made. -/
structure Reading (α : Type) where
  result : Except Violation α
  rest : Source
  moves : List Reallocation := []
deriving Repr, DecidableEq

end ProgramSupport
