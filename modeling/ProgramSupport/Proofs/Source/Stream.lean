import ProgramSupport.Buffer.WellFormed
import ProgramSupport.Source.Integer
import ProgramSupport.Source.Line

/-!
# Reading from a stream

A source carries a stream of cells, each a byte or a failure.  Reads can be told of the stream
alone, cell by cell, with no word about segments.  This file provides

* `Stream.line` and `Stream.int` — the two reads of a stream: the result, and the stream behind;
* `Source.readLine_stream` and `Source.readInt_stream` — reading a source gives the result of
  reading its stream, and the source it leaves carries the stream behind;
* `Source.unread_eq` — the bytes ahead are the bytes of the stream.

The segments of a source are walked by the recursion of the reads; what a whole segment does is
one lemma on the cells of that segment.
-/

namespace ProgramSupport

/-! ### Reads of a stream -/

namespace Stream

/-- Go on with a line of which some bytes are read. -/
def lineFrom (taken : List UInt8) : List Cell → Except Violation ByteString × List Cell
  | [] => (.ok ⟨taken⟩, [])
  | .failure text :: cells => (.error (.io "readLine" text), cells)
  | .byte b :: cells =>
    if b = Ascii.newline then (.ok ⟨taken⟩, cells) else lineFrom (taken ++ [b]) cells

/-- The bytes before the next newline, or before the end. -/
def line (cells : List Cell) : Except Violation ByteString × List Cell := lineFrom [] cells

/-- The cell is a space. -/
def isSpace : Cell → Bool
  | .byte b => Ascii.isSpace b
  | .failure _ => false

/-- Go on with a numeral of which some digits are read. -/
def digitsFrom (negative : Bool) (n : Numeral) :
    List Cell → Except Violation Int64 × List Cell
  | [] => (n.result negative, [])
  | .failure text :: cells => (.error (.io "readInt" text), cells)
  | .byte b :: cells =>
    match Decimal.digit? b with
    | none => (n.result negative, .byte b :: cells)
    | some digit =>
      match n.push? digit with
      | none => (.error (.invalidInteger "integer out of range"), .byte b :: cells)
      | some n => digitsFrom negative n cells

/-- One sign at most, then digits. -/
def signed : List Cell → Except Violation Int64 × List Cell
  | [] => (.error (.invalidInteger "unexpected end of input"), [])
  | .failure text :: cells => (.error (.io "readInt" text), cells)
  | .byte b :: cells =>
    if b = Ascii.minus then digitsFrom true ⟨0, 0⟩ cells
    else if b = Ascii.plus then digitsFrom false ⟨0, 0⟩ cells
    else digitsFrom false ⟨0, 0⟩ (.byte b :: cells)

/-- One integer: spaces, one sign at most, digits. -/
def int (cells : List Cell) : Except Violation Int64 × List Cell :=
  signed (cells.dropWhile isSpace)

/-- The number of bytes in a stream. -/
def byteCount : List Cell → Nat
  | [] => 0
  | .byte _ :: cells => byteCount cells + 1
  | .failure _ :: cells => byteCount cells

/-! ### Whole runs of bytes -/

/-- Bytes without a newline only make the line longer. -/
theorem lineFrom_append (taken bytes : List UInt8) (cells : List Cell)
    (h : ∀ b ∈ bytes, b ≠ Ascii.newline) :
    lineFrom taken (bytes.map .byte ++ cells) = lineFrom (taken ++ bytes) cells := by
  induction bytes generalizing taken with
  | nil => rw [List.map_nil, List.nil_append, List.append_nil]
  | cons b bytes ih =>
    have hb : b ≠ Ascii.newline := h b List.mem_cons_self
    rw [List.map_cons, List.cons_append, lineFrom, if_neg hb,
      ih _ fun c hc => h c (List.mem_cons_of_mem _ hc), List.append_assoc, List.singleton_append]

/-- A newline ends the line, and is consumed. -/
theorem lineFrom_newline (taken bytes : List UInt8) (cells : List Cell)
    (h : ∀ b ∈ bytes, b ≠ Ascii.newline) :
    lineFrom taken ((bytes ++ [Ascii.newline]).map .byte ++ cells) =
      (.ok ⟨taken ++ bytes⟩, cells) := by
  rw [List.map_append, List.append_assoc, lineFrom_append _ _ _ h]
  rfl

/-- The digits at the beginning of some bytes are taken, up to the end of the bytes or of the
numeral. -/
theorem digitsFrom_append (negative : Bool) (n : Numeral) (bytes : List UInt8)
    (cells : List Cell) :
    digitsFrom negative n (bytes.map .byte ++ cells) =
      match n.run bytes with
      | .exhausted n => digitsFrom negative n cells
      | .ended n unread => (n.result negative, unread.map .byte ++ cells)
      | .overflow unread =>
        (.error (.invalidInteger "integer out of range"), unread.map .byte ++ cells) := by
  induction bytes generalizing n with
  | nil => rfl
  | cons b bytes ih =>
    rw [List.map_cons, List.cons_append, digitsFrom, Numeral.run]
    cases Decimal.digit? b with
    | none => rfl
    | some digit =>
      cases hn : n.push? digit with
      | none => simp only [hn, List.map_cons, List.cons_append]
      | some m => simp only [hn, ih]

theorem byteCount_append (bytes : List UInt8) (cells : List Cell) :
    byteCount (bytes.map .byte ++ cells) = bytes.length + byteCount cells := by
  induction bytes with
  | nil => rw [List.map_nil, List.nil_append, List.length_nil, Nat.zero_add]
  | cons b bytes ih =>
    rw [List.map_cons, List.cons_append, byteCount, ih, List.length_cons]
    omega

/-- Spaces in front of other cells go together. -/
theorem dropWhile_isSpace_append (bytes : List UInt8) (cells : List Cell) :
    (bytes.map Cell.byte ++ cells).dropWhile isSpace =
      match bytes.dropWhile Ascii.isSpace with
      | [] => cells.dropWhile isSpace
      | b :: rest => (b :: rest).map .byte ++ cells := by
  induction bytes with
  | nil => rfl
  | cons b bytes ih =>
    rw [List.map_cons, List.cons_append, List.dropWhile_cons, List.dropWhile_cons]
    show (if Ascii.isSpace b = true then _ else _) = _
    by_cases hb : Ascii.isSpace b = true
    · rw [if_pos hb, if_pos hb, ih]
    · rw [if_neg hb, if_neg hb]
      rfl

end Stream

/-! ### Reads of a source -/

namespace Source

@[simp] theorem stream_nil : stream [] = [] := rfl

@[simp] theorem stream_data (bytes : List UInt8) (rest : Source) :
    stream (.data bytes :: rest) = bytes.map .byte ++ stream rest := rfl

@[simp] theorem stream_interrupted (rest : Source) :
    stream (.interrupted :: rest) = stream rest := rfl

@[simp] theorem stream_failure (text : String) (rest : Source) :
    stream (.failure text :: rest) = .failure text :: stream rest := rfl

/-- The bytes ahead are the bytes of the stream. -/
theorem unread_eq (source : Source) : source.unread = Stream.byteCount source.stream := by
  induction source with
  | nil => rfl
  | cons segment rest ih =>
    cases segment with
    | data bytes =>
      rw [unread, stream_data, Stream.byteCount_append, ih]
      rfl
    | interrupted =>
      rw [unread, stream_interrupted, ih]
      exact Nat.zero_add _
    | failure text =>
      rw [unread, stream_failure, Stream.byteCount, ih]
      exact Nat.zero_add _

/-- The result of a reading and the stream behind it. -/
def seen {α : Type} (reading : Reading α) : Except Violation α × List Cell :=
  (reading.result, reading.rest.stream)

/-- The buffer of a line holds what was taken of the stream; the elements of the buffer are all
that matters of it. -/
theorem readLineInto_stream {line : Buffer UInt8} (hl : line.WellFormed) (source : Source) :
    seen (readLineInto line source) = Stream.lineFrom line.toList source.stream := by
  induction source generalizing line with
  | nil => rfl
  | cons segment rest ih =>
    cases segment with
    | interrupted => exact ih hl
    | failure text => rfl
    | data bytes =>
      -- The bytes are cut before their first newline, if they have one.
      obtain ⟨taken, htaken⟩ : ∃ taken, bytes.takeWhile (· ≠ Ascii.newline) = taken := ⟨_, rfl⟩
      obtain ⟨behind, hbehind⟩ : ∃ behind, bytes.dropWhile (· ≠ Ascii.newline) = behind := ⟨_, rfl⟩
      have hbytes : bytes = taken ++ behind := by
        rw [← htaken, ← hbehind, List.takeWhile_append_dropWhile]
      have hdrop : bytes.drop taken.length = behind := by rw [hbytes, List.drop_left]
      have hno : ∀ b ∈ taken, b ≠ Ascii.newline := by
        intro b hb
        rw [← htaken] at hb
        simpa using List.all_eq_true.1 List.all_takeWhile b hb
      obtain ⟨hwf, helems⟩ := Buffer.extend_view hl taken
      unfold readLineInto
      simp only [htaken, hdrop]
      rw [stream_data]
      cases behind with
      | nil =>
        rw [List.append_nil] at hbytes
        rw [hbytes, Stream.lineFrom_append _ _ _ hno, ← helems]
        exact ih hwf
      | cons c behind =>
        have hc : c = Ascii.newline := by
          have := List.head?_dropWhile_not (· ≠ Ascii.newline) bytes
          rw [hbehind] at this
          simpa using this
        have hline : taken ++ c :: behind = (taken ++ [Ascii.newline]) ++ behind := by
          rw [hc, List.append_assoc, List.singleton_append]
        rw [hbytes, hline, List.map_append, List.append_assoc,
          Stream.lineFrom_newline _ _ _ hno, ← helems]
        rfl

theorem readLine_stream (source : Source) : seen source.readLine = Stream.line source.stream :=
  readLineInto_stream (Buffer.wellFormed_withCapacity _) source

theorem skipSpace_stream (source : Source) :
    source.skipSpace.stream = source.stream.dropWhile Stream.isSpace := by
  induction source with
  | nil => rfl
  | cons segment rest ih =>
    cases segment with
    | interrupted => exact ih
    | failure text => rfl
    | data bytes =>
      rw [skipSpace, stream_data, Stream.dropWhile_isSpace_append]
      cases bytes.dropWhile Ascii.isSpace with
      | nil => exact ih
      | cons b bytes => rfl

theorem readDigits_stream (negative : Bool) (n : Numeral) (source : Source) :
    seen (readDigits negative n source) = Stream.digitsFrom negative n source.stream := by
  induction source generalizing n with
  | nil => rfl
  | cons segment rest ih =>
    cases segment with
    | interrupted => exact ih n
    | failure text => rfl
    | data bytes =>
      rw [readDigits, stream_data, Stream.digitsFrom_append]
      cases n.run bytes with
      | exhausted m => exact ih m
      | ended m unread => rfl
      | overflow unread => rfl

theorem readInt_stream (source : Source) : seen source.readInt = Stream.int source.stream := by
  unfold readInt Stream.int Stream.signed
  rw [← skipSpace_stream]
  have hstream := stream_eq_of_nextByte source.skipSpace
  cases hfront : source.skipSpace.nextByte with
  | ended =>
    rw [hfront] at hstream
    simp only [hstream, hfront]
    rfl
  | failure text rest =>
    rw [hfront] at hstream
    simp only [hstream, hfront]
    rfl
  | byte b rest =>
    rw [hfront] at hstream
    simp only [hstream, hfront]
    by_cases hminus : b = Ascii.minus
    · rw [if_pos hminus, if_pos hminus, readDigits_stream]
    · by_cases hplus : b = Ascii.plus
      · rw [if_neg hminus, if_neg hminus, if_pos hplus, if_pos hplus, readDigits_stream]
      · rw [if_neg hminus, if_neg hminus, if_neg hplus, if_neg hplus, readDigits_stream, hstream]

end Source

end ProgramSupport
