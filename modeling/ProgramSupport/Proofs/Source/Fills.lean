import ProgramSupport.Proofs.Source.Stream

/-!
# Reading by fills

A reader gets at its input by fills.  A fill hands out the bytes that are there, none of them
when the input has ended, or it is interrupted, or it fails; bytes stay until they are consumed.
Both reads are loops that begin each turn with a fill.  This file provides

* `Source.fill` and `Source.consume`;
* `Loop.run` — a number of turns of a loop;
* `Loop.lineTurn` and `Loop.intTurn` — one turn of reading a line, and of reading an integer;
* `Source.extent` — the number of segments and bytes ahead;
* `Loop.Task.Furthers` — a turn with less ahead of it after than before, and as much to read, and
  `Loop.run_of_furthers` — a loop of such turns returns;
* `Loop.lineTurn_furthers` and `Loop.intTurn_furthers` — all turns of both loops are such turns;
* `Loop.run_lineTurn` and `Loop.run_intTurn` — the loops end, after no more turns than there are
  segments, bytes and three, and what they return is the result of the read.

No fill spans two segments, each failure is handed out once, and behind the last segment there is
nothing.
-/

namespace ProgramSupport

/-- What a fill hands out. -/
inductive Fill where
  /-- The bytes that are there; none at the end of the input. -/
  | available (bytes : List UInt8)
  | interrupted
  | failed (text : String)
deriving Repr, DecidableEq

namespace Source

/-- A fill, and the source after it. -/
def fill : Source → Fill × Source
  | [] => (.available [], [])
  | .interrupted :: rest => (.interrupted, rest)
  | .failure text :: rest => (.failed text, rest)
  | .data [] :: rest => fill rest
  | .data (b :: bytes) :: rest => (.available (b :: bytes), .data (b :: bytes) :: rest)

/-- Consume bytes that a fill has handed out. -/
def consume (count : Nat) : Source → Source
  | .data bytes :: rest => .data (bytes.drop count) :: rest
  | source => source

/-- The number of segments and bytes ahead. -/
def extent (source : Source) : Nat := source.length + source.unread

theorem extent_cons (segment : Segment) (rest : Source) :
    extent (segment :: rest) = segment.dataLength + 1 + extent rest := by
  rw [extent, extent, unread, List.length_cons]
  omega

/-- What a fill says of the source: an interruption or a failure is left behind, bytes stand
first in the stream, and no bytes are the end. -/
theorem fill_spec (source : Source) :
    match source.fill with
    | (.interrupted, after) => source.stream = after.stream ∧ after.extent < source.extent
    | (.failed text, after) => source.stream = .failure text :: after.stream
    | (.available [], after) => source.stream = [] ∧ after = []
    | (.available (b :: bytes), after) =>
      source.stream = after.stream ∧ after.extent ≤ source.extent ∧
        ∃ rest, after = .data (b :: bytes) :: rest := by
  induction source with
  | nil => exact ⟨rfl, rfl⟩
  | cons segment rest ih =>
    cases segment with
    | interrupted =>
      refine ⟨rfl, ?_⟩
      rw [extent_cons]
      omega
    | failure text => rfl
    | data bytes =>
      cases bytes with
      | cons b bytes => exact ⟨rfl, Nat.le_refl _, rest, rfl⟩
      | nil =>
        -- An empty segment is passed over, in the stream as in the fill.
        have hext : extent (.data [] :: rest) = extent rest + 1 := by
          rw [extent_cons]
          show 0 + 1 + extent rest = _
          omega
        rw [fill, stream_data, List.map_nil, List.nil_append, hext]
        split at ih
        · exact ⟨ih.1, by omega⟩
        · exact ih
        · exact ih
        · exact ⟨ih.1, by omega, ih.2.2⟩

end Source

/-! ### Loops -/

/-- The end of a turn: the loop goes on, or it returns. -/
inductive Turn (σ α : Type) where
  | again (state : σ) (source : Source)
  | returned (result : Except Violation α) (rest : Source)

namespace Loop

open Source

/-- Make turns until the loop returns, but no more than a number of them. -/
def run {σ α : Type} (turn : σ → Source → Turn σ α) :
    Nat → σ → Source → Option (Except Violation α × Source)
  | 0, _, _ => none
  | count + 1, state, source =>
    match turn state source with
    | .again state source => run turn count state source
    | .returned result rest => some (result, rest)

/-- One turn of reading a line: what is available goes into the buffer, up to a newline. -/
def lineTurn (line : Buffer UInt8) (source : Source) : Turn (Buffer UInt8) ByteString :=
  match source.fill with
  | (.interrupted, after) => .again line after
  | (.failed text, after) => .returned (.error (.io "readLine" text)) after
  | (.available [], after) => .returned (.ok ⟨line.toList⟩) after
  | (.available (b :: bytes), after) =>
    match (b :: bytes).idxOf? Ascii.newline with
    | some stop =>
      .returned (.ok ⟨(line.extend ((b :: bytes).take stop)).toList⟩) (after.consume (stop + 1))
    | none => .again (line.extend (b :: bytes)) (after.consume (b :: bytes).length)

/-- How far the reading of an integer has come. -/
inductive Phase where
  | spaces
  | sign
  | digits (negative : Bool) (n : Numeral)

/-- One turn of reading an integer: the first byte that is available decides, and is consumed if
it belongs to the phase. -/
def intTurn (phase : Phase) (source : Source) : Turn Phase Int64 :=
  match source.fill with
  | (.interrupted, after) => .again phase after
  | (.failed text, after) => .returned (.error (.io "readInt" text)) after
  | (.available [], after) =>
    match phase with
    | .spaces => .again .sign after
    | .sign => .returned (.error (.invalidInteger "unexpected end of input")) after
    | .digits negative n => .returned (n.result negative) after
  | (.available (b :: _), after) =>
    match phase with
    | .spaces =>
      if Ascii.isSpace b then .again .spaces (after.consume 1) else .again .sign after
    | .sign =>
      if b = Ascii.minus then .again (.digits true ⟨0, 0⟩) (after.consume 1)
      else if b = Ascii.plus then .again (.digits false ⟨0, 0⟩) (after.consume 1)
      else .again (.digits false ⟨0, 0⟩) after
    | .digits negative n =>
      match Decimal.digit? b with
      | none => .returned (n.result negative) after
      | some digit =>
        match n.push? digit with
        | none => .returned (.error (.invalidInteger "integer out of range")) after
        | some n => .again (.digits negative n) (after.consume 1)

/-! ### Loops that do their part -/

/-- What a loop has to return, told of the state that it has come to and of the stream ahead; the
states that count; and how many turns it may spend on a state without a step ahead. -/
structure Task (σ α : Type) where
  valid : σ → Prop
  rank : σ → Nat
  read : σ → List Cell → Except Violation α × List Cell

/-- A turn that goes on has less ahead and leaves as much to read; one that returns gives what was
to be read. -/
def Task.Furthers {σ α : Type} (task : Task σ α) (state : σ) (source : Source) :
    Turn σ α → Prop
  | .again next after =>
    task.valid next ∧ after.extent + task.rank next < source.extent + task.rank state ∧
      task.read next after.stream = task.read state source.stream
  | .returned result rest => task.read state source.stream = (result, rest.stream)

/-- A loop of such turns returns what was to be read, and leaves the stream behind it. -/
theorem run_of_furthers {σ α : Type} (task : Task σ α) {turn : σ → Source → Turn σ α}
    (hturn : ∀ state source, task.valid state → task.Furthers state source (turn state source))
    (count : Nat) {state : σ} (hvalid : task.valid state) (source : Source)
    (h : source.extent + task.rank state < count) :
    ∃ rest, run turn count state source = some ((task.read state source.stream).1, rest) ∧
      rest.stream = (task.read state source.stream).2 := by
  induction count generalizing state source with
  | zero => omega
  | succ count ih =>
    have hfurther := hturn state source hvalid
    rw [run]
    cases hend : turn state source with
    | again next after =>
      rw [hend] at hfurther
      obtain ⟨hnext, hless, hread⟩ := hfurther
      rw [← hread]
      exact ih hnext after (by omega)
    | returned result rest =>
      rw [hend] at hfurther
      have hread : task.read state source.stream = (result, rest.stream) := hfurther
      rw [hread]
      exact ⟨rest, rfl, rfl⟩

/-- The stream behind bytes that are consumed. -/
theorem stream_consume (count : Nat) (bytes : List UInt8) (rest : Source) :
    stream (consume count (.data bytes :: rest)) = (bytes.drop count).map .byte ++ stream rest := by
  rw [consume, stream_data]

theorem extent_consume_lt (bytes : List UInt8) (rest : Source) {count : Nat} (hpos : 0 < count)
    (h : count ≤ bytes.length) :
    extent (consume count (.data bytes :: rest)) < extent (.data bytes :: rest) := by
  rw [consume, extent_cons, extent_cons]
  show (bytes.drop count).length + 1 + extent rest < bytes.length + 1 + extent rest
  rw [List.length_drop]
  omega

/-! ### Lines -/

/-- The rest of a line, of which the buffer holds the beginning. -/
def lineTask : Task (Buffer UInt8) ByteString where
  valid := Buffer.WellFormed
  rank _ := 0
  read line := Stream.lineFrom line.toList

/-- A buffer full of bytes goes into the line, up to a newline among them. -/
theorem line_of_bytes (line bytes : List UInt8) (cells : List Cell) :
    Stream.lineFrom line (bytes.map .byte ++ cells) =
      match bytes.idxOf? Ascii.newline with
      | none => Stream.lineFrom (line ++ bytes) cells
      | some stop => (.ok ⟨line ++ bytes.take stop⟩, (bytes.drop (stop + 1)).map .byte ++ cells) := by
  cases hstop : bytes.idxOf? Ascii.newline with
  | none =>
    refine Stream.lineFrom_append _ _ _ ?_
    rintro c hc rfl
    exact List.idxOf?_eq_none_iff.1 hstop hc
  | some stop =>
    obtain ⟨hlt, hnewline, hbefore⟩ := List.idxOf?_eq_some_iff.1 hstop
    have hno : ∀ c ∈ bytes.take stop, c ≠ Ascii.newline := by
      intro c hc
      obtain ⟨j, hj, rfl⟩ := List.mem_take_iff_getElem.1 hc
      exact hbefore j (by omega)
    have hsplit : bytes =
        (bytes.take stop ++ [Ascii.newline]) ++ bytes.drop (stop + 1) := by
      rw [← hnewline, List.take_append_getElem, List.take_append_drop]
    conv => lhs; rw [hsplit]
    rw [List.map_append, List.append_assoc, Stream.lineFrom_newline _ _ _ hno]

theorem lineTurn_furthers (line : Buffer UInt8) (source : Source) (hl : line.WellFormed) :
    lineTask.Furthers line source (lineTurn line source) := by
  have hfill := fill_spec source
  unfold lineTurn
  obtain ⟨out, after, heq⟩ : ∃ out after, source.fill = (out, after) := ⟨_, _, rfl⟩
  rw [heq] at hfill ⊢
  cases out with
  | interrupted =>
    obtain ⟨hstream, hless⟩ := hfill
    exact ⟨hl, Nat.add_lt_add_right hless 0, by rw [hstream]⟩
  | failed text =>
    show Stream.lineFrom line.toList source.stream = _
    rw [hfill, Stream.lineFrom]
  | available bytes =>
    cases bytes with
    | nil =>
      obtain ⟨hstream, rfl⟩ := hfill
      show Stream.lineFrom line.toList source.stream = _
      rw [hstream]
      rfl
    | cons b bytes =>
      obtain ⟨hstream, hext, rest, rfl⟩ := hfill
      have hline := line_of_bytes line.toList (b :: bytes) (stream rest)
      rw [← stream_data, ← hstream] at hline
      simp only
      cases hstop : (b :: bytes).idxOf? Ascii.newline with
      | none =>
        rw [hstop] at hline
        obtain ⟨hwf, helems⟩ := Buffer.extend_view hl (b :: bytes)
        have hless := extent_consume_lt (b :: bytes) rest (Nat.succ_pos _) (Nat.le_refl _)
        refine ⟨hwf, Nat.add_lt_add_right (Nat.lt_of_lt_of_le hless hext) 0, ?_⟩
        show Stream.lineFrom (line.extend (b :: bytes)).toList _ = _
        rw [stream_consume, List.drop_length, helems]
        exact hline.symm
      | some stop =>
        rw [hstop] at hline
        obtain ⟨-, helems⟩ := Buffer.extend_view hl ((b :: bytes).take stop)
        show Stream.lineFrom line.toList source.stream = _
        rw [hline, helems, stream_consume]

/-- Reading a line ends with the line of the stream. -/
theorem run_lineTurn (count : Nat) {line : Buffer UInt8} (hl : line.WellFormed) (source : Source)
    (h : source.extent < count) :
    ∃ rest, run lineTurn count line source =
        some ((Stream.lineFrom line.toList source.stream).1, rest) ∧
      rest.stream = (Stream.lineFrom line.toList source.stream).2 :=
  run_of_furthers lineTask lineTurn_furthers count hl source h

/-! ### Integers -/

namespace Phase

/-- What is left to do in a phase, told of the stream. -/
def read : Phase → List Cell → Except Violation Int64 × List Cell
  | .spaces => Stream.int
  | .sign => Stream.signed
  | .digits negative n => Stream.digitsFrom negative n

/-- The number of phases to come. -/
def rank : Phase → Nat
  | .spaces => 2
  | .sign => 1
  | .digits _ _ => 0

/-- A failure ends the read in every phase. -/
theorem read_failure (phase : Phase) (text : String) (cells : List Cell) :
    phase.read (.failure text :: cells) = (.error (.io "readInt" text), cells) := by
  cases phase <;> rfl

theorem read_space {b : UInt8} (h : Ascii.isSpace b = true) (cells : List Cell) :
    spaces.read (.byte b :: cells) = spaces.read cells := by
  have hcell : Stream.isSpace (.byte b) = true := h
  simp only [read, Stream.int]
  rw [List.dropWhile_cons_of_pos hcell]

theorem read_other {b : UInt8} (h : ¬Ascii.isSpace b = true) (cells : List Cell) :
    spaces.read (.byte b :: cells) = sign.read (.byte b :: cells) := by
  have hcell : ¬Stream.isSpace (.byte b) = true := h
  simp only [read, Stream.int]
  rw [List.dropWhile_cons_of_neg hcell]

end Phase

/-- The rest of an integer. -/
def intTask : Task Phase Int64 where
  valid _ := True
  rank := Phase.rank
  read := Phase.read

section Byte

variable {source after : Source} {b : UInt8} {bytes : List UInt8}

/-- The byte that decides a turn, and what is left when it is consumed. -/
theorem available_spec (h : source.fill = (.available (b :: bytes), after)) :
    source.stream = after.stream ∧ source.stream = .byte b :: (after.consume 1).stream ∧
      after.extent ≤ source.extent ∧ (after.consume 1).extent < source.extent := by
  have hfill := fill_spec source
  rw [h] at hfill
  obtain ⟨hstream, hext, rest, rfl⟩ := hfill
  have hless := extent_consume_lt (b :: bytes) rest Nat.one_pos (Nat.succ_pos bytes.length)
  refine ⟨hstream, ?_, hext, Nat.lt_of_lt_of_le hless hext⟩
  rw [hstream]
  rfl

theorem spaces_furthers (h : source.fill = (.available (b :: bytes), after)) :
    intTask.Furthers .spaces source (intTurn .spaces source) := by
  obtain ⟨hstream, hfirst, hext, hless⟩ := available_spec h
  by_cases hspace : Ascii.isSpace b = true
  · have hturn : intTurn .spaces source = .again .spaces (after.consume 1) := by
      simp only [intTurn, h, if_pos hspace]
    rw [hturn]
    refine ⟨trivial, Nat.add_lt_add_right hless 2, ?_⟩
    rw [hfirst]
    exact (Phase.read_space hspace _).symm
  · have hturn : intTurn .spaces source = .again .sign after := by
      simp only [intTurn, h, if_neg hspace]
    rw [hturn]
    refine ⟨trivial, Nat.add_lt_add_of_le_of_lt hext (Nat.lt_succ_self 1), ?_⟩
    rw [← hstream, hfirst]
    exact (Phase.read_other hspace _).symm

theorem sign_furthers (h : source.fill = (.available (b :: bytes), after)) :
    intTask.Furthers .sign source (intTurn .sign source) := by
  obtain ⟨hstream, hfirst, hext, hless⟩ := available_spec h
  have hrank : (after.consume 1).extent + 0 < source.extent + 1 := by omega
  by_cases hminus : b = Ascii.minus
  · have hturn : intTurn .sign source = .again (.digits true ⟨0, 0⟩) (after.consume 1) := by
      simp only [intTurn, h, if_pos hminus]
    rw [hturn]
    refine ⟨trivial, hrank, ?_⟩
    rw [hfirst]
    exact (if_pos hminus).symm
  · by_cases hplus : b = Ascii.plus
    · have hturn : intTurn .sign source = .again (.digits false ⟨0, 0⟩) (after.consume 1) := by
        simp only [intTurn, h, if_neg hminus, if_pos hplus]
      rw [hturn]
      refine ⟨trivial, hrank, ?_⟩
      rw [hfirst]
      exact ((if_neg hminus).trans (if_pos hplus)).symm
    · have hturn : intTurn .sign source = .again (.digits false ⟨0, 0⟩) after := by
        simp only [intTurn, h, if_neg hminus, if_neg hplus]
      rw [hturn]
      refine ⟨trivial, Nat.lt_succ_of_le hext, ?_⟩
      rw [← hstream, hfirst]
      exact ((if_neg hminus).trans (if_neg hplus)).symm

theorem digits_furthers (negative : Bool) (n : Numeral)
    (h : source.fill = (.available (b :: bytes), after)) :
    intTask.Furthers (.digits negative n) source (intTurn (.digits negative n) source) := by
  obtain ⟨hstream, hfirst, hext, hless⟩ := available_spec h
  have hread : (Phase.digits negative n).read source.stream =
      Stream.digitsFrom negative n (.byte b :: (after.consume 1).stream) := by
    rw [hfirst]
    rfl
  rw [Stream.digitsFrom, ← hfirst] at hread
  cases hdigit : Decimal.digit? b with
  | none =>
    have hturn : intTurn (.digits negative n) source = .returned (n.result negative) after := by
      simp only [intTurn, h, hdigit]
    rw [hdigit] at hread
    rw [hturn]
    show (Phase.digits negative n).read source.stream = _
    rw [hread, hstream]
  | some digit =>
    simp only [hdigit] at hread
    cases hpush : n.push? digit with
    | none =>
      have hturn : intTurn (.digits negative n) source =
          .returned (.error (.invalidInteger "integer out of range")) after := by
        simp only [intTurn, h, hdigit, hpush]
      rw [hpush] at hread
      rw [hturn]
      show (Phase.digits negative n).read source.stream = _
      rw [hread, hstream]
    | some next =>
      have hturn : intTurn (.digits negative n) source =
          .again (.digits negative next) (after.consume 1) := by
        simp only [intTurn, h, hdigit, hpush]
      rw [hpush] at hread
      rw [hturn]
      exact ⟨trivial, Nat.add_lt_add_right hless 0, hread.symm⟩

end Byte

/-- The end of the input is the end of a numeral that has begun. -/
theorem ended_furthers (phase : Phase) {source : Source} (h : source.fill = (.available [], [])) :
    intTask.Furthers phase source (intTurn phase source) := by
  have hfill := fill_spec source
  rw [h] at hfill
  obtain ⟨hstream, -⟩ := hfill
  cases phase with
  | spaces =>
    have hturn : intTurn .spaces source = .again .sign [] := by simp only [intTurn, h]
    rw [hturn]
    refine ⟨trivial, ?_, by rw [hstream]; rfl⟩
    show 0 + 1 < source.extent + 2
    omega
  | sign =>
    have hturn : intTurn .sign source =
        .returned (.error (.invalidInteger "unexpected end of input")) [] := by
      simp only [intTurn, h]
    rw [hturn]
    show Phase.sign.read source.stream = _
    rw [hstream]
    rfl
  | digits negative n =>
    have hturn : intTurn (.digits negative n) source = .returned (n.result negative) [] := by
      simp only [intTurn, h]
    rw [hturn]
    show (Phase.digits negative n).read source.stream = _
    rw [hstream]
    rfl

theorem intTurn_furthers (phase : Phase) (source : Source) :
    intTask.Furthers phase source (intTurn phase source) := by
  have hfill := fill_spec source
  obtain ⟨out, after, heq⟩ : ∃ out after, source.fill = (out, after) := ⟨_, _, rfl⟩
  rw [heq] at hfill
  cases out with
  | interrupted =>
    obtain ⟨hstream, hless⟩ := hfill
    have hturn : intTurn phase source = .again phase after := by simp only [intTurn, heq]
    rw [hturn]
    exact ⟨trivial, Nat.add_lt_add_right hless _, by rw [hstream]⟩
  | failed text =>
    have hturn : intTurn phase source = .returned (.error (.io "readInt" text)) after := by
      simp only [intTurn, heq]
    rw [hturn]
    show phase.read source.stream = _
    rw [hfill, phase.read_failure]
  | available bytes =>
    cases bytes with
    | nil =>
      obtain ⟨-, rfl⟩ := hfill
      exact ended_furthers phase heq
    | cons b bytes =>
      cases phase with
      | spaces => exact spaces_furthers heq
      | sign => exact sign_furthers heq
      | digits negative n => exact digits_furthers negative n heq

/-- Reading an integer ends with what is read of the stream. -/
theorem run_intTurn (count : Nat) (phase : Phase) (source : Source)
    (h : source.extent + phase.rank < count) :
    ∃ rest, run intTurn count phase source = some ((phase.read source.stream).1, rest) ∧
      rest.stream = (phase.read source.stream).2 :=
  run_of_furthers intTask (fun phase source _ => intTurn_furthers phase source) count trivial
    source h

end Loop

end ProgramSupport
