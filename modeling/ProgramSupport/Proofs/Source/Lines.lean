import ProgramSupport.Proofs.Source.Stream

/-!
# The lines of a stream

A line ends at a newline, at a failure or at the end of the input, whichever comes first.  This
file provides

* `LineEnd` — what ends a line, with the cells that it takes up, and what is behind them;
* `Stream.exists_lineEnd` — every stream begins with a line;
* `Stream.line_of_lineEnd` — reading a line gives the bytes before its end, or the failure, and
  leaves what is behind;
* `Source.readLines` — lines that are read one after another;
* `Source.readLines_eq` — without failures these are the parts between the newlines, and empty
  lines behind the last part;
* `Source.readLine_ends` — all this for sources, in whatever segments they come.
-/

namespace ProgramSupport

/-- What ends a line. -/
inductive LineEnd where
  | newline (behind : List Cell)
  | failure (text : String) (behind : List Cell)
  /-- The input is at its end. -/
  | ended

namespace LineEnd

/-- The stream from the end of a line on. -/
def cells : LineEnd → List Cell
  | .newline behind => .byte Ascii.newline :: behind
  | .failure text behind => .failure text :: behind
  | .ended => []

/-- The stream behind the end of a line. -/
def behind : LineEnd → List Cell
  | .newline behind | .failure _ behind => behind
  | .ended => []

/-- What reading a line gives, told of the bytes before its end. -/
def result (bytes : List UInt8) : LineEnd → Except Violation ByteString
  | .newline _ | .ended => .ok ⟨bytes⟩
  | .failure text _ => .error (.io "readLine" text)

end LineEnd

/-! ### One line -/

namespace Stream

/-- Every stream begins with a line. -/
theorem exists_lineEnd (cells : List Cell) :
    ∃ (bytes : List UInt8) (stop : LineEnd),
      Ascii.newline ∉ bytes ∧ cells = bytes.map .byte ++ stop.cells := by
  induction cells with
  | nil => exact ⟨[], .ended, List.not_mem_nil, rfl⟩
  | cons cell cells ih =>
    cases cell with
    | failure text => exact ⟨[], .failure text cells, List.not_mem_nil, rfl⟩
    | byte b =>
      by_cases hb : b = Ascii.newline
      · subst hb
        exact ⟨[], .newline cells, List.not_mem_nil, rfl⟩
      · obtain ⟨bytes, stop, hbytes, rfl⟩ := ih
        refine ⟨b :: bytes, stop, ?_, rfl⟩
        intro hmem
        rcases List.mem_cons.1 hmem with hnewline | hmem
        · exact hb hnewline.symm
        · exact hbytes hmem

/-- Reading a line gives the bytes before its end, or the failure that ends it. -/
theorem line_of_lineEnd {bytes : List UInt8} (h : Ascii.newline ∉ bytes) (stop : LineEnd) :
    line (bytes.map .byte ++ stop.cells) = (stop.result bytes, stop.behind) := by
  have hno : ∀ b ∈ bytes, b ≠ Ascii.newline := by
    rintro b hb rfl
    exact h hb
  rw [line, lineFrom_append _ _ _ hno, List.nil_append]
  cases stop <;> rfl

end Stream

/-! ### Lines of a source -/

namespace Source

theorem readLine_of_lineEnd {source : Source} {bytes : List UInt8} (stop : LineEnd)
    (h : Ascii.newline ∉ bytes) (hsource : source.stream = bytes.map .byte ++ stop.cells) :
    source.readLine.result = stop.result bytes ∧ source.readLine.rest.stream = stop.behind := by
  have hread := readLine_stream source
  rw [hsource, Stream.line_of_lineEnd h stop, seen] at hread
  exact Prod.mk.inj hread

/-- The results of reading lines, one after another. -/
def readLines : Nat → Source → List (Except Violation ByteString)
  | 0, _ => []
  | count + 1, source => source.readLine.result :: readLines count source.readLine.rest

/-- Without failures, the lines are the parts between the newlines, and behind the last part they
are empty. -/
theorem readLines_eq (count : Nat) (bytes : List UInt8) {source : Source}
    (hsource : source.stream = bytes.map .byte) :
    source.readLines count = (List.range count).map fun i =>
      .ok ⟨(bytes.splitOn Ascii.newline).getD i []⟩ := by
  induction count generalizing source bytes with
  | zero => rfl
  | succ count ih =>
    rw [readLines, List.range_succ_eq_map, List.map_cons, List.map_map]
    by_cases hmem : Ascii.newline ∈ bytes
    · -- The first part is read, and the parts of what is behind its newline are left.
      obtain ⟨part, rest, rfl, hpart⟩ := List.eq_append_cons_of_mem hmem
      rw [List.map_append, List.map_cons] at hsource
      obtain ⟨hresult, hrest⟩ :=
        readLine_of_lineEnd (.newline (rest.map .byte)) hpart hsource
      rw [hresult, ih rest hrest, List.splitOn_append_cons_self_of_not_mem hpart]
      rfl
    · -- The last part is read, and nothing is left, of which the only part is empty.
      rw [← List.append_nil (bytes.map Cell.byte)] at hsource
      obtain ⟨hresult, hrest⟩ := readLine_of_lineEnd .ended hmem hsource
      rw [hresult, ih [] hrest, List.splitOn_eq_singleton hmem]
      refine congrArg (List.cons _) (List.map_congr_left fun i _ => ?_)
      cases i <;> rfl

/-- Reading a line of a source gives the bytes before the first newline and leaves what is behind
it; or fails where a failure comes first, behind which the source is left; or gives all bytes that
are left.  Every source begins in one of these ways.  So reading one line after another gives the
parts of the input between the newlines, in order, and then empty lines for ever. -/
theorem readLine_ends (source : Source) :
    (∃ (bytes : List UInt8) (stop : LineEnd),
        Ascii.newline ∉ bytes ∧ source.stream = bytes.map .byte ++ stop.cells) ∧
      (∀ (bytes : List UInt8) (stop : LineEnd), Ascii.newline ∉ bytes →
        source.stream = bytes.map .byte ++ stop.cells →
          source.readLine.result = stop.result bytes ∧
            source.readLine.rest.stream = stop.behind) ∧
      ∀ bytes : List UInt8, source.stream = bytes.map .byte → ∀ count,
        source.readLines count = (List.range count).map fun i =>
          .ok ⟨(bytes.splitOn Ascii.newline).getD i []⟩ := by
  refine ⟨Stream.exists_lineEnd source.stream, ?_, ?_⟩
  · intro bytes stop h hsource
    exact readLine_of_lineEnd stop h hsource
  · intro bytes hsource count
    exact readLines_eq count bytes hsource

/-- A line in two segments with a failure behind it, and lines of which the last two are empty,
with one more read behind them. -/
theorem readLine_ends_cut :
    (readLine [.data [97], .interrupted, .data [98], .failure "lost", .data [10]]).result =
        .error (.io "readLine" "lost") ∧
      readLines 4 [.data [97, 10], .data [], .interrupted, .data [98, 99, 10]] =
        [.ok ⟨[97]⟩, .ok ⟨[98, 99]⟩, .ok ⟨[]⟩, .ok ⟨[]⟩] := by
  obtain ⟨-, hline, -⟩ :=
    readLine_ends [.data [97], .interrupted, .data [98], .failure "lost", .data [10]]
  obtain ⟨-, -, hlines⟩ :=
    readLine_ends [.data [97, 10], .data [], .interrupted, .data [98, 99, 10]]
  refine ⟨(hline [97, 98] (.failure "lost" [.byte 10]) (by decide) rfl).1, ?_⟩
  rw [hlines [97, 10, 98, 99, 10] rfl 4]
  decide +kernel

end Source

end ProgramSupport
