import ProgramSupport.Printing.Writer
import ProgramSupport.Proofs.Source.Numerals
import ProgramSupport.Proofs.Source.Segmentation

/-!
# Reading back what was printed

Integers and strings are printed one after another, each with a newline behind it.  Strings are
read back as lines, and integers as integers with the rest of their line behind them.  This file
provides

* `ReadValue.printable` and `ReadValue.OnOneLine` — what can be printed so, and read back;
* `printedLines` — the text of printed values;
* `ReadValue.calls` and `readBack` — the reads that read values back, and the steps in which they
  have to do it;
* `Source.reads_printed` — the reads do, in whatever segments the text arrives.

The text of the values to come is what every step leaves, so the induction is on the values.
-/

namespace ProgramSupport

namespace ReadValue

/-- The value as one that is printed. -/
def printable : ReadValue → Printable
  | .line value => .string value
  | .int value => .int value

/-- The value takes one line: it is no string with a newline in it. -/
def OnOneLine : ReadValue → Prop
  | .line value => ∀ b ∈ value.bytes, b ≠ Ascii.newline
  | .int _ => True

/-- The reads that read a value back. -/
def calls : ReadValue → List ReadCall
  | .line _ => [.line]
  | .int _ => [.int, .line]

end ReadValue

/-- The bytes of values that are printed in order, each with a newline behind it. -/
def printedLines (values : List ReadValue) : List UInt8 :=
  values.foldl (fun written value => (Writer.print written value.printable true).2) []

/-- The steps that read values back.  Each leaves the rest of its line, if it is an integer, and
the text of the values to come. -/
def readBack : List ReadValue → List ReadStep
  | [] => []
  | .line value :: values => (.ok (.line value), (printedLines values).length) :: readBack values
  | .int value :: values =>
    (.ok (.int value), (printedLines values).length + 1) ::
      (.ok (.line .empty), (printedLines values).length) :: readBack values

/-- What is printed stands behind what was printed before. -/
theorem foldl_print (values : List ReadValue) (written : List UInt8) :
    values.foldl (fun written value => (Writer.print written value.printable true).2) written =
      written ++ values.flatMap fun value => value.printable.render true := by
  induction values generalizing written with
  | nil => exact (List.append_nil written).symm
  | cons value values ih =>
    rw [List.foldl_cons, print_list, ih, List.flatMap_cons, List.append_assoc]

theorem printedLines_eq (values : List ReadValue) :
    printedLines values = values.flatMap fun value => value.printable.render true :=
  (foldl_print values []).trans (List.nil_append _)

/-- The text of a string, as cells before the text of other values. -/
theorem printedLines_line (value : ByteString) (values : List ReadValue) :
    (printedLines (.line value :: values)).map Cell.byte =
      (value.bytes ++ [Ascii.newline]).map Cell.byte ++ (printedLines values).map Cell.byte := by
  have hrender : (Printable.string value).render true = value.bytes ++ [Ascii.newline] := by
    simp [Printable.render, Printable.linePieces, Printable.pieces]
  rw [printedLines_eq, printedLines_eq, List.flatMap_cons, List.map_append]
  show ((Printable.string value).render true).map Cell.byte ++ _ = _
  rw [hrender]

/-- The text of an integer, as cells before the text of other values. -/
theorem printedLines_int (value : Int64) (values : List ReadValue) :
    (printedLines (.int value :: values)).map Cell.byte =
      (Decimal.ofInteger value.toInt).map Cell.byte ++
        .byte Ascii.newline :: (printedLines values).map Cell.byte := by
  have hrender : (Printable.int value).render true =
      Decimal.ofInteger value.toInt ++ [Ascii.newline] := by
    simp [Printable.render, Printable.linePieces, Printable.pieces, ← Printable.intPieces_flatten]
  rw [printedLines_eq, printedLines_eq, List.flatMap_cons, List.map_append]
  show ((Printable.int value).render true).map Cell.byte ++ _ = _
  rw [hrender]
  simp

theorem byteCount_printedLines (values : List ReadValue) :
    Stream.byteCount ((printedLines values).map Cell.byte) = (printedLines values).length := by
  have h := Stream.byteCount_append (printedLines values) []
  rwa [List.append_nil] at h

namespace Stream

/-- The reads of the text of values give the values. -/
theorem reads_written (values : List ReadValue) (hvalues : ∀ value ∈ values, value.OnOneLine) :
    reads (values.flatMap ReadValue.calls) ((printedLines values).map .byte) =
      readBack values := by
  induction values with
  | nil => rfl
  | cons value values ih =>
    have hrest := ih fun other hmem => hvalues other (List.mem_cons_of_mem _ hmem)
    have hcount := byteCount_printedLines values
    cases value with
    | line value =>
      have hline : line ((printedLines (.line value :: values)).map .byte) =
          (.ok value, (printedLines values).map .byte) := by
        rw [printedLines_line]
        exact lineFrom_newline [] value.bytes _ (hvalues _ List.mem_cons_self)
      show reads (.line :: values.flatMap ReadValue.calls) _ = _
      rw [reads, ReadCall.readStream, hline, readBack, ← hrest, ← hcount]
      rfl
    | int value =>
      have hint : int ((printedLines (.int value :: values)).map .byte) =
          (.ok value, .byte Ascii.newline :: (printedLines values).map .byte) := by
        rw [printedLines_int]
        exact int_written value (by decide) _
      have hline : line (.byte Ascii.newline :: (printedLines values).map .byte) =
          (.ok .empty, (printedLines values).map .byte) := rfl
      show reads (.int :: .line :: values.flatMap ReadValue.calls) _ = _
      rw [reads, ReadCall.readStream, hint]
      simp only
      rw [reads, ReadCall.readStream, hline, readBack, ← hrest, ← hcount]
      rfl

end Stream

/-- Values are read back in some step, if there are any. -/
theorem readBack_eq_nil {values : List ReadValue} (h : readBack values = []) : values = [] := by
  cases values with
  | nil => rfl
  | cons value values => cases value <;> cases h

/-- The last step leaves nothing. -/
theorem readBack_leaves_nothing {values : List ReadValue} {step : ReadStep}
    (h : (readBack values).getLast? = some step) : step.2 = 0 := by
  induction values with
  | nil => cases h
  | cons value values ih =>
    cases hlast : (readBack values).getLast? with
    | some last =>
      have hstep : last = step := by
        cases value with
        | line value => simpa [readBack, List.getLast?_cons, hlast] using h
        | int value => simpa [readBack, List.getLast?_cons, hlast] using h
      rw [hstep] at hlast
      exact ih hlast
    | none =>
      have hvalues := readBack_eq_nil (List.getLast?_eq_none_iff.1 hlast)
      subst hvalues
      cases value with
      | line value =>
        cases h
        rfl
      | int value =>
        cases h
        rfl

namespace Source

/-- Values that take one line each are read back from the text that they are printed as, in
whatever segments the text arrives.  Every read returns, each step gives its value and leaves
what belongs to later steps, and the last leaves nothing. -/
theorem reads_printed {values : List ReadValue} (hvalues : ∀ value ∈ values, value.OnOneLine)
    {source : Source} (hsource : source.stream = (printedLines values).map .byte) :
    reads (values.flatMap ReadValue.calls) source = readBack values ∧
      readsByFills (values.flatMap ReadValue.calls) source = some (readBack values) ∧
      ∀ step, (readBack values).getLast? = some step → step.2 = 0 := by
  have hstream := Stream.reads_written values hvalues
  rw [← hsource] at hstream
  refine ⟨?_, ?_, fun step => readBack_leaves_nothing⟩
  · rw [reads_eq, hstream]
  · rw [readsByFills_eq, hstream]

/-- The least integer, a string that looks like a number, an empty string and the greatest integer,
with an interruption behind the first digit. -/
theorem reads_printed_cut :
    let values : List ReadValue :=
      [.int Int64.minValue, .line ⟨[32, 45, 52]⟩, .line .empty, .int Int64.maxValue]
    let text := printedLines values
    (∀ value ∈ values, value.OnOneLine) ∧
      reads (values.flatMap ReadValue.calls)
          [.data (text.take 2), .interrupted, .data [], .data (text.drop 2)] =
        [(.ok (.int Int64.minValue), 26), (.ok (.line .empty), 25),
          (.ok (.line ⟨[32, 45, 52]⟩), 21), (.ok (.line .empty), 20),
          (.ok (.int Int64.maxValue), 1), (.ok (.line .empty), 0)] := by
  intro values text
  have hvalues : ∀ value ∈ values, value.OnOneLine := by
    intro value hmem
    simp only [values, List.mem_cons, List.not_mem_nil, or_false] at hmem
    rcases hmem with rfl | rfl | rfl | rfl
    · trivial
    · exact (by decide +kernel : ∀ b ∈ [32, 45, 52], b ≠ Ascii.newline)
    · exact fun b hb => absurd hb List.not_mem_nil
    · trivial
  have hsource : stream [.data (text.take 2), .interrupted, .data [], .data (text.drop 2)] =
      text.map .byte := by
    have hparts : text.take 2 ++ text.drop 2 = text := List.take_append_drop 2 text
    rw [stream_data, stream_interrupted, stream_data, stream_data, stream_nil, List.map_nil,
      List.nil_append, List.append_nil, ← List.map_append, hparts]
  refine ⟨hvalues, ?_⟩
  rw [(reads_printed hvalues hsource).1]
  decide +kernel

end Source

end ProgramSupport
