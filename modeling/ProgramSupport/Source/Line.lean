import ProgramSupport.ByteString
import ProgramSupport.Source
import ProgramSupport.Text.Ascii

/-!
# Reading a line

A line is collected in a byte buffer, segment by segment, up to a newline, which is consumed
and left out, or up to the end of the input.  `Source.readLine` reads one line; a failure that
comes first ends the read after the bytes before it.
-/

namespace ProgramSupport.Source

/-- The capacity with which the buffer of a line starts. -/
def lineCapacity : Nat := 256

/-- Go on reading a line of which the buffer holds the beginning. -/
def readLineInto (line : Buffer UInt8) : Source → Reading ByteString
  | [] => { result := .ok ⟨line.toList⟩, rest := [] }
  | .interrupted :: rest => readLineInto line rest
  | .failure text :: rest => { result := .error (.io "readLine" text), rest }
  | .data bytes :: rest =>
    let taken := bytes.takeWhile (· ≠ Ascii.newline)
    let move := line.extendMove? taken.length
    let line := line.extend taken
    match bytes.drop taken.length with
    | [] =>
      let reading := readLineInto line rest
      { reading with moves := move.toList ++ reading.moves }
    | _ :: behind =>
      { result := .ok ⟨line.toList⟩, rest := .data behind :: rest, moves := move.toList }

/-- Read the bytes before the next newline, or before the end of the input. -/
def readLine (source : Source) : Reading ByteString :=
  readLineInto (.withCapacity lineCapacity) source

example : (readLine [.data [97], .interrupted, .data [98, 10, 99]]).rest = [.data [99]] := by
  decide +kernel

end ProgramSupport.Source
