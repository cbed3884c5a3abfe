import ProgramSupport.Random.Range
import ProgramSupport.Session
import ProgramSupport.Source.Integer
import ProgramSupport.Source.Line

/-!
# Operations on a session

An operation works on the registers, streams and random numbers of a session, and has an answer
or finds a violation.  What becomes of a violation is not its concern.  This file provides

* `Operation` — one constructor for each of them;
* `Answer` — the kinds of answers;
* `Operation.attempt` — doing it.

A null argument is found before any other fault.  An operation that finds a violation leaves
the registers and the random numbers as they were; a read or a print that fails has consumed or
written what came before the failure.  Operations that need the settings break off if these
cannot come into effect.
-/

namespace ProgramSupport

/-- What a process can ask of the library. -/
inductive Operation where
  /-- Let the settings come into effect and report them. -/
  | init
  /-- A string from the first `length` of the bytes, or of none for a null reference. -/
  | stringNew (bytes : Option (List UInt8)) (length : Int64)
  | stringFree (s : Register)
  | stringSize (s : Register)
  | charAt (s : Register) (index : Int64)
  | reverse (s : Register)
  | concat (s t : Register)
  | substring (s : Register) (start stop : Int64)
  | arrayNew (size : Int64)
  | arrayFree (a : Register)
  | arraySize (a : Register)
  | arrayCapacity (a : Register)
  | arrayGet (a : Register) (index : Int64)
  | arraySet (a : Register) (index value : Int64)
  | arrayResize (a : Register) (size : Int64)
  | arrayAppend (a : Register) (value : Int64)
  | arrayAppendAll (a b : Register)
  | arrayClear (a : Register)
  | print (value : Printable) (newline : Bool)
  | printString (s : Register) (newline : Bool)
  | printArray (a : Register) (newline : Bool)
  | readLine
  | readInt
  | random (start stop : Int64)
  | seed (value : UInt64)
deriving Repr, DecidableEq

/-- What an operation answers. -/
inductive Answer where
  | unit
  | flag (value : Bool)
  | int (value : Int)
  | string (value : ByteString)
  | array (value : IntArray)
  | settings (value : Settings)
  | environment (value : Except SettingsFault Settings)
deriving Repr, DecidableEq

namespace Session

/-! ### Parts of operations -/

/-- Go on with a result, unless it is a violation. -/
def whenOk {α : Type} (result : Except Violation α)
    (next : α → Action (Except Violation Answer)) :
    Action (Except Violation Answer) :=
  match result with
  | .ok value => next value
  | .error violation => return .error violation

/-- Go on with the string of a register, which must not be null. -/
def withString (op : String) (r : Register)
    (next : ByteString → Action (Except Violation Answer)) :
    Action (Except Violation Answer) := do
  match (← get).string? r with
  | some value => next value
  | none => return .error (.nullValue op)

/-- Go on with the array of a register, which must not be null. -/
def withArray (op : String) (r : Register)
    (next : IntArray → Action (Except Violation Answer)) :
    Action (Except Violation Answer) := do
  match (← get).array? r with
  | some value => next value
  | none => return .error (.nullValue op)

/-- Answer with a string in a new register. -/
def answerString (value : ByteString) : Action (Except Violation Answer) := do
  addString value
  return .ok (.string value)

/-- Answer with the new state of an array, which goes into its register. -/
def answerArray (r : Register) (old new : IntArray) :
    Action (Except Violation Answer) := do
  storeArray r old new
  return .ok (.array new)

/-- Print a value to standard output. -/
def print (value : Printable) (newline : Bool) :
    Action (Except Violation Answer) := do
  let (result, console) := Writer.print (← get).console value newline
  modify fun s => { s with console }
  whenOk result fun _ => return .ok .unit

/-- Read from standard input, and report the moves of storage on the way. -/
def read {α : Type} (reader : Source → Reading α) : Action (Except Violation α) := do
  let (reading, input) := (← get).input.read reader
  modify fun s => { s with input }
  reading.moves.forM fun move => record (.reallocated move)
  return reading.result

/-- The stream of random words: the one in use, or a new one from the seed in the settings. -/
def randomWords : Action WordStream := do
  match (← get).generator with
  | some words => return words
  | none =>
    match (← current).seed with
    | some seed => return .ofSeed seed
    | none => return (← get).entropy

end Session

open Session

/-! ### Operations -/

/-- Do an operation. -/
def Operation.attempt : Operation → Action (Except Violation Answer)
  | .init => do
    let settings ← current
    record (.initialized settings)
    return .ok .unit
  | .stringNew bytes length =>
    whenOk (checkSize "String::new" length) fun length =>
      match bytes with
      | some bytes => answerString ⟨bytes.take length⟩
      | none =>
        if length = 0 then answerString .empty
        else return .error (.nullValue "String::new")
  | .stringFree s => do
    freeString s
    return .ok .unit
  | .stringSize s => withString "String::size" s fun value => return .ok (.int value.size)
  | .charAt s index => withString "String::char_at" s fun value =>
    whenOk (value.charAt index) fun char => return .ok (.int char.toNat)
  | .reverse s => withString "String::reverse" s fun value => answerString value.reverse
  | .concat s t => withString "String::concat" s fun value =>
    withString "String::concat" t fun other => answerString (value.concat other)
  | .substring s start stop => withString "String::substring" s fun value =>
    whenOk (value.substring start stop) answerString
  | .arrayNew size => whenOk (IntArray.new size) fun value => do
    addArray value
    return .ok (.array value)
  | .arrayFree a => do
    freeArray a
    return .ok .unit
  | .arraySize a => withArray "IntArray::size" a fun value => return .ok (.int value.size)
  | .arrayCapacity a => withArray "IntArray::capacity" a fun value =>
    return .ok (.int value.capacity)
  | .arrayGet a index => withArray "IntArray::get" a fun value =>
    whenOk (value.get index) fun element => return .ok (.int element.toInt)
  | .arraySet a index element => withArray "IntArray::set" a fun value =>
    whenOk (value.set index element) (answerArray a value)
  | .arrayResize a size => withArray "IntArray::resize" a fun value =>
    whenOk (value.resize size) (answerArray a value)
  | .arrayAppend a element => withArray "IntArray::append" a fun value =>
    answerArray a value (value.append element)
  | .arrayAppendAll a b => withArray "IntArray::append_all" b fun other =>
    withArray "IntArray::append_all" a fun value => answerArray a value (value.appendAll other)
  | .arrayClear a => withArray "IntArray::clear" a fun value => answerArray a value value.clear
  | .print value newline => Session.print value newline
  | .printString s newline => withString "print" s fun value =>
    Session.print (.string value) newline
  | .printArray a newline => withArray "print" a fun value =>
    Session.print (.array value) newline
  | .readLine => do
    whenOk (← read Source.readLine) fun line => do
      record (.lineRead line.size)
      answerString line
  | .readInt => do
    whenOk (← read Source.readInt) fun value => do
      record (.intRead value)
      return .ok (.int value.toInt)
  | .random start stop => do
    let words ← randomWords
    let (result, words) := words.drawIn start stop
    modify fun s => { s with generator := some words }
    whenOk result fun value => return .ok (.int value.toInt)
  | .seed value => do
    modify fun s => { s with generator := some (.ofSeed value) }
    return .ok .unit

end ProgramSupport
