import ProgramSupport.Session.Call

/-!
# Runs of a process

A process makes calls one after another until the list ends or a call ends it.  This file
provides

* `Ending` — how a process ends, and its exit status;
* `Session.run` — the outcomes of a list of calls, up to the one that ends the process;
* `Report` — what a process leaves behind: its exit status, its output, the notices on the
  error stream, and the outcomes of the calls that returned or threw;
* `Session.report` — the report of a list of calls.  Output that is pending at the end is
  delivered, except when the process is aborted.
-/

namespace ProgramSupport

/-- How a process ends. -/
inductive Ending where
  /-- It returns from its last call. -/
  | returned
  /-- A violation ends it. -/
  | exited
  /-- It is aborted. -/
  | aborted
deriving Repr, DecidableEq

namespace Ending

/-- The exit status of a process; one that is aborted has none. -/
def status? : Ending → Option Nat
  | .returned => some 0
  | .exited => some 1
  | .aborted => none

end Ending

/-- How an outcome ends the process, if it does. -/
def Outcome.ending? : Outcome → Option Ending
  | .exited _ => some .exited
  | .aborted => some .aborted
  | .answered _ | .refused _ | .panicked _ | .brokenOff _ => none

namespace Session

/-- Make calls one after another.  The last outcome is the one that ends the process, if any
does. -/
def run : List Call → StateM Session (List Outcome)
  | [] => return []
  | call :: calls => do
    let outcome ← call.perform
    match outcome.ending? with
    | some _ => return [outcome]
    | none => return outcome :: (← run calls)

/-- The bytes that have left a process by its end.  An abort leaves pending output behind. -/
def output (s : Session) : Ending → List UInt8
  | .returned | .exited => s.console.flush.writer.delivered
  | .aborted => s.console.delivered

end Session

/-- What a process leaves behind. -/
structure Report where
  status : Option Nat
  output : List UInt8
  notices : List Notice
  steps : List Outcome
deriving Repr, DecidableEq

namespace Report

/-- A line without the carriage return that can stand before its newline. -/
def withoutReturn (line : List Char) : List Char :=
  if line.getLast? = some '\r' then line.dropLast else line

/-- The lines on the error stream.  A newline follows each notice, and notices can hold more. -/
def lines (r : Report) : List String :=
  r.notices.flatMap fun notice =>
    (partsBetween '\n' notice.text.toList).map fun line => String.ofList (withoutReturn line)

end Report

/-- The report of a process that makes the calls. -/
def Session.report (calls : List Call) (s : Session) : Report :=
  let (outcomes, s) := (Session.run calls).run s
  let ending := (outcomes.findSome? Outcome.ending?).getD .returned
  { status := ending.status?
    output := s.output ending
    notices := s.notices
    steps := outcomes.filter (·.ending?.isNone) }

/-- A process that prints a number and then asks an empty array for an element. -/
example : (Session.report
      [.operation .entry (.print (.int 42) false), .operation .entry (.arrayNew 0),
        .operation .entry (.arrayGet (some 0) 0), .operation .entry .readLine]
      { environment := [], input := .stream [], entropy := .cyclic #[] }).lines =
    ["tern runtime error: IntArray::get: index 0 out of bounds for size 0"] := by
  decide +kernel

end ProgramSupport
