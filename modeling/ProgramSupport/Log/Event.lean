import ProgramSupport.Buffer
import ProgramSupport.Settings
import ProgramSupport.Text.Quoted
import ProgramSupport.Violation

/-!
# Log events

The library reports what it does by events.  This file provides

* `Level` — the importance of an event, and its rank;
* `Event` — one constructor for each thing that is reported;
* `Event.level` and `Event.target` — how important it is, and which part of the library it comes
  from;
* `Event.message`, `Event.values` and `Event.text` — what it says, and the values that belong to
  it;
* `Event.names` — the names of all that it holds;
* `Event.line` — the line that the log gets.
-/

namespace ProgramSupport

/-- How important an event is. -/
inductive Level where
  | error
  | warn
  | info
  | debug
  | trace
deriving Repr, DecidableEq

namespace Level

/-- The number of a level; the more important, the lower. -/
def rank : Level → Nat
  | .error => 1
  | .warn => 2
  | .info => 3
  | .debug => 4
  | .trace => 5

def all : List Level := [.error, .warn, .info, .debug, .trace]

def name : Level → String
  | .error => "error"
  | .warn => "warn"
  | .info => "info"
  | .debug => "debug"
  | .trace => "trace"

end Level

/-- Something that the library reports. -/
inductive Event where
  /-- The library was initialized under these settings. -/
  | initialized (settings : Settings)
  /-- A buffer moved to fresh storage. -/
  | reallocated (move : Reallocation)
  /-- A line of this length was read. -/
  | lineRead (length : Nat)
  | intRead (value : Int64)
  /-- A violation was detected that nobody handles. -/
  | violated (violation : Violation)
deriving Repr, DecidableEq

/-- The name of a policy in the log. -/
def Policy.label : Policy → String
  | .exit => "Exit"
  | .panic => "Panic"

/-- An optional value in the log. -/
def optionLabel : Option String → String
  | none => "None"
  | some text => "Some(" ++ text ++ ")"

/-- The settings in the log. -/
def Settings.label (s : Settings) : String :=
  "RuntimeConfig \x7b on_violation: " ++ s.policy.label ++
    ", seed: " ++ optionLabel (s.seed.map fun seed => toString seed.toNat) ++
    ", log_filter: " ++ optionLabel (s.logFilter.map quoted) ++ " \x7d"

namespace Event

def level : Event → Level
  | .initialized _ | .reallocated _ => .debug
  | .lineRead _ | .intRead _ => .trace
  | .violated _ => .error

/-- The part of the library that an event comes from. -/
def target : Event → String
  | .initialized _ => "tern_runtime"
  | .reallocated _ => "tern_runtime::buffer"
  | .lineRead _ | .intRead _ => "tern_runtime::io"
  | .violated _ => "tern_runtime::fail_fast"

/-- What an event says. -/
def message : Event → String
  | .initialized _ => "tern runtime initialized"
  | .reallocated _ => "reallocating buffer"
  | .lineRead _ => "read line"
  | .intRead _ => "read int"
  | .violated _ => "runtime contract violation"

/-- The values that belong to an event, each with its name. -/
def values : Event → List (String × String)
  | .initialized settings => [("config", settings.label)]
  | .reallocated move =>
    [("from", toString move.oldCapacity), ("to", toString move.newCapacity),
      ("len", toString move.kept)]
  | .lineRead length => [("len", toString length)]
  | .intRead value => [("value", toString value.toInt)]
  | .violated violation => [("error", violation.message)]

/-- The names of the message and of the values. -/
def names (e : Event) : List String := "message" :: e.values.map Prod.fst

/-- The message and the values behind it. -/
def text (e : Event) : String :=
  e.values.foldl (fun text (name, value) => text ++ " " ++ name ++ "=" ++ value) e.message

/-- The line that the log gets. -/
def line (e : Event) : String :=
  e.level.name.map Char.toUpper ++ " " ++ e.target ++ ": " ++ e.text

end Event

example : (Event.reallocated ⟨2, 4, 1⟩).line =
    "DEBUG tern_runtime::buffer: reallocating buffer from=2 to=4 len=1" := by decide +kernel

end ProgramSupport
