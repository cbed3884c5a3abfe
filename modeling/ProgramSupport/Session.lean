import ProgramSupport.ByteString
import ProgramSupport.IntArray
import ProgramSupport.Log.Filter
import ProgramSupport.Printing.Console
import ProgramSupport.Random.ChaCha
import ProgramSupport.Source

/-!
# Sessions

A session is what the library keeps for one process: the settings in effect, the random
numbers, the two standard streams, the notices on the error stream, and the strings and arrays
that the process holds.  This file provides

* `Environment` and `Input` — what the process was started with;
* `Notice` — a message on the error stream, and `Notice.text`;
* `Session` with its initial state, and `Action`, a step of a session that can break off;
* `Session.record` — writing an event to the log, if the settings in effect ask for it;
* `Session.current` — the settings in effect, loaded from the environment at the first need;
* `Session.install` — settings chosen by the host, which come into effect if none are;
* registers — the strings and arrays, where a freed register holds nothing.

Settings come into effect once and stay.  Events before that moment are not written.  Settings
of which the log filter cannot be cut into its parts do not come into effect: the attempt breaks
off, and can be made again.
-/

namespace ProgramSupport

/-! ### Surroundings -/

/-- The environment variables of a process. -/
abbrev Environment := List (String × ByteString)

/-- The text of a variable; one whose bytes are no text counts as absent. -/
def Environment.lookup (environment : Environment) (name : String) : Option String :=
  (List.lookup name environment).bind ByteString.text?

/-- Standard input. -/
inductive Input where
  | stream (source : Source)
  /-- Every attempt to read fails with this text. -/
  | unreadable (text : String)
deriving Repr, DecidableEq

/-- Read from standard input. -/
def Input.read {α : Type} (input : Input) (reader : Source → Reading α) : Reading α × Input :=
  match input with
  | .stream source =>
    let reading := reader source
    (reading, .stream reading.rest)
  | .unreadable text => (reader [.failure text], input)

/-- A message on the error stream. -/
inductive Notice where
  /-- The environment has this fault, so the default settings are in effect. -/
  | ignoredSettings (fault : SettingsFault)
  /-- The log filter has this fault, so nothing is logged. -/
  | invalidFilter (filter : String) (fault : FilterFault)
  | event (value : Event)
  /-- The process ends by this violation. -/
  | diagnostic (violation : Violation)
  /-- The process ends because an action broke off where nothing can be thrown. -/
  | aborted
deriving Repr, DecidableEq

/-- What a notice says. -/
def Notice.text : Notice → String
  | .ignoredSettings fault => "tern runtime: ignoring configuration: " ++ fault.message
  | .invalidFilter filter fault =>
    "tern runtime: invalid log filter `" ++ filter ++ "`: " ++ fault.message
  | .event e => e.line
  | .diagnostic violation => violation.diagnostic
  | .aborted => "thread caused non-unwinding panic. aborting."

/-- A reference to a string or an array; the null reference is none. -/
abbrev Register := Option Nat

/-! ### The state of a process -/

/-- What the library keeps for one process. -/
structure Session where
  environment : Environment
  input : Input
  /-- The stream of random words when no seed is given. -/
  entropy : WordStream
  console : Console := {}
  settings : Option Settings := none
  generator : Option WordStream := none
  notices : List Notice := []
  /-- The strings that were made, and nothing for those that were freed. -/
  strings : List (Option ByteString) := []
  /-- The arrays that were made, and nothing for those that were freed. -/
  arrays : List (Option IntArray) := []

/-- A step of a session.  Breaking off, it keeps what it has done to the session. -/
abbrev Action := ExceptT SplitCharacter (StateM Session)

namespace Session

/-! ### Notices and settings -/

/-- Write a notice. -/
def notify (notice : Notice) : StateM Session Unit :=
  modify fun s => { s with notices := s.notices ++ [notice] }

/-- The filter of the log: that of the settings in effect, if it is one. -/
def filter (s : Session) : LogFilter :=
  match s.settings.bind Settings.logFilter with
  | none => []
  | some text =>
    match LogFilter.ofText text with
    | .ok filter => filter
    | .error _ => []

/-- Write an event to the log, if the filter admits it. -/
def record (event : Event) : StateM Session Unit := do
  if (← get).filter.admits event then notify (.event event)

/-- Let settings come into effect.  A log filter that is none is reported, and one that cannot
be cut keeps the settings from coming into effect. -/
def adopt (settings : Settings) : Action Unit := do
  match settings.logFilter.map fun text => (text, LogFilter.ofText text) with
  | some (_, .error (.splitCharacter fault)) => throw fault
  | some (text, .error fault) =>
    modify fun s => { s with settings := some settings }
    notify (.invalidFilter text fault)
  | some (_, .ok _) | none => modify fun s => { s with settings := some settings }

/-- The settings that the environment gives; a fault in it is reported, and leaves the default. -/
def environmentSettings : StateM Session Settings := do
  match Settings.ofLookup (← get).environment.lookup with
  | .ok settings => return settings
  | .error fault =>
    notify (.ignoredSettings fault)
    return {}

/-- The settings in effect; those of the environment, from now on, if there were none. -/
def current : Action Settings := do
  match (← get).settings with
  | some settings => return settings
  | none =>
    let settings ← environmentSettings
    adopt settings
    return settings

/-- Let chosen settings come into effect, unless others are.  The answer tells which. -/
def install (settings : Settings) : Action Bool := do
  match (← get).settings with
  | some _ => return false
  | none =>
    adopt settings
    return true

/-! ### Registers -/

/-- The string of a register. -/
def string? (s : Session) (r : Register) : Option ByteString :=
  r.bind fun i => (s.strings[i]?).join

/-- The array of a register. -/
def array? (s : Session) (r : Register) : Option IntArray :=
  r.bind fun i => (s.arrays[i]?).join

/-- Put a string into a new register. -/
def addString (value : ByteString) : StateM Session Unit :=
  modify fun s => { s with strings := s.strings ++ [some value] }

/-- Put an array into a new register. -/
def addArray (value : IntArray) : StateM Session Unit :=
  modify fun s => { s with arrays := s.arrays ++ [some value] }

/-- Replace the array of a register.  A move of its storage is reported. -/
def storeArray (r : Register) (old new : IntArray) : StateM Session Unit := do
  match old.moveTo? new with
  | none => pure ()
  | some move => record (.reallocated move)
  match r with
  | none => pure ()
  | some i => modify fun s => { s with arrays := s.arrays.set i (some new) }

/-- Give a string back; its register holds nothing from now on. -/
def freeString (r : Register) : StateM Session Unit :=
  match r with
  | none => pure ()
  | some i => modify fun s => { s with strings := s.strings.set i none }

/-- Give an array back; its register holds nothing from now on. -/
def freeArray (r : Register) : StateM Session Unit :=
  match r with
  | none => pure ()
  | some i => modify fun s => { s with arrays := s.arrays.set i none }

end Session

end ProgramSupport
