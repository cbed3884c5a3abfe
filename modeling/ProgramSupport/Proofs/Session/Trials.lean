import ProgramSupport.Proofs.Session.Frames
import ProgramSupport.Proofs.Session.Holdings

/-!
# Operations as functions of what they work on

An operation that can fail is a function of the values, streams and random numbers that it works
on.  The session has more: settings and a log.  This file provides

* `Effects` — the strings, arrays, input, random numbers and output of a session;
* `Operation.tried?` — the result of an operation and its effects, by the functions on integer
  arrays, strings, writers, sources and streams of words alone;
* `Action.Does` — an action has a result and effects, with one lemma for each part of operations;
* `Operation.attempt_does` — doing an operation in a session has this result and these effects.

The operations with a trial are those of which a caller can ask for the violation.  Null
arguments have none, because a caller cannot ask for it with them, and neither have random
numbers for which the settings cannot come into effect.
-/

namespace ProgramSupport

open ProgramSupport.Action Session

/-- What operations change in a session. -/
structure Effects where
  strings : List (Option ByteString)
  arrays : List (Option IntArray)
  input : Input
  generator : Option WordStream
  console : Console

/-- The result of an operation, and its effects. -/
abbrev Trial := Except Violation Answer × Effects

/-- The trial with the answer and the effects of a value, or with a violation, which leaves these
effects. -/
def Effects.conclude {α : Type} (effects : Effects) (result : Except Violation α)
    (answer : α → Answer × Effects) : Trial :=
  match result with
  | .ok value => ((.ok (answer value).1), (answer value).2)
  | .error violation => (.error violation, effects)

namespace Session

def effects (s : Session) : Effects :=
  { strings := s.strings
    arrays := s.arrays
    input := s.input
    generator := s.generator
    console := s.console }

/-- The trial of printing a value. -/
def printed (s : Session) (value : Printable) (newline : Bool) : Trial :=
  let after := Writer.print s.console value newline
  let effects := { s.effects with console := after.2 }
  effects.conclude after.1 fun _ => (.unit, effects)

theorem loaded_effects (s : Session) : s.loaded.effects = s.effects := by
  simp only [effects, loaded_strings, loaded_arrays, loaded_input, loaded_generator,
    loaded_console]

/-- The random words of a session, unless the settings break off that they need. -/
def words? (s : Session) : Option WordStream :=
  match s.generator, s.breaks? with
  | some words, _ => some words
  | none, none => some s.freshWords
  | none, some _ => none

theorem words?_of_generator {s : Session} {words : WordStream} (h : s.generator = some words) :
    s.words? = some words := by
  rw [words?, h]

theorem words?_congr {s t : Session} (hgenerator : t.generator = s.generator)
    (hbreaks : t.breaks? = s.breaks?) (hfresh : t.freshWords = s.freshWords) :
    t.words? = s.words? := by
  rw [words?, words?, hgenerator, hbreaks, hfresh]

end Session

/-- The trial of an operation in a session.  A value that it makes goes into a new register, and
a new state of an array into that of the old one. -/
def Operation.tried? (s : Session) : Operation → Option Trial
  | .charAt r index => (s.string? r).map fun value =>
    s.effects.conclude (value.charAt index) fun char => (.int char.toNat, s.effects)
  | .substring r start stop => (s.string? r).map fun value =>
    s.effects.conclude (value.substring start stop) fun part =>
      (.string part, { s.effects with strings := s.strings ++ [some part] })
  | .arrayNew size => some <|
    s.effects.conclude (IntArray.new size) fun value =>
      (.array value, { s.effects with arrays := s.arrays ++ [some value] })
  | .arrayGet r index => (s.array? r).map fun value =>
    s.effects.conclude (value.get index) fun element => (.int element.toInt, s.effects)
  | .arraySet r index element => (s.array? r).map fun value =>
    s.effects.conclude (value.set index element) fun new =>
      (.array new, { s.effects with arrays := replaced s.arrays r (some new) })
  | .arrayResize r size => (s.array? r).map fun value =>
    s.effects.conclude (value.resize size) fun new =>
      (.array new, { s.effects with arrays := replaced s.arrays r (some new) })
  | .print value newline => some (s.printed value newline)
  | .printString r newline => (s.string? r).map fun value => s.printed (.string value) newline
  | .printArray r newline => (s.array? r).map fun value => s.printed (.array value) newline
  | .readLine =>
    let after := s.input.read Source.readLine
    let effects := { s.effects with input := after.2 }
    some <| effects.conclude after.1.result fun line =>
      (.string line, { effects with strings := s.strings ++ [some line] })
  | .readInt =>
    let after := s.input.read Source.readInt
    let effects := { s.effects with input := after.2 }
    some <| effects.conclude after.1.result fun value => (.int value.toInt, effects)
  | .random start stop => s.words?.map fun words =>
    let after := words.drawIn start stop
    let effects := { s.effects with generator := some after.2 }
    effects.conclude after.1 fun value => (.int value.toInt, effects)
  | _ => none

theorem Operation.tried?_arrayNew (s : Session) (size : Int64) :
    (Operation.arrayNew size).tried? s = some
      (s.effects.conclude (IntArray.new size) fun value =>
        (.array value, { s.effects with arrays := s.arrays ++ [some value] })) := rfl

theorem Operation.tried?_random (s : Session) (start stop : Int64) :
    (Operation.random start stop).tried? s = s.words?.map fun words =>
      let after := words.drawIn start stop
      let effects := { s.effects with generator := some after.2 }
      effects.conclude after.1 fun value => (.int value.toInt, effects) := rfl

/-! ### Parts of operations -/

namespace Action

variable {α : Type} {s t : Session}

/-- The action has the result and the effects of a trial. -/
def Does (x : Action (Except Violation Answer)) (s : Session) (trial : Trial) : Prop :=
  ∃ t, x.on s = (.ok trial.1, t) ∧ t.effects = trial.2

theorem Does.whenOk (result : Except Violation α) {next : α → Action (Except Violation Answer)}
    {effects : Effects} {answer : α → Answer × Effects} (hs : s.effects = effects)
    (hnext : ∀ value, Does (next value) s (.ok (answer value).1, (answer value).2)) :
    Does (whenOk result next) s (effects.conclude result answer) := by
  cases result with
  | ok value => exact hnext value
  | error violation => exact ⟨s, rfl, hs⟩

theorem Does.answer (s : Session) (answer : Answer) :
    Does (pure (.ok answer)) s (.ok answer, s.effects) := ⟨s, rfl, rfl⟩

theorem Does.withString {r : Register} {value : ByteString} {trial : Trial} {op : String}
    {next : ByteString → Action (Except Violation Answer)} (h : s.string? r = some value)
    (hnext : Does (next value) s trial) : Does (withString op r next) s trial := by
  rw [Does, Session.withString, on_get_bind, h]
  exact hnext

theorem Does.withArray {r : Register} {value : IntArray} {trial : Trial} {op : String}
    {next : IntArray → Action (Except Violation Answer)} (h : s.array? r = some value)
    (hnext : Does (next value) s trial) : Does (withArray op r next) s trial := by
  rw [Does, Session.withArray, on_get_bind, h]
  exact hnext

theorem answerString_does (s : Session) (value : ByteString) :
    Does (answerString value) s
      (.ok (.string value), { s.effects with strings := s.strings ++ [some value] }) :=
  ⟨{ s with strings := s.strings ++ [some value] }, rfl, rfl⟩

theorem answerArray_does (s : Session) (r : Register) (old new : IntArray) :
    Does (answerArray r old new) s
      (.ok (.array new), { s.effects with arrays := replaced s.arrays r (some new) }) := by
  refine ⟨((storeArray r old new).run s).2, rfl, ?_⟩
  rw [storeArray_run]
  rfl

theorem print_does (s : Session) (value : Printable) (newline : Bool) :
    Does (Session.print value newline) s (s.printed value newline) := by
  unfold Does Session.print printed
  rw [on_get_bind]
  exact Does.whenOk _ rfl fun _ => .answer _ _

/-- Reporting moves leaves nothing but notices. -/
theorem recordMoves_on (moves : List Reallocation) (s : Session) :
    ∃ notices, (moves.forM fun move =>
      (liftM (record (.reallocated move)) : Action Unit)).on s = (.ok (), { s with notices }) := by
  induction moves generalizing s with
  | nil => exact ⟨s.notices, rfl⟩
  | cons move moves ih =>
    obtain ⟨notices, hmoves⟩ :=
      ih { s with notices := s.notices ++ s.recorded (.reallocated move) }
    refine ⟨notices, ?_⟩
    show (liftM (record (.reallocated move)) >>= _ : Action Unit).on s = _
    rw [on_liftM_bind, record_run]
    exact hmoves

/-- Going on with what a reader gives, in a session with more notices. -/
theorem Does.read {reader : Source → Reading α} {trial : Trial}
    {next : Except Violation α → Action (Except Violation Answer)}
    (hnext : ∀ notices, Does (next (s.input.read reader).1.result)
      { s with input := (s.input.read reader).2, notices } trial) :
    Does (Session.read reader >>= next) s trial := by
  obtain ⟨notices, hmoves⟩ := recordMoves_on (s.input.read reader).1.moves
    { s with input := (s.input.read reader).2 }
  have hread : (Session.read reader).on s = (.ok (s.input.read reader).1.result,
      { s with input := (s.input.read reader).2, notices }) := by
    unfold Session.read
    rw [on_get_bind]
    exact on_bind_ok hmoves _
  rw [Does, on_bind_ok hread]
  exact hnext notices

/-- What is recorded before an action is no effect. -/
theorem Does.recorded {x : Action (Except Violation Answer)} {event : Event} {trial : Trial}
    (h : Does x { s with notices := s.notices ++ s.recorded event } trial) :
    Does (liftM (record event) >>= fun _ => x) s trial := by
  unfold Does
  rw [on_liftM_bind, record_run]
  exact h

/-- Where there are random words, they are taken; for new ones settings come into effect. -/
theorem randomWords_of_some {words : WordStream} (h : s.words? = some words) :
    ∃ t, randomWords.on s = (.ok words, t) ∧
      (t = s ∧ s.generator = some words ∨
        t = s.loaded ∧ s.generator = none ∧ s.breaks? = none) := by
  rw [randomWords_on]
  unfold words? at h
  cases hgenerator : s.generator with
  | some inUse =>
    rw [hgenerator] at h
    cases h
    exact ⟨s, rfl, .inl ⟨rfl, rfl⟩⟩
  | none =>
    rw [hgenerator] at h
    cases hbreaks : s.breaks? with
    | some fault =>
      rw [hbreaks] at h
      cases h
    | none =>
      rw [hbreaks] at h
      cases h
      exact ⟨s.loaded, rfl, .inr ⟨rfl, rfl, rfl⟩⟩

/-- Where there are none, the settings break off. -/
theorem randomWords_of_none (h : s.words? = none) :
    s.generator = none ∧
      ∃ fault, s.breaks? = some fault ∧ randomWords.on s = (.error fault, s) := by
  rw [randomWords_on]
  unfold words? at h
  cases hgenerator : s.generator with
  | some inUse =>
    rw [hgenerator] at h
    cases h
  | none =>
    rw [hgenerator] at h
    cases hbreaks : s.breaks? with
    | some fault => exact ⟨rfl, fault, rfl, rfl⟩
    | none =>
      rw [hbreaks] at h
      cases h

end Action

/-! ### Operations -/

/-- An operation with a trial does what the trial says. -/
theorem Operation.attempt_does {op : Operation} {s : Session} {trial : Trial}
    (h : op.tried? s = some trial) : Does op.attempt s trial := by
  cases op with
  | charAt r index =>
    obtain ⟨value, hr, rfl⟩ := Option.map_eq_some_iff.1 h
    exact .withString hr (.whenOk _ rfl fun char => .answer s _)
  | substring r start stop =>
    obtain ⟨value, hr, rfl⟩ := Option.map_eq_some_iff.1 h
    exact .withString hr (.whenOk _ rfl fun part => answerString_does s part)
  | arrayNew size =>
    cases h
    exact .whenOk _ rfl fun value => ⟨{ s with arrays := s.arrays ++ [some value] }, rfl, rfl⟩
  | arrayGet r index =>
    obtain ⟨value, hr, rfl⟩ := Option.map_eq_some_iff.1 h
    exact .withArray hr (.whenOk _ rfl fun element => .answer s _)
  | arraySet r index element =>
    obtain ⟨value, hr, rfl⟩ := Option.map_eq_some_iff.1 h
    exact .withArray hr (.whenOk _ rfl fun new => answerArray_does s r value new)
  | arrayResize r size =>
    obtain ⟨value, hr, rfl⟩ := Option.map_eq_some_iff.1 h
    exact .withArray hr (.whenOk _ rfl fun new => answerArray_does s r value new)
  | print value newline =>
    cases h
    exact print_does s value newline
  | printString r newline =>
    obtain ⟨value, hr, rfl⟩ := Option.map_eq_some_iff.1 h
    exact .withString hr (print_does s (.string value) newline)
  | printArray r newline =>
    obtain ⟨value, hr, rfl⟩ := Option.map_eq_some_iff.1 h
    exact .withArray hr (print_does s (.array value) newline)
  | readLine =>
    cases h
    exact .read fun notices => .whenOk _ rfl fun line => .recorded (answerString_does _ line)
  | readInt =>
    cases h
    exact .read fun notices => .whenOk _ rfl fun value => .recorded (.answer _ _)
  | random start stop =>
    obtain ⟨words, hwords, rfl⟩ := Option.map_eq_some_iff.1 h
    obtain ⟨t, hon, hcourse⟩ := randomWords_of_some hwords
    have ht : t.effects = s.effects := by
      rcases hcourse with ⟨rfl, -⟩ | ⟨rfl, -⟩
      · rfl
      · exact loaded_effects s
    have hafter : { t with generator := some (words.drawIn start stop).2 }.effects =
        { s.effects with generator := some (words.drawIn start stop).2 } := by
      rw [← ht]
      rfl
    rw [Does, attempt, on_bind_ok hon]
    exact Does.whenOk _ hafter fun value =>
      ⟨{ t with generator := some (words.drawIn start stop).2 }, rfl, hafter⟩
  | _ => cases h

end ProgramSupport
