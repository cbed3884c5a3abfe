import ProgramSupport.Proofs.Session.Forms
import ProgramSupport.Proofs.Session.Settlement
import ProgramSupport.Proofs.Session.Steps

/-!
# Random numbers of a call

A call gives a seed, draws a number, takes words into use without drawing one, or leaves the words
in use as they are.  This file provides

* `Drawing` — a seed that was given or a number that was drawn, and `Step.drawing?` — the one of a
  step;
* `Drawing.lastSeed?`, `Drawing.drawnSince` and `Drawing.valueAt` — the seed that is in use behind
  some drawings, how many numbers it has given, and the next one;
* `Call.operation_generator` and `Call.generator_of_draws` — neither what becomes of a violation
  nor any other operation changes the words in use;
* `Call.random_drew` and `Call.random_breaksOff` — what asking for a number does with words that
  can be taken, and without;
* `Call.Draws` — the ways in which a call can deal with the random numbers, and `Call.draws`.

A number takes the next two words.  A range without numbers takes none, but takes the words into
use, for which settings have to come into effect the first time.
-/

namespace ProgramSupport

open ProgramSupport.Action Session

/-- What a call contributes to the random numbers of a run. -/
inductive Drawing where
  | seeded (seed : UInt64)
  | drew (start stop : Int64) (value : Int)
deriving Repr, DecidableEq

namespace Drawing

def seed? : Drawing → Option UInt64
  | .seeded seed => some seed
  | .drew _ _ _ => none

/-- The last seed of some drawings, or the configured one if they give none. -/
def lastSeed? (configured : Option UInt64) (drawings : List Drawing) : Option UInt64 :=
  (drawings.filterMap seed?).getLast?.or configured

/-- The number of drawings behind the last seed. -/
def drawnSince (drawings : List Drawing) : Nat :=
  (drawings.reverse.takeWhile fun drawing => drawing.seed?.isNone).length

/-- The number that a seed gives from a range when `drawn` numbers have been drawn before. -/
def valueAt (seed : UInt64) (drawn : Nat) (start stop : Int64) : Int :=
  let word := (WordStream.ofSeed seed).word
  (placeInRange start stop (joinWords (word (2 * drawn)) (word (2 * drawn + 1)))).toInt

variable (configured : Option UInt64) (drawings : List Drawing)

@[simp] theorem lastSeed?_nil : lastSeed? configured [] = configured := rfl

@[simp] theorem lastSeed?_seeded (seed : UInt64) :
    lastSeed? configured (drawings ++ [.seeded seed]) = some seed := by
  simp [lastSeed?, seed?]

@[simp] theorem lastSeed?_drew (start stop : Int64) (value : Int) :
    lastSeed? configured (drawings ++ [.drew start stop value]) =
      lastSeed? configured drawings := by
  simp [lastSeed?, seed?]

@[simp] theorem drawnSince_nil : drawnSince [] = 0 := rfl

@[simp] theorem drawnSince_seeded (seed : UInt64) :
    drawnSince (drawings ++ [.seeded seed]) = 0 := by
  simp [drawnSince, seed?]

@[simp] theorem drawnSince_drew (start stop : Int64) (value : Int) :
    drawnSince (drawings ++ [.drew start stop value]) = drawnSince drawings + 1 := by
  simp [drawnSince, seed?]

/-- Behind a seed it does not matter which one is configured. -/
theorem lastSeed?_of_isSome {drawings : List Drawing}
    (h : (lastSeed? none drawings).isSome = true) (configured : Option UInt64) :
    lastSeed? configured drawings = lastSeed? none drawings := by
  unfold lastSeed? at h ⊢
  cases hlast : (drawings.filterMap seed?).getLast? with
  | none =>
    rw [hlast] at h
    cases h
  | some seed => rfl

end Drawing

/-- What a step contributes to the random numbers: a seed, or a number if one was drawn. -/
def Step.drawing? (step : Step) : Option Drawing :=
  match step.call, step.outcome with
  | .operation _ (.seed seed), .answered _ => some (.seeded seed)
  | .operation _ (.random start stop), .answered (.int value) => some (.drew start stop value)
  | _, _ => none

/-- What is asked for and not answered is no random number. -/
theorem Step.drawing?_of_not_answered {form : Form} {start stop : Int64} {s : Session}
    (h : ∀ answer, (Call.operation form (.random start stop)).outcome s ≠ .answered answer) :
    Step.drawing? ⟨.operation form (.random start stop), s⟩ = none := by
  simp only [drawing?, Step.outcome]
  cases houtcome : (Call.operation form (.random start stop)).outcome s with
  | answered answer => exact absurd houtcome (h answer)
  | _ => rfl

/-! ### What a call does to the random numbers -/

namespace Session

theorem escalateUnder_generator (policy : Policy) (violation : Violation) (s : Session) :
    ((escalateUnder policy violation).on s).2.generator = s.generator := by
  rw [escalateUnder_on]
  cases s.breaks? with
  | some fault => rfl
  | none =>
    have hloaded := loaded_generator s
    cases policy <;> exact hloaded

theorem escalate_generator (violation : Violation) (s : Session) :
    ((escalate violation).on s).2.generator = s.generator := by
  rw [escalate_on, escalateUnder_generator]

end Session

theorem Form.deliver_generator (form : Form) (result : Except Violation Answer) (s : Session) :
    ((form.deliver result).on s).2.generator = s.generator := by
  cases result with
  | ok answer => rfl
  | error violation =>
    cases form with
    | returning => rfl
    | failFast => exact escalate_generator violation s
    | entry => exact escalateUnder_generator .exit violation s

namespace Call

variable {s : Session}

theorem next_generator (call : Call) (s : Session) :
    (call.next s).generator = (call.attempt.on s).2.generator := by
  rw [next, perform_run]
  cases call.attempt.on s with
  | mk result t =>
    cases result with
    | ok outcome => rfl
    | error fault => cases call.isEntry <;> rfl

/-- What becomes of a violation does not change the random numbers. -/
theorem operation_generator (form : Form) (op : Operation) (s : Session) :
    ((operation form op).next s).generator = (op.attempt.on s).2.generator := by
  rw [next_generator, attempt, on_bind]
  cases op.attempt.on s with
  | mk result t =>
    cases result with
    | error fault => rfl
    | ok result => exact form.deliver_generator result t

/-- Only seeds and random numbers change the random numbers. -/
theorem generator_of_draws {op : Operation} (h : op.draws = false) (s : Session) :
    (op.attempt.on s).2.generator = s.generator := by
  have hframe : StillFrame (fun s t => t.generator = s.generator) fun _ _ => True :=
    { refl := fun _ => rfl
      trans := fun h h' => h'.trans h
      faults := fun _ _ => trivial
      recorded := fun _ _ => rfl
      strings := fun _ _ => rfl
      arrays := fun _ _ => rfl
      input := fun _ _ => rfl }
  have hloadable : Loadable (fun s t => t.generator = s.generator) fun _ _ => True :=
    { loaded := fun s _ => loaded_generator s
      breaks := fun _ => trivial }
  refine (op.attempt_along hframe (fun _ => hloadable) ?_ fun _ _ _ => rfl) s |>.1
  intro hdraws
  rw [h] at hdraws
  cases hdraws

theorem install_generator (settings : Settings) (s : Session) :
    ((install settings).next s).generator = s.generator := by
  rw [next, install_performed]
  cases s.settings with
  | some inEffect => rfl
  | none => cases settings.splitFault? <;> rfl

/-- The ways in which a call can deal with the random numbers. -/
inductive Draws (call : Call) (s : Session) : Prop where
  /-- It leaves the words in use as they are. -/
  | idle (hdrawing : Step.drawing? ⟨call, s⟩ = none)
      (hgenerator : (call.next s).generator = s.generator) : Draws call s
  /-- It gives a seed. -/
  | seeded (seed : UInt64) (hdrawing : Step.drawing? ⟨call, s⟩ = some (.seeded seed))
      (hgenerator : (call.next s).generator = some (.ofSeed seed)) : Draws call s
  /-- It takes words into use, and draws nothing from an empty range. -/
  | refused (words : WordStream) (hwords : s.words? = some words)
      (hsettings : s.generator = none → (call.next s).settings = some s.settingsInForce)
      (hdrawing : Step.drawing? ⟨call, s⟩ = none)
      (hgenerator : (call.next s).generator = some words) : Draws call s
  /-- It draws a number from the next two words. -/
  | drew (words : WordStream) (hwords : s.words? = some words)
      (hsettings : s.generator = none → (call.next s).settings = some s.settingsInForce)
      (start stop : Int64) (hrange : start < stop)
      (hdrawing : Step.drawing? ⟨call, s⟩ = some (.drew start stop
        (placeInRange start stop (joinWords (words.word words.position)
          (words.word (words.position + 1)))).toInt))
      (hgenerator : (call.next s).generator = some { words with position := words.position + 2 }) :
      Draws call s

/-- A violation is no answer. -/
theorem not_answered {form : Form} {op : Operation} {violation : Violation} {t : Session}
    (h : op.attempt.on s = (.ok (.error violation), t)) (answer : Answer) :
    (operation form op).outcome s ≠ .answered answer := by
  intro houtcome
  rw [outcome, perform_run, operation_attempt h, Form.deliver_error_on] at houtcome
  cases hpolicy : form.policy? t.policyInForce with
  | none =>
    rw [hpolicy] at houtcome
    cases houtcome
  | some policy =>
    simp only [hpolicy, escalateUnder_on] at houtcome
    cases hbreaks : t.breaks? with
    | some fault =>
      cases hentry : (operation form op).isEntry <;> simp [hbreaks, hentry] at houtcome
    | none => cases policy <;> simp [hbreaks, Policy.fate] at houtcome

/-- Asking for the first random number lets settings come into effect. -/
theorem random_settings {form : Form} {start stop : Int64} (hgenerator : s.generator = none)
    (hbreaks : s.breaks? = none) :
    ((operation form (.random start stop)).next s).settings = some s.settingsInForce := by
  have hneeds : (operation form (.random start stop)).needsSettings s = true := by
    simp [needsSettings, Operation.needsSettings, hgenerator]
  rw [(next_settles _ s).settings_eq, settingsInForce]
  cases hs : s.settings with
  | some settings => rfl
  | none =>
    rw [breaks?, hs] at hbreaks
    simp [brought?, brings?, hneeds, hbreaks]

/-- Without words that can be taken, asking for a random number breaks off. -/
theorem random_breaksOff (hwords : s.words? = none) (form : Form) (start stop : Int64) :
    ∃ fault, (Operation.random start stop).attempt.on s = (.error fault, s) ∧
      (operation form (.random start stop)).attempt.on s = (.error fault, s) := by
  obtain ⟨-, fault, -, hon⟩ := randomWords_of_none hwords
  have hop : (Operation.random start stop).attempt.on s = (.error fault, s) :=
    on_bind_error hon _
  exact ⟨fault, hop, on_bind_error hop _⟩

theorem drawing?_of_breaksOff (hwords : s.words? = none) (form : Form) (start stop : Int64) :
    Step.drawing? ⟨operation form (.random start stop), s⟩ = none := by
  obtain ⟨fault, -, hattempt⟩ := random_breaksOff hwords form start stop
  refine Step.drawing?_of_not_answered fun answer houtcome => ?_
  rw [outcome, perform_run, hattempt] at houtcome
  cases hentry : (operation form (.random start stop)).isEntry <;> simp [hentry] at houtcome

/-- A number of a range is made of the next two words. -/
theorem random_drew {words : WordStream} (hwords : s.words? = some words) (form : Form)
    {start stop : Int64} (hrange : start < stop) :
    Step.drawing? ⟨operation form (.random start stop), s⟩ = some (.drew start stop
        (placeInRange start stop (joinWords (words.word words.position)
          (words.word (words.position + 1)))).toInt) ∧
      ((operation form (.random start stop)).next s).generator =
        some { words with position := words.position + 2 } := by
  have htried : (Operation.random start stop).tried? s = some
      (.ok (.int (placeInRange start stop (joinWords (words.word words.position)
        (words.word (words.position + 1)))).toInt),
        { s.effects with generator := some { words with position := words.position + 2 } }) := by
    rw [Operation.tried?_random, hwords, Option.map_some, words.drawIn_eq hrange]
    rfl
  obtain ⟨houtcome, heffects⟩ := answer_gives htried form
  refine ⟨?_, congrArg Effects.generator heffects⟩
  simp only [Step.drawing?, Step.outcome, houtcome]

theorem random_draws (form : Form) (start stop : Int64) (s : Session) :
    (operation form (.random start stop)).Draws s := by
  cases hwords : s.words? with
  | none =>
    obtain ⟨fault, hop, -⟩ := random_breaksOff hwords form start stop
    refine .idle (drawing?_of_breaksOff hwords form start stop) ?_
    rw [operation_generator, hop]
  | some words =>
    have hsettings : s.generator = none →
        ((operation form (.random start stop)).next s).settings = some s.settingsInForce := by
      intro hgenerator
      obtain ⟨t, -, hcourse⟩ := randomWords_of_some hwords
      rcases hcourse with ⟨-, hinUse⟩ | ⟨-, -, hbreaks⟩
      · rw [hgenerator] at hinUse
        cases hinUse
      · exact random_settings hgenerator hbreaks
    by_cases hrange : start < stop
    · obtain ⟨hdrawing, hgenerator⟩ := random_drew hwords form hrange
      exact .drew words hwords hsettings start stop hrange hdrawing hgenerator
    · have htried : (Operation.random start stop).tried? s = some
          (.error (.emptyRandomRange start.toInt stop.toInt),
            { s.effects with generator := some words }) := by
        rw [Operation.tried?_random, hwords, Option.map_some, words.drawIn_of_not_lt hrange]
        rfl
      obtain ⟨t, hon, heffects⟩ := Operation.attempt_does htried
      refine .refused words hwords hsettings
        (Step.drawing?_of_not_answered (not_answered hon)) ?_
      rw [operation_generator, hon]
      exact congrArg Effects.generator heffects

theorem draws (call : Call) (s : Session) : call.Draws s := by
  cases call with
  | operation form op =>
    cases hdraws : op.draws with
    | false =>
      have hdrawing : Step.drawing? ⟨operation form op, s⟩ = none := by
        cases op <;> first | rfl | cases hdraws
      refine .idle hdrawing ?_
      rw [operation_generator, generator_of_draws hdraws]
    | true =>
      cases op with
      | random start stop => exact random_draws form start stop s
      | seed value =>
        have hon : (Operation.seed value).attempt.on s =
            (.ok (.ok .unit), { s with generator := some (.ofSeed value) }) := rfl
        obtain ⟨houtcome, hnext⟩ := perform_run_ok (operation_attempt hon form)
        refine .seeded value ?_ ?_
        · simp only [Step.drawing?, Step.outcome, houtcome]
        · rw [hnext]
      | _ => cases hdraws
  | escalate violation =>
    refine .idle rfl ?_
    rw [next_generator]
    exact escalate_generator violation s
  | escalateUnder policy violation =>
    refine .idle rfl ?_
    rw [next_generator]
    exact escalateUnder_generator policy violation s
  | orFailFast result =>
    refine .idle rfl ?_
    rw [next_generator]
    exact Form.failFast.deliver_generator _ s
  | orExit result =>
    refine .idle rfl ?_
    rw [next_generator]
    exact Form.entry.deliver_generator _ s
  | install settings => exact .idle rfl (install_generator settings s)
  | currentSettings =>
    refine .idle rfl ?_
    rw [next_generator, attempt, on_bind, current_on]
    cases s.breaks? with
    | some fault => rfl
    | none => exact loaded_generator s
  | environmentSettings => exact .idle rfl rfl

end Call

end ProgramSupport
