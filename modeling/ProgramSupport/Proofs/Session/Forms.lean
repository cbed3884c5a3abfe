import ProgramSupport.Proofs.Session.Reports
import ProgramSupport.Proofs.Session.Trials

/-!
# The forms of an operation

An operation that can fail has three forms, which share its result and its effects, and differ in
what becomes of a violation.  This file provides

* `Outcome.thrown?` — the text of what an outcome throws;
* `Session.EndsBy` — a call ends the process, with a text at the end of the error stream;
* `Operation.FormsAgree` — what the forms have in common in a session, and how each deals with a
  violation;
* `Call.returning_gives` — the form that returns a violation gives what the trial says;
* `Operation.formsAgree_iff` — the forms agree unless there is a violation to report, and the
  settings break off that are needed for it.
-/

namespace ProgramSupport

open ProgramSupport.Action Session

/-- The text of what is thrown. -/
def Outcome.thrown? : Outcome → Option String
  | .panicked violation => some violation.diagnostic
  | .brokenOff fault => some fault.message
  | .answered _ | .refused _ | .exited _ | .aborted => none

/-- The call ends the process with status one, whatever calls come later, and the text is the
last on the error stream. -/
def Session.EndsBy (s : Session) (call : Call) (text : String) : Prop :=
  ∀ later, (s.report (call :: later)).status = some 1 ∧ (s.report (call :: later)).steps = [] ∧
    ∃ earlier, (s.report (call :: later)).lines = earlier ++ Report.linesOf text

/-- A call ends so, and leaves these effects. -/
def Call.Gives (s : Session) (call : Call) (outcome : Outcome) (effects : Effects) : Prop :=
  call.outcome s = outcome ∧ (call.next s).effects = effects

/-- The forms of an operation agree.  They have the answer in common, and its effects.  A
violation is returned, thrown, or ends the process, as the form and the policy say, and it has
the same effects and the same text in all forms. -/
def Operation.FormsAgree (op : Operation) (s : Session) : Prop :=
  ∀ result effects, op.tried? s = some (result, effects) →
    match result with
    | .ok answer => ∀ form, (Call.operation form op).Gives s (.answered answer) effects
    | .error violation =>
      let text := "tern runtime error: " ++ violation.message
      (Call.operation .returning op).Gives s (.refused violation) effects ∧
        (s.policyInForce = .panic →
          ((Call.operation .failFast op).outcome s).thrown? = some text ∧
            ((Call.operation .failFast op).next s).effects = effects) ∧
        (s.policyInForce = .exit → s.EndsBy (.operation .failFast op) text) ∧
        s.EndsBy (.operation .entry op) text

variable {s t : Session}

namespace Call

theorem operation_attempt {op : Operation} {result : Except Violation Answer}
    (h : op.attempt.on s = (.ok result, t)) (form : Form) :
    (operation form op).attempt.on s = (form.deliver result).on t := by
  rw [attempt, on_bind_ok h]

/-- An answer is that of every form. -/
theorem answer_gives {op : Operation} {answer : Answer} {effects : Effects}
    (h : op.tried? s = some (.ok answer, effects)) (form : Form) :
    (operation form op).Gives s (.answered answer) effects := by
  obtain ⟨t, hon, ht⟩ := Operation.attempt_does h
  have hattempt := operation_attempt hon form
  rw [Form.deliver_ok_on] at hattempt
  obtain ⟨houtcome, hnext⟩ := perform_run_ok hattempt
  refine ⟨houtcome, ?_⟩
  rw [hnext]
  exact ht

/-- A violation is returned by the form that returns it. -/
theorem returning_gives {op : Operation} {violation : Violation} {effects : Effects}
    (h : op.tried? s = some (.error violation, effects)) :
    (operation .returning op).Gives s (.refused violation) effects := by
  obtain ⟨t, hon, ht⟩ := Operation.attempt_does h
  obtain ⟨houtcome, hnext⟩ := perform_run_ok (operation_attempt hon .returning)
  refine ⟨houtcome, ?_⟩
  rw [hnext]
  exact ht

/-- The other forms escalate a violation, in a session that has proceeded to the effects. -/
theorem escalating_attempt {op : Operation} {violation : Violation} {effects : Effects}
    (h : op.tried? s = some (.error violation, effects)) {form : Form} {policy : Policy}
    (hpolicy : form.policy? s.policyInForce = some policy) :
    ∃ t, t.effects = effects ∧ t.breaks? = s.breaks? ∧
      (operation form op).attempt.on s = (Session.escalateUnder policy violation).on t := by
  obtain ⟨t, hon, ht⟩ := Operation.attempt_does h
  have hproceeds := (op.attempt_proceeds s).1
  rw [hon] at hproceeds
  have hforce : t.policyInForce = s.policyInForce := by
    rw [policyInForce, policyInForce, hproceeds.settingsInForce_eq]
  refine ⟨t, ht, hproceeds.breaks_eq, ?_⟩
  rw [operation_attempt hon, Form.deliver_error_on, hforce, hpolicy]

/-- A violation is thrown under the policy that throws, and has the effects of the trial. -/
theorem throwing_gives {op : Operation} {violation : Violation} {effects : Effects}
    (h : op.tried? s = some (.error violation, effects)) (hbreaks : s.breaks? = none)
    {form : Form} (hpolicy : form.policy? s.policyInForce = some .panic) :
    (operation form op).Gives s (.panicked violation) effects := by
  obtain ⟨t, ht, hunbroken, hattempt⟩ := escalating_attempt h hpolicy
  rw [escalateUnder_on, hunbroken, hbreaks] at hattempt
  obtain ⟨houtcome, hnext⟩ := perform_run_ok hattempt
  refine ⟨houtcome, ?_⟩
  rw [hnext, ← ht, ← loaded_effects t]
  rfl

/-- A violation ends the process under the policy that exits. -/
theorem exiting_ends {op : Operation} {violation : Violation} {effects : Effects}
    (h : op.tried? s = some (.error violation, effects)) (hbreaks : s.breaks? = none)
    {form : Form} (hpolicy : form.policy? s.policyInForce = some .exit) :
    s.EndsBy (operation form op) ("tern runtime error: " ++ violation.message) := by
  obtain ⟨t, -, hunbroken, hattempt⟩ := escalating_attempt h hpolicy
  rw [escalateUnder_on, hunbroken, hbreaks] at hattempt
  obtain ⟨houtcome, hnext⟩ := perform_run_ok hattempt
  intro later
  have hend : (Outcome.exited violation).ending? = some .exited := rfl
  have hrun : (run (operation form op :: later)).run s =
      ([] ++ [.exited violation], (operation form op).next s) := by
    rw [run_cons_end (perform_eq _ s) (by rw [houtcome]; rfl), houtcome]
    rfl
  rw [report_of_ended .nil hend hrun, hnext]
  exact ⟨rfl, rfl, lines_of_diagnostic rfl⟩

/-- Where the settings break off, an entry point is aborted instead of reporting a violation. -/
theorem entry_not_ends {op : Operation} {violation : Violation} {effects : Effects}
    {fault : SplitCharacter} (h : op.tried? s = some (.error violation, effects))
    (hbreaks : s.breaks? = some fault) (text : String) :
    ¬s.EndsBy (operation .entry op) text := by
  intro hends
  obtain ⟨t, -, hbroken, hattempt⟩ := escalating_attempt h (show Form.entry.policy? _ = _ from rfl)
  rw [escalateUnder_on, hbroken, hbreaks] at hattempt
  have haborted : (operation .entry op).outcome s = .aborted := perform_run_aborted hattempt rfl
  have hend : Outcome.aborted.ending? = some .aborted := rfl
  have hrun : (run [operation .entry op]).run s =
      ([] ++ [.aborted], (operation .entry op).next s) := by
    rw [run_cons_end (perform_eq _ s) (by rw [haborted]; rfl), haborted]
    rfl
  have hstatus := (hends []).1
  rw [report_of_ended .nil hend hrun] at hstatus
  cases hstatus

end Call

namespace Operation

/-- Whatever the state of a process is, the form of an operation that returns violations gives
what the trial says.  The other forms agree with it unless there is a violation to report and the
settings, which are needed for it, break off. -/
theorem formsAgree_iff (op : Operation) (s : Session) :
    (∀ result effects, op.tried? s = some (result, effects) →
      (Call.operation .returning op).Gives s
        (match result with
          | .ok answer => .answered answer
          | .error violation => .refused violation) effects) ∧
      (op.FormsAgree s ↔
        ∀ violation effects, op.tried? s = some (.error violation, effects) →
          s.breaks? = none) := by
  refine ⟨?_, ?_, ?_⟩
  · intro result effects htried
    cases result with
    | ok answer => exact Call.answer_gives htried .returning
    | error violation => exact Call.returning_gives htried
  · intro hagree violation effects htried
    obtain ⟨-, -, -, hentry⟩ := hagree _ _ htried
    cases hbreaks : s.breaks? with
    | none => rfl
    | some fault => exact absurd hentry (Call.entry_not_ends htried hbreaks _)
  · intro hbreaks result effects htried
    cases result with
    | ok answer => exact Call.answer_gives htried
    | error violation =>
      have hunbroken := hbreaks violation effects htried
      refine ⟨Call.returning_gives htried, ?_, ?_, Call.exiting_ends htried hunbroken rfl⟩
      · intro hpolicy
        have hthrow : Form.failFast.policy? s.policyInForce = some .panic := by
          rw [Form.policy?, hpolicy]
        obtain ⟨houtcome, heffects⟩ := Call.throwing_gives htried hunbroken hthrow
        rw [houtcome]
        exact ⟨rfl, heffects⟩
      · intro hpolicy
        have hexit : Form.failFast.policy? s.policyInForce = some .exit := by
          rw [Form.policy?, hpolicy]
        exact Call.exiting_ends htried hunbroken hexit

/-- The policy is to throw, and the log filter begins with a blank of three bytes.  So the settings
break off, and the fault of the filter is thrown in place of the violation. -/
theorem not_formsAgree_blank_filter :
    ¬(Operation.arrayNew (-1)).FormsAgree
      { environment := [("TERN_ON_VIOLATION", .ofText "panic"), ("TERN_LOG", .ofText "　a=5")],
        input := .stream [], entropy := .cyclic #[] } := by
  intro hagree
  have hnew : IntArray.new (-1) = .error (.negativeSize "IntArray::new" (-1)) := by
    decide +kernel
  have htried (s : Session) : (arrayNew (-1)).tried? s =
      some (.error (.negativeSize "IntArray::new" (-1)), s.effects) := by
    rw [tried?_arrayNew, hnew]
    rfl
  obtain ⟨-, hthrow, -, -⟩ := hagree _ _ (htried _)
  have htext := (hthrow (by decide +kernel)).1
  revert htext
  decide +kernel

end Operation

end ProgramSupport
