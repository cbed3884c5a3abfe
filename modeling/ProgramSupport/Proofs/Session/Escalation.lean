import ProgramSupport.Proofs.Session.Frames

/-!
# The fate of a violation

A violation is returned, thrown, or ends the process.  Which of these it is follows from the form
of the call and the policy in force.  This file provides

* `Policy.fate` and `Form.fate` — the outcome of a call that finds a violation;
* `Form.policy?` and `Call.policy?` — the policy under which a form or a call escalates;
* `Call.violation?` and `Call.exitViolation?` — the violation that a call finds in a session, and
  the one that has to end the process;
* `Session.escalateUnder_on` and `Session.escalate_on` — what an escalation does to a session;
* `Form.deliver_error_on` and `Form.deliver_error_fate` — the same for the violation of an
  operation in a form.
-/

namespace ProgramSupport

open ProgramSupport.Action Session

/-- How a call ends when a violation is escalated under a policy. -/
def Policy.fate (policy : Policy) (violation : Violation) : Outcome :=
  match policy with
  | .exit => .exited violation
  | .panic => .panicked violation

/-- How a call of a form ends by a violation while a policy is in force. -/
def Form.fate (form : Form) (inForce : Policy) (violation : Violation) : Outcome :=
  match form with
  | .returning => .refused violation
  | .failFast => inForce.fate violation
  | .entry => Policy.exit.fate violation

/-! ### The policy that a violation meets -/

/-- The policy under which a form escalates while a policy is in force; none if it returns what
it finds. -/
def Form.policy? (form : Form) (inForce : Policy) : Option Policy :=
  match form with
  | .returning => none
  | .failFast => some inForce
  | .entry => some .exit

namespace Call

/-- The policy under which a call escalates while a policy is in force.  Entry points and calls
that ask for it exit under every policy. -/
def policy? (inForce : Policy) : Call → Option Policy
  | .operation form _ => form.policy? inForce
  | .escalate _ | .orFailFast _ => some inForce
  | .escalateUnder policy _ => some policy
  | .orExit _ => some .exit
  | .install _ | .currentSettings | .environmentSettings => none

/-- The violation that a call finds in a session. -/
def violation? (s : Session) : Call → Option Violation
  | .operation _ op =>
    match (op.attempt.on s).1 with
    | .ok (.error violation) => some violation
    | _ => none
  | .escalate violation | .escalateUnder _ violation => some violation
  | .orFailFast result | .orExit result =>
    match result with
    | .error violation => some violation
    | .ok _ => none
  | .install _ | .currentSettings | .environmentSettings => none

/-- The violation by which a call has to end the process. -/
def exitViolation? (s : Session) (call : Call) : Option Violation :=
  if call.policy? s.policyInForce = some .exit then call.violation? s else none

end Call

/-! ### Escalating -/

namespace Session

/-- The session that an escalation leaves. -/
def escalated (s : Session) (policy : Policy) (violation : Violation) : Session :=
  let reported := { s.loaded with
    notices := s.loaded.notices ++ s.loaded.recorded (.violated violation) }
  match policy with
  | .panic => reported
  | .exit =>
    { reported with
      console := s.console.flush.writer
      notices := reported.notices ++ [.diagnostic violation] }

theorem escalateUnder_on (policy : Policy) (violation : Violation) (s : Session) :
    (escalateUnder policy violation).on s = match s.breaks? with
      | some fault => (.error fault, s)
      | none => (.ok (policy.fate violation), s.escalated policy violation) := by
  unfold escalateUnder escalated
  rw [on_bind, current_on]
  cases s.breaks? with
  | some fault => rfl
  | none =>
    simp only [on_liftM_bind, record_run]
    cases policy with
    | panic => rfl
    | exit =>
      rw [← loaded_console s]
      rfl

theorem loaded_loaded (s : Session) : s.loaded.loaded = s.loaded := by
  unfold loaded
  cases hs : s.settings with
  | some settings => simp only [hs]
  | none => rfl

/-- Without a policy of its own, an escalation is one under the policy in force. -/
theorem escalate_on (violation : Violation) (s : Session) :
    (escalate violation).on s = (escalateUnder s.policyInForce violation).on s := by
  unfold escalate
  rw [on_bind, current_on]
  cases hbreaks : s.breaks? with
  | some fault =>
    rw [escalateUnder_on, hbreaks]
  | none =>
    have hloaded : s.loaded.breaks? = none := by
      rw [(loaded_proceeds s hbreaks).breaks_eq, hbreaks]
    show (escalateUnder s.policyInForce violation).on s.loaded = _
    rw [escalateUnder_on, escalateUnder_on, hbreaks, hloaded]
    simp only [escalated, loaded_loaded, loaded_console]

theorem escalated_quiet {s : Session} (h : s.Quiet) (policy : Policy) (violation : Violation) :
    (s.escalated policy violation).Quiet ∧
      (s.escalated policy violation).notices =
        match policy with
        | .panic => s.notices
        | .exit => s.notices ++ [.diagnostic violation] := by
  obtain ⟨hnotices, hloaded⟩ := (loaded_proceeds s h.breaks_eq).quiet h
  have hrecorded := hloaded.recorded_eq (.violated violation)
  cases policy with
  | panic =>
    refine ⟨⟨hloaded.logFilter_eq, hloaded.notices_eq⟩, ?_⟩
    show s.loaded.notices ++ s.loaded.recorded (.violated violation) = _
    rw [hrecorded, hnotices, List.append_nil]
  | exit =>
    refine ⟨⟨hloaded.logFilter_eq, hloaded.notices_eq⟩, ?_⟩
    show (s.loaded.notices ++ s.loaded.recorded (.violated violation)) ++ _ = _
    rw [hrecorded, hnotices, List.append_nil]

end Session

/-! ### Delivering -/

namespace Form

theorem deliver_ok_on (form : Form) (answer : Answer) (s : Session) :
    (form.deliver (.ok answer)).on s = (.ok (.answered answer), s) := rfl

theorem deliver_error_on (form : Form) (violation : Violation) (s : Session) :
    (form.deliver (.error violation)).on s = match form.policy? s.policyInForce with
      | none => (.ok (.refused violation), s)
      | some policy => (escalateUnder policy violation).on s := by
  cases form with
  | returning => rfl
  | failFast => exact escalate_on violation s
  | entry => rfl

/-- A violation meets its fate unless the call breaks off. -/
theorem deliver_error_fate {s : Session} (h : s.breaks? = none) (form : Form)
    (violation : Violation) :
    ((form.deliver (.error violation)).on s).1 = .ok (form.fate s.policyInForce violation) := by
  rw [deliver_error_on]
  cases form with
  | returning => rfl
  | failFast | entry =>
    simp only [policy?, escalateUnder_on, h]
    rfl

end Form

end ProgramSupport
