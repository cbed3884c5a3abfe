import ProgramSupport.Session.Operation

/-!
# Calls and their outcomes

A call does an operation in one of three forms, which differ in what becomes of a violation, or
deals with the violations and the settings of the session itself.  This file provides

* `Form` — return the violation, follow the policy, or end the process;
* `Call` and `Outcome`;
* `Session.escalate` and `Session.escalateUnder` — what happens to a violation that is not
  returned;
* `Form.deliver` — the outcome of an operation in a form;
* `Call.attempt` and `Call.perform` — making a call, and what becomes of one that breaks off.

Entry points of compiled code have the form that ends the process, whatever the policy is.  A
call that breaks off throws, except for an entry point, which nothing can be thrown out of: it
aborts the process.
-/

namespace ProgramSupport

/-- What becomes of a violation. -/
inductive Form where
  /-- It is returned to the caller. -/
  | returning
  /-- It is escalated under the policy in effect. -/
  | failFast
  /-- It ends the process. -/
  | entry
deriving Repr, DecidableEq

/-- A call of the library. -/
inductive Call where
  | operation (form : Form) (op : Operation)
  | escalate (violation : Violation)
  | escalateUnder (policy : Policy) (violation : Violation)
  /-- Take the integer of a result, and escalate a violation under the policy in effect. -/
  | orFailFast (result : Except Violation Int64)
  /-- Take the integer of a result, and end the process by a violation. -/
  | orExit (result : Except Violation Int64)
  | install (settings : Settings)
  | currentSettings
  | environmentSettings
deriving Repr, DecidableEq

/-- How a call ends. -/
inductive Outcome where
  | answered (answer : Answer)
  | refused (violation : Violation)
  /-- The violation is thrown, and the process can go on. -/
  | panicked (violation : Violation)
  /-- The violation has ended the process. -/
  | exited (violation : Violation)
  /-- The call broke off by this fault of the log filter, and the process can go on. -/
  | brokenOff (fault : SplitCharacter)
  /-- The call broke off and has ended the process. -/
  | aborted
deriving Repr, DecidableEq

namespace Session

/-- Escalate a violation under a policy: report it, and throw it or end the process after
delivering the output that is pending. -/
def escalateUnder (policy : Policy) (violation : Violation) : Action Outcome := do
  let _ ← current
  record (.violated violation)
  match policy with
  | .panic => return .panicked violation
  | .exit =>
    modify fun s => { s with console := s.console.flush.writer }
    notify (.diagnostic violation)
    return .exited violation

/-- Escalate a violation under the policy in effect. -/
def escalate (violation : Violation) : Action Outcome := do
  escalateUnder (← current).policy violation

end Session

/-- The outcome of a result in a form. -/
def Form.deliver (form : Form) : Except Violation Answer → Action Outcome
  | .ok answer => return .answered answer
  | .error violation =>
    match form with
    | .returning => return .refused violation
    | .failFast => Session.escalate violation
    | .entry => Session.escalateUnder .exit violation

/-- The call is one of an entry point. -/
def Call.isEntry : Call → Bool
  | .operation .entry _ => true
  | _ => false

/-- Make a call that can break off. -/
def Call.attempt : Call → Action Outcome
  | .operation form op => do form.deliver (← op.attempt)
  | .escalate violation => Session.escalate violation
  | .escalateUnder policy violation => Session.escalateUnder policy violation
  | .orFailFast result => Form.failFast.deliver (result.map fun value => .int value.toInt)
  | .orExit result => Form.entry.deliver (result.map fun value => .int value.toInt)
  | .install settings => return .answered (.flag (← Session.install settings))
  | .currentSettings => return .answered (.settings (← Session.current))
  | .environmentSettings =>
    return .answered (.environment (Settings.ofLookup (← get).environment.lookup))

/-- Make a call. -/
def Call.perform (call : Call) : StateM Session Outcome := do
  match ← call.attempt.run with
  | .ok outcome => return outcome
  | .error fault =>
    if call.isEntry then
      Session.notify .aborted
      return .aborted
    else return .brokenOff fault

end ProgramSupport
