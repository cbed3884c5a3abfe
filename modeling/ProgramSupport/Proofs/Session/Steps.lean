import ProgramSupport.Proofs.Session.Runs

/-!
# The steps of a run

A run is made of steps: the calls up to the one that ends the process, each with the session that
it finds.  This file provides

* `Step` with its outcome and the session after it;
* `Session.steps` and `Session.left` — the steps of a run, and the session that it leaves;
* `Session.run_eq_steps` — a run gives the outcomes of its steps;
* `Session.left_cons_go` and `Session.left_cons_end` — the first step of a run, and the rest;
* `Session.left_along` — a run moves along every relation along which each call moves.

Inductions on a run follow its calls, in the session that the calls before have left.
-/

namespace ProgramSupport

/-- A call, and the session that it finds. -/
structure Step where
  call : Call
  before : Session

namespace Step

def outcome (step : Step) : Outcome := step.call.outcome step.before

/-- The session that the call leaves. -/
def after (step : Step) : Session := step.call.next step.before

end Step

namespace Session

/-- The steps of a run.  The last one is that of the call which ends the process, if one does. -/
def steps : List Call → Session → List Step
  | [], _ => []
  | call :: calls, s =>
    ⟨call, s⟩ ::
      match (call.outcome s).ending? with
      | some _ => []
      | none => steps calls (call.next s)

/-- The session that a run leaves. -/
def left (calls : List Call) (s : Session) : Session := ((run calls).run s).2

variable {s : Session}

@[simp] theorem steps_nil (s : Session) : steps [] s = [] := rfl

@[simp] theorem left_nil (s : Session) : left [] s = s := rfl

theorem steps_cons_go {call : Call} (hgo : (call.outcome s).ending? = none) (calls : List Call) :
    steps (call :: calls) s = ⟨call, s⟩ :: steps calls (call.next s) := by
  rw [steps, hgo]

theorem steps_cons_end {call : Call} {ending : Ending}
    (hend : (call.outcome s).ending? = some ending) (calls : List Call) :
    steps (call :: calls) s = [⟨call, s⟩] := by
  rw [steps, hend]

theorem left_cons_go {call : Call} (hgo : (call.outcome s).ending? = none) (calls : List Call) :
    left (call :: calls) s = left calls (call.next s) := by
  simp only [left, run_cons_go (call.perform_eq s) hgo]

theorem left_cons_end {call : Call} {ending : Ending}
    (hend : (call.outcome s).ending? = some ending) (calls : List Call) :
    left (call :: calls) s = call.next s := by
  simp only [left, run_cons_end (call.perform_eq s) hend]

theorem mem_steps_cons (call : Call) (calls : List Call) (s : Session) :
    ⟨call, s⟩ ∈ steps (call :: calls) s := List.mem_cons_self

/-- A run gives the outcomes of its steps. -/
theorem run_eq_steps (calls : List Call) (s : Session) :
    (run calls).run s = ((steps calls s).map Step.outcome, left calls s) := by
  induction calls generalizing s with
  | nil => rfl
  | cons call calls ih =>
    cases hend : (call.outcome s).ending? with
    | some ending =>
      rw [steps_cons_end hend, left_cons_end hend, run_cons_end (call.perform_eq s) hend]
      rfl
    | none =>
      rw [steps_cons_go hend, left_cons_go hend, run_cons_go (call.perform_eq s) hend, ih]
      rfl

/-- A run moves along a relation along which every call moves, from each of its steps to its
end. -/
theorem left_along {R : Session → Session → Prop} (hrefl : ∀ s, R s s)
    (htrans : ∀ {s t u}, R s t → R t u → R s u) (hnext : ∀ (call : Call) s, R s (call.next s))
    (calls : List Call) (s : Session) :
    R s (left calls s) ∧
      ∀ step ∈ steps calls s, R s step.before ∧ R step.after (left calls s) := by
  induction calls generalizing s with
  | nil =>
    refine ⟨hrefl s, ?_⟩
    intro step hstep
    cases hstep
  | cons call calls ih =>
    have hcall := hnext call s
    cases hend : (call.outcome s).ending? with
    | some ending =>
      rw [steps_cons_end hend, left_cons_end hend]
      refine ⟨hcall, ?_⟩
      intro step hstep
      rw [List.mem_singleton.1 hstep]
      exact ⟨hrefl s, hrefl (call.next s)⟩
    | none =>
      obtain ⟨hrest, hlater⟩ := ih (call.next s)
      rw [steps_cons_go hend, left_cons_go hend]
      refine ⟨htrans hcall hrest, ?_⟩
      intro step hstep
      rcases List.mem_cons.1 hstep with rfl | hstep
      · exact ⟨hrefl s, hrest⟩
      · obtain ⟨hbefore, hafter⟩ := hlater step hstep
        exact ⟨htrans hcall hbefore, hafter⟩

end Session

end ProgramSupport
