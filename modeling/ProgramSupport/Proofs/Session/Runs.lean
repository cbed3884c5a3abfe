import ProgramSupport.Proofs.Session.Calls

/-!
# Runs of calls

A process ends by the first violation that exits, or makes all its calls.  This file provides

* `Session.results` and `Session.renderings` — the outcomes of calls made one after another, and
  the text that they print, in order;
* `Session.exit?` — the number of calls before the first that has to end the process, and its
  violation;
* `Session.Cut` — a call of the process is cut;
* `Session.run_of_exit_none` and `Session.run_of_exit_some` — a run in which no call is cut;
* `Session.run_of_cut` — a run in which a call is cut;
* `Session.run_of_quiet` — the notices of a run in a quiet session;
* `Session.splitFault_of_cut` — only the environment of a process can cut a call.

All inductions are on the calls, in the session that the calls before have left.
-/

namespace ProgramSupport

namespace Session

/-- The outcomes of calls that are made one after another. -/
def results : List Call → Session → List Outcome
  | [], _ => []
  | call :: calls, s => call.outcome s :: results calls (call.next s)

/-- The text that calls print, in the order of the calls. -/
def renderings : List Call → Session → List UInt8
  | [], _ => []
  | call :: calls, s => call.rendering s ++ renderings calls (call.next s)

/-- The first violation by which a call has to end the process, and the number of calls before
it. -/
def exit? : List Call → Session → Option (Nat × Violation)
  | [], _ => none
  | call :: calls, s =>
    match call.exitViolation? s with
    | some violation => some (0, violation)
    | none => (exit? calls (call.next s)).map fun (made, violation) => (made + 1, violation)

/-- A call of the process is cut. -/
def Cut : List Call → Session → Prop
  | [], _ => False
  | call :: calls, s =>
    call.Cut s ∨ (call.outcome s).ending? = none ∧ Cut calls (call.next s)

/-! ### Runs -/

/-- Outcomes after each of which the process goes on. -/
def Lasting (outcomes : List Outcome) : Prop := ∀ outcome ∈ outcomes, outcome.ending? = none

theorem Lasting.nil : Lasting [] := fun _ hmem => absurd hmem List.not_mem_nil

theorem Lasting.cons {outcome : Outcome} {outcomes : List Outcome} (h : outcome.ending? = none)
    (hrest : Lasting outcomes) : Lasting (outcome :: outcomes) := by
  intro other hmem
  rcases List.mem_cons.1 hmem with rfl | hmem
  · exact h
  · exact hrest other hmem

variable {s : Session} {written : List UInt8}

theorem run_cons_go {call : Call} {outcome : Outcome} {t : Session}
    (hperform : call.perform.run s = (outcome, t)) (hgo : outcome.ending? = none)
    (calls : List Call) :
    (run (call :: calls)).run s =
      (outcome :: ((run calls).run t).1, ((run calls).run t).2) := by
  rw [run, StateT.run_bind, hperform]
  simp only [bind, hgo]
  rfl

theorem run_cons_end {call : Call} {outcome : Outcome} {t : Session} {ending : Ending}
    (hperform : call.perform.run s = (outcome, t)) (hend : outcome.ending? = some ending)
    (calls : List Call) : (run (call :: calls)).run s = ([outcome], t) := by
  rw [run, StateT.run_bind, hperform]
  simp only [bind, hend]
  rfl

/-- A run in which nothing has to end the process, and nothing is cut, makes all its calls. -/
theorem run_of_exit_none (h : s.console.Carries written) {calls : List Call}
    (hexit : exit? calls s = none) (hcut : ¬Cut calls s) :
    Lasting (results calls s) ∧
      ∃ t, (run calls).run s = (results calls s, t) ∧
        t.console.Carries (written ++ renderings calls s) := by
  induction calls generalizing s written with
  | nil =>
    refine ⟨.nil, s, rfl, ?_⟩
    rw [renderings, List.append_nil]
    exact h
  | cons call calls ih =>
    rw [exit?] at hexit
    rw [Cut, not_or] at hcut
    cases hviolation : call.exitViolation? s with
    | some violation =>
      rw [hviolation] at hexit
      cases hexit
    | none =>
      rw [hviolation] at hexit
      have hgo := Call.goesOn h hviolation hcut.1
      obtain ⟨hcarries, -⟩ := Call.next_carries h hgo
      obtain ⟨hlast, t, hrun, hwritten⟩ :=
        ih hcarries (Option.map_eq_none_iff.1 hexit) fun hlater => hcut.2 ⟨hgo, hlater⟩
      refine ⟨.cons hgo hlast, t, ?_, ?_⟩
      · rw [run_cons_go (call.perform_eq s) hgo, hrun]
        rfl
      · rw [renderings, ← List.append_assoc]
        exact hwritten

/-- A run in which a violation has to end the process, and nothing is cut, ends by it, whatever
calls come later. -/
theorem run_of_exit_some (h : s.console.Carries written) {calls : List Call} {made : Nat}
    {violation : Violation} (hexit : exit? calls s = some (made, violation))
    (hcut : ¬Cut calls s) :
    Lasting (results (calls.take made) s) ∧
      ∃ t, (∀ later, (run (calls.take (made + 1) ++ later)).run s =
          (results (calls.take made) s ++ [.exited violation], t)) ∧
        t.console.Carries (written ++ renderings (calls.take made) s) ∧
        ∃ earlier, t.notices = earlier ++ [.diagnostic violation] := by
  induction calls generalizing s written made with
  | nil => cases hexit
  | cons call calls ih =>
    rw [exit?] at hexit
    rw [Cut, not_or] at hcut
    cases hviolation : call.exitViolation? s with
    | some found =>
      rw [hviolation] at hexit
      cases hexit
      obtain ⟨houtcome, hcarries, hnotices⟩ := Call.exits h hviolation hcut.1
      have hend : (call.outcome s).ending? = some .exited := by
        rw [houtcome]
        rfl
      refine ⟨.nil, call.next s, ?_, ?_, hnotices⟩
      · intro later
        show (run (call :: later)).run s = _
        rw [run_cons_end (call.perform_eq s) hend, houtcome]
        rfl
      · rw [List.take_zero, renderings, List.append_nil]
        exact hcarries
    | none =>
      rw [hviolation] at hexit
      obtain ⟨⟨before, found⟩, hlater, heq⟩ := Option.map_eq_some_iff.1 hexit
      cases heq
      have hgo := Call.goesOn h hviolation hcut.1
      obtain ⟨hcarries, -⟩ := Call.next_carries h hgo
      obtain ⟨hlast, t, hrun, hwritten, hnotices⟩ :=
        ih hcarries hlater fun hcutLater => hcut.2 ⟨hgo, hcutLater⟩
      refine ⟨.cons hgo hlast, t, ?_, ?_, hnotices⟩
      · intro later
        show (run (call :: (calls.take (before + 1) ++ later))).run s = _
        rw [run_cons_go (call.perform_eq s) hgo, hrun]
        rfl
      · rw [List.take_succ_cons, renderings, ← List.append_assoc]
        exact hwritten

/-- A run in which a call is cut is aborted, or passes the violation that has to end the
process. -/
theorem run_of_cut (h : s.console.Carries written) {calls : List Call} (hcut : Cut calls s) :
    (∃ outcomes t, Lasting outcomes ∧ (run calls).run s = (outcomes ++ [.aborted], t)) ∨
      ∃ made violation outcomes t, exit? calls s = some (made, violation) ∧
        Lasting outcomes ∧ (run (calls.take (made + 1))).run s = (outcomes, t) := by
  induction calls generalizing s written with
  | nil => cases hcut
  | cons call calls ih =>
    by_cases hhere : call.Cut s
    · rcases Call.outcome_of_cut hhere with haborted | ⟨hgo, violation, hexit⟩
      · have hend : (call.outcome s).ending? = some .aborted := by
          rw [haborted]
          rfl
        refine .inl ⟨[], call.next s, .nil, ?_⟩
        rw [run_cons_end (call.perform_eq s) hend, haborted]
        rfl
      · refine .inr ⟨0, violation, [call.outcome s], call.next s, ?_, .cons hgo .nil, ?_⟩
        · rw [exit?, hexit]
        · show (run [call]).run s = _
          rw [run_cons_go (call.perform_eq s) hgo]
          rfl
    · obtain ⟨hgo, hlater⟩ := hcut.resolve_left hhere
      obtain ⟨hcarries, -⟩ := Call.next_carries h hgo
      rcases ih hcarries hlater with ⟨outcomes, t, hlast, hrun⟩ |
        ⟨made, violation, outcomes, t, hexit, hlast, hrun⟩
      · refine .inl ⟨call.outcome s :: outcomes, t, .cons hgo hlast, ?_⟩
        rw [run_cons_go (call.perform_eq s) hgo, hrun]
        rfl
      · have hnone := Call.exitViolation?_of_goesOn h hgo hhere
        refine .inr ⟨made + 1, violation, call.outcome s :: outcomes, t, ?_, .cons hgo hlast, ?_⟩
        · rw [exit?, hnone, hexit]
          rfl
        · rw [List.take_succ_cons, run_cons_go (call.perform_eq s) hgo, hrun]

/-- Only a log filter of the environment can cut a call. -/
theorem splitFault_of_cut (h : s.console.Carries written) {calls : List Call}
    (hcut : Cut calls s) : ∃ fault, s.environment.settings.splitFault? = some fault := by
  induction calls generalizing s written with
  | nil => cases hcut
  | cons call calls ih =>
    rcases hcut with hhere | ⟨hgo, hlater⟩
    · obtain ⟨fault, hbreaks⟩ := Call.breaks_of_cut h hhere
      exact ⟨fault, splitFault_of_breaks hbreaks⟩
    · obtain ⟨hcarries, henvironment⟩ := Call.next_carries h hgo
      rw [← henvironment]
      exact ih hcarries hlater

/-- In a quiet session a run leaves no notice but a diagnostic, if it ends by a violation. -/
theorem run_of_quiet (h : s.console.Carries written) (hquiet : s.Quiet) {calls : List Call}
    (hplain : ∀ call ∈ calls, call.Plain) :
    ((run calls).run s).2.notices = s.notices ++
      match exit? calls s with
      | none => []
      | some (_, violation) => [.diagnostic violation] := by
  induction calls generalizing s written with
  | nil => exact (List.append_nil _).symm
  | cons call calls ih =>
    have hcut : ¬call.Cut s := by
      intro hcut
      obtain ⟨fault, hbreaks⟩ := Call.breaks_of_cut h hcut
      rw [hquiet.breaks_eq] at hbreaks
      cases hbreaks
    rw [exit?]
    cases hviolation : call.exitViolation? s with
    | some violation =>
      have houtcome := (Call.exits h hviolation hcut).1
      have hend : (call.outcome s).ending? = some .exited := by
        rw [houtcome]
        rfl
      rw [run_cons_end (call.perform_eq s) hend]
      exact Call.exits_quiet h hquiet houtcome
    | none =>
      have hgo := Call.goesOn h hviolation hcut
      obtain ⟨hcarries, -⟩ := Call.next_carries h hgo
      obtain ⟨hnotices, hstill⟩ :=
        Call.next_quiet h hquiet (hplain call List.mem_cons_self) hgo
      have hrest := ih hcarries hstill fun other hmem => hplain other (List.mem_cons_of_mem _ hmem)
      rw [run_cons_go (call.perform_eq s) hgo, ← hnotices]
      show ((run calls).run (call.next s)).2.notices = _
      rw [hrest]
      cases exit? calls (call.next s) <;> rfl

end Session

end ProgramSupport
