import ProgramSupport.Proofs.Session.Couplings
import ProgramSupport.Proofs.Session.Reports
import ProgramSupport.Proofs.Session.Settlement
import ProgramSupport.Proofs.Session.Trials

/-!
# Sessions that stay in step

Two processes that make the same calls leave the same report if their sessions stay related by a
relation under which every call has one outcome.  This file provides

* `Session.Steady` — a relation that settings coming into effect respect, and `Session.Uniform`,
  for which these are the same settings;
* `Operation.attempt_steady`, `Call.entry_steady`, `Call.attempt_steady` and `Call.attempt_uniform`
  — what remains to be shown of operations and calls is what they do with random numbers, and
  `Call.attempt_install` of those that choose settings;
* `Report.viewed` — the part of a report that is looked at, and `Session.report_viewed_of_lockstep`
  — processes that stay in step leave the same report, as far as it is looked at.

Under a steady relation the policies of the two sessions can differ.  Entry points do not look at
the policy, so they have one outcome all the same.
-/

namespace ProgramSupport

open ProgramSupport.Action

namespace Session

/-- A relation between sessions that hold the same, in which settings come into effect alike. -/
structure Steady (R : Session → Session → Prop) : Prop extends Likeness R where
  breaks_eq {s t : Session} : R s t → t.breaks? = s.breaks?
  loaded {s t : Session} : s.breaks? = none → R s t → R s.loaded t.loaded
  initialized {s t : Session} : R s t →
    R { s with notices := s.notices ++ s.recorded (.initialized s.settingsInForce) }
      { t with notices := t.notices ++ t.recorded (.initialized t.settingsInForce) }
  notified {s t : Session} (notice : Notice) : R s t →
    R { s with notices := s.notices ++ [notice] } { t with notices := t.notices ++ [notice] }

/-- A relation between sessions that hold the same, in which the same settings come into
effect. -/
structure Uniform (R : Session → Session → Prop) : Prop extends Likeness R where
  environment_eq {s t : Session} : R s t → t.environment = s.environment
  settingsInForce_eq {s t : Session} : R s t → t.settingsInForce = s.settingsInForce
  breaks_eq {s t : Session} : R s t → t.breaks? = s.breaks?
  loaded {s t : Session} : s.breaks? = none → R s t → R s.loaded t.loaded
  notified {s t : Session} (notice : Notice) : R s t →
    R { s with notices := s.notices ++ [notice] } { t with notices := t.notices ++ [notice] }

variable {R : Session → Session → Prop}

theorem Uniform.steady (h : Uniform R) : Steady R where
  toLikeness := h.toLikeness
  breaks_eq := h.breaks_eq
  loaded := h.loaded
  initialized {s t} hlike := by
    rw [h.settingsInForce_eq hlike]
    exact h.recorded _ hlike
  notified := h.notified

end Session

open Session

variable {α : Type} {R : Session → Session → Prop}

/-! ### Settings and random words -/

namespace Action

/-- What needs settings in effect, whichever they are. -/
theorem Coupled.afterCurrent (h : Steady R) {x : Action α} (hx : Coupled R x) :
    Coupled R (current >>= fun _ => x) := by
  intro s t hlike
  rw [on_bind, on_bind, current_on, current_on, h.breaks_eq hlike]
  cases hbreaks : s.breaks? with
  | some fault => exact ⟨rfl, hlike⟩
  | none => exact hx _ _ (h.loaded hbreaks hlike)

theorem Coupled.current (h : Uniform R) : Coupled R current := by
  intro s t hlike
  rw [current_on, current_on, h.breaks_eq hlike]
  cases hbreaks : s.breaks? with
  | some fault => exact ⟨rfl, hlike⟩
  | none =>
    exact ⟨congrArg Except.ok (h.settingsInForce_eq hlike), h.loaded hbreaks hlike⟩

/-- Where the same random words are in use or would be taken, settings come into effect alike. -/
theorem Coupled.randomWords_of_generator (h : Steady R)
    (hgenerator : ∀ {s t}, R s t → t.generator = s.generator)
    (hfresh : ∀ {s t}, R s t → t.freshWords = s.freshWords) : Coupled R randomWords := by
  intro s t hlike
  rw [randomWords_on, randomWords_on, hgenerator hlike, h.breaks_eq hlike, hfresh hlike]
  cases s.generator with
  | some words => exact ⟨rfl, hlike⟩
  | none =>
    cases hbreaks : s.breaks? with
    | some fault => exact ⟨rfl, hlike⟩
    | none => exact ⟨rfl, h.loaded hbreaks hlike⟩

/-- Where the random words are the same, it remains to be shown that it does not matter if they
are in use already. -/
theorem Coupled.randomWords (h : Steady R)
    (hwords : ∀ {s t}, R s t → t.words? = s.words?)
    (hleft : ∀ {s t}, s.generator = none → t.generator.isSome = true → s.breaks? = none →
      R s t → R s.loaded t)
    (hright : ∀ {s t}, s.generator.isSome = true → t.generator = none → t.breaks? = none →
      R s t → R s t.loaded) : Coupled R randomWords := by
  intro s t hlike
  cases hs : s.words? with
  | none =>
    obtain ⟨-, fault, hfault, hon⟩ := randomWords_of_none hs
    obtain ⟨-, fault', hfault', hon'⟩ := randomWords_of_none ((hwords hlike).trans hs)
    rw [h.breaks_eq hlike, hfault] at hfault'
    cases hfault'
    rw [hon, hon']
    exact ⟨rfl, hlike⟩
  | some words =>
    obtain ⟨u, hon, hu⟩ := randomWords_of_some hs
    obtain ⟨v, hon', hv⟩ := randomWords_of_some ((hwords hlike).trans hs)
    rw [hon, hon']
    refine ⟨rfl, ?_⟩
    rcases hu with ⟨rfl, hgenerator⟩ | ⟨rfl, hgenerator, hbreaks⟩
    · rcases hv with ⟨rfl, -⟩ | ⟨rfl, hgenerator', hbreaks'⟩
      · exact hlike
      · exact hright (Option.isSome_of_mem hgenerator) hgenerator' hbreaks' hlike
    · rcases hv with ⟨rfl, hgenerator'⟩ | ⟨rfl, -⟩
      · exact hleft hgenerator (Option.isSome_of_mem hgenerator') hbreaks hlike
      · exact h.loaded hbreaks hlike

theorem Coupled.escalateUnder (h : Steady R) (policy : Policy) (violation : Violation) :
    Coupled R (escalateUnder policy violation) := by
  refine .afterCurrent h (.bind (.record h.toLikeness _) fun _ => ?_)
  cases policy with
  | panic => exact .pure _
  | exit =>
    refine .bind (.lift fun s t hlike => ⟨rfl, ?_⟩) fun _ => ?_
    · show R { s with console := s.console.flush.writer }
        { t with console := t.console.flush.writer }
      rw [h.console_eq hlike]
      exact h.console _ hlike
    · exact .bind (.lift fun s t hlike => ⟨rfl, h.notified _ hlike⟩) fun _ => .pure _

/-- Escalating under the policy in effect, where it is the same. -/
theorem Coupled.escalate (h : Steady R)
    (hpolicy : ∀ {s t}, R s t → t.policyInForce = s.policyInForce) (violation : Violation) :
    Coupled R (escalate violation) := by
  intro s t hlike
  unfold Session.escalate
  rw [on_bind, on_bind, current_on, current_on, h.breaks_eq hlike]
  cases hbreaks : s.breaks? with
  | some fault => exact ⟨rfl, hlike⟩
  | none =>
    have hsame : t.settingsInForce.policy = s.settingsInForce.policy := hpolicy hlike
    simp only [hsame]
    exact escalateUnder h _ violation _ _ (h.loaded hbreaks hlike)

end Action

namespace Operation

theorem init_on (s : Session) :
    init.attempt.on s = match s.breaks? with
      | some fault => (.error fault, s)
      | none => (.ok (.ok .unit), { s.loaded with
          notices := s.loaded.notices ++ s.loaded.recorded (.initialized s.settingsInForce) }) := by
  rw [attempt, on_bind, current_on]
  cases s.breaks? with
  | some fault => rfl
  | none =>
    simp only [on_liftM_bind, record_run]
    rfl

/-- The event of the initialization tells the settings, but the answer does not. -/
theorem init_coupled (h : Steady R) : Coupled R init.attempt := by
  intro s t hlike
  rw [init_on, init_on, h.breaks_eq hlike]
  cases hbreaks : s.breaks? with
  | some fault => exact ⟨rfl, hlike⟩
  | none =>
    have hbreaks' : t.breaks? = none := (h.breaks_eq hlike).trans hbreaks
    refine ⟨rfl, ?_⟩
    rw [← (loaded_proceeds s hbreaks).settingsInForce_eq,
      ← (loaded_proceeds t hbreaks').settingsInForce_eq]
    exact h.initialized (h.loaded hbreaks hlike)

/-- Operations take the same course in related sessions if seeds and random numbers do. -/
theorem attempt_steady (h : Steady R) (op : Operation)
    (hdraws : op.draws = true → Coupled R op.attempt) : Coupled R op.attempt := by
  refine op.attempt_coupled h.toLikeness fun hspecial => ?_
  cases op with
  | init => exact init_coupled h
  | random start stop => exact hdraws rfl
  | seed value => exact hdraws rfl
  | _ => rcases hspecial with h | h <;> cases h

end Operation

/-! ### Calls -/

namespace Call

/-- Entry points have the same outcome in related sessions, whatever the policies are. -/
theorem entry_steady (h : Steady R) (op : Operation)
    (hdraws : op.draws = true → Coupled R op.attempt) :
    Coupled R (operation .entry op).attempt :=
  operation_coupled (op.attempt_steady h hdraws) fun violation => .escalateUnder h .exit violation

/-- The call answers with settings. -/
def tellsSettings : Call → Bool
  | .currentSettings | .environmentSettings => true
  | _ => false

/-- Calls that deal with no settings have the same outcome in related sessions, where the policy is
the same. -/
theorem attempt_steady (h : Steady R)
    (hpolicy : ∀ {s t}, R s t → t.policyInForce = s.policyInForce) {call : Call}
    (hchooses : call.chooses = false) (htells : call.tellsSettings = false)
    (hdraws : ∀ form op, call = operation form op → op.draws = true → Coupled R op.attempt) :
    Coupled R call.attempt := by
  cases call with
  | operation form op =>
    refine operation_coupled (op.attempt_steady h (hdraws form op rfl)) fun violation => ?_
    cases form with
    | returning => exact .pure _
    | failFast => exact .escalate h hpolicy violation
    | entry => exact .escalateUnder h .exit violation
  | escalate violation => exact .escalate h hpolicy violation
  | escalateUnder policy violation => exact .escalateUnder h policy violation
  | orFailFast result =>
    cases result with
    | ok value => exact .pure _
    | error violation => exact .escalate h hpolicy violation
  | orExit result =>
    cases result with
    | ok value => exact .pure _
    | error violation => exact .escalateUnder h .exit violation
  | install settings => cases hchooses
  | currentSettings => cases htells
  | environmentSettings => cases htells

/-- Where the same settings are in effect, they are also told alike. -/
theorem attempt_uniform (h : Uniform R) {call : Call} (hcall : call.chooses = false)
    (hdraws : ∀ form op, call = operation form op → op.draws = true → Coupled R op.attempt) :
    Coupled R call.attempt := by
  have hpolicy : ∀ {s t}, R s t → t.policyInForce = s.policyInForce := by
    intro s t hlike
    rw [policyInForce, policyInForce, h.settingsInForce_eq hlike]
  cases call with
  | currentSettings => exact .bind (.current h) fun _ => .pure _
  | environmentSettings =>
    intro s t hlike
    rw [attempt, on_get_bind, on_get_bind, h.environment_eq hlike]
    exact ⟨rfl, hlike⟩
  | _ => exact attempt_steady h.steady hpolicy hcall rfl hdraws

/-- Choosing settings is accepted in both of two related sessions or in none, if settings are in
effect in both or in none. -/
theorem attempt_install (settings : Settings)
    (hisSome : ∀ {s t}, R s t → t.settings.isSome = s.settings.isSome)
    (hadopted : ∀ {s t}, R s t → R (s.adopted settings) (t.adopted settings)) :
    Coupled R (install settings).attempt := by
  refine .bind (fun s t hlike => ?_) fun _ => .pure _
  have hsome := hisSome hlike
  rw [install_on, install_on]
  cases hs : s.settings with
  | some inEffect =>
    obtain ⟨inEffect', ht⟩ := Option.isSome_iff_exists.1 (hsome.trans (congrArg Option.isSome hs))
    rw [ht]
    exact ⟨rfl, hlike⟩
  | none =>
    rw [hs, Option.isSome_none, Option.isSome_eq_false_iff, Option.isNone_iff_eq_none] at hsome
    rw [hsome]
    cases settings.splitFault? with
    | some fault => exact ⟨rfl, hlike⟩
    | none => exact ⟨rfl, hadopted hlike⟩

end Call

/-! ### Reports -/

namespace Report

/-- A report of which some notices and some of each step are looked at. -/
def viewed (shown : Notice → Bool) (view : Outcome → Outcome) (r : Report) : Report :=
  { r with notices := r.notices.filter shown, steps := r.steps.map view }

/-- Everything is looked at. -/
theorem viewed_all (r : Report) : r.viewed (fun _ => true) id = r := by
  rw [viewed, List.map_id, List.filter_eq_self.2 fun _ _ => rfl]

/-- A step more, of which some is looked at. -/
theorem viewed_cons {shown : Notice → Bool} {view : Outcome → Outcome} (r : Report)
    (outcome : Outcome) : { r with steps := outcome :: r.steps }.viewed shown view =
      { r.viewed shown view with steps := view outcome :: (r.viewed shown view).steps } := rfl

end Report

namespace Session

/-- What is looked at of the reports of two processes that make the same calls is the same if their
sessions stay related, with the same output and the same shown notices, and each call has one
outcome as far as it is looked at.  The relation can take the calls into account that are still to
come, of which there are none once the process has ended. -/
theorem report_viewed_of_lockstep {shown : Notice → Bool} {view : Outcome → Outcome}
    {R : List Call → Session → Session → Prop}
    (hview : ∀ outcome, (view outcome).ending? = outcome.ending?)
    (hleft : ∀ {calls s t}, R calls s t →
      t.console = s.console ∧ t.notices.filter shown = s.notices.filter shown)
    (hnext : ∀ {call calls s t}, R (call :: calls) s t →
      view (call.outcome t) = view (call.outcome s) ∧
        ((call.outcome s).ending? = none → R calls (call.next s) (call.next t)) ∧
        ((call.outcome s).ending? ≠ none → R [] (call.next s) (call.next t)))
    {calls : List Call} {s t : Session} (h : R calls s t) :
    (report calls t).viewed shown view = (report calls s).viewed shown view := by
  induction calls generalizing s t with
  | nil =>
    obtain ⟨hconsole, hnotices⟩ := hleft h
    rw [report_nil, report_nil, Report.viewed, Report.viewed, hconsole, hnotices]
  | cons call calls ih =>
    obtain ⟨houtcome, hgo, hstop⟩ := hnext h
    have hending : (call.outcome t).ending? = (call.outcome s).ending? := by
      rw [← hview, houtcome, hview]
    cases hend : (call.outcome s).ending? with
    | none =>
      rw [report_cons_go hend, report_cons_go (hending.trans hend), Report.viewed_cons,
        Report.viewed_cons, houtcome, ih (hgo hend)]
    | some ending =>
      obtain ⟨hconsole, hnotices⟩ := hleft (hstop (by rw [hend]; exact Option.some_ne_none _))
      rw [report_cons_end hend, report_cons_end (hending.trans hend), Report.viewed,
        Report.viewed, output_congr hconsole, hnotices]

/-- The reports are the same if all notices and outcomes are. -/
theorem report_eq_of_lockstep {R : List Call → Session → Session → Prop}
    (hleft : ∀ {calls s t}, R calls s t → t.console = s.console ∧ t.notices = s.notices)
    (hnext : ∀ {call calls s t}, R (call :: calls) s t →
      call.outcome t = call.outcome s ∧
        ((call.outcome s).ending? = none → R calls (call.next s) (call.next t)) ∧
        ((call.outcome s).ending? ≠ none → R [] (call.next s) (call.next t)))
    {calls : List Call} {s t : Session} (h : R calls s t) : report calls t = report calls s := by
  have hviewed : (report calls t).viewed (fun _ => true) id =
      (report calls s).viewed (fun _ => true) id :=
    report_viewed_of_lockstep (R := R) (fun _ => rfl)
      (fun hlike => ⟨(hleft hlike).1, congrArg (List.filter _) (hleft hlike).2⟩) hnext h
  rw [Report.viewed_all, Report.viewed_all] at hviewed
  exact hviewed

end Session

end ProgramSupport
