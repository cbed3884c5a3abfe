import ProgramSupport.Proofs.Printing.Console
import ProgramSupport.Proofs.Session.Escalation

/-!
# One call of a process

A call writes what it prints, and either goes on or ends the process.  This file provides

* `Operation.rendering` and `Call.rendering` — the text that an operation or a call prints in a
  session;
* `Call.outcome` and `Call.next` — how a call ends, and the session it leaves;
* `Call.Cut` — a call that breaks off although it has to end the process, or as an entry point;
* `Call.Course` — the courses that an attempt can take, and `Call.attempt_course`;
* `Call.exits` — a call that has to end the process does, behind all output, unless it is cut;
* `Call.goesOn` and `Call.next_carries` — every other call that is not cut goes on, behind its
  rendering;
* `Call.outcome_of_cut` — what becomes of a call that is cut;
* `Call.next_quiet` and `Call.exits_quiet` — in a quiet session, no call leaves a notice but the
  diagnostic.

Which course an attempt takes depends on whether it finds a violation: `Call.attempt_violation`
and `Call.attempt_answer`.
-/

namespace ProgramSupport

open ProgramSupport.Action Session

/-! ### Output of an operation -/

/-- The text that an operation prints in a session; none for a null argument. -/
def Operation.rendering (s : Session) : Operation → List UInt8
  | .print value newline => value.render newline
  | .printString r newline =>
    match s.string? r with
    | some value => (Printable.string value).render newline
    | none => []
  | .printArray r newline =>
    match s.array? r with
    | some value => (Printable.array value).render newline
    | none => []
  | _ => []

/-- The text that a call prints in a session. -/
def Call.rendering (s : Session) : Call → List UInt8
  | .operation _ op => op.rendering s
  | _ => []

/-- An operation ends behind its rendering, and has printed nothing if it finds a violation. -/
def Rendered (written rendering : List UInt8)
    (after : Except SplitCharacter (Except Violation Answer) × Session) : Prop :=
  after.2.console.Carries (written ++ rendering) ∧
    ∀ violation, after.1 = .ok (.error violation) → rendering = []

variable {s : Session} {written : List UInt8}

theorem print_rendered (h : s.console.Carries written) (value : Printable) (newline : Bool) :
    Rendered written (value.render newline) ((Session.print value newline).on s) := by
  obtain ⟨hok, hcarries⟩ := Console.print_writes h value newline
  have hprint : (Session.print value newline).on s =
      (.ok (.ok .unit), { s with console := (Writer.print s.console value newline).2 }) := by
    unfold Session.print
    rw [on_get_bind]
    cases hwriter : Writer.print s.console value newline with
    | mk result console =>
      rw [hwriter] at hok
      simp only at hok ⊢
      rw [hok]
      rfl
  rw [hprint]
  refine ⟨hcarries, ?_⟩
  intro violation hviolation
  cases hviolation

/-- A null argument is found before anything is printed. -/
theorem null_rendered (h : s.console.Carries written) (violation : Violation) :
    Rendered written [] ((pure (.error violation) : Action (Except Violation Answer)).on s) := by
  refine ⟨?_, fun _ _ => rfl⟩
  rw [List.append_nil]
  exact h

theorem Operation.attempt_rendered (h : s.console.Carries written) (op : Operation) :
    Rendered written (op.rendering s) (op.attempt.on s) := by
  cases hprints : op.prints with
  | false =>
    have hconsole := (op.attempt_keeps hprints s).1.2
    have hrendering : op.rendering s = [] := by cases op <;> first | rfl | cases hprints
    refine ⟨?_, fun _ _ => hrendering⟩
    rw [hrendering, List.append_nil, hconsole]
    exact h
  | true =>
    cases op with
    | print value newline => exact print_rendered h value newline
    | printString r newline =>
      rw [Operation.attempt, withString, on_get_bind, Operation.rendering]
      cases s.string? r with
      | none => exact null_rendered h _
      | some value => exact print_rendered h _ newline
    | printArray r newline =>
      rw [Operation.attempt, withArray, on_get_bind, Operation.rendering]
      cases s.array? r with
      | none => exact null_rendered h _
      | some value => exact print_rendered h _ newline
    | _ => cases hprints

/-! ### Attempts -/

namespace Call

/-- A call that finds a violation returns it, or escalates it under its policy, in a session that
has proceeded without output. -/
theorem attempt_violation (h : s.console.Carries written) {call : Call} {violation : Violation}
    (hfound : call.violation? s = some violation) :
    ∃ t, Proceeds s t ∧ t.console.Carries written ∧
      call.rendering s = [] ∧
      call.attempt.on s = match call.policy? s.policyInForce with
        | none => (.ok (.refused violation), t)
        | some policy => (Session.escalateUnder policy violation).on t := by
  have hsame := proceeds_frame.refl s
  cases call with
  | operation form op =>
    obtain ⟨hproceeds, -⟩ := op.attempt_proceeds s
    obtain ⟨hcarries, hnothing⟩ := op.attempt_rendered h
    cases hon : op.attempt.on s with
    | mk result t =>
      rw [hon] at hproceeds hcarries hnothing
      simp only [violation?, hon] at hfound
      cases result with
      | error fault => cases hfound
      | ok result =>
        cases result with
        | ok answer => cases hfound
        | error found =>
          cases hfound
          have hrendering := hnothing violation rfl
          rw [hrendering, List.append_nil] at hcarries
          refine ⟨t, hproceeds, hcarries, hrendering, ?_⟩
          have hforce : t.policyInForce = s.policyInForce := by
            rw [policyInForce, policyInForce, hproceeds.settingsInForce_eq]
          rw [attempt, on_bind_ok hon, Form.deliver_error_on, hforce]
          rfl
  | escalate found =>
    cases hfound
    exact ⟨s, hsame, h, rfl, escalate_on violation s⟩
  | escalateUnder policy found =>
    cases hfound
    exact ⟨s, hsame, h, rfl, rfl⟩
  | orFailFast result =>
    cases result with
    | ok value => cases hfound
    | error found =>
      cases hfound
      exact ⟨s, hsame, h, rfl, escalate_on violation s⟩
  | orExit result =>
    cases result with
    | ok value => cases hfound
    | error found =>
      cases hfound
      exact ⟨s, hsame, h, rfl, rfl⟩
  | install settings => cases hfound
  | currentSettings => cases hfound
  | environmentSettings => cases hfound

/-- A call that finds no violation and does not choose settings has an answer, or breaks off where
the settings do, in a session that has proceeded behind its rendering. -/
theorem attempt_answer (h : s.console.Carries written) {call : Call}
    (hfound : call.violation? s = none) (hinstall : ∀ settings, call ≠ .install settings) :
    ∃ t, Proceeds s t ∧ t.console.Carries (written ++ call.rendering s) ∧
      ((∃ fault, s.breaks? = some fault ∧ call.attempt.on s = (.error fault, t)) ∨
        ∃ answer, call.attempt.on s = (.ok (.answered answer), t)) := by
  have hsame := proceeds_frame.refl s
  have hnothing : s.console.Carries (written ++ []) := by
    rw [List.append_nil]
    exact h
  cases call with
  | operation form op =>
    obtain ⟨hproceeds, hbreaks⟩ := op.attempt_proceeds s
    obtain ⟨hcarries, -⟩ := op.attempt_rendered h
    cases hon : op.attempt.on s with
    | mk result t =>
      rw [hon] at hproceeds hbreaks hcarries
      simp only [violation?, hon] at hfound
      refine ⟨t, hproceeds, hcarries, ?_⟩
      cases result with
      | error fault =>
        rw [attempt, on_bind_error hon]
        exact .inl ⟨fault, hbreaks fault rfl, rfl⟩
      | ok result =>
        cases result with
        | error found => cases hfound
        | ok answer =>
          rw [attempt, on_bind_ok hon, Form.deliver_ok_on]
          exact .inr ⟨answer, rfl⟩
  | escalate found => cases hfound
  | escalateUnder policy found => cases hfound
  | orFailFast result =>
    cases result with
    | ok value => exact ⟨s, hsame, hnothing, .inr ⟨_, rfl⟩⟩
    | error found => cases hfound
  | orExit result =>
    cases result with
    | ok value => exact ⟨s, hsame, hnothing, .inr ⟨_, rfl⟩⟩
    | error found => cases hfound
  | install settings => exact absurd rfl (hinstall settings)
  | currentSettings =>
    rw [attempt, on_bind, current_on]
    cases hbreaks : s.breaks? with
    | some fault => exact ⟨s, hsame, hnothing, .inl ⟨fault, rfl, rfl⟩⟩
    | none =>
      rw [← loaded_console] at hnothing
      exact ⟨s.loaded, loaded_proceeds s hbreaks, hnothing, .inr ⟨_, rfl⟩⟩
  | environmentSettings => exact ⟨s, hsame, hnothing, .inr ⟨_, rfl⟩⟩

/-! ### Performing -/

/-- How a call ends. -/
def outcome (call : Call) (s : Session) : Outcome := (call.perform.run s).1

/-- The session that a call leaves. -/
def next (call : Call) (s : Session) : Session := (call.perform.run s).2

theorem perform_eq (call : Call) (s : Session) :
    call.perform.run s = (call.outcome s, call.next s) := rfl

/-- The call breaks off, and is one of an entry point, which cannot throw, or has to end the
process by a violation. -/
def Cut (call : Call) (s : Session) : Prop :=
  (∃ fault, (call.attempt.on s).1 = .error fault) ∧
    (call.isEntry = true ∨ (call.exitViolation? s).isSome = true)

theorem perform_run (call : Call) (s : Session) :
    call.perform.run s = match call.attempt.on s with
      | (.ok outcome, t) => (outcome, t)
      | (.error fault, t) =>
        if call.isEntry = true then (.aborted, { t with notices := t.notices ++ [.aborted] })
        else (.brokenOff fault, t) := by
  have hrun : call.attempt.run.run s = call.attempt.on s := rfl
  unfold perform
  rw [StateT.run_bind, hrun]
  cases call.attempt.on s with
  | mk result t =>
    cases result with
    | ok outcome => rfl
    | error fault =>
      by_cases hentry : call.isEntry = true
      · simp only [if_pos hentry]
        rfl
      · simp only [if_neg hentry]
        rfl

theorem perform_run_ok {call : Call} {outcome : Outcome} {t : Session}
    (h : call.attempt.on s = (.ok outcome, t)) : call.outcome s = outcome ∧ call.next s = t := by
  rw [Call.outcome, next, perform_run, h]
  exact ⟨rfl, rfl⟩

theorem perform_run_brokenOff {call : Call} {fault : SplitCharacter} {t : Session}
    (h : call.attempt.on s = (.error fault, t)) (hentry : call.isEntry = false) :
    call.outcome s = .brokenOff fault ∧ call.next s = t := by
  rw [Call.outcome, next, perform_run, h, hentry]
  exact ⟨rfl, rfl⟩

theorem perform_run_aborted {call : Call} {fault : SplitCharacter} {t : Session}
    (h : call.attempt.on s = (.error fault, t)) (hentry : call.isEntry = true) :
    call.outcome s = .aborted := by
  rw [Call.outcome, perform_run, h]
  simp only [if_pos hentry]

theorem next_of_aborted {call : Call} {fault : SplitCharacter} {t : Session}
    (h : call.attempt.on s = (.error fault, t)) (hentry : call.isEntry = true) :
    call.next s = { t with notices := t.notices ++ [.aborted] } := by
  rw [next, perform_run, h]
  simp only [if_pos hentry]

/-- What breaks off goes on only where it can be thrown. -/
theorem next_of_brokenOff {call : Call} {fault : SplitCharacter} {t : Session}
    (h : call.attempt.on s = (.error fault, t)) (hgo : (call.outcome s).ending? = none) :
    call.next s = t := by
  cases hentry : call.isEntry with
  | false => exact (perform_run_brokenOff h hentry).2
  | true =>
    rw [perform_run_aborted h hentry] at hgo
    cases hgo

theorem exitViolation?_eq_some_iff {call : Call} {violation : Violation} :
    call.exitViolation? s = some violation ↔
      call.policy? s.policyInForce = some .exit ∧ call.violation? s = some violation := by
  unfold exitViolation?
  split
  · next hpolicy => exact ⟨fun hfound => ⟨hpolicy, hfound⟩, fun hfound => hfound.2⟩
  · next hpolicy =>
    constructor
    · intro hfound
      cases hfound
    · intro hfound
      exact absurd hfound.1 hpolicy

/-- The courses that an attempt of a call can take in a session with this output. -/
inductive Course (call : Call) (s : Session) (written : List UInt8) :
    Except SplitCharacter Outcome × Session → Prop where
  /-- It breaks off where the settings do, or in choosing settings. -/
  | brokenOff (t : Session) (fault : SplitCharacter) (hproceeds : Proceeds s t)
      (hcarries : t.console.Carries (written ++ call.rendering s))
      (hfault : s.breaks? = some fault ∨ ∃ settings, call = .install settings) :
      Course call s written (.error fault, t)
  /-- It finds no violation that exits. -/
  | wentOn (t : Session) (outcome : Outcome) (hproceeds : Proceeds s t)
      (hcarries : t.console.Carries (written ++ call.rendering s))
      (hexit : call.exitViolation? s = none) (hgo : outcome.ending? = none) :
      Course call s written (.ok outcome, t)
  /-- It lets settings come into effect. -/
  | installed (settings : Settings) (answer : Answer) (hcall : call = .install settings) :
      Course call s written (.ok (.answered answer), s.adopted settings)
  /-- It finds a violation and exits by it. -/
  | exited (t : Session) (violation : Violation) (hproceeds : Proceeds s t)
      (hcarries : t.console.Carries written)
      (hexit : call.exitViolation? s = some violation) :
      Course call s written (.ok (.exited violation), t.escalated .exit violation)

theorem violation_course (h : s.console.Carries written) {call : Call} {violation : Violation}
    (hfound : call.violation? s = some violation) :
    call.Course s written (call.attempt.on s) := by
  obtain ⟨t, hproceeds, hcarries, hrendering, hattempt⟩ := attempt_violation h hfound
  have hbehind : t.console.Carries (written ++ call.rendering s) := by
    rw [hrendering, List.append_nil]
    exact hcarries
  rw [hattempt]
  cases hpolicy : call.policy? s.policyInForce with
  | none =>
    have hexit : call.exitViolation? s = none := by
      rw [exitViolation?, hpolicy]
      rfl
    exact .wentOn t _ hproceeds hbehind hexit rfl
  | some policy =>
    simp only [escalateUnder_on]
    cases hbreaks : t.breaks? with
    | some fault =>
      have hfault : s.breaks? = some fault := by rw [← hproceeds.breaks_eq, hbreaks]
      exact .brokenOff t fault hproceeds hbehind (.inl hfault)
    | none =>
      cases policy with
      | exit =>
        exact .exited t violation hproceeds hcarries
          (exitViolation?_eq_some_iff.2 ⟨hpolicy, hfound⟩)
      | panic =>
        have hexit : call.exitViolation? s = none := by
          rw [exitViolation?, hpolicy]
          rfl
        have hthrown : Keeps t (t.escalated .panic violation) :=
          keeps_frame.trans (keeps_frame.loaded t hbreaks) (keeps_frame.recorded t.loaded _)
        rw [← hthrown.2] at hbehind
        exact .wentOn _ _ (proceeds_frame.trans hproceeds hthrown.1) hbehind hexit rfl

theorem install_course (h : s.console.Carries written) (settings : Settings) :
    (install settings).Course s written ((install settings).attempt.on s) := by
  have hsame := proceeds_frame.refl s
  have hnothing : s.console.Carries (written ++ []) := by
    rw [List.append_nil]
    exact h
  rw [attempt, on_bind, install_on]
  cases s.settings with
  | some inEffect => exact .wentOn s _ hsame hnothing rfl rfl
  | none =>
    cases settings.splitFault? with
    | some fault => exact .brokenOff s fault hsame hnothing (.inr ⟨settings, rfl⟩)
    | none => exact .installed settings _ rfl

/-- Every attempt takes one of the courses. -/
theorem attempt_course (h : s.console.Carries written) (call : Call) :
    call.Course s written (call.attempt.on s) := by
  cases hfound : call.violation? s with
  | some violation => exact violation_course h hfound
  | none =>
    by_cases hinstall : ∃ settings, call = .install settings
    · obtain ⟨settings, rfl⟩ := hinstall
      exact install_course h settings
    · have hexit : call.exitViolation? s = none := by
        unfold exitViolation?
        split
        · exact hfound
        · rfl
      obtain ⟨t, hproceeds, hcarries, hattempt⟩ :=
        attempt_answer h hfound fun settings heq => hinstall ⟨settings, heq⟩
      rcases hattempt with ⟨fault, hfault, hattempt⟩ | ⟨answer, hattempt⟩
      · rw [hattempt]
        exact .brokenOff t fault hproceeds hcarries (.inl hfault)
      · rw [hattempt]
        exact .wentOn t _ hproceeds hcarries hexit rfl

/-! ### What follows for the process -/

/-- A call that has to end the process by a violation does, behind all that was written, and
leaves the diagnostic as the last notice. -/
theorem exits (h : s.console.Carries written) {call : Call} {violation : Violation}
    (hexit : call.exitViolation? s = some violation) (hcut : ¬call.Cut s) :
    call.outcome s = .exited violation ∧ (call.next s).console.Carries written ∧
      ∃ earlier, (call.next s).notices = earlier ++ [.diagnostic violation] := by
  have hcourse := attempt_course h call
  generalize hon : call.attempt.on s = after at hcourse
  cases hcourse with
  | brokenOff t fault hproceeds hcarries hfault =>
    have hisCut : call.Cut s := by
      refine ⟨⟨fault, by rw [hon]⟩, .inr ?_⟩
      rw [hexit]
      rfl
    exact absurd hisCut hcut
  | wentOn t outcome hproceeds hcarries hnone hgo =>
    rw [hexit] at hnone
    cases hnone
  | installed settings answer hcall =>
    subst hcall
    cases (exitViolation?_eq_some_iff.1 hexit).2
  | exited t found hproceeds hcarries hfound =>
    rw [hexit] at hfound
    cases hfound
    obtain ⟨houtcome, hnext⟩ := perform_run_ok hon
    rw [hnext]
    exact ⟨houtcome, (Console.flush_writes hcarries).2, _, rfl⟩

/-- A call that has not to end the process goes on, unless it is cut. -/
theorem goesOn (h : s.console.Carries written) {call : Call}
    (hexit : call.exitViolation? s = none) (hcut : ¬call.Cut s) :
    (call.outcome s).ending? = none := by
  have hcourse := attempt_course h call
  generalize hon : call.attempt.on s = after at hcourse
  cases hcourse with
  | brokenOff t fault hproceeds hcarries hfault =>
    cases hentry : call.isEntry with
    | true => exact absurd ⟨⟨fault, by rw [hon]⟩, .inl hentry⟩ hcut
    | false =>
      rw [(perform_run_brokenOff hon hentry).1]
      rfl
  | wentOn t outcome hproceeds hcarries hnone hgo =>
    rw [(perform_run_ok hon).1]
    exact hgo
  | installed settings answer hcall =>
    rw [(perform_run_ok hon).1]
    rfl
  | exited t violation hproceeds hcarries hfound =>
    rw [hexit] at hfound
    cases hfound

/-- A call that goes on, and is not cut, has found nothing that exits. -/
theorem exitViolation?_of_goesOn (h : s.console.Carries written) {call : Call}
    (hgo : (call.outcome s).ending? = none) (hcut : ¬call.Cut s) :
    call.exitViolation? s = none := by
  cases hexit : call.exitViolation? s with
  | none => rfl
  | some violation =>
    rw [(exits h hexit hcut).1] at hgo
    cases hgo

/-- A call after which the process goes on has written its rendering, and leaves the
environment. -/
theorem next_carries (h : s.console.Carries written) {call : Call}
    (hgo : (call.outcome s).ending? = none) :
    (call.next s).console.Carries (written ++ call.rendering s) ∧
      (call.next s).environment = s.environment := by
  have hcourse := attempt_course h call
  generalize hon : call.attempt.on s = after at hcourse
  cases hcourse with
  | brokenOff t fault hproceeds hcarries hfault =>
    rw [next_of_brokenOff hon hgo]
    exact ⟨hcarries, hproceeds.environment_eq⟩
  | wentOn t outcome hproceeds hcarries hnone _ =>
    rw [(perform_run_ok hon).2]
    exact ⟨hcarries, hproceeds.environment_eq⟩
  | installed settings answer hcall =>
    subst hcall
    have hrendering : (install settings).rendering s = [] := rfl
    rw [(perform_run_ok hon).2, hrendering, List.append_nil]
    exact ⟨h, rfl⟩
  | exited t violation hproceeds hcarries hfound =>
    rw [(perform_run_ok hon).1] at hgo
    cases hgo

/-- A call that is cut is aborted, or passes the violation that has to end the process. -/
theorem outcome_of_cut {call : Call} (hcut : call.Cut s) :
    call.outcome s = .aborted ∨
      (call.outcome s).ending? = none ∧ ∃ violation, call.exitViolation? s = some violation := by
  obtain ⟨⟨fault, hbreak⟩, hmust⟩ := hcut
  have hattempt : call.attempt.on s = (.error fault, (call.attempt.on s).2) := Prod.ext hbreak rfl
  cases hentry : call.isEntry with
  | true => exact .inl (perform_run_aborted hattempt hentry)
  | false =>
    rw [hentry] at hmust
    refine .inr ⟨?_, Option.isSome_iff_exists.1 (hmust.resolve_left Bool.noConfusion)⟩
    rw [(perform_run_brokenOff hattempt hentry).1]
    rfl

/-- A call is cut only where settings break off. -/
theorem breaks_of_cut (h : s.console.Carries written) {call : Call} (hcut : call.Cut s) :
    ∃ fault, s.breaks? = some fault := by
  obtain ⟨⟨fault, hbreak⟩, hmust⟩ := hcut
  have hcourse := attempt_course h call
  generalize call.attempt.on s = after at hcourse hbreak
  cases hcourse with
  | brokenOff t found hproceeds hcarries hfault =>
    rcases hfault with hfault | ⟨settings, rfl⟩
    · exact ⟨found, hfault⟩
    · rcases hmust with hentry | hexit
      · cases hentry
      · cases hexit
  | wentOn t outcome hproceeds hcarries hnone hgo => cases hbreak
  | installed settings answer hcall => cases hbreak
  | exited t violation hproceeds hcarries hfound => cases hbreak

/-- Where settings break off, taking an integer from a violation is cut. -/
theorem orExit_cut {fault : SplitCharacter} (h : s.breaks? = some fault) (violation : Violation) :
    (orExit (.error violation)).Cut s := by
  have hattempt : (orExit (.error violation)).attempt.on s =
      (Session.escalateUnder .exit violation).on s := rfl
  refine ⟨⟨fault, ?_⟩, .inr rfl⟩
  rw [hattempt, escalateUnder_on, h]

/-- A call that does not choose a log filter. -/
def Plain (call : Call) : Prop := ∀ settings, call = .install settings → settings.logFilter = none

/-- In a quiet session a call that goes on leaves no notice. -/
theorem next_quiet (h : s.console.Carries written) (hquiet : s.Quiet) {call : Call}
    (hplain : call.Plain) (hgo : (call.outcome s).ending? = none) :
    (call.next s).notices = s.notices ∧ (call.next s).Quiet := by
  have hcourse := attempt_course h call
  generalize hon : call.attempt.on s = after at hcourse
  cases hcourse with
  | brokenOff t fault hproceeds hcarries hfault =>
    rw [next_of_brokenOff hon hgo]
    exact hproceeds.quiet hquiet
  | wentOn t outcome hproceeds hcarries hnone _ =>
    rw [(perform_run_ok hon).2]
    exact hproceeds.quiet hquiet
  | installed settings answer hcall =>
    have hlog := hplain settings hcall
    rw [(perform_run_ok hon).2]
    refine ⟨?_, hlog, fun hnone => by cases hnone⟩
    show s.notices ++ settings.filterNotices = s.notices
    rw [Settings.filterNotices_of_logFilter hlog, List.append_nil]
  | exited t violation hproceeds hcarries hfound =>
    rw [(perform_run_ok hon).1] at hgo
    cases hgo

/-- In a quiet session a call that exits leaves no notice but the diagnostic. -/
theorem exits_quiet (h : s.console.Carries written) (hquiet : s.Quiet) {call : Call}
    {violation : Violation} (hexited : call.outcome s = .exited violation) :
    (call.next s).notices = s.notices ++ [.diagnostic violation] := by
  have hcourse := attempt_course h call
  generalize hon : call.attempt.on s = after at hcourse
  cases hcourse with
  | brokenOff t fault hproceeds hcarries hfault =>
    cases hentry : call.isEntry with
    | true =>
      rw [perform_run_aborted hon hentry] at hexited
      cases hexited
    | false =>
      rw [(perform_run_brokenOff hon hentry).1] at hexited
      cases hexited
  | wentOn t outcome hproceeds hcarries hnone hgo =>
    rw [(perform_run_ok hon).1] at hexited
    rw [hexited] at hgo
    cases hgo
  | installed settings answer hcall =>
    rw [(perform_run_ok hon).1] at hexited
    cases hexited
  | exited t found hproceeds hcarries hfound =>
    rw [(perform_run_ok hon).1] at hexited
    cases hexited
    obtain ⟨hnotices, hstill⟩ := hproceeds.quiet hquiet
    rw [(perform_run_ok hon).2, (escalated_quiet hstill .exit violation).2, hnotices]

end Call

end ProgramSupport
