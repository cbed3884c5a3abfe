import ProgramSupport.Proofs.Session.Settlement
import ProgramSupport.Proofs.Session.Steps

/-!
# Settings come into effect once

The settings of a process are those of the first call that brings any: a call that chooses
settings, or one that needs some.  They stay for the rest of the run, whatever is called, and all
later calls that choose settings are refused.  This file provides

* `Step.brings?`, `Step.brought?`, `Step.warnings` and `Step.succeeds` — what a step does with the
  settings;
* `Session.SettlesOnce` — what a run does with them, where a function of the steps tells what each
  brings;
* `Session.settles_once` — every run does so with the settings that can come into effect, and with
  all settings that are brought just if each of these can come into effect.

Settings cannot come into effect if a part of their log filter is cut inside of a character.  The
call that brings them breaks off then, and leaves it to later calls to bring others.
-/

namespace ProgramSupport

open ProgramSupport.Action Session

namespace Step

/-- The settings that the step would let come into effect if none are. -/
def brings? (step : Step) : Option Settings := step.call.brings? step.before

/-- The settings that the step does let come into effect if none are. -/
def brought? (step : Step) : Option Settings := step.call.brought? step.before

/-- The warnings that the step leaves when it lets settings come into effect. -/
def warnings (step : Step) : List Notice := step.call.warnings step.before

/-- The step chooses settings, and is told that they are in effect. -/
def succeeds (step : Step) : Bool :=
  step.call.chooses && decide (step.outcome = .answered (.flag true))

end Step

namespace Session

/-- The step of a run by which settings come into effect: the first that brings some, unless some
are in effect from the start. -/
def settler? (bring : Step → Option Settings) (calls : List Call) (s : Session) : Option Step :=
  match s.settings with
  | some _ => none
  | none => (steps calls s).find? fun step => (bring step).isSome

/-- Settings come into effect once in a run. -/
structure SettlesOnce (bring : Step → Option Settings) (calls : List Call) (s : Session) :
    Prop where
  /-- A step lets the settings that it brings come into effect if none are, and leaves the
  settings as they are otherwise. -/
  step_settings : ∀ step ∈ steps calls s,
    step.after.settings = step.before.settings.or (bring step)
  /-- The first step that brings settings decides for the whole run. -/
  settings_eq : (left calls s).settings = s.settings.or ((settler? bring calls s).bind bring)
  /-- Settings in effect stay. -/
  lasting : ∀ step ∈ steps calls s, ∀ settings, step.after.settings = some settings →
    (left calls s).settings = some settings
  /-- Choosing settings succeeds just where none are in effect. -/
  succeeds_iff : ∀ step ∈ steps calls s, step.call.chooses = true →
    (step.succeeds = true ↔ step.before.settings = none ∧ (bring step).isSome = true)
  /-- Where some are in effect, it is refused and changes nothing. -/
  refused : ∀ step ∈ steps calls s, step.call.chooses = true → step.before.settings ≠ none →
    step.outcome = .answered (.flag false) ∧ step.after = step.before
  succeeds_once : ((steps calls s).filter Step.succeeds).length ≤ 1
  /-- The warnings of the step by which settings come into effect are the first notices of the
  run, and there are no others. -/
  notices_eq : ∃ rest, Unwarned rest ∧
    (left calls s).notices = s.notices ++ (settler? bring calls s).elim [] Step.warnings ++ rest

end Session

/-! ### Steps -/

namespace Step

/-- A step that chooses settings is refused where some are in effect, and succeeds otherwise if
they can come into effect. -/
theorem chosen {step : Step} (h : step.call.chooses = true) :
    (step.succeeds = true ↔ step.before.settings = none ∧ step.brought?.isSome = true) ∧
      (step.before.settings ≠ none →
        step.outcome = .answered (.flag false) ∧ step.after = step.before) := by
  obtain ⟨call, s⟩ := step
  cases call with
  | install settings =>
    have hperformed := Call.install_performed settings s
    rw [Call.perform_eq] at hperformed
    cases hs : s.settings with
    | some inEffect =>
      rw [hs] at hperformed
      obtain ⟨houtcome, hnext⟩ := Prod.mk.inj hperformed
      simp [succeeds, outcome, after, houtcome, hnext]
    | none =>
      rw [hs] at hperformed
      cases hsplit : settings.splitFault? with
      | some fault =>
        rw [hsplit] at hperformed
        obtain ⟨houtcome, -⟩ := Prod.mk.inj hperformed
        simp [succeeds, outcome, houtcome, brought?, Call.brought?, Call.brings?, hsplit]
      | none =>
        rw [hsplit] at hperformed
        obtain ⟨houtcome, -⟩ := Prod.mk.inj hperformed
        simp [succeeds, h, outcome, houtcome, brought?, Call.brought?, Call.brings?, hsplit]
  | _ => cases h

theorem after_settings (step : Step) :
    step.after.settings = step.before.settings.or step.brought? :=
  (Call.next_settles step.call step.before).settings_eq

theorem settings_of_succeeds {step : Step} (h : step.succeeds = true) :
    step.before.settings = none ∧ step.after.settings.isSome = true := by
  have hchooses : step.call.chooses = true := by
    unfold succeeds at h
    exact (Bool.and_eq_true_iff.1 h).1
  obtain ⟨hnone, hbrought⟩ := (chosen hchooses).1.1 h
  refine ⟨hnone, ?_⟩
  rw [after_settings, hnone]
  exact hbrought

end Step

/-! ### Runs -/

namespace Session

variable {s : Session} {bring : Step → Option Settings}

/-- Settings in effect stay, and no warning is left any more. -/
structure Remains (s t : Session) : Prop where
  settings_eq : ∀ settings, s.settings = some settings → t.settings = some settings
  notices_eq : s.settings.isSome = true → ∃ rest, Unwarned rest ∧ t.notices = s.notices ++ rest

theorem Remains.isSome {s t : Session} (h : Remains s t) (hs : s.settings.isSome = true) :
    t.settings.isSome = true := by
  obtain ⟨settings, hsettings⟩ := Option.isSome_iff_exists.1 hs
  rw [h.settings_eq settings hsettings]
  rfl

theorem Remains.refl (s : Session) : Remains s s :=
  ⟨fun _ h => h, fun _ => ⟨[], .nil, (List.append_nil _).symm⟩⟩

theorem Remains.trans {s t u : Session} (h : Remains s t) (h' : Remains t u) : Remains s u := by
  refine ⟨fun settings hs => h'.settings_eq settings (h.settings_eq settings hs), ?_⟩
  intro hs
  obtain ⟨rest, hrest, hnotices⟩ := h.notices_eq hs
  obtain ⟨rest', hrest', hnotices'⟩ := h'.notices_eq (h.isSome hs)
  refine ⟨rest ++ rest', hrest.append hrest', ?_⟩
  rw [hnotices', hnotices, List.append_assoc]

theorem next_remains (call : Call) (s : Session) : Remains s (call.next s) := by
  have hsettles := Call.next_settles call s
  constructor
  · intro settings hs
    rw [hsettles.settings_eq, hs, Option.some_or]
  · intro hs
    obtain ⟨rest, hrest, hnotices, -⟩ := hsettles.notices_eq
    refine ⟨rest, hrest, ?_⟩
    rw [if_neg, List.append_nil] at hnotices
    · exact hnotices
    · rintro ⟨hnone, -⟩
      rw [hnone] at hs
      cases hs

/-- Settings in effect at some step are in effect at the end. -/
theorem left_remains (calls : List Call) (s : Session) :
    Remains s (left calls s) ∧
      ∀ step ∈ steps calls s, Remains s step.before ∧ Remains step.after (left calls s) :=
  left_along Remains.refl Remains.trans next_remains calls s

/-- Where settings are in effect, choosing settings does not succeed any more. -/
theorem filter_succeeds_eq_nil {calls : List Call} (hs : s.settings.isSome = true) :
    (steps calls s).filter Step.succeeds = [] := by
  obtain ⟨settings, hsettings⟩ := Option.isSome_iff_exists.1 hs
  apply List.filter_eq_nil_iff.2
  intro step hstep hsucceeds
  have hbefore := ((left_remains calls s).2 step hstep).1.settings_eq settings hsettings
  rw [(Step.settings_of_succeeds hsucceeds).1] at hbefore
  cases hbefore

theorem succeeds_once (calls : List Call) (s : Session) :
    ((steps calls s).filter Step.succeeds).length ≤ 1 := by
  induction calls generalizing s with
  | nil => simp
  | cons call calls ih =>
    cases hend : (call.outcome s).ending? with
    | some ending =>
      rw [steps_cons_end hend]
      exact List.length_filter_le _ _
    | none =>
      rw [steps_cons_go hend]
      cases hsucceeds : Step.succeeds ⟨call, s⟩ with
      | false =>
        rw [List.filter_cons_of_neg (by simp [hsucceeds])]
        exact ih _
      | true =>
        have hset : (call.next s).settings.isSome = true :=
          (Step.settings_of_succeeds hsucceeds).2
        rw [List.filter_cons_of_pos hsucceeds, filter_succeeds_eq_nil hset]
        exact Nat.le_refl 1

theorem settler?_of_settings {settings : Settings} (hs : s.settings = some settings)
    (calls : List Call) : settler? bring calls s = none := by
  rw [settler?, hs]

theorem settler?_of_unset (hs : s.settings = none) (calls : List Call) :
    settler? bring calls s = (steps calls s).find? fun step => (bring step).isSome := by
  rw [settler?, hs]

/-- The settings and the warnings of a run are those of the first step that brings settings. -/
theorem left_settles {calls : List Call}
    (hagree : ∀ step ∈ steps calls s, step.before.settings = none → bring step = step.brought?) :
    (left calls s).settings = s.settings.or ((settler? bring calls s).bind bring) ∧
      ∃ rest, Unwarned rest ∧ (left calls s).notices =
        s.notices ++ (settler? bring calls s).elim [] Step.warnings ++ rest := by
  induction calls generalizing s with
  | nil =>
    have hnobody : settler? bring [] s = none := by
      unfold settler?
      cases s.settings <;> rfl
    rw [hnobody]
    exact ⟨(Option.or_none).symm, [], .nil, by simp⟩
  | cons call calls ih =>
    cases hs : s.settings with
    | some settings =>
      obtain ⟨hsettings, hnotices⟩ := (left_remains (call :: calls) s).1
      obtain ⟨rest, hrest, hnotices⟩ := hnotices (by rw [hs]; rfl)
      rw [settler?_of_settings hs, hsettings settings hs, Option.some_or]
      exact ⟨rfl, rest, hrest, by simp [hnotices]⟩
    | none =>
      obtain ⟨-, hsettings, rest, hrest, hnotices, hunset⟩ := Call.next_settles call s
      have hbring : bring ⟨call, s⟩ = call.brought? s := hagree _ (mem_steps_cons call calls s) hs
      rw [settler?_of_unset hs]
      rw [hs, Option.none_or] at hsettings
      cases hbrought : call.brought? s with
      | some settings =>
        -- This step brings settings; nothing later in the run does.
        rw [hbrought] at hbring hsettings
        have hlast := ((left_remains (call :: calls) s).2 _ (mem_steps_cons call calls s)).2
        obtain ⟨rest', hrest', hnotices'⟩ := hlast.notices_eq (by
          show (call.next s).settings.isSome = true
          rw [hsettings]
          rfl)
        rw [steps, List.find?_cons_of_pos (by rw [hbring]; rfl)]
        refine ⟨?_, rest ++ rest', hrest.append hrest', ?_⟩
        · rw [hlast.settings_eq settings hsettings, Option.bind_some, hbring]
          rfl
        · rw [hnotices', ← List.append_assoc]
          show (call.next s).notices ++ rest' = _
          rw [hnotices, if_pos ⟨hs, by rw [hbrought]; rfl⟩]
          rfl
      | none =>
        rw [hbrought] at hbring hsettings
        rw [hbrought, if_neg (by simp), List.append_nil] at hnotices
        cases hend : (call.outcome s).ending? with
        | some ending =>
          rw [steps_cons_end hend, left_cons_end hend, hsettings,
            List.find?_cons_of_neg (by simp [hbring])]
          exact ⟨rfl, rest, hrest, by simp [hnotices]⟩
        | none =>
          have hrestAgree : ∀ step ∈ steps calls (call.next s),
              step.before.settings = none → bring step = step.brought? := by
            intro step hstep
            refine hagree step ?_
            rw [steps_cons_go hend]
            exact List.mem_cons_of_mem _ hstep
          have hlater := ih hrestAgree
          rw [settler?_of_unset hsettings, hsettings, hnotices, hunset hend hsettings,
            List.append_nil] at hlater
          rw [steps_cons_go hend, left_cons_go hend, List.find?_cons_of_neg (by simp [hbring])]
          exact hlater

theorem settlesOnce_of_agree {calls : List Call}
    (hagree : ∀ step ∈ steps calls s, step.before.settings = none → bring step = step.brought?) :
    SettlesOnce bring calls s := by
  obtain ⟨hsettings, hnotices⟩ := left_settles hagree
  refine ⟨?_, hsettings, ?_, ?_, ?_, succeeds_once calls s, hnotices⟩
  · intro step hstep
    rw [step.after_settings]
    cases hs : step.before.settings with
    | some settings => rfl
    | none => rw [hagree step hstep hs]
  · intro step hstep settings hs
    exact ((left_remains calls s).2 step hstep).2.settings_eq settings hs
  · intro step hstep hchooses
    rw [(Step.chosen hchooses).1]
    constructor
    · rintro ⟨hs, hbrought⟩
      rw [hagree step hstep hs]
      exact ⟨hs, hbrought⟩
    · rintro ⟨hs, hbring⟩
      rw [hagree step hstep hs] at hbring
      exact ⟨hs, hbring⟩
  · intro step hstep hchooses hs
    exact (Step.chosen hchooses).2 hs

/-- In every run, settings come into effect once: those of the first step that brings settings
which can come into effect.  All settings that are brought do so just if each of them can, where
none are in effect yet. -/
theorem settles_once (calls : List Call) (s : Session) :
    SettlesOnce Step.brought? calls s ∧
      (SettlesOnce Step.brings? calls s ↔
        ∀ step ∈ steps calls s, step.before.settings = none →
          ∀ settings, step.brings? = some settings → settings.splitFault? = none) := by
  have hfilter (step : Step) : step.brought? =
      step.brings?.filter fun settings => settings.splitFault?.isNone := rfl
  refine ⟨settlesOnce_of_agree fun _ _ _ => rfl, ?_, ?_⟩
  · intro h step hstep hs settings hbrings
    have hafter := h.step_settings step hstep
    rw [step.after_settings, hs, Option.none_or, Option.none_or, hfilter, hbrings] at hafter
    have hcan := (Option.filter_eq_some_iff.1 hafter).2
    exact Option.isNone_iff_eq_none.1 hcan
  · intro h
    refine settlesOnce_of_agree fun step hstep hs => ?_
    rw [hfilter]
    cases hbrings : step.brings? with
    | none => rfl
    | some settings =>
      have hcan := h step hstep hs settings hbrings
      rw [Option.filter_some, hcan]
      rfl

/-- The filter begins with a blank of three bytes, by which the end of the target is shifted into
the blank.  So asking for the settings does not let them come into effect. -/
theorem not_settlesOnce_blank_filter :
    ¬SettlesOnce Step.brings? [.currentSettings, .install {}]
      { environment := [("TERN_LOG", .ofText "　a=5")], input := .stream [],
        entropy := .cyclic #[] } := by
  intro hsettles
  have hafter := hsettles.step_settings _ (mem_steps_cons .currentSettings [.install {}] _)
  revert hafter
  decide +kernel

end Session

end ProgramSupport
