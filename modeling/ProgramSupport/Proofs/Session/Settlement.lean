import ProgramSupport.Proofs.Session.Calls

/-!
# How settings come into effect

Settings come into effect by a call that chooses them, or by one that needs some.  This file
provides

* `Call.chooses` — a call that chooses settings;
* `Operation.needsSettings`, `Call.escalates` and `Call.needsSettings` — what needs settings;
* `Call.brings?` — the settings that a call would let come into effect, and `Call.brought?` — the
  same without those of which the log filter cannot be cut;
* `Notice.isWarning` and `Call.warnings` — the warning about the environment, and the notices that
  a call leaves when it lets settings come into effect;
* `Session.Stays` — a session whose settings stay as they are, and `Action.Settled` — what an
  action does to the settings, if it needs them or not;
* `Operation.attempt_settled` and `Call.attempt_settled` — operations, and calls that choose no
  settings, do with the settings what they need;
* `Call.next_settles` — the settings after a call are those before it, and if there were none
  those that it brings.

An operation that needs no settings respects the frame `Session.Stays`, without a fault by which
it could break off.
-/

namespace ProgramSupport

open ProgramSupport.Action Session

/-! ### What needs settings -/

/-- The operation needs the settings in a session. -/
def Operation.needsSettings (s : Session) : Operation → Bool
  | .init => true
  | .random _ _ => s.generator.isNone
  | _ => false

/-- The notice warns that the settings of the environment are ignored. -/
def Notice.isWarning : Notice → Bool
  | .ignoredSettings _ => true
  | _ => false

namespace Call

/-- The call chooses settings. -/
def chooses : Call → Bool
  | .install _ => true
  | _ => false

/-- The call finds a violation in a session, and escalates it. -/
def escalates (s : Session) (call : Call) : Bool :=
  (call.violation? s).isSome && (call.policy? s.policyInForce).isSome

/-- The call needs the settings in a session. -/
def needsSettings (s : Session) : Call → Bool
  | .currentSettings => true
  | .operation form op => op.needsSettings s || (Call.operation form op).escalates s
  | call => call.escalates s

/-- The settings that a call would let come into effect if none are: those that it chooses, or
those of the environment if it needs some. -/
def brings? (s : Session) : Call → Option Settings
  | .install settings => some settings
  | call => if call.needsSettings s then some s.environment.settings else none

/-- The settings that a call does let come into effect if none are: not those of which the log
filter cannot be cut. -/
def brought? (s : Session) (call : Call) : Option Settings :=
  (call.brings? s).filter fun settings => settings.splitFault?.isNone

/-- The warnings that a call leaves when it lets settings come into effect. -/
def warnings (s : Session) : Call → List Notice
  | .install _ => []
  | _ => s.environment.notices

end Call

namespace Session

/-- Notices without a warning. -/
def Unwarned (notices : List Notice) : Prop := ∀ notice ∈ notices, notice.isWarning = false

theorem Unwarned.nil : Unwarned [] := by simp [Unwarned]

theorem Unwarned.append {notices more : List Notice} (h : Unwarned notices)
    (hmore : Unwarned more) : Unwarned (notices ++ more) := by
  intro notice hmem
  rcases List.mem_append.1 hmem with hmem | hmem
  · exact h notice hmem
  · exact hmore notice hmem

theorem filterNotices_unwarned (settings : Settings) : Unwarned settings.filterNotices := by
  unfold Settings.filterNotices
  split <;> simp [Unwarned, Notice.isWarning]

theorem recorded_unwarned (s : Session) (event : Event) : Unwarned (s.recorded event) := by
  unfold recorded
  split <;> simp [Unwarned, Notice.isWarning]

/-! ### What leaves the settings as they are -/

/-- The settings stay as they are, and a notice is left only where some are in effect. -/
structure Stays (s t : Session) : Prop where
  environment_eq : t.environment = s.environment
  settings_eq : t.settings = s.settings
  notices_eq : ∃ rest, t.notices = s.notices ++ rest ∧ Unwarned rest ∧
    (s.settings = none → rest = [])

theorem Stays.of_eq {s t : Session} (henvironment : t.environment = s.environment)
    (hsettings : t.settings = s.settings) (hnotices : t.notices = s.notices) : Stays s t := by
  refine ⟨henvironment, hsettings, [], ?_, .nil, fun _ => rfl⟩
  rw [hnotices, List.append_nil]

theorem Stays.trans {s t u : Session} (h : Stays s t) (h' : Stays t u) : Stays s u := by
  obtain ⟨rest, hnotices, hrest, hunset⟩ := h.notices_eq
  obtain ⟨rest', hnotices', hrest', hunset'⟩ := h'.notices_eq
  refine ⟨h'.environment_eq.trans h.environment_eq, h'.settings_eq.trans h.settings_eq,
    rest ++ rest', ?_, hrest.append hrest', ?_⟩
  · rw [hnotices', hnotices, List.append_assoc]
  · intro hnone
    rw [hunset hnone, hunset' (h.settings_eq.trans hnone)]
    rfl

theorem stays_frame : StillFrame Stays NoFault where
  refl s := .of_eq rfl rfl rfl
  trans h h' := h.trans h'
  faults _ h := h
  recorded s event := by
    refine ⟨rfl, rfl, s.recorded event, rfl, recorded_unwarned s event, ?_⟩
    intro hnone
    exact recorded_of_unset hnone event
  strings s _ := .of_eq rfl rfl rfl
  arrays s _ := .of_eq rfl rfl rfl
  input s _ := .of_eq rfl rfl rfl

theorem Stays.breaks_eq {s t : Session} (h : Stays s t) : t.breaks? = s.breaks? := by
  rw [breaks?, breaks?, h.settings_eq, h.environment_eq]

/-- Before settings come into effect, it does not matter what has been done. -/
theorem Stays.loaded {s t : Session} (h : Stays s t) : Stays s.loaded t.loaded := by
  unfold Session.loaded
  rw [h.settings_eq]
  cases hs : s.settings with
  | some settings => exact h
  | none =>
    obtain ⟨rest, hnotices, -, hunset⟩ := h.notices_eq
    rw [hunset hs, List.append_nil] at hnotices
    rw [h.environment_eq, hnotices]
    exact .of_eq rfl rfl rfl

theorem escalated_stays (s : Session) (policy : Policy) (violation : Violation) :
    Stays s.loaded (s.escalated policy violation) := by
  have hreported := stays_frame.recorded s.loaded (.violated violation)
  cases policy with
  | panic => exact hreported
  | exit =>
    refine hreported.trans ⟨rfl, rfl, [.diagnostic violation], rfl, ?_, ?_⟩
    · simp [Unwarned, Notice.isWarning]
    · intro hnone
      rw [loaded_settings] at hnone
      cases hnone

end Session

/-! ### What actions do to the settings -/

namespace Action

variable {α β : Type} {s : Session}

/-- What an action does to the settings of a session: it leaves them if it does not need them,
and otherwise loads them or breaks off where they do. -/
inductive Settled (s : Session) : Bool → Except SplitCharacter α × Session → Prop where
  | unneeded {t : Session} (a : α) (hstays : Stays s t) : Settled s false (.ok a, t)
  | loaded {t : Session} (a : α) (hbreaks : s.breaks? = none) (hstays : Stays s.loaded t) :
      Settled s true (.ok a, t)
  | brokenOff {t : Session} {fault : SplitCharacter} (hbreaks : s.breaks? = some fault)
      (hstays : Stays s t) : Settled s true (.error fault, t)

/-- What follows without a need of its own does not count. -/
theorem Settled.still {needs : Bool} {a : α} {t u : Session} (h : Settled s needs (.ok a, t))
    (b : β) (hstays : Stays t u) : Settled s needs (.ok b, u) := by
  cases h with
  | unneeded _ hbefore => exact .unneeded b (hbefore.trans hstays)
  | loaded _ hbreaks hbefore => exact .loaded b hbreaks (hbefore.trans hstays)

theorem Settled.bind {needs : Bool} {x : Action α} {f : α → Action β}
    (hx : Settled s needs (x.on s)) (hf : ∀ a, Along Stays NoFault (f a)) :
    Settled s needs ((x >>= f).on s) := by
  cases hon : x.on s with
  | mk result t =>
    rw [hon] at hx
    cases result with
    | ok a =>
      obtain ⟨b, u, hafter, hstays⟩ := (hf a).exists_ok t
      rw [on_bind_ok hon, hafter]
      exact hx.still b hstays
    | error fault =>
      rw [on_bind_error hon]
      cases hx with
      | brokenOff hbreaks hstays => exact .brokenOff hbreaks hstays

theorem current_settled (s : Session) : Settled s true (current.on s) := by
  rw [current_on]
  cases hbreaks : s.breaks? with
  | some fault => exact .brokenOff hbreaks (stays_frame.refl s)
  | none => exact .loaded _ hbreaks (stays_frame.refl s.loaded)

theorem randomWords_settled (s : Session) :
    Settled s s.generator.isNone (randomWords.on s) := by
  rw [randomWords_on]
  cases s.generator with
  | some words => exact .unneeded words (stays_frame.refl s)
  | none =>
    simp only [Option.isNone_none]
    cases hbreaks : s.breaks? with
    | some fault => exact .brokenOff hbreaks (stays_frame.refl s)
    | none => exact .loaded _ hbreaks (stays_frame.refl s.loaded)

/-- An escalation needs the settings, whatever came before. -/
theorem Settled.escalateUnder {needs : Bool} {a : α} {t : Session}
    (h : Settled s needs (.ok a, t)) (policy : Policy) (violation : Violation) :
    Settled s true ((Session.escalateUnder policy violation).on t) := by
  have hescalated := escalated_stays t policy violation
  rw [escalateUnder_on]
  cases h with
  | unneeded _ hstays =>
    cases hbreaks : t.breaks? with
    | some fault => exact .brokenOff (hstays.breaks_eq.symm.trans hbreaks) hstays
    | none =>
      have hunbroken := hstays.breaks_eq.symm.trans hbreaks
      exact .loaded _ hunbroken (hstays.loaded.trans hescalated)
  | loaded _ hunbroken hstays =>
    have hset : t.settings = some s.settingsInForce := by
      rw [hstays.settings_eq, loaded_settings]
    have hbreaks : t.breaks? = none := by simp only [breaks?, hset]
    have hloaded : t.loaded = t := by simp only [Session.loaded, hset]
    rw [hloaded] at hescalated
    rw [hbreaks]
    exact .loaded _ hunbroken (hstays.trans hescalated)

end Action

/-! ### Operations -/

/-- What loads no settings needs none. -/
theorem Operation.needsSettings_of_loads {op : Operation} (h : op.loads = false) (s : Session) :
    op.needsSettings s = false := by
  cases op <;> first | rfl | cases h

theorem Operation.attempt_settled (op : Operation) (s : Session) :
    Settled s (op.needsSettings s) (op.attempt.on s) := by
  have hgenerator (s : Session) (generator : Option WordStream) :
      Stays s { s with generator } := .of_eq rfl rfl rfl
  cases hloads : op.loads with
  | false =>
    have hstill : Along Stays NoFault op.attempt := by
      refine op.attempt_along stays_frame ?_ (fun _ => hgenerator) fun _ _ _ => .of_eq rfl rfl rfl
      intro hloaded
      rw [hloads] at hloaded
      cases hloaded
    obtain ⟨result, t, hon, hstays⟩ := hstill.exists_ok s
    rw [needsSettings_of_loads hloads, hon]
    exact .unneeded result hstays
  | true =>
    cases op with
    | init =>
      refine (current_settled s).bind fun settings => ?_
      exact .bind stays_frame (.record stays_frame _) fun _ => .pure stays_frame _
    | random start stop =>
      refine (randomWords_settled s).bind fun words => ?_
      refine .bind stays_frame (.lift fun s => hgenerator s _) fun _ => ?_
      exact .whenOk stays_frame _ fun value => .pure stays_frame _
    | _ => cases hloads

/-! ### Calls -/

namespace Call

theorem violation?_of_ok {form : Form} {op : Operation} {s t : Session} {answer : Answer}
    (h : op.attempt.on s = (.ok (.ok answer), t)) : (operation form op).violation? s = none := by
  simp only [violation?, h]

theorem violation?_of_error {form : Form} {op : Operation} {s t : Session}
    {violation : Violation} (h : op.attempt.on s = (.ok (.error violation), t)) :
    (operation form op).violation? s = some violation := by
  simp only [violation?, h]

theorem operation_settled (form : Form) (op : Operation) (s : Session) :
    Settled s ((operation form op).needsSettings s) ((operation form op).attempt.on s) := by
  have hop := op.attempt_settled s
  generalize hneeds : op.needsSettings s = needs at hop
  rw [attempt, needsSettings, hneeds]
  cases hon : op.attempt.on s with
  | mk result t =>
    rw [hon] at hop
    cases result with
    | error fault =>
      -- Only an operation that needs the settings can have broken off.
      cases hop with
      | brokenOff hbreaks hstays =>
        rw [on_bind_error hon, Bool.true_or]
        exact .brokenOff hbreaks hstays
    | ok result =>
      rw [on_bind_ok hon, escalates]
      cases result with
      | ok answer =>
        rw [violation?_of_ok hon, Option.isSome_none, Bool.false_and, Bool.or_false]
        exact hop.still _ (stays_frame.refl t)
      | error violation =>
        rw [violation?_of_error hon, Option.isSome_some, Bool.true_and]
        cases form with
        | returning =>
          rw [policy?, Form.policy?, Option.isSome_none, Bool.or_false]
          exact hop.still _ (stays_frame.refl t)
        | failFast =>
          rw [policy?, Form.policy?, Option.isSome_some, Bool.or_true, Form.deliver, escalate_on]
          exact hop.escalateUnder _ violation
        | entry =>
          rw [policy?, Form.policy?, Option.isSome_some, Bool.or_true]
          exact hop.escalateUnder .exit violation

/-- A call that chooses no settings does with the settings what it needs. -/
theorem attempt_settled {call : Call} (hcall : ∀ settings, call ≠ .install settings)
    (s : Session) : Settled s (call.needsSettings s) (call.attempt.on s) := by
  have hsame (outcome : Outcome) : Settled s false (.ok outcome, s) :=
    .unneeded outcome (stays_frame.refl s)
  have hescalate (policy : Policy) (violation : Violation) :
      Settled s true ((Session.escalateUnder policy violation).on s) :=
    (hsame .aborted).escalateUnder policy violation
  cases call with
  | operation form op => exact operation_settled form op s
  | escalate violation =>
    rw [attempt, escalate_on]
    exact hescalate _ violation
  | escalateUnder policy violation => exact hescalate policy violation
  | orFailFast result =>
    cases result with
    | ok value => exact hsame _
    | error violation =>
      show Settled s true ((Session.escalate violation).on s)
      rw [escalate_on]
      exact hescalate _ violation
  | orExit result =>
    cases result with
    | ok value => exact hsame _
    | error violation => exact hescalate .exit violation
  | install settings => exact absurd rfl (hcall settings)
  | currentSettings => exact (current_settled s).bind fun _ => .pure stays_frame _
  | environmentSettings => exact hsame _

/-! ### What a call leaves -/

/-- A call lets the settings that it brings come into effect if none are, with its warnings, and
leaves the settings as they are otherwise.  Where none are in effect afterwards and the process
goes on, it has left no notice at all. -/
structure Settles (call : Call) (s : Session) : Prop where
  environment_eq : (call.next s).environment = s.environment
  settings_eq : (call.next s).settings = s.settings.or (call.brought? s)
  notices_eq : ∃ rest, Unwarned rest ∧ (call.next s).notices =
      s.notices ++
        (if s.settings = none ∧ (call.brought? s).isSome then call.warnings s else []) ++ rest ∧
    ((call.outcome s).ending? = none → (call.next s).settings = none → rest = [])

theorem Settles.of_stays {call : Call} {s : Session} (h : Stays s (call.next s))
    (hbrought : s.settings = none → call.brought? s = none) : call.Settles s := by
  obtain ⟨rest, hnotices, hrest, hunset⟩ := h.notices_eq
  refine ⟨h.environment_eq, ?_, rest, hrest, ?_, ?_⟩
  · rw [h.settings_eq]
    cases hs : s.settings with
    | some settings => rfl
    | none => rw [hbrought hs, Option.or_none]
  · rw [if_neg, List.append_nil, hnotices]
    rintro ⟨hs, hsome⟩
    rw [hbrought hs] at hsome
    cases hsome
  · intro _ hnone
    exact hunset (h.settings_eq.symm.trans hnone)

theorem Settles.of_adopted {call : Call} {s : Session} (settings : Settings)
    (hs : s.settings = none) (hbrought : call.brought? s = some settings)
    (h : Stays ({ s with notices := s.notices ++ call.warnings s }.adopted settings)
      (call.next s)) : call.Settles s := by
  obtain ⟨rest, hnotices, hrest, -⟩ := h.notices_eq
  refine ⟨h.environment_eq, ?_, settings.filterNotices ++ rest,
    (filterNotices_unwarned settings).append hrest, ?_, ?_⟩
  · rw [h.settings_eq, hs, hbrought]
    rfl
  · rw [if_pos ⟨hs, by rw [hbrought]; rfl⟩, ← List.append_assoc]
    exact hnotices
  · intro _ hnone
    rw [h.settings_eq] at hnone
    cases hnone

/-- Choosing settings is refused where some are in effect. -/
theorem install_performed (settings : Settings) (s : Session) :
    (install settings).perform.run s = match s.settings with
      | some _ => (.answered (.flag false), s)
      | none =>
        match settings.splitFault? with
        | some fault => (.brokenOff fault, s)
        | none => (.answered (.flag true), s.adopted settings) := by
  rw [perform_run, attempt, on_bind, install_on]
  cases s.settings with
  | some inEffect => rfl
  | none => cases settings.splitFault? <;> rfl

theorem install_settles (settings : Settings) (s : Session) :
    (install settings).Settles s := by
  have hbrings : (install settings).brings? s = some settings := rfl
  have hperformed := install_performed settings s
  rw [perform_eq] at hperformed
  cases hs : s.settings with
  | some inEffect =>
    rw [hs] at hperformed
    refine .of_stays ?_ fun hnone => ?_
    · rw [(Prod.mk.inj hperformed).2]
      exact stays_frame.refl s
    · rw [hs] at hnone
      cases hnone
  | none =>
    rw [hs] at hperformed
    cases hsplit : settings.splitFault? with
    | some fault =>
      rw [hsplit] at hperformed
      refine .of_stays ?_ fun _ => ?_
      · rw [(Prod.mk.inj hperformed).2]
        exact stays_frame.refl s
      · simp [brought?, hbrings, hsplit]
    | none =>
      rw [hsplit] at hperformed
      refine .of_adopted settings hs ?_ ?_
      · simp [brought?, hbrings, hsplit]
      · rw [(Prod.mk.inj hperformed).2, warnings, List.append_nil]
        exact stays_frame.refl _

/-- What a call brings that chooses no settings. -/
theorem brings?_of_needs {call : Call} (hcall : ∀ settings, call ≠ .install settings)
    {s : Session} {needs : Bool} (hneeds : call.needsSettings s = needs) :
    call.brings? s = (if needs then some s.environment.settings else none) ∧
      call.warnings s = s.environment.notices := by
  cases call with
  | install settings => exact absurd rfl (hcall settings)
  | _ =>
    rw [← hneeds]
    exact ⟨rfl, rfl⟩

/-- The settings after a call are those before it, and if there were none those that it brings. -/
theorem next_settles (call : Call) (s : Session) : call.Settles s := by
  by_cases hinstall : ∃ settings, call = .install settings
  · obtain ⟨settings, rfl⟩ := hinstall
    exact install_settles settings s
  · have hcall (settings : Settings) : call ≠ .install settings := by
      intro heq
      exact hinstall ⟨settings, heq⟩
    have hsettled := attempt_settled hcall s
    generalize hneeds : call.needsSettings s = needs at hsettled
    obtain ⟨hbrings, hwarnings⟩ := brings?_of_needs hcall hneeds
    cases hon : call.attempt.on s with
    | mk result t =>
      rw [hon] at hsettled
      cases hsettled with
      | unneeded outcome hstays =>
        refine .of_stays ?_ fun _ => ?_
        · rw [(perform_run_ok hon).2]
          exact hstays
        · simp [brought?, hbrings]
      | loaded outcome hbreaks hstays =>
        rw [← (perform_run_ok hon).2] at hstays
        cases hs : s.settings with
        | some settings =>
          rw [Session.loaded, hs] at hstays
          refine .of_stays hstays fun hnone => ?_
          rw [hs] at hnone
          cases hnone
        | none =>
          rw [Session.loaded, hs] at hstays
          rw [breaks?, hs] at hbreaks
          refine .of_adopted s.environment.settings hs ?_ ?_
          · simp [brought?, hbrings, hbreaks]
          · rw [hwarnings]
            exact hstays
      | brokenOff hbreaks hstays =>
        have hsplit := splitFault_of_breaks hbreaks
        have hbrought : call.brought? s = none := by simp [brought?, hbrings, hsplit]
        cases hentry : call.isEntry with
        | false =>
          refine .of_stays ?_ fun _ => hbrought
          rw [(perform_run_brokenOff hon hentry).2]
          exact hstays
        | true =>
          obtain ⟨rest, hnotices, hrest, -⟩ := hstays.notices_eq
          have hnext := next_of_aborted hon hentry
          refine ⟨?_, ?_, rest ++ [.aborted], hrest.append (by simp [Unwarned, Notice.isWarning]),
            ?_, ?_⟩
          · rw [hnext]
            exact hstays.environment_eq
          · rw [hnext, hbrought, Option.or_none]
            exact hstays.settings_eq
          · simp [hnext, hnotices, hbrought]
          · intro hgo
            rw [perform_run_aborted hon hentry] at hgo
            cases hgo

end Call

end ProgramSupport
