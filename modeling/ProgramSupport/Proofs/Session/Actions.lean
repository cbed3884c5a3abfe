import ProgramSupport.Proofs.Settings.Lookup
import ProgramSupport.Session.Report

/-!
# Actions on a session

An action has an effect on the session even when it breaks off.  This file provides

* `Action.on` — what an action gives or where it breaks off, and the session it leaves, with one
  equation for each way to build an action;
* `Settings.splitFault?` and `Settings.filterNotices` — what the log filter of settings does to
  their coming into effect;
* `Session.settingsInForce` — the settings in effect, or those that the environment would bring
  into effect, and `Session.breaks?` — the fault that keeps them from it;
* `Session.loaded` — the session in which they are in effect, with one equation for each field;
* `Session.current_on`, `Session.install_on` and `Session.record_run` — what these do to a session;
* `Session.randomWords_on` — the random words in use, or those with which a session begins.

Nothing else in a session can break off than settings on their way into effect.
-/

namespace ProgramSupport

namespace Action

variable {α β : Type}

/-- Do an action in a session. -/
def on (x : Action α) (s : Session) : Except SplitCharacter α × Session := x.run.run s

@[simp] theorem on_pure (a : α) (s : Session) : (pure a : Action α).on s = (.ok a, s) := rfl

@[simp] theorem on_throw (fault : SplitCharacter) (s : Session) :
    (throw fault : Action α).on s = (.error fault, s) := rfl

@[simp] theorem on_get (s : Session) : (get : Action Session).on s = (.ok s, s) := rfl

@[simp] theorem on_modify (f : Session → Session) (s : Session) :
    (modify f : Action Unit).on s = (.ok (), f s) := rfl

/-- An action that cannot break off. -/
@[simp] theorem on_liftM (m : StateM Session α) (s : Session) :
    (liftM m : Action α).on s = (.ok (m.run s).1, (m.run s).2) := rfl

theorem on_bind (x : Action α) (f : α → Action β) (s : Session) :
    (x >>= f).on s = match x.on s with
      | (.ok a, s) => (f a).on s
      | (.error fault, s) => (.error fault, s) := by
  unfold Action.on ExceptT.run StateT.run
  simp only [bind, ExceptT.bind, ExceptT.mk, StateT.bind, ExceptT.bindCont]
  cases x s with
  | mk result s => cases result <;> rfl

/-- The rest of an action whose beginning does not break off. -/
theorem on_bind_ok {x : Action α} {s after : Session} {a : α} (h : x.on s = (.ok a, after))
    (f : α → Action β) : (x >>= f).on s = (f a).on after := by
  rw [on_bind, h]

/-- An action whose beginning breaks off. -/
theorem on_bind_error {x : Action α} {s after : Session} {fault : SplitCharacter}
    (h : x.on s = (.error fault, after)) (f : α → Action β) :
    (x >>= f).on s = (.error fault, after) := by
  rw [on_bind, h]

theorem on_get_bind (f : Session → Action β) (s : Session) :
    ((get : Action Session) >>= f).on s = (f s).on s := on_bind_ok (on_get s) f

theorem on_liftM_bind (m : StateM Session α) (f : α → Action β) (s : Session) :
    ((liftM m : Action α) >>= f).on s = (f (m.run s).1).on (m.run s).2 :=
  on_bind_ok (on_liftM m s) f

end Action

open ProgramSupport.Action

/-! ### Settings on their way into effect -/

/-- The fault that keeps settings from coming into effect: their log filter cannot be cut into
its parts. -/
def Settings.splitFault? (settings : Settings) : Option SplitCharacter :=
  match settings.logFilter.map LogFilter.ofText with
  | some (.error (.splitCharacter fault)) => some fault
  | _ => none

/-- The notices that settings bring with them. -/
def Settings.filterNotices (settings : Settings) : List Notice :=
  match settings.logFilter.map fun text => (text, LogFilter.ofText text) with
  | some (text, .error fault) => [.invalidFilter text fault]
  | _ => []

theorem Settings.filterNotices_of_logFilter {settings : Settings}
    (h : settings.logFilter = none) : settings.filterNotices = [] := by
  rw [filterNotices, h]
  rfl

namespace Environment

/-- The settings of an environment, where a fault leaves the default. -/
def settings (environment : Environment) : Settings :=
  match Settings.ofLookup environment.lookup with
  | .ok settings => settings
  | .error _ => {}

/-- The notices that an environment brings with it. -/
def notices (environment : Environment) : List Notice :=
  match Settings.ofLookup environment.lookup with
  | .ok _ => []
  | .error fault => [.ignoredSettings fault]

end Environment

namespace Session

/-- The settings in effect, or those that the environment brings into effect. -/
def settingsInForce (s : Session) : Settings := s.settings.getD s.environment.settings

def policyInForce (s : Session) : Policy := s.settingsInForce.policy

/-- The fault by which everything breaks off that needs settings. -/
def breaks? (s : Session) : Option SplitCharacter :=
  match s.settings with
  | some _ => none
  | none => s.environment.settings.splitFault?

/-- The session in which settings have come into effect. -/
def adopted (s : Session) (settings : Settings) : Session :=
  { s with settings := some settings, notices := s.notices ++ settings.filterNotices }

/-- The session in which settings are in effect, those of the environment if there were none. -/
def loaded (s : Session) : Session :=
  match s.settings with
  | some _ => s
  | none =>
    { s with notices := s.notices ++ s.environment.notices }.adopted s.environment.settings

theorem loaded_of_settings {s : Session} {settings : Settings} (h : s.settings = some settings) :
    s.loaded = s := by
  unfold loaded
  rw [h]

theorem loaded_of_unset {s : Session} (h : s.settings = none) :
    s.loaded =
      { s with notices := s.notices ++ s.environment.notices }.adopted s.environment.settings := by
  unfold loaded
  rw [h]

/-- Settings coming into effect leave everything else as it is, except for the notices. -/
theorem loaded_eq (s : Session) :
    s.loaded = { s with settings := some s.settingsInForce, notices := s.loaded.notices } := by
  cases hs : s.settings with
  | some settings =>
    rw [loaded_of_settings hs, settingsInForce, hs, Option.getD_some, ← hs]
  | none =>
    rw [loaded_of_unset hs, settingsInForce, hs, Option.getD_none]
    rfl

section

variable (s : Session)

@[simp] theorem loaded_settings : s.loaded.settings = some s.settingsInForce := by rw [loaded_eq]

@[simp] theorem loaded_environment : s.loaded.environment = s.environment := by rw [loaded_eq]

@[simp] theorem loaded_input : s.loaded.input = s.input := by rw [loaded_eq]

@[simp] theorem loaded_entropy : s.loaded.entropy = s.entropy := by rw [loaded_eq]

@[simp] theorem loaded_console : s.loaded.console = s.console := by rw [loaded_eq]

@[simp] theorem loaded_generator : s.loaded.generator = s.generator := by rw [loaded_eq]

@[simp] theorem loaded_strings : s.loaded.strings = s.strings := by rw [loaded_eq]

@[simp] theorem loaded_arrays : s.loaded.arrays = s.arrays := by rw [loaded_eq]

end

/-- The notices that an event leaves. -/
def recorded (s : Session) (event : Event) : List Notice :=
  if s.filter.admits event then [.event event] else []

theorem record_run (event : Event) (s : Session) :
    (record event).run s = ((), { s with notices := s.notices ++ s.recorded event }) := by
  unfold record recorded
  simp only [StateT.run_bind, StateT.run_get]
  by_cases h : s.filter.admits event = true
  · rw [if_pos h]
    show StateT.run (if s.filter.admits event = true then _ else _) s = _
    rw [if_pos h]
    rfl
  · rw [if_neg h, List.append_nil]
    show StateT.run (if s.filter.admits event = true then _ else _) s = _
    rw [if_neg h]
    rfl

/-- Without settings in effect nothing is logged. -/
theorem recorded_of_unset {s : Session} (hunset : s.settings = none) (event : Event) :
    s.recorded event = [] := by
  unfold recorded filter
  rw [hunset]
  rfl

theorem adopt_on (settings : Settings) (s : Session) :
    (adopt settings).on s = match settings.splitFault? with
      | some fault => (.error fault, s)
      | none => (.ok (), s.adopted settings) := by
  unfold adopt Settings.splitFault? adopted Settings.filterNotices
  cases settings.logFilter with
  | none =>
    simp only [Option.map_none, List.append_nil]
    rfl
  | some text =>
    simp only [Option.map_some]
    cases LogFilter.ofText text with
    | ok filter =>
      simp only [List.append_nil]
      rfl
    | error fault => cases fault <;> rfl

theorem environmentSettings_run (s : Session) :
    environmentSettings.run s =
      (s.environment.settings, { s with notices := s.notices ++ s.environment.notices }) := by
  unfold environmentSettings Environment.settings Environment.notices
  simp only [StateT.run_bind, StateT.run_get]
  show StateT.run (match Settings.ofLookup s.environment.lookup with
    | .ok settings => pure settings
    | .error fault => notify (.ignoredSettings fault) >>= fun _ => pure {}) s = _
  cases Settings.ofLookup s.environment.lookup with
  | ok settings =>
    simp only [List.append_nil]
    rfl
  | error fault => rfl

/-- An environment with a fault leaves the default settings, which have no log filter. -/
theorem notices_eq_nil_of_splitFault {environment : Environment} {fault : SplitCharacter}
    (h : environment.settings.splitFault? = some fault) : environment.notices = [] := by
  unfold Environment.settings at h
  unfold Environment.notices
  cases hlookup : Settings.ofLookup environment.lookup with
  | ok settings => rfl
  | error fault =>
    rw [hlookup] at h
    cases h

/-- The settings in effect, unless they break off, which leaves the session as it was. -/
theorem current_on (s : Session) :
    current.on s = match s.breaks? with
      | some fault => (.error fault, s)
      | none => (.ok s.settingsInForce, s.loaded) := by
  unfold current
  rw [on_get_bind]
  unfold breaks? loaded settingsInForce
  cases hs : s.settings with
  | some settings => rfl
  | none =>
    simp only [on_liftM_bind, environmentSettings_run]
    rw [on_bind, adopt_on]
    cases hsplit : s.environment.settings.splitFault? with
    | none => rfl
    | some fault =>
      rw [notices_eq_nil_of_splitFault hsplit, List.append_nil]

/-- Only settings of the environment can break off. -/
theorem splitFault_of_breaks {s : Session} {fault : SplitCharacter} (h : s.breaks? = some fault) :
    s.environment.settings.splitFault? = some fault := by
  unfold breaks? at h
  cases hs : s.settings with
  | some settings =>
    rw [hs] at h
    cases h
  | none =>
    rw [hs] at h
    exact h

theorem install_on (settings : Settings) (s : Session) :
    (install settings).on s = match s.settings with
      | some _ => (.ok false, s)
      | none =>
        match settings.splitFault? with
        | some fault => (.error fault, s)
        | none => (.ok true, s.adopted settings) := by
  unfold install
  rw [on_get_bind]
  cases hs : s.settings with
  | some settings => rfl
  | none =>
    simp only [on_bind, adopt_on]
    cases settings.splitFault? <;> rfl

/-- The random words with which a session without any begins. -/
def freshWords (s : Session) : WordStream :=
  match s.settingsInForce.seed with
  | some seed => .ofSeed seed
  | none => s.entropy

theorem freshWords_congr {s t : Session}
    (hseed : t.settingsInForce.seed = s.settingsInForce.seed) (hentropy : t.entropy = s.entropy) :
    t.freshWords = s.freshWords := by
  rw [freshWords, freshWords, hseed, hentropy]

theorem freshWords_of_seed {s : Session} {seed : UInt64}
    (h : s.settingsInForce.seed = some seed) : s.freshWords = .ofSeed seed := by
  rw [freshWords, h]

/-- The random words in use, or new ones, for which settings have to come into effect. -/
theorem randomWords_on (s : Session) :
    randomWords.on s = match s.generator with
      | some words => (.ok words, s)
      | none =>
        match s.breaks? with
        | some fault => (.error fault, s)
        | none => (.ok s.freshWords, s.loaded) := by
  unfold randomWords freshWords
  rw [on_get_bind]
  cases s.generator with
  | some words => rfl
  | none =>
    simp only [on_bind, current_on]
    cases s.breaks? with
    | some fault => rfl
    | none =>
      simp only []
      cases s.settingsInForce.seed with
      | some seed => rfl
      | none =>
        simp only [on_get_bind, on_pure, loaded_entropy]

end Session

end ProgramSupport
