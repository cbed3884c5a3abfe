import ProgramSupport.Proofs.Session.Entropy

/-!
# Logging does no harm

The log filter decides which events are written to the error stream, and nothing else.  This file
provides

* `Report.withoutLog` — a report without what the log writes, in which settings are told without
  their filter;
* `Environment.LogAside` — environments that differ in the log filter alone, and what they give;
* `Session.LogAside` — sessions that differ in their filters and in what the log has written;
* `Call.logAside_next` — a call has the same outcome in such sessions, as far as it does not tell
  the filter;
* `Session.log_harmless_iff` — which change of the filter does no harm to any process: one by which
  the settings break off neither more nor less.

Settings that a process chooses for itself have a filter of their own, which is the same in both.
-/

namespace ProgramSupport

open ProgramSupport.Action Session

/-! ### What is not about the log -/

/-- The notice is neither an event nor a warning of the log filter. -/
def Notice.besidesLog : Notice → Bool
  | .event _ | .invalidFilter .. => false
  | .ignoredSettings _ | .diagnostic _ | .aborted => true

def Settings.withoutFilter (settings : Settings) : Settings := { settings with logFilter := none }

/-- The outcome, with the settings that it tells without their filter. -/
def Outcome.withoutFilter : Outcome → Outcome
  | .answered (.settings settings) => .answered (.settings settings.withoutFilter)
  | .answered (.environment given) => .answered (.environment (given.map Settings.withoutFilter))
  | outcome => outcome

theorem Outcome.withoutFilter_ending (outcome : Outcome) :
    outcome.withoutFilter.ending? = outcome.ending? := by
  cases outcome with
  | answered answer => cases answer <;> rfl
  | _ => rfl

/-- The report without events and warnings of the log, and without the filter of settings. -/
def Report.withoutLog (r : Report) : Report :=
  r.viewed Notice.besidesLog Outcome.withoutFilter

/-- The notices that settings bring with them are about the filter. -/
theorem Settings.filterNotices_besidesLog (settings : Settings) :
    settings.filterNotices.filter Notice.besidesLog = [] := by
  unfold filterNotices
  cases settings.logFilter with
  | none => rfl
  | some text =>
    rw [Option.map_some]
    cases LogFilter.ofText text <;> rfl

theorem Session.recorded_besidesLog (s : Session) (event : Event) :
    (s.recorded event).filter Notice.besidesLog = [] := by
  unfold recorded
  split <;> rfl

/-! ### Environments that differ in the log filter -/

/-- The environments differ in the log filter alone. -/
def Environment.LogAside (environment environment' : Environment) : Prop :=
  ∀ name, name ≠ logVariable → environment'.lookup name = environment.lookup name

/-- Setting the filter in front of the other variables. -/
theorem Environment.logAside_cons (environment : Environment) (value : ByteString) :
    environment.LogAside ((logVariable, value) :: environment) := by
  intro name hname
  have hother : (name == logVariable) = false := beq_false_of_ne hname
  rw [lookup, lookup, List.lookup_cons, hother]

/-- The filter neither has a fault nor hides one. -/
theorem Settings.ofLookup_withoutFilter {lookup lookup' : String → Option String}
    (h : ∀ name, name ≠ logVariable → lookup' name = lookup name) :
    (ofLookup lookup').map withoutFilter = (ofLookup lookup).map withoutFilter := by
  have hpolicy : policyOfLookup lookup' = policyOfLookup lookup := by
    rw [policyOfLookup, policyOfLookup, h policyVariable (by decide)]
  have hseed : seedOfLookup lookup' = seedOfLookup lookup := by
    rw [seedOfLookup, seedOfLookup, h seedVariable (by decide)]
  rw [ofLookup_eq, ofLookup_eq, hpolicy, hseed]
  cases policyOfLookup lookup with
  | error fault => rfl
  | ok policy => cases seedOfLookup lookup <;> rfl

/-- Such environments give the same settings but for the filter, and the same warning. -/
theorem Environment.LogAside.settings {environment environment' : Environment}
    (h : environment.LogAside environment') :
    environment'.settings.withoutFilter = environment.settings.withoutFilter ∧
      environment'.notices = environment.notices := by
  have hread := Settings.ofLookup_withoutFilter h
  unfold Environment.settings Environment.notices
  cases hleft : Settings.ofLookup environment.lookup with
  | ok settings =>
    cases hright : Settings.ofLookup environment'.lookup with
    | ok settings' =>
      rw [hleft, hright] at hread
      exact ⟨Except.ok.inj hread, rfl⟩
    | error fault =>
      rw [hleft, hright] at hread
      cases hread
  | error fault =>
    cases hright : Settings.ofLookup environment'.lookup with
    | ok settings' =>
      rw [hleft, hright] at hread
      cases hread
    | error fault' =>
      rw [hleft, hright] at hread
      cases hread
      exact ⟨rfl, rfl⟩

/-! ### Sessions that differ in the log -/

namespace Session

/-- The sessions differ in the filters of their log, and in what it has written, at most.  The
filters of their environments break off alike. -/
structure LogAside (s t : Session) : Prop where
  input_eq : t.input = s.input
  entropy_eq : t.entropy = s.entropy
  console_eq : t.console = s.console
  generator_eq : t.generator = s.generator
  strings_eq : t.strings = s.strings
  arrays_eq : t.arrays = s.arrays
  notices_eq : t.notices.filter Notice.besidesLog = s.notices.filter Notice.besidesLog
  settings_eq : t.settings.map Settings.withoutFilter = s.settings.map Settings.withoutFilter
  environment_aside : s.environment.LogAside t.environment
  splitFault_eq : t.environment.settings.splitFault? = s.environment.settings.splitFault?

variable {s t : Session}

theorem LogAside.isSome_eq (h : LogAside s t) : t.settings.isSome = s.settings.isSome := by
  have hisSome := congrArg Option.isSome h.settings_eq
  rw [Option.isSome_map, Option.isSome_map] at hisSome
  exact hisSome

/-- Settings are in effect in both, or in none. -/
theorem LogAside.settings_cases (h : LogAside s t) :
    (s.settings = none ∧ t.settings = none) ∨
      ∃ settings settings', s.settings = some settings ∧ t.settings = some settings' ∧
        settings'.withoutFilter = settings.withoutFilter := by
  have hsettings := h.settings_eq
  cases hs : s.settings with
  | none =>
    rw [hs, Option.map_none, Option.map_eq_none_iff] at hsettings
    exact .inl ⟨rfl, hsettings⟩
  | some settings =>
    rw [hs, Option.map_some, Option.map_eq_some_iff] at hsettings
    obtain ⟨settings', ht, hsame⟩ := hsettings
    exact .inr ⟨settings, settings', rfl, ht, hsame⟩

theorem LogAside.settingsInForce_eq (h : LogAside s t) :
    t.settingsInForce.withoutFilter = s.settingsInForce.withoutFilter := by
  unfold settingsInForce
  rcases h.settings_cases with ⟨hs, ht⟩ | ⟨settings, settings', hs, ht, hsame⟩
  · rw [hs, ht]
    exact h.environment_aside.settings.1
  · rw [hs, ht]
    exact hsame

theorem LogAside.policyInForce_eq (h : LogAside s t) : t.policyInForce = s.policyInForce := by
  have hpolicy := congrArg Settings.policy h.settingsInForce_eq
  exact hpolicy

theorem LogAside.freshWords_eq (h : LogAside s t) : t.freshWords = s.freshWords := by
  have hseed := congrArg Settings.seed h.settingsInForce_eq
  exact freshWords_congr hseed h.entropy_eq

theorem LogAside.breaks_eq (h : LogAside s t) : t.breaks? = s.breaks? := by
  unfold breaks?
  rcases h.settings_cases with ⟨hs, ht⟩ | ⟨settings, settings', hs, ht, -⟩
  · rw [hs, ht]
    exact h.splitFault_eq
  · rw [hs, ht]

/-- More notices, which are the same but for those of the log. -/
theorem LogAside.append {more more' : List Notice} (h : LogAside s t)
    (hmore : more'.filter Notice.besidesLog = more.filter Notice.besidesLog) :
    LogAside { s with notices := s.notices ++ more } { t with notices := t.notices ++ more' } :=
  { h with notices_eq := by rw [List.filter_append, List.filter_append, h.notices_eq, hmore] }

theorem LogAside.recorded (h : LogAside s t) (event event' : Event) :
    LogAside { s with notices := s.notices ++ s.recorded event }
      { t with notices := t.notices ++ t.recorded event' } :=
  h.append ((recorded_besidesLog t event').trans (recorded_besidesLog s event).symm)

/-- The same settings but for the filter come into effect. -/
theorem LogAside.adopted {settings settings' : Settings} (h : LogAside s t)
    (hsettings : settings'.withoutFilter = settings.withoutFilter) :
    LogAside (s.adopted settings) (t.adopted settings') :=
  { h.append (settings'.filterNotices_besidesLog.trans settings.filterNotices_besidesLog.symm) with
    settings_eq := congrArg some hsettings }

theorem LogAside.loaded (h : LogAside s t) : LogAside s.loaded t.loaded := by
  rcases h.settings_cases with ⟨hs, ht⟩ | ⟨settings, settings', hs, ht, -⟩
  · obtain ⟨hsettings, hwarnings⟩ := h.environment_aside.settings
    rw [loaded_of_unset hs, loaded_of_unset ht]
    exact (h.append (congrArg _ hwarnings)).adopted hsettings
  · rw [loaded_of_settings hs, loaded_of_settings ht]
    exact h

theorem logAside_steady : Steady LogAside where
  strings_eq h := h.strings_eq
  arrays_eq h := h.arrays_eq
  input_eq h := h.input_eq
  console_eq h := h.console_eq
  breaks_eq h := h.breaks_eq
  strings _ h := { h with strings_eq := rfl }
  arrays _ h := { h with arrays_eq := rfl }
  input _ h := { h with input_eq := rfl }
  console _ h := { h with console_eq := rfl }
  recorded event h := h.recorded event event
  initialized h := h.recorded _ _
  notified _ h := h.append rfl
  loaded _ h := h.loaded

end Session

/-! ### Calls -/

namespace Call

variable {s t : Session}

/-- The settings in effect are told, unless they break off. -/
theorem currentSettings_performed (s : Session) :
    currentSettings.perform.run s = match s.breaks? with
      | some fault => (.brokenOff fault, s)
      | none => (.answered (.settings s.settingsInForce), s.loaded) := by
  rw [perform_run, attempt, on_bind, current_on]
  cases s.breaks? <;> rfl

theorem currentSettings_outcome (s : Session) :
    (currentSettings.outcome s).withoutFilter = match s.breaks? with
      | some fault => .brokenOff fault
      | none => .answered (.settings s.settingsInForce.withoutFilter) := by
  rw [outcome, currentSettings_performed]
  cases s.breaks? <;> rfl

theorem environmentSettings_performed (s : Session) :
    environmentSettings.perform.run s =
      (.answered (.environment (Settings.ofLookup s.environment.lookup)), s) := rfl

/-- A call tells the same in both sessions but for the filter, and leaves them so. -/
theorem logAside_next (call : Call) (h : LogAside s t) :
    (call.outcome t).withoutFilter = (call.outcome s).withoutFilter ∧
      LogAside (call.next s) (call.next t) := by
  have hperform (hattempt : Coupled LogAside call.attempt) :
      (call.outcome t).withoutFilter = (call.outcome s).withoutFilter ∧
        LogAside (call.next s) (call.next t) := by
    obtain ⟨houtcome, hnext⟩ :=
      perform_coupled hattempt (fun _ _ h => logAside_steady.notified _ h) h
    exact ⟨congrArg _ houtcome, hnext⟩
  have hwords : Coupled LogAside randomWords :=
    .randomWords_of_generator logAside_steady (fun h => h.generator_eq) fun h => h.freshWords_eq
  have hdraws : ∀ form op, call = operation form op → op.draws = true →
      Coupled LogAside op.attempt := fun _ _ _ hdraws =>
    Operation.draws_coupled hwords (fun _ _ _ h => { h with generator_eq := rfl }) hdraws
  cases call with
  | currentSettings =>
    rw [currentSettings_outcome, currentSettings_outcome, next, next, currentSettings_performed,
      currentSettings_performed, h.breaks_eq, h.settingsInForce_eq]
    cases s.breaks? with
    | some fault => exact ⟨rfl, h⟩
    | none => exact ⟨rfl, h.loaded⟩
  | environmentSettings =>
    rw [outcome, outcome, next, next, environmentSettings_performed, environmentSettings_performed]
    refine ⟨?_, h⟩
    rw [Outcome.withoutFilter, Outcome.withoutFilter,
      Settings.ofLookup_withoutFilter h.environment_aside]
  | install settings =>
    exact hperform (attempt_install settings (fun h => h.isSome_eq) fun h => h.adopted rfl)
  | _ =>
    exact hperform (attempt_steady logAside_steady (fun h => h.policyInForce_eq) rfl rfl hdraws)

end Call

/-! ### Reports -/

namespace Session

/-- Whatever a process does, it leaves the same report in both environments, but for the log and
the filter of settings.  Its entropy can differ if each number that it draws from a range of several
follows a seed. -/
def LogHarmless (environment environment' : Environment) : Prop :=
  ∀ (calls : List Call) (input : Input) (console : Console) (entropy entropy' : WordStream),
    (entropy' = entropy ∨ Seeded false calls { environment, input, console, entropy }) →
      (report calls { environment := environment', input, console, entropy := entropy' }).withoutLog =
        (report calls { environment, input, console, entropy }).withoutLog

variable {environment environment' : Environment}

theorem logHarmless_of_splitFault (h : environment.LogAside environment')
    (hsplit : environment'.settings.splitFault? = environment.settings.splitFault?) :
    LogHarmless environment environment' := by
  intro calls input console entropy entropy' hdraws
  have hentropy : report calls { environment, input, console, entropy := entropy' } =
      report calls { environment, input, console, entropy } := by
    rcases hdraws with rfl | hseeded
    · rfl
    · exact report_seeded (s := { environment, input, console, entropy }) hseeded entropy'
  have hstart : LogAside { environment, input, console, entropy := entropy' }
      { environment := environment', input, console, entropy := entropy' } :=
    ⟨rfl, rfl, rfl, rfl, rfl, rfl, rfl, rfl, h, hsplit⟩
  rw [← hentropy]
  refine report_viewed_of_lockstep (R := fun _ => LogAside) Outcome.withoutFilter_ending
    (fun h => ⟨h.console_eq, h.notices_eq⟩) (fun {call _ _ _} h => ?_) hstart
  obtain ⟨houtcome, hnext⟩ := call.logAside_next h
  exact ⟨houtcome, fun _ => hnext, fun _ => hnext⟩

/-- A process that asks for its settings breaks off with the fault of the filter, if it has one. -/
theorem splitFault_of_logHarmless (h : LogHarmless environment environment') :
    environment'.settings.splitFault? = environment.settings.splitFault? := by
  have hsteps (s : Session) : (report [.currentSettings] s).withoutLog.steps =
      [(Call.currentSettings.outcome s).withoutFilter] := by
    have hgo : (Call.currentSettings.outcome s).ending? = none := by
      rw [← Outcome.withoutFilter_ending, Call.currentSettings_outcome]
      cases s.breaks? <;> rfl
    rw [report_cons_go hgo]
    rfl
  have hsame := congrArg Report.steps
    (h [.currentSettings] (.stream []) {} (.cyclic #[]) (.cyclic #[]) (.inl rfl))
  rw [hsteps, hsteps, Call.currentSettings_outcome, Call.currentSettings_outcome] at hsame
  have hbreaks (environment : Environment) : breaks?
      { environment, input := .stream [], console := {}, entropy := .cyclic #[] } =
        environment.settings.splitFault? := rfl
  rw [hbreaks, hbreaks] at hsame
  revert hsame
  cases environment'.settings.splitFault? <;> cases environment.settings.splitFault? <;> simp

/-- A change of the log filter does no harm to any process exactly when the settings break off by it
neither more nor less. -/
theorem log_harmless_iff (h : environment.LogAside environment') :
    LogHarmless environment environment' ↔
      environment'.settings.splitFault? = environment.settings.splitFault? :=
  ⟨splitFault_of_logHarmless, logHarmless_of_splitFault h⟩

/-- A process that draws a number behind a configured seed, tells its settings and ends by a
violation, which only one of the two environments writes to the log. -/
theorem log_harmless_debug :
    (report [.operation .failFast (.random 0 1000), .currentSettings,
        .operation .failFast (.arrayNew (-1))]
        { environment := [("TERN_LOG", .ofText "tern_runtime=debug"), ("TERN_SEED", .ofText "5")],
          input := .stream [], entropy := .cyclic #[1] }).withoutLog =
      (report [.operation .failFast (.random 0 1000), .currentSettings,
        .operation .failFast (.arrayNew (-1))]
        { environment := [("TERN_SEED", .ofText "5")], input := .stream [],
          entropy := .cyclic #[2] }).withoutLog := by
  have haside := Environment.logAside_cons [("TERN_SEED", .ofText "5")]
    (.ofText "tern_runtime=debug")
  refine (log_harmless_iff haside).2 (by decide +kernel) _ (.stream []) {} _ _ (.inr ?_)
  exact ⟨fun _ => by decide +kernel, fun _ => ⟨nofun, fun _ => ⟨nofun, fun _ => trivial⟩⟩⟩

/-- The filter begins with a blank of three bytes, so that a process breaks off before it draws a
number. -/
theorem not_logHarmless_blank_filter :
    Environment.LogAside [] [("TERN_LOG", .ofText "　a=5")] ∧
      ¬LogHarmless [] [("TERN_LOG", .ofText "　a=5")] := by
  refine ⟨Environment.logAside_cons [] _, fun hharmless => ?_⟩
  have hsteps := congrArg Report.steps (hharmless [.operation .failFast (.random 3 4)]
    (.stream []) {} (.cyclic #[]) (.cyclic #[]) (.inl rfl))
  revert hsteps
  decide +kernel

end Session

end ProgramSupport
