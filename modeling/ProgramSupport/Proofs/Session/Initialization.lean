import ProgramSupport.Proofs.Session.Entropy

/-!
# Initializing is optional

Settings come into effect when they are first needed.  Initializing the library lets them come
into effect at once, and does nothing else but tell the log about them.  This file provides

* `Call.init` — the entry point that initializes;
* `Marked` — calls with places between them, and `Marked.padded`, the same calls with an
  initialization at each of these places;
* `Marked.Unchanged` — a report that does not tell the initializations;
* `Session.report_padded` — reports of processes with and without initializations, in sessions
  whose relation an initialization respects;
* `Session.init_optional_iff` — initializing is optional in an environment exactly when its log
  filter can be cut into its parts; and leaves no notice if the environment has no filter and no
  fault.

The two processes can have different entropy if the numbers that they draw are foreseeable.
-/

namespace ProgramSupport

open ProgramSupport.Action Session

/-- The entry point that initializes the library. -/
def Call.init : Call := .operation .entry .init

/-- Calls, with places between them for initializations. -/
abbrev Marked := List (Option Call)

namespace Marked

/-- The calls alone. -/
def calls (marked : Marked) : List Call := marked.filterMap id

/-- The calls, with an initialization at each place for one. -/
def padded (marked : Marked) : List Call := marked.map fun place => place.getD .init

/-- The steps of the calls, out of those with initializations. -/
def kept (marked : Marked) (steps : List Outcome) : List Outcome :=
  (marked.zip steps).filterMap fun (place, outcome) => place.map fun _ => outcome

variable (marked : Marked) (call : Call) (outcome : Outcome) (steps : List Outcome)

@[simp] theorem calls_none : calls (none :: marked) = calls marked := rfl

@[simp] theorem calls_some : calls (some call :: marked) = call :: calls marked := rfl

@[simp] theorem padded_none : padded (none :: marked) = .init :: padded marked := rfl

@[simp] theorem padded_some : padded (some call :: marked) = call :: padded marked := rfl

@[simp] theorem kept_nil : kept marked [] = [] := by
  simp [kept]

@[simp] theorem kept_none : kept (none :: marked) (outcome :: steps) = kept marked steps := rfl

@[simp] theorem kept_some :
    kept (some call :: marked) (outcome :: steps) = outcome :: kept marked steps := rfl

/-- The initializations change neither the exit status nor the output nor the steps of the
calls. -/
structure Unchanged (marked : Marked) (without withInits : Report) : Prop where
  status_eq : withInits.status = without.status
  output_eq : withInits.output = without.output
  steps_eq : marked.kept withInits.steps = without.steps

end Marked

/-! ### One initialization -/

namespace Call

variable {s : Session}

/-- Where settings can come into effect, initializing does no more than that and a notice. -/
theorem init_gives (hbreaks : s.breaks? = none) :
    Call.init.outcome s = .answered .unit ∧
      Call.init.next s = { s.loaded with
        notices := s.loaded.notices ++ s.loaded.recorded (.initialized s.settingsInForce) } := by
  have hop := Operation.init_on s
  rw [hbreaks] at hop
  exact perform_run_ok (operation_attempt hop .entry)

/-- Where they break off, it aborts the process. -/
theorem init_aborts {fault : SplitCharacter} (hbreaks : s.breaks? = some fault) :
    Call.init.outcome s = .aborted := by
  have hop := Operation.init_on s
  rw [hbreaks] at hop
  exact perform_run_aborted (on_bind_error hop _) rfl

end Call

/-! ### Runs with initializations -/

namespace Session

variable {s t : Session} {marked : Marked}

/-- If calls have one outcome in related sessions, and an initialization in the second one is an
answer that leaves it related, then initializations do not change the report. -/
theorem report_padded {R : Session → Session → Prop}
    (hconsole : ∀ {s t : Session}, R s t → t.console = s.console)
    (hnext : ∀ {call : Call} {s t : Session}, call.chooses = false → R s t →
      call.outcome t = call.outcome s ∧ R (call.next s) (call.next t))
    (hinit : ∀ {s t : Session}, R s t →
      (Call.init.outcome t).ending? = none ∧ R s (Call.init.next t))
    (hmarked : ∀ call ∈ marked.calls, call.chooses = false) (h : R s t) :
    marked.Unchanged (report marked.calls s) (report marked.padded t) ∧
      ((∀ s t, R s t → t.notices = s.notices) →
        (report marked.padded t).notices = (report marked.calls s).notices) := by
  induction marked generalizing s t with
  | nil =>
    have hsame : (report (Marked.padded []) t).output = (report (Marked.calls []) s).output :=
      congrArg (fun console => console.flush.writer.delivered) (hconsole h)
    exact ⟨⟨rfl, hsame, rfl⟩, fun hnotices => hnotices s t h⟩
  | cons place marked ih =>
    cases place with
    | none =>
      obtain ⟨hgo, hleft⟩ := hinit h
      obtain ⟨⟨hstatus, houtput, hsteps⟩, hnotices⟩ := ih hmarked hleft
      rw [Marked.padded_none, Marked.calls_none, report_cons_go hgo]
      refine ⟨⟨hstatus, houtput, ?_⟩, hnotices⟩
      rw [Marked.kept_none, hsteps]
    | some call =>
      obtain ⟨houtcome, hleft⟩ := hnext (hmarked call List.mem_cons_self) h
      rw [Marked.padded_some, Marked.calls_some]
      cases hend : (call.outcome s).ending? with
      | none =>
        obtain ⟨⟨hstatus, houtput, hsteps⟩, hnotices⟩ :=
          ih (fun call hmem => hmarked call (List.mem_cons_of_mem _ hmem)) hleft
        rw [report_cons_go hend, report_cons_go (houtcome ▸ hend), houtcome]
        refine ⟨⟨hstatus, houtput, ?_⟩, hnotices⟩
        rw [Marked.kept_some, hsteps]
      | some ending =>
        rw [report_cons_end hend, report_cons_end (houtcome ▸ hend)]
        refine ⟨⟨rfl, output_congr (hconsole hleft) ending, Marked.kept_nil _⟩, fun hnotices => ?_⟩
        exact hnotices _ _ hleft

/-! ### Sessions that initializations leave alike -/

/-- An initialization leaves the session alike. -/
theorem init_alike (hbreaks : s.breaks? = none) : Alike s (Call.init.next s) := by
  rw [(Call.init_gives hbreaks).2]
  exact (alike_loaded hbreaks).trans (alike_notices _ _)

/-- Sessions that are alike, have the same notices, and do not log. -/
structure SilentlyAlike (s t : Session) : Prop extends Alike s t where
  notices_eq : t.notices = s.notices
  warnings_eq : s.environment.notices = []
  logFilter_eq : s.settingsInForce.logFilter = none

theorem SilentlyAlike.left (h : SilentlyAlike s t) : s.Quiet :=
  ⟨h.logFilter_eq, fun _ => h.warnings_eq⟩

theorem SilentlyAlike.right (h : SilentlyAlike s t) : t.Quiet := by
  refine ⟨?_, fun _ => ?_⟩
  · rw [h.settingsInForce_eq]
    exact h.logFilter_eq
  · rw [h.environment_eq]
    exact h.warnings_eq

theorem SilentlyAlike.loaded_left (h : SilentlyAlike s t) : SilentlyAlike s.loaded t where
  toAlike := (alike_loaded h.left.breaks_eq).symm.trans h.toAlike
  notices_eq := by
    rw [h.notices_eq, ((loaded_proceeds s h.left.breaks_eq).quiet h.left).1]
  warnings_eq := by
    rw [loaded_environment]
    exact h.warnings_eq
  logFilter_eq := by
    rw [(loaded_proceeds s h.left.breaks_eq).settingsInForce_eq]
    exact h.logFilter_eq

theorem SilentlyAlike.loaded_right (h : SilentlyAlike s t) : SilentlyAlike s t.loaded :=
  { h with
    toAlike := h.toAlike.trans (alike_loaded h.right.breaks_eq)
    notices_eq := by
      rw [((loaded_proceeds t h.right.breaks_eq).quiet h.right).1, h.notices_eq] }

theorem silentlyAlike_uniform : Uniform SilentlyAlike where
  strings_eq h := h.strings_eq
  arrays_eq h := h.arrays_eq
  input_eq h := h.input_eq
  console_eq h := h.console_eq
  environment_eq h := h.environment_eq
  settingsInForce_eq h := h.settingsInForce_eq
  breaks_eq h := h.breaks_eq
  strings _ h := { h with strings_eq := rfl }
  arrays _ h := { h with arrays_eq := rfl }
  input _ h := { h with input_eq := rfl }
  console _ h := { h with console_eq := rfl }
  recorded event h := by
    rw [h.left.recorded_eq event, h.right.recorded_eq event, List.append_nil, List.append_nil]
    exact h
  notified _ h := { h with notices_eq := congrArg (· ++ _) h.notices_eq }
  loaded _ h := h.loaded_left.loaded_right

theorem silentlyAlike_next {call : Call} (hcall : call.chooses = false) (h : SilentlyAlike s t) :
    call.outcome t = call.outcome s ∧ SilentlyAlike (call.next s) (call.next t) := by
  have hwords : Coupled SilentlyAlike randomWords :=
    .randomWords silentlyAlike_uniform.steady (fun h => h.words_eq)
      (fun _ _ _ h => h.loaded_left) fun _ _ _ h => h.loaded_right
  refine Call.perform_coupled (Call.attempt_uniform silentlyAlike_uniform hcall ?_)
    (fun _ _ h => silentlyAlike_uniform.notified _ h) h
  exact fun _ _ _ hdraws =>
    Operation.draws_coupled hwords (fun _ _ _ h => { h with words_eq := rfl }) hdraws

end Session

/-! ### Initializing is optional -/

/-- The calls choose no settings, and draw the same numbers under both entropies. -/
def Marked.Determinate (marked : Marked) (environment : Environment)
    (entropy entropy' : WordStream) : Prop :=
  (∀ call ∈ marked.calls, call.chooses = false) ∧
    (entropy' = entropy ∨ Foreseeable environment.settings.seed.isSome marked.calls = true)

namespace Session

/-- Whatever the calls and their input are, initializations put anywhere between them change
nothing, not even under another entropy. -/
def InitOptional (environment : Environment) : Prop :=
  ∀ (marked : Marked) (input : Input) (console : Console) (entropy entropy' : WordStream),
    marked.Determinate environment entropy entropy' →
      marked.Unchanged (report marked.calls { environment, input, console, entropy })
        (report marked.padded { environment, input, console, entropy := entropy' })

variable {environment : Environment} {input : Input} {console : Console}
  {entropy entropy' : WordStream} {marked : Marked}

/-- Without initializations, determinate calls have the same report under both entropies. -/
theorem report_determinate (h : marked.Determinate environment entropy entropy') :
    report marked.calls { environment, input, console, entropy := entropy' } =
      report marked.calls { environment, input, console, entropy } := by
  rcases h.2 with rfl | hforeseeable
  · rfl
  · exact report_entropy (s := { environment, input, console, entropy }) h.1 hforeseeable entropy'

theorem initOptional_of_uncut (huncut : environment.settings.splitFault? = none) :
    InitOptional environment := by
  intro marked input console entropy entropy' h
  have hstart : Alike { environment, input, console, entropy := entropy' }
        { environment, input, console, entropy := entropy' } ∧
      environment.settings.splitFault? = none := ⟨.refl _, huncut⟩
  rw [← report_determinate h]
  refine (report_padded (R := fun s t => Alike s t ∧ s.environment.settings.splitFault? = none)
    (fun h => h.1.console_eq) ?_ ?_ h.1 hstart).1
  · rintro call s t hcall ⟨halike, huncut⟩
    obtain ⟨houtcome, hnext⟩ := Call.perform_alike halike (.inl hcall)
    rw [← (Call.next_settles call s).environment_eq] at huncut
    exact ⟨houtcome, hnext, huncut⟩
  · rintro s t ⟨halike, huncut⟩
    have hbreaks : t.breaks? = none := by
      cases hbreaks : t.breaks? with
      | none => rfl
      | some fault =>
        rw [← halike.environment_eq, splitFault_of_breaks hbreaks] at huncut
        cases huncut
    refine ⟨?_, halike.trans (init_alike hbreaks), huncut⟩
    rw [(Call.init_gives hbreaks).1]
    rfl

theorem report_padded_silent {settings : Settings}
    (hsettings : Settings.ofLookup environment.lookup = .ok settings)
    (hfilter : settings.logFilter = none)
    (h : marked.Determinate environment entropy entropy') :
    (report marked.padded { environment, input, console, entropy := entropy' }).notices =
      (report marked.calls { environment, input, console, entropy }).notices := by
  have hforce : environment.settings.logFilter = none := by
    rw [Environment.settings, hsettings]
    exact hfilter
  have hwarnings : environment.notices = [] := by
    rw [Environment.notices, hsettings]
  have hstart : SilentlyAlike { environment, input, console, entropy := entropy' }
      { environment, input, console, entropy := entropy' } := ⟨.refl _, rfl, hwarnings, hforce⟩
  rw [← report_determinate h]
  refine (report_padded (fun h => h.console_eq) silentlyAlike_next ?_ h.1 hstart).2
    fun s t h => h.notices_eq
  intro s t h
  have hgives := Call.init_gives h.right.breaks_eq
  refine ⟨by rw [hgives.1]; rfl, ?_⟩
  rw [hgives.2, h.loaded_right.right.recorded_eq, List.append_nil]
  exact h.loaded_right

/-- Initializing is optional in an environment exactly when its log filter can be cut into its
parts.  Without a filter and without a fault in the environment, initializations do not show on
the error stream either. -/
theorem init_optional_iff (environment : Environment) :
    (InitOptional environment ↔ environment.settings.splitFault? = none) ∧
      ∀ settings, Settings.ofLookup environment.lookup = .ok settings →
        settings.logFilter = none → ∀ marked input console entropy entropy',
        Marked.Determinate marked environment entropy entropy' →
          (report marked.padded { environment, input, console, entropy := entropy' }).notices =
            (report marked.calls { environment, input, console, entropy }).notices := by
  refine ⟨⟨fun hoptional => ?_, initOptional_of_uncut⟩, ?_⟩
  · cases hsplit : environment.settings.splitFault? with
    | none => rfl
    | some fault =>
      -- A single initialization aborts the process.
      have hbreaks : breaks? { environment, input := .stream [], entropy := .cyclic #[] } =
        some fault := hsplit
      have hend : (Call.init.outcome
          { environment, input := .stream [], entropy := .cyclic #[] }).ending? = some .aborted := by
        rw [Call.init_aborts hbreaks]
        rfl
      have hstatus := (hoptional [none] (.stream []) {} (.cyclic #[]) (.cyclic #[])
        ⟨fun _ hmem => absurd hmem List.not_mem_nil, .inl rfl⟩).status_eq
      rw [Marked.padded_none, report_cons_end hend] at hstatus
      cases hstatus
  · intro settings hsettings hfilter marked input console entropy entropy' h
    exact report_padded_silent hsettings hfilter h

/-- The filter begins with a blank of three bytes, so that an initialization aborts the process
before it prints. -/
theorem not_initOptional_blank_filter :
    ¬InitOptional [("TERN_LOG", .ofText "　a=5")] := by
  intro hoptional
  have hstatus := (hoptional [none, some (.operation .entry (.print (.int 7) false))]
    (.stream []) {} (.cyclic #[]) (.cyclic #[]) ⟨by decide, .inl rfl⟩).status_eq
  revert hstatus
  decide +kernel

end Session

end ProgramSupport
