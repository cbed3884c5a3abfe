import ProgramSupport.Proofs.Session.Entropy

/-!
# Entry points do not look at the policy

Entry points end the process by every violation, whatever the policy is.  So processes that only
call entry points leave the same report under every policy, as long as nothing tells the policy to
the log.  This file provides

* `Policy.Spelled` — the texts that name a policy, and `Policy.ofText_of_spelled`;
* `Settings.ofLookup_of_spelled` — where a policy is named, only the seed can have a fault;
* `Session.PolicyAside` — sessions without a log that differ in nothing but the policy;
* `Call.policyAside_next` — an entry point has the same outcome in such sessions;
* `Session.entries_under_policies` — the reports of entry points in environments that differ in the
  policy alone.
-/

namespace ProgramSupport

open ProgramSupport.Action Session

/-! ### Names of policies -/

namespace Policy

/-- The text is the name of a policy, in letters of either case, with blanks around it. -/
def Spelled (text : String) : Prop :=
  ∃ before letters after : List Char, text.toList = before ++ letters ++ after ∧
    (∀ c ∈ before, isBlank c = true) ∧ (∀ c ∈ after, isBlank c = true) ∧
    ∃ name ∈ names, letters.map Char.toLower = name.toList

/-- The letters of a name are no blanks. -/
theorem not_isBlank_of_name {letters : List Char} {name : String} (hname : name ∈ names)
    (hlower : letters.map Char.toLower = name.toList) : ∀ c ∈ letters, isBlank c = false := by
  intro c hmem
  cases hblank : isBlank c with
  | false => rfl
  | true =>
    have hnames : ∀ name ∈ names, ∀ c ∈ name.toList, isBlank c = false := by
      simp [names, isBlank]
    have hletter : c.toLower ∈ name.toList := by
      rw [← hlower]
      exact List.mem_map_of_mem hmem
    rw [toLower_of_isBlank hblank] at hletter
    rw [← hnames name hname c hletter, hblank]

theorem ofText_of_spelled {text : String} (h : Spelled text) :
    ∃ policy, Policy.ofText text = .ok policy := by
  obtain ⟨before, letters, after, htext, hbefore, hafter, name, hname, hlower⟩ := h
  have hletters := not_isBlank_of_name hname hlower
  have htrimmed : trimBlanks text.toList = letters :=
    Trimmed.eq ⟨⟨before, after, htext, hbefore, hafter⟩,
      fun c hc => hletters c (List.mem_of_mem_head? hc),
      fun c hc => hletters c (List.mem_of_mem_getLast? hc)⟩
  unfold Policy.ofText Policy.ofText?
  rw [htrimmed, hlower]
  simp only [names, List.mem_cons, List.not_mem_nil, or_false] at hname
  rcases hname with rfl | rfl | rfl
  · exact ⟨.exit, rfl⟩
  · exact ⟨.exit, rfl⟩
  · exact ⟨.panic, rfl⟩

end Policy

/-! ### Environments and sessions that differ in the policy -/

/-- Where a policy is named or left out, only the seed can have a fault. -/
theorem Settings.ofLookup_of_spelled {lookup : String → Option String}
    (h : ∀ text, lookup policyVariable = some text → Policy.Spelled text) :
    ∃ policy, Settings.ofLookup lookup = (seedOfLookup lookup).map fun seed =>
      { policy, seed, logFilter := (lookup logVariable).bind filterOfText? } := by
  have hpolicy : ∃ policy, policyOfLookup lookup = .ok policy := by
    unfold policyOfLookup
    cases hnamed : lookup policyVariable with
    | none => exact ⟨.exit, rfl⟩
    | some text => exact Policy.ofText_of_spelled (h text hnamed)
  obtain ⟨policy, hread⟩ := hpolicy
  refine ⟨policy, ?_⟩
  rw [ofLookup_eq, hread]
  rfl

/-- The environments have no log filter, and differ in the policy alone, which each of them names
or leaves out. -/
structure Environment.PolicyAside (environment environment' : Environment) : Prop where
  lookup_eq : ∀ name, name ≠ policyVariable → environment'.lookup name = environment.lookup name
  filter_eq : environment.lookup logVariable = none
  left : ∀ text, environment.lookup policyVariable = some text → Policy.Spelled text
  right : ∀ text, environment'.lookup policyVariable = some text → Policy.Spelled text

/-- Such environments give the same seed and the same warning, and no log filter. -/
theorem Environment.PolicyAside.settings {environment environment' : Environment}
    (h : environment.PolicyAside environment') :
    environment'.notices = environment.notices ∧
      environment'.settings.seed = environment.settings.seed ∧
      environment.settings.logFilter = none ∧ environment'.settings.logFilter = none := by
  obtain ⟨policy, hread⟩ := Settings.ofLookup_of_spelled h.left
  obtain ⟨policy', hread'⟩ := Settings.ofLookup_of_spelled h.right
  have hseed : Settings.seedOfLookup environment'.lookup =
      Settings.seedOfLookup environment.lookup := by
    rw [Settings.seedOfLookup, Settings.seedOfLookup, h.lookup_eq seedVariable (by decide)]
  rw [h.filter_eq] at hread
  rw [hseed, h.lookup_eq logVariable (by decide), h.filter_eq] at hread'
  unfold Environment.notices Environment.settings
  rw [hread, hread']
  cases Settings.seedOfLookup environment.lookup <;> exact ⟨rfl, rfl, rfl, rfl⟩

namespace Session

/-- Sessions that differ in the policy at most, and do not log. -/
structure PolicyAside (s t : Session) : Prop where
  input_eq : t.input = s.input
  entropy_eq : t.entropy = s.entropy
  console_eq : t.console = s.console
  generator_eq : t.generator = s.generator
  notices_eq : t.notices = s.notices
  strings_eq : t.strings = s.strings
  arrays_eq : t.arrays = s.arrays
  warnings_eq : t.environment.notices = s.environment.notices
  isSome_eq : t.settings.isSome = s.settings.isSome
  seed_eq : t.settingsInForce.seed = s.settingsInForce.seed
  left : s.settingsInForce.logFilter = none
  right : t.settingsInForce.logFilter = none

variable {s t : Session}

theorem PolicyAside.breaks_eq (h : PolicyAside s t) : t.breaks? = s.breaks? := by
  rw [breaks_of_logFilter h.left, breaks_of_logFilter h.right]

theorem PolicyAside.freshWords_eq (h : PolicyAside s t) : t.freshWords = s.freshWords :=
  freshWords_congr h.seed_eq h.entropy_eq

theorem PolicyAside.loaded (h : PolicyAside s t) : PolicyAside s.loaded t.loaded := by
  have hs := (loaded_proceeds s (breaks_of_logFilter h.left)).settingsInForce_eq
  have ht := (loaded_proceeds t (breaks_of_logFilter h.right)).settingsInForce_eq
  constructor
  · rw [loaded_input, loaded_input, h.input_eq]
  · rw [loaded_entropy, loaded_entropy, h.entropy_eq]
  · rw [loaded_console, loaded_console, h.console_eq]
  · rw [loaded_generator, loaded_generator, h.generator_eq]
  · rw [loaded_notices h.left, loaded_notices h.right, h.notices_eq, h.isSome_eq, h.warnings_eq]
  · rw [loaded_strings, loaded_strings, h.strings_eq]
  · rw [loaded_arrays, loaded_arrays, h.arrays_eq]
  · rw [loaded_environment, loaded_environment, h.warnings_eq]
  · rw [loaded_settings, loaded_settings, Option.isSome_some, Option.isSome_some]
  · rw [hs, ht, h.seed_eq]
  · rw [hs, h.left]
  · rw [ht, h.right]

/-- Whatever the events of both sessions are, they leave no notice. -/
theorem PolicyAside.recorded (h : PolicyAside s t) (event event' : Event) :
    PolicyAside { s with notices := s.notices ++ s.recorded event }
      { t with notices := t.notices ++ t.recorded event' } := by
  rw [recorded_of_logFilter h.left, recorded_of_logFilter h.right, List.append_nil,
    List.append_nil]
  exact h

theorem policyAside_steady : Steady PolicyAside where
  strings_eq h := h.strings_eq
  arrays_eq h := h.arrays_eq
  input_eq h := h.input_eq
  console_eq h := h.console_eq
  breaks_eq h := h.breaks_eq
  strings _ h := { h with strings_eq := rfl }
  arrays _ h := { h with arrays_eq := rfl }
  input _ h := { h with input_eq := rfl }
  console _ h := { h with console_eq := rfl }
  recorded event h := h.recorded event event
  initialized h := h.recorded _ _
  notified _ h := { h with notices_eq := congrArg (· ++ _) h.notices_eq }
  loaded _ h := h.loaded

end Session

namespace Call

variable {s t : Session}

theorem entry_eq {call : Call} (h : call.isEntry = true) : ∃ op, call = operation .entry op := by
  unfold isEntry at h
  split at h
  · next op => exact ⟨op, rfl⟩
  · cases h

/-- An entry point has the same outcome whatever the policy is. -/
theorem policyAside_next {call : Call} (hentry : call.isEntry = true) (h : PolicyAside s t) :
    call.outcome t = call.outcome s ∧ PolicyAside (call.next s) (call.next t) := by
  have hwords : Coupled PolicyAside randomWords :=
    .randomWords_of_generator policyAside_steady (fun h => h.generator_eq)
      fun h => h.freshWords_eq
  obtain ⟨op, rfl⟩ := entry_eq hentry
  refine perform_coupled (entry_steady policyAside_steady op fun hdraws => ?_)
    (fun _ _ h => policyAside_steady.notified _ h) h
  exact Operation.draws_coupled hwords (fun _ _ _ h => { h with generator_eq := rfl }) hdraws

end Call

/-! ### Reports -/

namespace Session

/-- Processes that only call entry points leave the same report in environments that differ in the
policy alone, with the same exit status, output, notices and steps.  Their entropy can differ if
each number that they draw from a range of several follows a seed. -/
theorem entries_under_policies {environment environment' : Environment} {calls : List Call}
    {entropy entropy' : WordStream} (henvironments : environment.PolicyAside environment')
    (hentries : ∀ call ∈ calls, call.isEntry = true)
    (hdraws : entropy' = entropy ∨ Foreseeable environment.settings.seed.isSome calls = true)
    (input : Input) (console : Console) :
    report calls { environment := environment', input, console, entropy := entropy' } =
      report calls { environment, input, console, entropy } := by
  obtain ⟨hwarnings, hseed, hleft, hright⟩ := henvironments.settings
  have hstart : PolicyAside { environment, input, console, entropy }
      { environment := environment', input, console, entropy } :=
    ⟨rfl, rfl, rfl, rfl, rfl, rfl, rfl, hwarnings, rfl, hseed, hleft, hright⟩
  have hpolicies : report calls { environment := environment', input, console, entropy } =
      report calls { environment, input, console, entropy } := by
    refine report_eq_of_lockstep (R := fun calls s t =>
      (∀ call ∈ calls, call.isEntry = true) ∧ PolicyAside s t) ?_ ?_ ⟨hentries, hstart⟩
    · rintro calls s t ⟨-, h⟩
      exact ⟨h.console_eq, h.notices_eq⟩
    · rintro call calls s t ⟨hentries, h⟩
      obtain ⟨houtcome, hnext⟩ := call.policyAside_next (hentries call List.mem_cons_self) h
      exact ⟨houtcome,
        fun _ => ⟨fun call hmem => hentries call (List.mem_cons_of_mem _ hmem), hnext⟩,
        fun _ => ⟨fun call hmem => absurd hmem List.not_mem_nil, hnext⟩⟩
  rw [← hpolicies]
  rcases hdraws with rfl | hforeseeable
  · rfl
  · have hcalls : ∀ call ∈ calls, call.chooses = false := by
      intro call hmem
      obtain ⟨op, rfl⟩ := Call.entry_eq (hentries call hmem)
      rfl
    rw [← hseed] at hforeseeable
    exact report_entropy (s := { environment := environment', input, console, entropy }) hcalls
      hforeseeable entropy'

/-- A policy that throws, and one that exits, written with blanks and in capitals. -/
theorem entries_under_policies_spelled :
    report [.operation .entry (.arrayNew 0), .operation .entry (.random 3 4),
        .operation .entry (.arrayGet (some 0) 5)]
        { environment := [("TERN_ON_VIOLATION", .ofText " ABORT\n")], input := .stream [],
          entropy := .cyclic #[1] } =
      report [.operation .entry (.arrayNew 0), .operation .entry (.random 3 4),
        .operation .entry (.arrayGet (some 0) 5)]
        { environment := [("TERN_ON_VIOLATION", .ofText "panic")], input := .stream [],
          entropy := .cyclic #[2] } := by
  refine entries_under_policies ⟨?_, by decide, ?_, ?_⟩ (by decide) (.inr (by decide))
    (.stream []) {}
  · intro name hname
    have hother : (name == "TERN_ON_VIOLATION") = false := beq_false_of_ne hname
    simp only [Environment.lookup, List.lookup_cons, List.lookup_nil, hother]
  · intro text htext
    have hpanic : Environment.lookup [("TERN_ON_VIOLATION", .ofText "panic")] policyVariable =
        some "panic" := by decide
    rw [hpanic] at htext
    cases htext
    exact ⟨[], "panic".toList, [], by decide, by simp, by simp, "panic", by decide, by decide⟩
  · intro text htext
    have habort : Environment.lookup [("TERN_ON_VIOLATION", .ofText " ABORT\n")] policyVariable =
        some " ABORT\n" := by decide
    rw [habort] at htext
    cases htext
    exact ⟨[' '], "ABORT".toList, ['\n'], by decide, by simp [isBlank], by simp [isBlank],
      "abort", by decide, by decide⟩

end Session

end ProgramSupport
