import ProgramSupport.Proofs.Session.Alike
import ProgramSupport.Proofs.Session.Draws

/-!
# What does not depend on the entropy

Random numbers come from a seed, or from the entropy of the process if none is given.  Two
processes that differ in their entropy leave the same report if each number that they draw from a
range of several follows a seed.  This file provides

* `Session.Foreseeable` — whether this is so of calls that choose no settings, given whether a seed
  is configured, and `Session.Seeded` — whether it is so of all calls in a session;
* `Session.EntropyAside` — sessions that differ in nothing but entropy and random words; and not
  in the random words either, from a seed on;
* `Call.entropyAside_next` and `Call.seeded_next` — a call that draws behind a seed has the same
  outcome in such sessions;
* `Session.report_entropy` and `Session.report_seeded` — such calls have the same report under every
  entropy.

A range of at most one integer takes words, but what it gives does not depend on them.
-/

namespace ProgramSupport

open ProgramSupport.Action Session

namespace Call

/-- The call asks for a number of a range of several. -/
def isOpenDraw : Call → Bool
  | .operation _ (.random start stop) => decide (start.toInt + 1 < stop.toInt)
  | _ => false

/-- The call gives a seed. -/
def seeds : Call → Bool
  | .operation _ (.seed _) => true
  | _ => false

theorem seeds_eq {call : Call} (h : call.seeds = true) :
    ∃ form seed, call = operation form (.seed seed) := by
  unfold seeds at h
  split at h
  · next form seed => exact ⟨form, seed, rfl⟩
  · cases h

end Call

namespace Session

/-- Each number that is asked for of a range of several follows a seed: one that is known before
the calls, or one that an earlier call has given. -/
def Foreseeable : Bool → List Call → Bool
  | _, [] => true
  | known, call :: calls =>
    (known || !call.isOpenDraw) && Foreseeable (known || call.seeds) calls

/-- The random words that a session goes on with are those of a seed: the words in use, if one is
given, or else new ones, if the settings have a seed. -/
def isSeeded (s : Session) (given : Bool) : Bool :=
  if s.generator.isSome then given else s.settingsInForce.seed.isSome

/-- Each number that the calls ask for of a range of several follows a seed: that of the settings
in effect where random words are taken into use, or one that a call has given. -/
def Seeded : Bool → List Call → Session → Prop
  | _, [], _ => True
  | given, call :: calls, s =>
    (call.isOpenDraw = true → s.isSeeded given = true) ∧
      ((call.outcome s).ending? = none → Seeded (s.isSeeded given || call.seeds) calls (call.next s))

/-- The sessions differ in entropy and random words at most, and from a known seed on in the
entropy alone. -/
def EntropyAside (known : Bool) (s t : Session) : Prop :=
  ∃ entropy generator, t = { s with entropy, generator } ∧
    generator.isSome = s.generator.isSome ∧ (known = true → t.words? = s.words?)

variable {known : Bool} {s t : Session}

theorem EntropyAside.settings_eq (h : EntropyAside known s t) : t.settings = s.settings := by
  obtain ⟨entropy, generator, rfl, -⟩ := h
  rfl

theorem EntropyAside.breaks_eq (h : EntropyAside known s t) : t.breaks? = s.breaks? := by
  obtain ⟨entropy, generator, rfl, -⟩ := h
  rfl

theorem EntropyAside.isSome_eq (h : EntropyAside known s t) :
    t.generator.isSome = s.generator.isSome := by
  obtain ⟨entropy, generator, rfl, hsome, -⟩ := h
  exact hsome

theorem EntropyAside.generator_none (h : EntropyAside known s t) (hs : s.generator = none) :
    t.generator = none := by
  have hsome := h.isSome_eq
  rw [hs, Option.isSome_none, Option.isSome_eq_false_iff, Option.isNone_iff_eq_none] at hsome
  exact hsome

theorem EntropyAside.words_eq (h : EntropyAside true s t) : t.words? = s.words? := by
  obtain ⟨entropy, generator, -, -, hwords⟩ := h
  exact hwords rfl

theorem EntropyAside.generator_eq (h : EntropyAside true s t) : t.generator = s.generator := by
  have hwords := h.words_eq
  cases hs : s.generator with
  | none => exact h.generator_none hs
  | some words =>
    obtain ⟨words', ht⟩ :=
      Option.isSome_iff_exists.1 (h.isSome_eq.trans (congrArg Option.isSome hs))
    rw [words?_of_generator hs, words?_of_generator ht] at hwords
    rw [ht, hwords]

theorem EntropyAside.unknown (h : EntropyAside known s t) : EntropyAside false s t := by
  obtain ⟨entropy, generator, rfl, hsome, -⟩ := h
  exact ⟨entropy, generator, rfl, hsome, Bool.noConfusion⟩

theorem EntropyAside.adopted (settings : Settings) (h : EntropyAside false s t) :
    EntropyAside false (s.adopted settings) (t.adopted settings) := by
  obtain ⟨entropy, generator, rfl, hsome, -⟩ := h
  exact ⟨entropy, generator, rfl, hsome, Bool.noConfusion⟩

/-- Random words that are not in use yet come from the seed of the settings, if there is one. -/
theorem EntropyAside.of_isSeeded {given : Bool} (h : EntropyAside false s t)
    (hgenerator : given = true → t.generator = s.generator) :
    EntropyAside (s.isSeeded given) s t := by
  have hbreaks := h.breaks_eq
  have hwords : s.isSeeded given = true → t.words? = s.words? := by
    intro hknown
    unfold isSeeded at hknown
    cases hs : s.generator with
    | some words =>
      rw [hs] at hknown
      exact (words?_of_generator ((hgenerator hknown).trans hs)).trans (words?_of_generator hs).symm
    | none =>
      rw [hs] at hknown
      have hnone := (h.generator_none hs).trans hs.symm
      obtain ⟨seed, hseed⟩ := Option.isSome_iff_exists.1 hknown
      have hseed' : t.settingsInForce.seed = some seed := by
        obtain ⟨entropy, generator, rfl, -⟩ := h
        exact hseed
      exact words?_congr hnone hbreaks
        ((freshWords_of_seed hseed').trans (freshWords_of_seed hseed).symm)
  obtain ⟨entropy, generator, rfl, hsome, -⟩ := h
  exact ⟨entropy, generator, rfl, hsome, hwords⟩

theorem EntropyAside.loaded (hbreaks : s.breaks? = none) (h : EntropyAside known s t) :
    EntropyAside known s.loaded t.loaded := by
  cases hs : s.settings with
  | some settings =>
    rw [loaded_of_settings hs, loaded_of_settings (h.settings_eq.trans hs)]
    exact h
  | none =>
    have hbreaks' : t.breaks? = none := h.breaks_eq.trans hbreaks
    have hwords : known = true → t.loaded.words? = s.loaded.words? := by
      intro hknown
      subst hknown
      rw [(alike_loaded hbreaks').words_eq, (alike_loaded hbreaks).words_eq, h.words_eq]
    rw [loaded_of_unset hs, loaded_of_unset (h.settings_eq.trans hs)] at hwords ⊢
    obtain ⟨entropy, generator, rfl, hsome, -⟩ := h
    exact ⟨entropy, generator, rfl, hsome, hwords⟩

/-- Putting random words into use, which are the same if the seed is known. -/
theorem EntropyAside.generator (h : EntropyAside known s t) {words words' : WordStream}
    (hwords : known = true → words' = words) :
    EntropyAside known { s with generator := some words } { t with generator := some words' } := by
  obtain ⟨entropy, generator, rfl, -⟩ := h
  exact ⟨entropy, some words', rfl, rfl, fun hknown => congrArg some (hwords hknown)⟩

/-- With the same random words in use, the seed is known. -/
theorem EntropyAside.of_generator (h : EntropyAside known s t) {words : WordStream}
    (hs : s.generator = some words) (ht : t.generator = some words) : EntropyAside true s t := by
  have hwords : t.words? = s.words? := by
    rw [words?_of_generator hs, words?_of_generator ht]
  obtain ⟨entropy, generator, rfl, hsome, -⟩ := h
  exact ⟨entropy, generator, rfl, hsome, fun _ => hwords⟩

theorem entropyAside_uniform (known : Bool) : Uniform (EntropyAside known) where
  strings_eq := by rintro s - ⟨entropy, generator, rfl, -⟩; rfl
  arrays_eq := by rintro s - ⟨entropy, generator, rfl, -⟩; rfl
  input_eq := by rintro s - ⟨entropy, generator, rfl, -⟩; rfl
  console_eq := by rintro s - ⟨entropy, generator, rfl, -⟩; rfl
  environment_eq := by rintro s - ⟨entropy, generator, rfl, -⟩; rfl
  settingsInForce_eq := by rintro s - ⟨entropy, generator, rfl, -⟩; rfl
  breaks_eq h := h.breaks_eq
  strings := by
    rintro s - strings ⟨entropy, generator, rfl, h⟩
    exact ⟨entropy, generator, rfl, h⟩
  arrays := by
    rintro s - arrays ⟨entropy, generator, rfl, h⟩
    exact ⟨entropy, generator, rfl, h⟩
  input := by
    rintro s - input ⟨entropy, generator, rfl, h⟩
    exact ⟨entropy, generator, rfl, h⟩
  console := by
    rintro s - console ⟨entropy, generator, rfl, h⟩
    exact ⟨entropy, generator, rfl, h⟩
  recorded := by
    rintro s - event ⟨entropy, generator, rfl, h⟩
    exact ⟨entropy, generator, rfl, h⟩
  notified := by
    rintro s - notice ⟨entropy, generator, rfl, h⟩
    exact ⟨entropy, generator, rfl, h⟩
  loaded := EntropyAside.loaded

/-- Both sessions have random words, which are the same if the seed is known, or both break
off. -/
theorem EntropyAside.randomWords (h : EntropyAside known s t) :
    (∃ fault, randomWords.on s = (.error fault, s) ∧ randomWords.on t = (.error fault, t)) ∨
      ∃ words words' u v, randomWords.on s = (.ok words, u) ∧
        randomWords.on t = (.ok words', v) ∧ EntropyAside known u v ∧
        (known = true → words' = words) := by
  have hbreaks := h.breaks_eq
  rw [randomWords_on, randomWords_on]
  cases hs : s.generator with
  | some words =>
    obtain ⟨words', ht⟩ := Option.isSome_iff_exists.1 (h.isSome_eq.trans (by rw [hs]; rfl))
    rw [ht]
    refine .inr ⟨words, words', s, t, rfl, rfl, h, fun hknown => ?_⟩
    subst hknown
    have hwords := h.words_eq
    rw [words?_of_generator hs, words?_of_generator ht] at hwords
    exact Option.some.inj hwords
  | none =>
    have ht := h.generator_none hs
    rw [ht, hbreaks]
    cases hfault : s.breaks? with
    | some fault => exact .inl ⟨fault, rfl, rfl⟩
    | none =>
      refine .inr ⟨s.freshWords, t.freshWords, s.loaded, t.loaded, rfl, rfl, h.loaded hfault,
        fun hknown => ?_⟩
      subst hknown
      have hwords := h.words_eq
      rw [words?, words?, hs, ht, hbreaks, hfault] at hwords
      exact Option.some.inj hwords

end Session

/-! ### Calls and reports -/

variable {known : Bool} {s t : Session}

/-- What drawing a number does with the random words. -/
theorem Operation.random_on {start stop : Int64} {words : WordStream}
    (h : randomWords.on s = (.ok words, t)) :
    (random start stop).attempt.on s =
      (.ok ((words.drawIn start stop).1.map fun value => .int value.toInt),
        { t with generator := some (words.drawIn start stop).2 }) := by
  rw [attempt, on_bind_ok h]
  show (Session.whenOk (words.drawIn start stop).1 _).on
    { t with generator := some (words.drawIn start stop).2 } = _
  cases (words.drawIn start stop).1 <;> rfl

/-- A number is the same under every entropy if the seed is known, or the range has at most one
integer. -/
theorem Operation.random_entropyAside {start stop : Int64}
    (h : known = true ∨ stop.toInt ≤ start.toInt + 1) :
    Coupled (EntropyAside known) (random start stop).attempt := by
  intro s t haside
  rcases haside.randomWords with ⟨fault, hon, hon'⟩ | ⟨words, words', u, v, hon, hon', hleft, hwords⟩
  · rw [attempt, on_bind_error hon, on_bind_error hon']
    exact ⟨rfl, haside⟩
  · rw [random_on hon, random_on hon']
    refine ⟨?_, hleft.generator fun hknown => by rw [hwords hknown]⟩
    rcases h with hknown | hnarrow
    · rw [hwords hknown]
    · rw [WordStream.drawIn_of_narrow hnarrow words words']

namespace Call

/-- A call that chooses no settings, and asks for a number of a range of several only behind a
known seed, has the same outcome under every entropy. -/
theorem entropyAside_next {call : Call} (hcall : call.chooses = false)
    (hdraw : known = true ∨ call.isOpenDraw = false) (h : EntropyAside known s t) :
    call.outcome t = call.outcome s ∧
      EntropyAside (known || call.seeds) (call.next s) (call.next t) := by
  have huniform := entropyAside_uniform known
  have hattempt : Coupled (EntropyAside known) call.attempt := by
    refine attempt_uniform huniform hcall fun form op hop hdraws => ?_
    subst hop
    cases op with
    | random start stop =>
      refine Operation.random_entropyAside (hdraw.imp_right fun hclosed => ?_)
      simpa [isOpenDraw] using hclosed
    | seed value =>
      exact Operation.seed_coupled (fun _ _ words h => h.generator fun _ => rfl) value
    | _ => cases hdraws
  obtain ⟨houtcome, hnext⟩ := perform_coupled hattempt (fun _ _ h => huniform.notified _ h) h
  refine ⟨houtcome, ?_⟩
  cases hseeds : call.seeds with
  | false =>
    rw [Bool.or_false]
    exact hnext
  | true =>
    obtain ⟨form, seed, rfl⟩ := seeds_eq hseeds
    rw [Bool.or_true]
    exact hnext.of_generator (operation_generator form _ s) (operation_generator form _ t)

/-- A call that asks for a number of a range of several only behind a known seed has the same
outcome under every entropy.  Settings that it chooses can have a seed or none. -/
theorem seeded_next {call : Call} {given : Bool}
    (hdraw : call.isOpenDraw = true → s.isSeeded given = true)
    (h : EntropyAside (s.isSeeded given) s t) :
    call.outcome t = call.outcome s ∧
      EntropyAside ((call.next s).isSeeded (s.isSeeded given || call.seeds)) (call.next s)
        (call.next t) := by
  cases hchooses : call.chooses with
  | false =>
    have hclosed : s.isSeeded given = true ∨ call.isOpenDraw = false := by
      cases hopen : call.isOpenDraw with
      | false => exact .inr rfl
      | true => exact .inl (hdraw hopen)
    obtain ⟨houtcome, hnext⟩ := entropyAside_next hchooses hclosed h
    refine ⟨houtcome, hnext.unknown.of_isSeeded fun hknown => ?_⟩
    rw [hknown] at hnext
    exact hnext.generator_eq
  | true =>
    cases call with
    | install settings =>
      have hattempt : Coupled (EntropyAside false) (install settings).attempt :=
        attempt_install settings (fun h => congrArg Option.isSome h.settings_eq)
          fun h => h.adopted settings
      obtain ⟨houtcome, hnext⟩ :=
        perform_coupled hattempt (fun _ _ h => (entropyAside_uniform false).notified _ h) h.unknown
      refine ⟨houtcome, hnext.of_isSeeded fun hknown => ?_⟩
      have hgiven : s.isSeeded given = true := by simpa [seeds] using hknown
      rw [hgiven] at h
      rw [install_generator, install_generator, h.generator_eq]
    | _ => cases hchooses

end Call

namespace Session

/-- Sessions that differ in entropy alone. -/
theorem entropyAside_start (s : Session) (given : Bool) (entropy : WordStream) :
    EntropyAside (s.isSeeded given) s { s with entropy } :=
  EntropyAside.of_isSeeded ⟨entropy, s.generator, rfl, rfl, Bool.noConfusion⟩ fun _ => rfl

/-- Processes that differ in their entropy leave the same report if they choose no settings, and
each number that they draw from a range of several follows a seed. -/
theorem report_entropy {calls : List Call} (hcalls : ∀ call ∈ calls, call.chooses = false)
    (hforeseeable : Foreseeable s.settingsInForce.seed.isSome calls = true)
    (entropy : WordStream) :
    report calls { s with entropy } = report calls s := by
  have hstart := entropyAside_start s s.settingsInForce.seed.isSome entropy
  rw [isSeeded, ite_self] at hstart
  refine report_eq_of_lockstep (R := fun calls s t => (∀ call ∈ calls, call.chooses = false) ∧
    ∃ known, Foreseeable known calls = true ∧ EntropyAside known s t) ?_ ?_
    ⟨hcalls, _, hforeseeable, hstart⟩
  · rintro calls s t ⟨-, known, -, h⟩
    refine ⟨(entropyAside_uniform known).console_eq h, ?_⟩
    obtain ⟨entropy, generator, rfl, -⟩ := h
    rfl
  · rintro call calls s t ⟨hcalls, known, hforeseeable, h⟩
    rw [Foreseeable, Bool.and_eq_true, Bool.or_eq_true, Bool.not_eq_true'] at hforeseeable
    obtain ⟨hdraw, hrest⟩ := hforeseeable
    obtain ⟨houtcome, hnext⟩ :=
      Call.entropyAside_next (hcalls call List.mem_cons_self) hdraw h
    exact ⟨houtcome,
      fun _ => ⟨fun call hmem => hcalls call (List.mem_cons_of_mem _ hmem), _, hrest, hnext⟩,
      fun _ => ⟨fun call hmem => absurd hmem List.not_mem_nil, _, rfl, hnext⟩⟩

/-- The same of all calls, which can choose settings with a seed or without one. -/
theorem report_seeded {given : Bool} {calls : List Call} (hseeded : Seeded given calls s)
    (entropy : WordStream) : report calls { s with entropy } = report calls s := by
  refine report_eq_of_lockstep
    (R := fun calls s t => ∃ given, Seeded given calls s ∧ EntropyAside (s.isSeeded given) s t) ?_ ?_
    ⟨given, hseeded, entropyAside_start s given entropy⟩
  · rintro calls s t ⟨given, -, h⟩
    refine ⟨(entropyAside_uniform _).console_eq h, ?_⟩
    obtain ⟨entropy, generator, rfl, -⟩ := h
    rfl
  · rintro call calls s t ⟨given, ⟨hdraw, hrest⟩, h⟩
    obtain ⟨houtcome, hnext⟩ := Call.seeded_next hdraw h
    exact ⟨houtcome, fun hgo => ⟨_, hrest hgo, hnext⟩, fun _ => ⟨_, trivial, hnext⟩⟩

end Session

end ProgramSupport
