import ProgramSupport.Proofs.Session.Lockstep
import ProgramSupport.Proofs.Session.SettingsOnce

/-!
# Sessions that go on alike

Whether settings have come into effect already, and whether random words are in use already, does
not matter for what a session goes on to do, if the settings and the words are those that would
be taken anyway.  This file provides

* `Session.Alike` — sessions that differ in nothing else, an equivalence;
* `Session.alike_loaded` and `Session.alike_words` — letting settings come into effect, and taking
  random words into use, leaves a session alike;
* `Session.alike_uniform` — the parts of operations respect it;
* `Call.perform_alike` — calls that do not choose settings have the same outcome in sessions that
  are alike; where settings are in effect, so do all calls.
-/

namespace ProgramSupport

open ProgramSupport.Action

namespace Session

/-- The sessions hold the same, and the same settings and random words are or will be in use. -/
structure Alike (s t : Session) : Prop where
  environment_eq : t.environment = s.environment
  input_eq : t.input = s.input
  entropy_eq : t.entropy = s.entropy
  console_eq : t.console = s.console
  strings_eq : t.strings = s.strings
  arrays_eq : t.arrays = s.arrays
  settingsInForce_eq : t.settingsInForce = s.settingsInForce
  breaks_eq : t.breaks? = s.breaks?
  words_eq : t.words? = s.words?

theorem Alike.refl (s : Session) : Alike s s := ⟨rfl, rfl, rfl, rfl, rfl, rfl, rfl, rfl, rfl⟩

theorem Alike.symm {s t : Session} (h : Alike s t) : Alike t s :=
  ⟨h.environment_eq.symm, h.input_eq.symm, h.entropy_eq.symm, h.console_eq.symm,
    h.strings_eq.symm, h.arrays_eq.symm, h.settingsInForce_eq.symm, h.breaks_eq.symm,
    h.words_eq.symm⟩

theorem Alike.trans {s t u : Session} (h : Alike s t) (h' : Alike t u) : Alike s u :=
  ⟨h'.environment_eq.trans h.environment_eq, h'.input_eq.trans h.input_eq,
    h'.entropy_eq.trans h.entropy_eq, h'.console_eq.trans h.console_eq,
    h'.strings_eq.trans h.strings_eq, h'.arrays_eq.trans h.arrays_eq,
    h'.settingsInForce_eq.trans h.settingsInForce_eq, h'.breaks_eq.trans h.breaks_eq,
    h'.words_eq.trans h.words_eq⟩

/-- Notices do not matter. -/
theorem alike_notices (s : Session) (notices : List Notice) : Alike s { s with notices } :=
  ⟨rfl, rfl, rfl, rfl, rfl, rfl, rfl, rfl, rfl⟩

/-- Letting settings come into effect. -/
theorem alike_loaded {s : Session} (h : s.breaks? = none) : Alike s s.loaded := by
  have hproceeds := loaded_proceeds s h
  refine ⟨loaded_environment s, loaded_input s, loaded_entropy s, loaded_console s,
    loaded_strings s, loaded_arrays s, hproceeds.settingsInForce_eq, hproceeds.breaks_eq, ?_⟩
  have hseed := congrArg Settings.seed hproceeds.settingsInForce_eq
  exact words?_congr (loaded_generator s) hproceeds.breaks_eq
    (freshWords_congr hseed (loaded_entropy s))

/-- Taking the random words into use. -/
theorem alike_words {s : Session} {words : WordStream} (h : s.words? = some words) :
    Alike s { s with generator := some words } :=
  { Alike.refl s with words_eq := h.symm }

/-- Replacing the random words in both. -/
theorem Alike.generator {s t : Session} (h : Alike s t) (words : WordStream) :
    Alike { s with generator := some words } { t with generator := some words } :=
  { h with words_eq := rfl }

theorem alike_uniform : Uniform Alike where
  strings_eq h := h.strings_eq
  arrays_eq h := h.arrays_eq
  input_eq h := h.input_eq
  console_eq h := h.console_eq
  strings _ h := { h with strings_eq := rfl }
  arrays _ h := { h with arrays_eq := rfl }
  input _ h := { h with input_eq := rfl }
  console _ h := { h with console_eq := rfl }
  recorded {s t} _ h :=
    ((alike_notices s _).symm.trans h).trans (alike_notices t _)
  environment_eq h := h.environment_eq
  settingsInForce_eq h := h.settingsInForce_eq
  breaks_eq h := h.breaks_eq
  loaded hbreaks h :=
    ((alike_loaded hbreaks).symm.trans h).trans (alike_loaded (h.breaks_eq.trans hbreaks))
  notified {s t} _ h := ((alike_notices s _).symm.trans h).trans (alike_notices t _)

/-- Taking random words leaves the session alike. -/
theorem randomWords_keeps {s : Session} {words : WordStream} (h : s.words? = some words) :
    ∃ t, randomWords.on s = (.ok words, t) ∧ Alike s t := by
  obtain ⟨t, hon, hcourse⟩ := randomWords_of_some h
  refine ⟨t, hon, ?_⟩
  rcases hcourse with ⟨rfl, -⟩ | ⟨rfl, -, hbreaks⟩
  · exact .refl t
  · exact alike_loaded hbreaks

theorem randomWords_alike : Coupled Alike randomWords :=
  .randomWords alike_uniform.steady (fun h => h.words_eq)
    (fun _ _ hbreaks h => (alike_loaded hbreaks).symm.trans h)
    fun _ _ hbreaks h => h.trans (alike_loaded hbreaks)

end Session

open Session

namespace Call

theorem attempt_alike {call : Call} (hcall : call.chooses = false) :
    Coupled Alike call.attempt :=
  attempt_uniform alike_uniform hcall fun _ _ _ hdraws =>
    Operation.draws_coupled randomWords_alike (fun _ _ words h => h.generator words) hdraws

/-- A call that does not choose settings, or that does so where some are in effect, has the same
outcome in sessions that are alike, and leaves them alike. -/
theorem perform_alike {call : Call} {s t : Session} (h : Alike s t)
    (hcall : call.chooses = false ∨ s.settings.isSome = true ∧ t.settings.isSome = true) :
    call.outcome t = call.outcome s ∧ Alike (call.next s) (call.next t) := by
  cases hchooses : call.chooses with
  | false =>
    exact perform_coupled (attempt_alike hchooses) (fun _ _ h => alike_uniform.notified _ h) h
  | true =>
    rw [hchooses] at hcall
    obtain ⟨hs, ht⟩ := hcall.resolve_left Bool.noConfusion
    cases call with
    | install settings =>
      have hrefused {u : Session} (hu : u.settings.isSome = true) :
          (install settings).perform.run u = (.answered (.flag false), u) := by
        obtain ⟨inEffect, hinEffect⟩ := Option.isSome_iff_exists.1 hu
        rw [install_performed, hinEffect]
      rw [outcome, outcome, next, next, hrefused hs, hrefused ht]
      exact ⟨rfl, h⟩
    | _ => cases hchooses

end Call

end ProgramSupport
