import ProgramSupport.Proofs.Session.Alike
import ProgramSupport.Proofs.Session.Draws

/-!
# The random numbers of a run

All random numbers of a process come from one stream of words, whatever calls ask for them.  This
file provides

* `Session.drawings` — the seeds and the random numbers of a run, in order;
* `Session.Tracks` — the random words in use are those behind some drawings, which every call
  preserves;
* `Session.InOrder` — drawings whose numbers come from the words of the last seed, or of the
  configured one;
* `Session.drawings_filter` — asking for numbers of empty ranges does not change the drawings;
* `Session.DrawsAsSeeded` — a configured seed is as good as one that is given;
* `Session.drawings_determined` — the numbers of every run, and what does not change them.

Before a seed is given, the words are those of the seed in the settings, which come into effect
with the first number that is asked for.  Where the settings break off, there are none.
-/

namespace ProgramSupport

open ProgramSupport.Action Session

/-- The seeds and the random numbers of a run. -/
def Session.drawings (calls : List Call) (s : Session) : List Drawing :=
  (steps calls s).filterMap Step.drawing?

/-! ### Numbers in order -/

namespace Session

variable {s : Session}

theorem drawings_cons_go {call : Call} (hgo : (call.outcome s).ending? = none)
    (calls : List Call) : drawings (call :: calls) s =
      (Step.drawing? ⟨call, s⟩).toList ++ drawings calls (call.next s) := by
  rw [drawings, steps_cons_go hgo, List.filterMap_cons]
  cases Step.drawing? ⟨call, s⟩ <;> rfl

theorem drawings_cons_end {call : Call} {ending : Ending}
    (hend : (call.outcome s).ending? = some ending) (calls : List Call) :
    drawings (call :: calls) s = (Step.drawing? ⟨call, s⟩).toList := by
  rw [drawings, steps_cons_end hend, List.filterMap_cons]
  cases Step.drawing? ⟨call, s⟩ <;> rfl

theorem drawings_singleton (call : Call) (s : Session) :
    drawings [call] s = (Step.drawing? ⟨call, s⟩).toList := by
  cases hend : (call.outcome s).ending? with
  | some ending => rw [drawings_cons_end hend]
  | none =>
    rw [drawings_cons_go hend]
    exact List.append_nil _

/-- The random words in use are those behind some drawings: none before the first drawing, and
otherwise those of the last seed behind two words for each number.  Without a seed that was given
it is the seed of settings in effect. -/
structure Tracks (drawn : List Drawing) (s : Session) : Prop where
  fresh : s.generator = none → drawn = []
  seeded : s.generator.isSome = true →
    s.settings.isSome = true ∨ (Drawing.lastSeed? none drawn).isSome = true
  words_eq : ∀ words, s.generator = some words → ∀ seed,
    Drawing.lastSeed? s.settingsInForce.seed drawn = some seed →
      words = { WordStream.ofSeed seed with position := 2 * Drawing.drawnSince drawn }

theorem settingsInForce_of_some {settings : Settings} (h : s.settings = some settings) :
    s.settingsInForce = settings := by
  rw [settingsInForce, h, Option.getD_some]

variable {drawn : List Drawing}

/-- The words that can be taken are those of the last seed, in use or not. -/
theorem Tracks.words?_eq (h : Tracks drawn s) {words : WordStream} (hwords : s.words? = some words)
    {seed : UInt64} (hseed : Drawing.lastSeed? s.settingsInForce.seed drawn = some seed) :
    words = { WordStream.ofSeed seed with position := 2 * Drawing.drawnSince drawn } := by
  unfold words? at hwords
  cases hgenerator : s.generator with
  | some inUse =>
    rw [hgenerator] at hwords
    cases hwords
    exact h.words_eq words hgenerator seed hseed
  | none =>
    rw [h.fresh hgenerator] at hseed ⊢
    rw [hgenerator] at hwords
    cases hbreaks : s.breaks? with
    | some fault =>
      rw [hbreaks] at hwords
      cases hwords
    | none =>
      rw [hbreaks] at hwords
      cases hwords
      rw [freshWords, show s.settingsInForce.seed = some seed from hseed]
      rfl

/-- Once words are in use, the seed behind some drawings does not change. -/
theorem Tracks.lastSeed?_eq (h : Tracks drawn s) {t u : Session} (hnext : Remains s t)
    (hlater : Remains t u)
    (hsettings : s.generator = none → t.settings = some s.settingsInForce) :
    Drawing.lastSeed? u.settingsInForce.seed drawn =
      Drawing.lastSeed? s.settingsInForce.seed drawn := by
  cases hgenerator : s.generator with
  | none =>
    have hu := hlater.settings_eq _ (hsettings hgenerator)
    rw [settingsInForce_of_some hu]
  | some words =>
    rcases h.seeded (by rw [hgenerator]; rfl) with hs | hseed
    · obtain ⟨settings, hs⟩ := Option.isSome_iff_exists.1 hs
      have hu := hlater.settings_eq _ (hnext.settings_eq _ hs)
      rw [settingsInForce_of_some hu, settingsInForce_of_some hs]
    · rw [Drawing.lastSeed?_of_isSome hseed u.settingsInForce.seed,
        Drawing.lastSeed?_of_isSome hseed s.settingsInForce.seed]

theorem Tracks.seeded_next (h : Tracks drawn s) {t : Session} (hnext : Remains s t)
    (hsettings : s.generator = none → t.settings = some s.settingsInForce) :
    t.settings.isSome = true ∨ (Drawing.lastSeed? none drawn).isSome = true := by
  cases hgenerator : s.generator with
  | none =>
    rw [hsettings hgenerator]
    exact .inl rfl
  | some words =>
    refine (h.seeded (by rw [hgenerator]; rfl)).imp_left fun hs => ?_
    obtain ⟨settings, hs⟩ := Option.isSome_iff_exists.1 hs
    rw [hnext.settings_eq settings hs]
    rfl

/-- Every call leaves the random words behind the drawings so far and its own. -/
theorem Tracks.next (h : Tracks drawn s) (call : Call) :
    Tracks (drawn ++ (Step.drawing? ⟨call, s⟩).toList) (call.next s) := by
  have hnext := next_remains call s
  have hlast := Remains.refl (call.next s)
  cases call.draws s with
  | idle hdrawing hgenerator =>
    rw [hdrawing, Option.toList_none, List.append_nil]
    cases hinUse : s.generator with
    | none =>
      rw [hinUse] at hgenerator
      refine ⟨fun _ => h.fresh hinUse, ?_, ?_⟩ <;> simp [hgenerator]
    | some words =>
      have hsettings : s.generator = none → (call.next s).settings = some s.settingsInForce := by
        simp [hinUse]
      refine ⟨?_, fun _ => h.seeded_next hnext hsettings, ?_⟩
      · simp [hgenerator, hinUse]
      · intro words hwords seed hseed
        rw [h.lastSeed?_eq hnext hlast hsettings] at hseed
        exact h.words_eq words (hgenerator.symm.trans hwords) seed hseed
  | seeded seed hdrawing hgenerator =>
    rw [hdrawing, Option.toList_some]
    refine ⟨?_, fun _ => .inr (by simp), ?_⟩
    · simp [hgenerator]
    · intro words hwords seed' hseed
      rw [hgenerator] at hwords
      rw [Drawing.lastSeed?_seeded] at hseed
      cases hwords
      cases hseed
      rw [Drawing.drawnSince_seeded]
      rfl
  | refused words hwords hsettings hdrawing hgenerator =>
    rw [hdrawing, Option.toList_none, List.append_nil]
    refine ⟨?_, fun _ => h.seeded_next hnext hsettings, ?_⟩
    · simp [hgenerator]
    · intro words' hinUse seed hseed
      rw [hgenerator] at hinUse
      cases hinUse
      rw [h.lastSeed?_eq hnext hlast hsettings] at hseed
      exact h.words?_eq hwords hseed
  | drew words hwords hsettings start stop hrange hdrawing hgenerator =>
    rw [hdrawing, Option.toList_some]
    refine ⟨?_, ?_, ?_⟩
    · simp [hgenerator]
    · rw [Drawing.lastSeed?_drew]
      exact fun _ => h.seeded_next hnext hsettings
    · intro words' hinUse seed hseed
      rw [hgenerator] at hinUse
      cases hinUse
      rw [Drawing.lastSeed?_drew, h.lastSeed?_eq hnext hlast hsettings] at hseed
      rw [h.words?_eq hwords hseed, Drawing.drawnSince_drew, Nat.mul_succ]

/-- The numbers of the drawings are those of the last seed, or of the configured one, one after
another. -/
def InOrder (configured : Option UInt64) (drawings : List Drawing) : Prop :=
  ∀ before start stop value after, drawings = before ++ .drew start stop value :: after →
    start < stop ∧ ∀ seed, Drawing.lastSeed? configured before = some seed →
      value = Drawing.valueAt seed (Drawing.drawnSince before) start stop

/-- A number that a call draws is the next of the last seed. -/
theorem Tracks.value_eq (h : Tracks drawn s) {call : Call} {start stop : Int64} {value : Int}
    (hdrawing : Step.drawing? ⟨call, s⟩ = some (.drew start stop value)) {t : Session}
    (hlater : Remains (call.next s) t) :
    start < stop ∧ ∀ seed, Drawing.lastSeed? t.settingsInForce.seed drawn = some seed →
      value = Drawing.valueAt seed (Drawing.drawnSince drawn) start stop := by
  cases call.draws s with
  | idle hnone hgenerator =>
    rw [hdrawing] at hnone
    cases hnone
  | seeded seed hseeded hgenerator =>
    rw [hdrawing] at hseeded
    cases hseeded
  | refused words hwords hsettings hnone hgenerator =>
    rw [hdrawing] at hnone
    cases hnone
  | drew words hwords hsettings start' stop' hrange hdrew hgenerator =>
    rw [hdrawing] at hdrew
    cases hdrew
    refine ⟨hrange, fun seed hseed => ?_⟩
    rw [h.lastSeed?_eq (next_remains call s) hlater hsettings] at hseed
    rw [h.words?_eq hwords hseed]
    rfl

theorem InOrder.concat {configured : Option UInt64} {drawing : Drawing}
    (h : InOrder configured drawn)
    (hvalue : ∀ start stop value, drawing = .drew start stop value →
      start < stop ∧ ∀ seed, Drawing.lastSeed? configured drawn = some seed →
        value = Drawing.valueAt seed (Drawing.drawnSince drawn) start stop) :
    InOrder configured (drawn ++ [drawing]) := by
  intro before start stop value after hsplit
  rcases List.eq_nil_or_concat after with rfl | ⟨between, last, rfl⟩
  · obtain ⟨rfl, hlast⟩ := List.append_inj' hsplit rfl
    exact hvalue start stop value (List.cons.inj hlast).1
  · rw [List.concat_eq_append, ← List.cons_append, ← List.append_assoc] at hsplit
    exact h before start stop value between (List.append_inj' hsplit rfl).1

/-- The drawings of a run, behind those before it. -/
theorem drawings_inOrder (h : Tracks drawn s) (calls : List Call) {configured : Option UInt64}
    (hbefore : InOrder configured drawn)
    (hconfigured : (left calls s).settingsInForce.seed = configured) :
    InOrder configured (drawn ++ drawings calls s) := by
  induction calls generalizing s drawn with
  | nil =>
    rw [show drawings [] s = [] from rfl, List.append_nil]
    exact hbefore
  | cons call calls ih =>
    have hlater := ((left_remains (call :: calls) s).2 _ (mem_steps_cons call calls s)).2
    have hstep : InOrder configured (drawn ++ (Step.drawing? ⟨call, s⟩).toList) := by
      cases hdrawing : Step.drawing? ⟨call, s⟩ with
      | none =>
        rw [Option.toList_none, List.append_nil]
        exact hbefore
      | some drawing =>
        refine hbefore.concat fun start stop value hdrew => ?_
        rw [hdrew] at hdrawing
        rw [← hconfigured]
        exact h.value_eq hdrawing hlater
    cases hend : (call.outcome s).ending? with
    | some ending =>
      rw [drawings_cons_end hend]
      exact hstep
    | none =>
      rw [drawings_cons_go hend, ← List.append_assoc]
      refine ih (h.next call) hstep ?_
      rw [← left_cons_go hend]
      exact hconfigured

/-! ### What does not change the random numbers -/

/-- Sessions that are alike have the same drawings, unless settings are chosen where they have
none in effect. -/
theorem drawings_alike {t : Session} (h : Alike s t) {calls : List Call}
    (hcalls : (∀ call ∈ calls, call.chooses = false) ∨
      s.settings.isSome = true ∧ t.settings.isSome = true) :
    drawings calls t = drawings calls s := by
  induction calls generalizing s t with
  | nil => rfl
  | cons call calls ih =>
    have hcall := hcalls.imp_left fun hnone => hnone call List.mem_cons_self
    obtain ⟨houtcome, hnext⟩ := Call.perform_alike h hcall
    have hdrawing : Step.drawing? ⟨call, t⟩ = Step.drawing? ⟨call, s⟩ := by
      simp only [Step.drawing?, Step.outcome, houtcome]
    cases hend : (call.outcome s).ending? with
    | some ending =>
      rw [drawings_cons_end hend, drawings_cons_end (by rw [houtcome]; exact hend), hdrawing]
    | none =>
      rw [drawings_cons_go hend, drawings_cons_go (by rw [houtcome]; exact hend), hdrawing,
        ih hnext]
      refine hcalls.imp (fun hnone call hmem => hnone call (List.mem_cons_of_mem _ hmem)) ?_
      rintro ⟨hs, ht⟩
      exact ⟨(next_remains call s).isSome hs, (next_remains call t).isSome ht⟩

end Session

/-- The call asks for a number of an empty range, and for the violation. -/
def Call.isEmptyDraw : Call → Bool
  | .operation .returning (.random start stop) => !decide (start < stop)
  | _ => false

namespace Call

variable {s : Session}

theorem emptyDraw_eq {call : Call} (h : call.isEmptyDraw = true) :
    ∃ start stop, call = operation .returning (.random start stop) ∧ ¬start < stop := by
  unfold isEmptyDraw at h
  split at h
  · next start stop => exact ⟨start, stop, rfl, by simpa using h⟩
  · cases h

/-- Asking for a number of an empty range draws none, and leaves the session alike. -/
theorem emptyDraw_alike {call : Call} (h : call.isEmptyDraw = true) (s : Session) :
    (call.outcome s).ending? = none ∧ Step.drawing? ⟨call, s⟩ = none ∧ Alike s (call.next s) := by
  obtain ⟨start, stop, rfl, hrange⟩ := emptyDraw_eq h
  cases hwords : s.words? with
  | none =>
    obtain ⟨fault, -, hattempt⟩ := random_breaksOff hwords .returning start stop
    obtain ⟨houtcome, hnext⟩ := perform_run_brokenOff hattempt rfl
    refine ⟨by rw [houtcome]; rfl, drawing?_of_breaksOff hwords _ _ _, ?_⟩
    rw [hnext]
    exact .refl s
  | some words =>
    obtain ⟨t, hon, halike⟩ := randomWords_keeps hwords
    have hop : (Operation.random start stop).attempt.on s =
        (.ok (.error (.emptyRandomRange start.toInt stop.toInt)),
          { t with generator := some words }) := by
      rw [Operation.attempt, on_bind_ok hon, WordStream.drawIn_of_not_lt _ hrange]
      rfl
    obtain ⟨houtcome, hnext⟩ := perform_run_ok (operation_attempt hop .returning)
    refine ⟨by rw [houtcome]; rfl, Step.drawing?_of_not_answered (not_answered hop), ?_⟩
    rw [hnext]
    exact halike.trans (alike_words (halike.words_eq.trans hwords))

end Call

namespace Session

variable {s : Session}

/-- Asking for numbers of empty ranges does not change the drawings. -/
theorem drawings_filter {calls : List Call} (hcalls : ∀ call ∈ calls, call.chooses = false) :
    drawings (calls.filter fun call => !call.isEmptyDraw) s = drawings calls s := by
  induction calls generalizing s with
  | nil => rfl
  | cons call calls ih =>
    have hrest : ∀ call ∈ calls, call.chooses = false := by
      intro call hmem
      exact hcalls call (List.mem_cons_of_mem _ hmem)
    cases hempty : call.isEmptyDraw with
    | true =>
      obtain ⟨hgo, hdrawing, halike⟩ := Call.emptyDraw_alike hempty s
      rw [List.filter_cons_of_neg (by simp [hempty]), drawings_cons_go hgo, hdrawing, ih hrest]
      exact (drawings_alike halike (.inl hrest)).symm
    | false =>
      rw [List.filter_cons_of_pos (by simp [hempty])]
      cases hend : (call.outcome s).ending? with
      | some ending => rw [drawings_cons_end hend, drawings_cons_end hend]
      | none => rw [drawings_cons_go hend, drawings_cons_go hend, ih hrest]

/-- Giving the seed before any number is drawn changes nothing, as long as the settings cannot
change any more. -/
def DrawsAsSeeded (seed : UInt64) (s : Session) : Prop :=
  ∀ form later, (∀ call ∈ later, call.chooses = false) ∨ s.settings.isSome = true →
    drawings (.operation form (.seed seed) :: later) s = .seeded seed :: drawings later s

theorem drawings_seed (form : Form) (seed : UInt64) (calls : List Call) (s : Session) :
    drawings (.operation form (.seed seed) :: calls) s =
      .seeded seed :: drawings calls { s with generator := some (.ofSeed seed) } := by
  have hop : (Operation.seed seed).attempt.on s =
      (.ok (.ok .unit), { s with generator := some (.ofSeed seed) }) := rfl
  obtain ⟨houtcome, hnext⟩ := Call.perform_run_ok (Call.operation_attempt hop form)
  have hdrawing : Step.drawing? ⟨.operation form (.seed seed), s⟩ = some (.seeded seed) := by
    simp only [Step.drawing?, Step.outcome, houtcome]
  rw [drawings_cons_go (by rw [houtcome]; rfl), hdrawing, hnext]
  rfl

/-- Where the settings can come into effect, their seed is as good as one that is given.  Where
they break off, it gives no number at all. -/
theorem drawsAsSeeded_iff {seed : UInt64} (hgenerator : s.generator = none)
    (hseed : s.settingsInForce.seed = some seed) :
    DrawsAsSeeded seed s ↔ s.breaks? = none := by
  constructor
  · intro h
    cases hbreaks : s.breaks? with
    | none => rfl
    | some fault =>
      have hnone : s.words? = none := by rw [words?, hgenerator, hbreaks]
      have hseeded := h .returning [.operation .returning (.random 0 1)] (.inl (by decide))
      have hwords : words? { s with generator := some (.ofSeed seed) } = some (.ofSeed seed) := rfl
      have hdrew := (Call.random_drew hwords .returning (by decide : (0 : Int64) < 1)).1
      rw [drawings_seed, drawings_singleton, drawings_singleton, hdrew,
        Call.drawing?_of_breaksOff hnone] at hseeded
      simp at hseeded
  · intro hbreaks form later hlater
    have hwords : s.words? = some (.ofSeed seed) := by
      rw [words?, hgenerator, hbreaks, freshWords, hseed]
    rw [drawings_seed]
    refine congrArg _ (drawings_alike (alike_words hwords) ?_)
    exact hlater.imp_right fun hs => ⟨hs, hs⟩

/-- The numbers of every run come from one stream of words: each takes the next two, from the
last seed on, or from the configured one.  Asking for a number of an empty range, and for the
violation, does not change the numbers of a run in which no settings are chosen.  A configured
seed is as good as one that is given, just if the settings do not break off. -/
theorem drawings_determined (calls : List Call) (s : Session) :
    (s.generator = none →
      InOrder (left calls s).settingsInForce.seed (drawings calls s)) ∧
    ((∀ call ∈ calls, call.chooses = false) → ∀ others : List Call,
      (others.filter fun call => !call.isEmptyDraw) =
        (calls.filter fun call => !call.isEmptyDraw) →
      drawings others s = drawings calls s) ∧
    ∀ seed, s.generator = none → s.settingsInForce.seed = some seed →
      (DrawsAsSeeded seed s ↔ s.breaks? = none) := by
  refine ⟨?_, ?_, ?_⟩
  · intro hgenerator
    have htracks : Tracks [] s := by constructor <;> simp [hgenerator]
    have hempty : InOrder (left calls s).settingsInForce.seed [] := by
      intro before start stop value after hsplit
      simp at hsplit
    exact drawings_inOrder htracks calls hempty rfl
  · intro hcalls others hothers
    have hplain : ∀ call ∈ others, call.chooses = false := by
      intro call hmem
      cases hempty : call.isEmptyDraw with
      | true =>
        obtain ⟨start, stop, rfl, -⟩ := Call.emptyDraw_eq hempty
        rfl
      | false =>
        have hkept : call ∈ others.filter fun call => !call.isEmptyDraw :=
          List.mem_filter.2 ⟨hmem, by simp [hempty]⟩
        rw [hothers] at hkept
        exact hcalls call (List.mem_filter.1 hkept).1
    rw [← drawings_filter hplain, hothers, drawings_filter hcalls]
  · intro seed hgenerator hseed
    exact drawsAsSeeded_iff hgenerator hseed

/-- The filter begins with a blank of three bytes, so the settings with the seed break off. -/
theorem not_drawsAsSeeded_blank_filter :
    ¬DrawsAsSeeded 5
      { environment := [("TERN_SEED", .ofText "5"), ("TERN_LOG", .ofText "　a=5")],
        input := .stream [], entropy := .cyclic #[] } := by
  intro hseeded
  have hdrawings := hseeded .returning [.operation .returning (.random 0 1000)]
    (.inl (by decide))
  revert hdrawings
  decide +kernel

end Session

end ProgramSupport
