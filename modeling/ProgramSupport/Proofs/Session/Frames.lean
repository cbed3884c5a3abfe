import ProgramSupport.Proofs.Session.Actions

/-!
# What operations leave as it is

Operations have parts in common: they load the settings, write to the log, and change registers,
the input or the random numbers.  A relation between sessions that each part respects is
respected by every operation.  This file provides

* `Session.StillFrame` — such a relation for the parts that load no settings and change neither
  the console nor the random numbers, and `Session.Frame` — one with room for the settings and the
  random numbers;
* `Action.Along` — an action that respects a relation, and breaks off only by some faults, or not
  at all with `Session.NoFault`;
* `Operation.attempt_along` — every operation respects every frame that has room for what it does
  to the settings, the random numbers and the console;
* `Session.Proceeds` — the frame of all operations: the environment, the settings in force and the
  fault that keeps them from coming into effect stay, and a quiet session stays quiet;
* `Session.Keeps` — the frame of all operations that do not print: the console stays as well.
-/

namespace ProgramSupport

open ProgramSupport.Action

namespace Session

/-- A relation that the parts respect that load no settings and change neither the console nor the
random numbers, and faults that stay the same along it. -/
structure StillFrame (R : Session → Session → Prop) (faults : Session → SplitCharacter → Prop) :
    Prop where
  refl (s : Session) : R s s
  trans {s t u : Session} : R s t → R t u → R s u
  faults {s t : Session} {fault : SplitCharacter} : R s t → faults t fault → faults s fault
  recorded (s : Session) (event : Event) : R s { s with notices := s.notices ++ s.recorded event }
  strings (s : Session) (strings : List (Option ByteString)) : R s { s with strings }
  arrays (s : Session) (arrays : List (Option IntArray)) : R s { s with arrays }
  input (s : Session) (input : Input) : R s { s with input }

/-- The fault by which settings break off. -/
def BreaksBy (s : Session) (fault : SplitCharacter) : Prop := s.breaks? = some fault

/-- No fault at all. -/
def NoFault (_ : Session) (_ : SplitCharacter) : Prop := False

/-- A relation that all parts respect that do not change the console. -/
structure Frame (R : Session → Session → Prop) : Prop extends StillFrame R BreaksBy where
  loaded (s : Session) : s.breaks? = none → R s s.loaded
  generator (s : Session) (generator : Option WordStream) : R s { s with generator }

/-- A relation with room for loading settings, and for the fault by which they break off. -/
structure Loadable (R : Session → Session → Prop) (faults : Session → SplitCharacter → Prop) :
    Prop where
  loaded (s : Session) : s.breaks? = none → R s s.loaded
  breaks {s : Session} {fault : SplitCharacter} : s.breaks? = some fault → faults s fault

theorem Frame.loadable {R : Session → Session → Prop} (h : Frame R) : Loadable R BreaksBy :=
  ⟨h.loaded, id⟩

end Session

open Session

variable {α β : Type} {R : Session → Session → Prop} {faults : Session → SplitCharacter → Prop}

namespace Action

/-- The action moves every session along a relation, and breaks off only by these faults. -/
def Along (R : Session → Session → Prop) (faults : Session → SplitCharacter → Prop)
    (x : Action α) : Prop :=
  ∀ s, R s (x.on s).2 ∧ ∀ fault, (x.on s).1 = .error fault → faults s fault

/-- What has no fault to break off by does not break off. -/
theorem Along.exists_ok {R : Session → Session → Prop} {x : Action α} (h : Along R NoFault x)
    (s : Session) : ∃ a t, x.on s = (.ok a, t) ∧ R s t := by
  obtain ⟨hmove, hbreak⟩ := h s
  cases hon : x.on s with
  | mk result t =>
    rw [hon] at hmove hbreak
    cases result with
    | ok a => exact ⟨a, t, rfl, hmove⟩
    | error fault => exact (hbreak fault rfl).elim

theorem Along.pure (h : StillFrame R faults) (a : α) : Along R faults (Pure.pure a : Action α) := by
  intro s
  refine ⟨h.refl s, ?_⟩
  intro fault hfault
  cases hfault

theorem Along.bind (h : StillFrame R faults) {x : Action α} {f : α → Action β}
    (hx : Along R faults x) (hf : ∀ a, Along R faults (f a)) : Along R faults (x >>= f) := by
  intro s
  obtain ⟨hmove, hbreak⟩ := hx s
  rw [on_bind]
  cases hon : x.on s with
  | mk result after =>
    rw [hon] at hmove hbreak
    cases result with
    | error fault =>
      refine ⟨hmove, ?_⟩
      intro fault hfault
      cases hfault
      exact hbreak _ rfl
    | ok a =>
      obtain ⟨hmove', hbreak'⟩ := hf a after
      refine ⟨h.trans hmove hmove', ?_⟩
      intro fault hfault
      exact h.faults hmove (hbreak' fault hfault)

theorem Along.get (h : StillFrame R faults) : Along R faults (get : Action Session) := by
  intro s
  refine ⟨h.refl s, ?_⟩
  intro fault hfault
  cases hfault

/-- What cannot break off has to respect the relation. -/
theorem Along.lift {m : StateM Session α} (hm : ∀ s, R s (m.run s).2) :
    Along R faults (liftM m : Action α) := by
  intro s
  refine ⟨hm s, ?_⟩
  intro fault hfault
  cases hfault

theorem Along.current (h : StillFrame R faults) (hloaded : Loadable R faults) :
    Along R faults current := by
  intro s
  rw [current_on]
  cases hbreaks : s.breaks? with
  | none =>
    refine ⟨hloaded.loaded s hbreaks, ?_⟩
    intro fault hfault
    cases hfault
  | some fault =>
    refine ⟨h.refl s, ?_⟩
    intro _ hfault
    cases hfault
    exact hloaded.breaks hbreaks

theorem Along.record (h : StillFrame R faults) (event : Event) :
    Along R faults (liftM (record event) : Action Unit) := by
  refine Along.lift fun s => ?_
  rw [record_run]
  exact h.recorded s event

/-! ### Parts of operations -/

theorem Along.whenOk (h : StillFrame R faults) (result : Except Violation α)
    {next : α → Action (Except Violation Answer)} (hnext : ∀ a, Along R faults (next a)) :
    Along R faults (whenOk result next) := by
  cases result with
  | ok a => exact hnext a
  | error violation => exact .pure h _

theorem Along.withString (h : StillFrame R faults) (op : String) (r : Register)
    {next : ByteString → Action (Except Violation Answer)} (hnext : ∀ a, Along R faults (next a)) :
    Along R faults (withString op r next) := by
  refine .bind h (.get h) fun s => ?_
  cases s.string? r with
  | none => exact .pure h _
  | some value => exact hnext value

theorem Along.withArray (h : StillFrame R faults) (op : String) (r : Register)
    {next : IntArray → Action (Except Violation Answer)} (hnext : ∀ a, Along R faults (next a)) :
    Along R faults (withArray op r next) := by
  refine .bind h (.get h) fun s => ?_
  cases s.array? r with
  | none => exact .pure h _
  | some value => exact hnext value

theorem Along.answerString (h : StillFrame R faults) (value : ByteString) :
    Along R faults (answerString value) :=
  .bind h (.lift fun s => h.strings s _) fun _ => .pure h _

theorem Along.freeString (h : StillFrame R faults) (r : Register) :
    Along R faults (liftM (freeString r) : Action Unit) := by
  cases r with
  | none => exact .lift fun s => h.refl s
  | some i => exact .lift fun s => h.strings s _

theorem Along.freeArray (h : StillFrame R faults) (r : Register) :
    Along R faults (liftM (freeArray r) : Action Unit) := by
  cases r with
  | none => exact .lift fun s => h.refl s
  | some i => exact .lift fun s => h.arrays s _

/-- The notices that the move of an array leaves, if it moves. -/
def movedNotices (s : Session) (old new : IntArray) : List Notice :=
  match old.moveTo? new with
  | none => []
  | some move => s.recorded (.reallocated move)

theorem storeArray_run (r : Register) (old new : IntArray) (s : Session) :
    ((storeArray r old new).run s).2 =
      { s with
        notices := s.notices ++ movedNotices s old new
        arrays := match r with
          | none => s.arrays
          | some i => s.arrays.set i (some new) } := by
  unfold storeArray movedNotices
  cases old.moveTo? new with
  | none =>
    rw [List.append_nil]
    cases r <;> rfl
  | some move =>
    simp only [StateT.run_bind, record_run]
    cases r <;> rfl

theorem Along.answerArray (h : StillFrame R faults) (r : Register) (old new : IntArray) :
    Along R faults (answerArray r old new) := by
  refine .bind h (.lift fun s => ?_) fun _ => .pure h _
  have hnotices : R s { s with notices := s.notices ++ movedNotices s old new } := by
    unfold movedNotices
    cases old.moveTo? new with
    | none =>
      rw [List.append_nil]
      exact h.refl s
    | some move => exact h.recorded s _
  rw [storeArray_run]
  exact h.trans hnotices (h.arrays _ _)

/-- An operation that prints needs a relation that the console is no part of. -/
theorem Along.print (h : StillFrame R faults) (hconsole : ∀ s console, R s { s with console })
    (value : Printable) (newline : Bool) : Along R faults (Session.print value newline) := by
  refine .bind h (.get h) fun s => ?_
  refine .bind h (.lift fun t => hconsole t _) fun _ => ?_
  exact .whenOk h _ fun _ => .pure h _

theorem Along.recordMoves (h : StillFrame R faults) (moves : List Reallocation) :
    Along R faults
      (moves.forM fun move => (liftM (Session.record (.reallocated move)) : Action Unit)) := by
  induction moves with
  | nil => exact .pure h _
  | cons move moves ih => exact .bind h (.record h _) fun _ => ih

theorem Along.read (h : StillFrame R faults) (reader : Source → Reading α) :
    Along R faults (Session.read reader) := by
  refine .bind h (.get h) fun s => ?_
  refine .bind h (.lift fun t => h.input t _) fun _ => ?_
  exact .bind h (.recordMoves h _) fun _ => .pure h _

theorem Along.randomWords (h : StillFrame R faults) (hloaded : Loadable R faults) :
    Along R faults randomWords := by
  refine .bind h (.get h) fun s => ?_
  cases s.generator with
  | some words => exact .pure h _
  | none =>
    refine .bind h (.current h hloaded) fun settings => ?_
    cases settings.seed with
    | some seed => exact .pure h _
    | none => exact .bind h (.get h) fun t => .pure h _

end Action

/-! ### Operations -/

/-- The operation writes to standard output. -/
def Operation.prints : Operation → Bool
  | .print _ _ | .printString _ _ | .printArray _ _ => true
  | _ => false

/-- The operation can load settings. -/
def Operation.loads : Operation → Bool
  | .init | .random _ _ => true
  | _ => false

/-- The operation changes the random numbers. -/
def Operation.draws : Operation → Bool
  | .random _ _ | .seed _ => true
  | _ => false

/-- Operations respect every frame that has room for what they do besides. -/
theorem Operation.attempt_along (h : StillFrame R faults) (op : Operation)
    (hloaded : op.loads = true → Loadable R faults)
    (hgenerator : op.draws = true → ∀ s generator, R s { s with generator })
    (hconsole : op.prints = true → ∀ s console, R s { s with console }) :
    Along R faults op.attempt := by
  cases op with
  | init =>
    refine .bind h (.current h (hloaded rfl)) fun settings => ?_
    exact .bind h (.record h _) fun _ => .pure h _
  | stringNew bytes length =>
    refine .whenOk h _ fun length => ?_
    cases bytes with
    | some bytes => exact .answerString h _
    | none =>
      by_cases hzero : length = 0
      · subst hzero
        exact .answerString h _
      · show Along R faults (if length = 0 then _ else _)
        rw [if_neg hzero]
        exact .pure h _
  | stringFree s => exact .bind h (.freeString h s) fun _ => .pure h _
  | stringSize s => exact .withString h _ s fun value => .pure h _
  | charAt s index =>
    exact .withString h _ s fun value => .whenOk h _ fun char => .pure h _
  | reverse s => exact .withString h _ s fun value => .answerString h _
  | concat s t =>
    exact .withString h _ s fun value => .withString h _ t fun other => .answerString h _
  | substring s start stop =>
    exact .withString h _ s fun value => .whenOk h _ fun part => .answerString h _
  | arrayNew size =>
    exact .whenOk h _ fun value => .bind h (.lift fun s => h.arrays s _) fun _ => .pure h _
  | arrayFree a => exact .bind h (.freeArray h a) fun _ => .pure h _
  | arraySize a => exact .withArray h _ a fun value => .pure h _
  | arrayCapacity a => exact .withArray h _ a fun value => .pure h _
  | arrayGet a index =>
    exact .withArray h _ a fun value => .whenOk h _ fun element => .pure h _
  | arraySet a index element =>
    exact .withArray h _ a fun value => .whenOk h _ fun new => .answerArray h _ _ _
  | arrayResize a size =>
    exact .withArray h _ a fun value => .whenOk h _ fun new => .answerArray h _ _ _
  | arrayAppend a element => exact .withArray h _ a fun value => .answerArray h _ _ _
  | arrayAppendAll a b =>
    exact .withArray h _ b fun other => .withArray h _ a fun value => .answerArray h _ _ _
  | arrayClear a => exact .withArray h _ a fun value => .answerArray h _ _ _
  | print value newline => exact .print h (hconsole rfl) _ _
  | printString s newline =>
    exact .withString h _ s fun value => .print h (hconsole rfl) _ _
  | printArray a newline =>
    exact .withArray h _ a fun value => .print h (hconsole rfl) _ _
  | readLine =>
    refine .bind h (.read h _) fun line => .whenOk h _ fun line => ?_
    exact .bind h (.record h _) fun _ => .answerString h _
  | readInt =>
    refine .bind h (.read h _) fun value => .whenOk h _ fun value => ?_
    exact .bind h (.record h _) fun _ => .pure h _
  | random start stop =>
    refine .bind h (.randomWords h (hloaded rfl)) fun words => ?_
    refine .bind h (.lift fun s => hgenerator rfl s _) fun _ => ?_
    exact .whenOk h _ fun value => .pure h _
  | seed value => exact .bind h (.lift fun s => hgenerator rfl s _) fun _ => .pure h _

/-! ### The frame of all operations -/

namespace Session

/-- Neither the settings in force nor the environment bring a notice with them. -/
structure Quiet (s : Session) : Prop where
  logFilter_eq : s.settingsInForce.logFilter = none
  notices_eq : s.settings = none → s.environment.notices = []

/-- Without a log filter nothing is logged. -/
theorem recorded_of_logFilter {s : Session} (h : s.settingsInForce.logFilter = none)
    (event : Event) : s.recorded event = [] := by
  have hfilter : s.filter = [] := by
    unfold settingsInForce at h
    unfold filter
    cases hs : s.settings with
    | none => rfl
    | some settings =>
      rw [hs, Option.getD_some] at h
      rw [Option.bind_some, h]
  rw [recorded, hfilter]
  rfl

theorem breaks_of_logFilter {s : Session} (h : s.settingsInForce.logFilter = none) :
    s.breaks? = none := by
  unfold settingsInForce at h
  unfold breaks?
  cases hs : s.settings with
  | some settings => rfl
  | none =>
    rw [hs, Option.getD_none] at h
    simp only [Settings.splitFault?, h, Option.map_none]

theorem Quiet.recorded_eq {s : Session} (h : s.Quiet) (event : Event) : s.recorded event = [] :=
  recorded_of_logFilter h.logFilter_eq event

theorem Quiet.breaks_eq {s : Session} (h : s.Quiet) : s.breaks? = none :=
  breaks_of_logFilter h.logFilter_eq

/-- What operations leave as it is: the environment, the settings in force and the fault that
keeps them from coming into effect; and a quiet session stays quiet, without a notice more. -/
structure Proceeds (s t : Session) : Prop where
  environment_eq : t.environment = s.environment
  settingsInForce_eq : t.settingsInForce = s.settingsInForce
  breaks_eq : t.breaks? = s.breaks?
  quiet : s.Quiet → t.notices = s.notices ∧ t.Quiet

/-- Whatever leaves the environment and the settings alone, and makes no noise of its own. -/
theorem Proceeds.of_eq {s t : Session} (henvironment : t.environment = s.environment)
    (hsettings : t.settings = s.settings) (hnotices : s.Quiet → t.notices = s.notices) :
    Proceeds s t := by
  have hforce : t.settingsInForce = s.settingsInForce := by
    rw [settingsInForce, settingsInForce, hsettings, henvironment]
  refine ⟨henvironment, hforce, ?_, ?_⟩
  · rw [breaks?, breaks?, hsettings, henvironment]
  · intro h
    refine ⟨hnotices h, ?_, ?_⟩
    · rw [hforce]
      exact h.logFilter_eq
    · rw [hsettings, henvironment]
      exact h.notices_eq

/-- The notices of settings that come into effect, if they have no log filter. -/
theorem loaded_notices {s : Session} (h : s.settingsInForce.logFilter = none) :
    s.loaded.notices = s.notices ++ if s.settings.isSome then [] else s.environment.notices := by
  cases hs : s.settings with
  | some settings => rw [loaded_of_settings hs, Option.isSome_some, if_pos rfl, List.append_nil]
  | none =>
    have hfilter : s.environment.settings.logFilter = none := by
      rw [settingsInForce, hs, Option.getD_none] at h
      exact h
    rw [loaded_of_unset hs]
    show (s.notices ++ s.environment.notices) ++ s.environment.settings.filterNotices = _
    rw [Settings.filterNotices_of_logFilter hfilter, List.append_nil]
    rfl

theorem loaded_proceeds (s : Session) (h : s.breaks? = none) : Proceeds s s.loaded := by
  cases hs : s.settings with
  | some settings =>
    rw [loaded_of_settings hs]
    exact .of_eq rfl rfl fun _ => rfl
  | none =>
    have hforce : s.settingsInForce = s.environment.settings := by
      rw [settingsInForce, hs, Option.getD_none]
    have hnotices : s.Quiet → s.loaded.notices = s.notices := by
      intro hquiet
      rw [loaded_notices hquiet.logFilter_eq, hs, hquiet.notices_eq hs]
      exact List.append_nil _
    rw [loaded_of_unset hs] at hnotices ⊢
    refine ⟨rfl, hforce.symm, h.symm, fun hquiet => ⟨hnotices hquiet, ?_, fun hnone => by cases hnone⟩⟩
    show s.environment.settings.logFilter = none
    rw [← hforce]
    exact hquiet.logFilter_eq

theorem proceeds_frame : Frame Proceeds where
  refl s := .of_eq rfl rfl fun _ => rfl
  trans h h' := by
    refine ⟨h'.environment_eq.trans h.environment_eq,
      h'.settingsInForce_eq.trans h.settingsInForce_eq, h'.breaks_eq.trans h.breaks_eq, ?_⟩
    intro hquiet
    obtain ⟨hnotices, hquiet⟩ := h.quiet hquiet
    obtain ⟨hnotices', hquiet⟩ := h'.quiet hquiet
    exact ⟨hnotices'.trans hnotices, hquiet⟩
  faults h hfault := h.breaks_eq.symm.trans hfault
  loaded := loaded_proceeds
  recorded s event := .of_eq rfl rfl fun h => by
    show s.notices ++ s.recorded event = s.notices
    rw [h.recorded_eq, List.append_nil]
  strings s _ := .of_eq rfl rfl fun _ => rfl
  arrays s _ := .of_eq rfl rfl fun _ => rfl
  input s _ := .of_eq rfl rfl fun _ => rfl
  generator s _ := .of_eq rfl rfl fun _ => rfl

/-- What operations that do not print leave as it is: the console as well. -/
def Keeps (s t : Session) : Prop := Proceeds s t ∧ t.console = s.console

theorem keeps_frame : Frame Keeps where
  refl s := ⟨proceeds_frame.refl s, rfl⟩
  trans h h' := ⟨proceeds_frame.trans h.1 h'.1, h'.2.trans h.2⟩
  faults h hfault := h.1.breaks_eq.symm.trans hfault
  loaded s h := ⟨loaded_proceeds s h, loaded_console s⟩
  recorded s event := ⟨proceeds_frame.recorded s event, rfl⟩
  strings s strings := ⟨proceeds_frame.strings s strings, rfl⟩
  arrays s arrays := ⟨proceeds_frame.arrays s arrays, rfl⟩
  input s input := ⟨proceeds_frame.input s input, rfl⟩
  generator s generator := ⟨proceeds_frame.generator s generator, rfl⟩

end Session

theorem Operation.attempt_proceeds (op : Operation) : Along Proceeds BreaksBy op.attempt :=
  op.attempt_along proceeds_frame.toStillFrame (fun _ => proceeds_frame.loadable)
    (fun _ => proceeds_frame.generator) fun _ _ _ => .of_eq rfl rfl fun _ => rfl

theorem Operation.attempt_keeps (op : Operation) (h : op.prints = false) :
    Along Keeps BreaksBy op.attempt :=
  op.attempt_along keeps_frame.toStillFrame (fun _ => keeps_frame.loadable)
    (fun _ => keeps_frame.generator) fun hprints => by
      rw [h] at hprints
      cases hprints

end ProgramSupport
