import ProgramSupport.Proofs.Session.Calls

/-!
# What operations do not look at

Two sessions in which an operation finds the same strings, arrays, input and output take the same
course, whatever the settings, the notices and the random numbers of each are.  A relation between
such sessions that the parts of operations respect is respected by operations.  This file provides

* `Session.Likeness` — such a relation;
* `Action.Coupled` — an action that has the same result in related sessions and leaves them
  related, with one lemma for each part of operations;
* `Operation.attempt_coupled` — operations are so, except perhaps those that load settings or
  change the random numbers;
* `Operation.draws_coupled` — what remains to be shown of seeds and random numbers;
* `Call.perform_coupled` — a call has the same outcome in related sessions if its attempt is so.
-/

namespace ProgramSupport

open ProgramSupport.Action

namespace Session

/-- A relation between sessions that hold the same, which the parts of operations respect. -/
structure Likeness (R : Session → Session → Prop) : Prop where
  strings_eq {s t : Session} : R s t → t.strings = s.strings
  arrays_eq {s t : Session} : R s t → t.arrays = s.arrays
  input_eq {s t : Session} : R s t → t.input = s.input
  console_eq {s t : Session} : R s t → t.console = s.console
  strings {s t : Session} (strings : List (Option ByteString)) :
    R s t → R { s with strings } { t with strings }
  arrays {s t : Session} (arrays : List (Option IntArray)) :
    R s t → R { s with arrays } { t with arrays }
  input {s t : Session} (input : Input) : R s t → R { s with input } { t with input }
  console {s t : Session} (console : Console) : R s t → R { s with console } { t with console }
  recorded {s t : Session} (event : Event) :
    R s t → R { s with notices := s.notices ++ s.recorded event }
      { t with notices := t.notices ++ t.recorded event }

end Session

open Session

variable {α β : Type} {R : Session → Session → Prop}

namespace Action

/-- Two actions have ended with the same result, in related sessions. -/
def Matched (R : Session → Session → Prop) (after after' : Except SplitCharacter α × Session) :
    Prop :=
  after'.1 = after.1 ∧ R after.2 after'.2

/-- The action has the same result in related sessions, and leaves them related. -/
def Coupled (R : Session → Session → Prop) (x : Action α) : Prop :=
  ∀ s t, R s t → Matched R (x.on s) (x.on t)

theorem Coupled.pure (a : α) : Coupled R (Pure.pure a : Action α) := by
  intro s t hlike
  exact ⟨rfl, hlike⟩

theorem Coupled.bind {x : Action α} {f : α → Action β} (hx : Coupled R x)
    (hf : ∀ a, Coupled R (f a)) : Coupled R (x >>= f) := by
  intro s t hlike
  obtain ⟨hresult, hafter⟩ := hx s t hlike
  rw [on_bind, on_bind]
  cases hon : x.on s with
  | mk result u =>
    cases hon' : x.on t with
    | mk result' u' =>
      rw [hon, hon'] at hresult hafter
      simp only at hresult hafter
      subst hresult
      cases result' with
      | ok a => exact hf a u u' hafter
      | error fault => exact ⟨rfl, hafter⟩

/-- What cannot break off has to give the same in related sessions, and leave them related. -/
theorem Coupled.lift {m : StateM Session α}
    (hm : ∀ s t, R s t → (m.run t).1 = (m.run s).1 ∧ R (m.run s).2 (m.run t).2) :
    Coupled R (liftM m : Action α) := by
  intro s t hlike
  obtain ⟨hresult, hafter⟩ := hm s t hlike
  exact ⟨congrArg Except.ok hresult, hafter⟩

/-! ### Parts of operations -/

theorem Coupled.record (h : Likeness R) (event : Event) :
    Coupled R (liftM (record event) : Action Unit) := by
  refine .lift fun s t hlike => ?_
  rw [record_run, record_run]
  exact ⟨rfl, h.recorded event hlike⟩

theorem Coupled.whenOk (result : Except Violation α) {next : α → Action (Except Violation Answer)}
    (hnext : ∀ a, Coupled R (next a)) : Coupled R (whenOk result next) := by
  cases result with
  | ok a => exact hnext a
  | error violation => exact .pure _

theorem Coupled.withString (h : Likeness R) (op : String) (r : Register)
    {next : ByteString → Action (Except Violation Answer)} (hnext : ∀ a, Coupled R (next a)) :
    Coupled R (withString op r next) := by
  intro s t hlike
  have hsame : t.string? r = s.string? r := by rw [string?, string?, h.strings_eq hlike]
  unfold Session.withString
  rw [on_get_bind, on_get_bind, hsame]
  cases s.string? r with
  | none => exact ⟨rfl, hlike⟩
  | some value => exact hnext value s t hlike

theorem Coupled.withArray (h : Likeness R) (op : String) (r : Register)
    {next : IntArray → Action (Except Violation Answer)} (hnext : ∀ a, Coupled R (next a)) :
    Coupled R (withArray op r next) := by
  intro s t hlike
  have hsame : t.array? r = s.array? r := by rw [array?, array?, h.arrays_eq hlike]
  unfold Session.withArray
  rw [on_get_bind, on_get_bind, hsame]
  cases s.array? r with
  | none => exact ⟨rfl, hlike⟩
  | some value => exact hnext value s t hlike

theorem Coupled.answerString (h : Likeness R) (value : ByteString) :
    Coupled R (answerString value) := by
  refine .bind (.lift fun s t hlike => ⟨rfl, ?_⟩) fun _ => .pure _
  show R { s with strings := s.strings ++ [some value] }
    { t with strings := t.strings ++ [some value] }
  rw [h.strings_eq hlike]
  exact h.strings _ hlike

theorem Coupled.freeString (h : Likeness R) (r : Register) :
    Coupled R (liftM (freeString r) : Action Unit) := by
  refine .lift fun s t hlike => ?_
  cases r with
  | none => exact ⟨rfl, hlike⟩
  | some i =>
    refine ⟨rfl, ?_⟩
    show R { s with strings := s.strings.set i none } { t with strings := t.strings.set i none }
    rw [h.strings_eq hlike]
    exact h.strings _ hlike

theorem Coupled.addArray (h : Likeness R) (value : IntArray) :
    Coupled R (liftM (addArray value) : Action Unit) := by
  refine .lift fun s t hlike => ⟨rfl, ?_⟩
  show R { s with arrays := s.arrays ++ [some value] } { t with arrays := t.arrays ++ [some value] }
  rw [h.arrays_eq hlike]
  exact h.arrays _ hlike

theorem Coupled.freeArray (h : Likeness R) (r : Register) :
    Coupled R (liftM (freeArray r) : Action Unit) := by
  refine .lift fun s t hlike => ?_
  cases r with
  | none => exact ⟨rfl, hlike⟩
  | some i =>
    refine ⟨rfl, ?_⟩
    show R { s with arrays := s.arrays.set i none } { t with arrays := t.arrays.set i none }
    rw [h.arrays_eq hlike]
    exact h.arrays _ hlike

theorem Coupled.answerArray (h : Likeness R) (r : Register) (old new : IntArray) :
    Coupled R (answerArray r old new) := by
  refine .bind (.lift fun s t hlike => ⟨rfl, ?_⟩) fun _ => .pure _
  have hmoved : R { s with notices := s.notices ++ movedNotices s old new }
      { t with notices := t.notices ++ movedNotices t old new } := by
    unfold movedNotices
    cases old.moveTo? new with
    | none =>
      rw [List.append_nil, List.append_nil]
      exact hlike
    | some move => exact h.recorded _ hlike
  rw [storeArray_run, storeArray_run, h.arrays_eq hlike]
  exact h.arrays _ hmoved

theorem Coupled.print (h : Likeness R) (value : Printable) (newline : Bool) :
    Coupled R (Session.print value newline) := by
  intro s t hlike
  unfold Session.print
  rw [on_get_bind, on_get_bind, h.console_eq hlike]
  have hrest : ∀ result : Except Violation Unit, Coupled R
      (Session.whenOk result fun _ => Pure.pure (.ok .unit)) :=
    fun result => .whenOk result fun _ => .pure _
  exact Coupled.bind (.lift fun u v huv => ⟨rfl, h.console _ huv⟩) (fun _ => hrest _) s t hlike

theorem Coupled.recordMoves (h : Likeness R) (moves : List Reallocation) :
    Coupled R
      (moves.forM fun move => (liftM (Session.record (.reallocated move)) : Action Unit)) := by
  induction moves with
  | nil => exact .pure _
  | cons move moves ih => exact .bind (.record h _) fun _ => ih

theorem Coupled.read (h : Likeness R) (reader : Source → Reading α) :
    Coupled R (Session.read reader) := by
  intro s t hlike
  unfold Session.read
  rw [on_get_bind, on_get_bind, h.input_eq hlike]
  have hmoves (reading : Reading α) : Coupled R (do
      reading.moves.forM fun move => (liftM (Session.record (.reallocated move)) : Action Unit)
      Pure.pure reading.result) :=
    .bind (.recordMoves h _) fun _ => .pure _
  exact Coupled.bind (.lift fun u v huv => ⟨rfl, h.input _ huv⟩) (fun _ => hmoves _) s t hlike

end Action

/-! ### Operations -/

namespace Operation

/-- Drawing a number needs random words in common, and room for those that are left. -/
theorem random_coupled (hwords : Coupled R randomWords)
    (hgenerator : ∀ s t words, R s t →
      R { s with generator := some words } { t with generator := some words })
    (start stop : Int64) : Coupled R (random start stop).attempt := by
  refine .bind hwords fun words => ?_
  refine .bind (.lift fun s t hlike => ⟨rfl, hgenerator s t _ hlike⟩) fun _ => ?_
  exact .whenOk _ fun value => .pure _

theorem seed_coupled
    (hgenerator : ∀ s t words, R s t →
      R { s with generator := some words } { t with generator := some words })
    (value : UInt64) : Coupled R (seed value).attempt :=
  .bind (.lift fun s t hlike => ⟨rfl, hgenerator s t _ hlike⟩) fun _ => .pure _

theorem draws_coupled (hwords : Coupled R randomWords)
    (hgenerator : ∀ s t words, R s t →
      R { s with generator := some words } { t with generator := some words })
    {op : Operation} (hdraws : op.draws = true) : Coupled R op.attempt := by
  cases op with
  | random start stop => exact random_coupled hwords hgenerator start stop
  | seed value => exact seed_coupled hgenerator value
  | _ => cases hdraws

/-- Operations take the same course in related sessions, except perhaps those that load settings
or change the random numbers. -/
theorem attempt_coupled (h : Likeness R) (op : Operation)
    (hspecial : op.loads = true ∨ op.draws = true → Coupled R op.attempt) :
    Coupled R op.attempt := by
  cases op with
  | init => exact hspecial (.inl rfl)
  | stringNew bytes length =>
    refine .whenOk _ fun length => ?_
    cases bytes with
    | some bytes => exact .answerString h _
    | none =>
      by_cases hzero : length = 0
      · subst hzero
        exact .answerString h _
      · show Coupled R (if length = 0 then _ else _)
        rw [if_neg hzero]
        exact .pure _
  | stringFree r => exact .bind (.freeString h r) fun _ => .pure _
  | stringSize r => exact .withString h _ r fun value => .pure _
  | charAt r index => exact .withString h _ r fun value => .whenOk _ fun char => .pure _
  | reverse r => exact .withString h _ r fun value => .answerString h _
  | concat r r' =>
    exact .withString h _ r fun value => .withString h _ r' fun other => .answerString h _
  | substring r start stop =>
    exact .withString h _ r fun value => .whenOk _ fun part => .answerString h _
  | arrayNew size => exact .whenOk _ fun value => .bind (.addArray h value) fun _ => .pure _
  | arrayFree r => exact .bind (.freeArray h r) fun _ => .pure _
  | arraySize r => exact .withArray h _ r fun value => .pure _
  | arrayCapacity r => exact .withArray h _ r fun value => .pure _
  | arrayGet r index => exact .withArray h _ r fun value => .whenOk _ fun element => .pure _
  | arraySet r index element =>
    exact .withArray h _ r fun value => .whenOk _ fun new => .answerArray h _ _ _
  | arrayResize r size =>
    exact .withArray h _ r fun value => .whenOk _ fun new => .answerArray h _ _ _
  | arrayAppend r element => exact .withArray h _ r fun value => .answerArray h _ _ _
  | arrayAppendAll r r' =>
    exact .withArray h _ r' fun other => .withArray h _ r fun value => .answerArray h _ _ _
  | arrayClear r => exact .withArray h _ r fun value => .answerArray h _ _ _
  | print value newline => exact .print h _ _
  | printString r newline => exact .withString h _ r fun value => .print h _ _
  | printArray r newline => exact .withArray h _ r fun value => .print h _ _
  | readLine =>
    refine .bind (.read h _) fun line => .whenOk _ fun line => ?_
    exact .bind (.record h _) fun _ => .answerString h _
  | readInt =>
    refine .bind (.read h _) fun value => .whenOk _ fun value => ?_
    exact .bind (.record h _) fun _ => .pure _
  | random start stop => exact hspecial (.inl rfl)
  | seed value => exact hspecial (.inr rfl)

end Operation

/-! ### Calls -/

namespace Call

theorem operation_coupled {form : Form} {op : Operation} (hop : Coupled R op.attempt)
    (hdeliver : ∀ violation, Coupled R (form.deliver (.error violation))) :
    Coupled R (operation form op).attempt := by
  refine .bind hop fun result => ?_
  cases result with
  | ok answer => exact .pure _
  | error violation => exact hdeliver violation

/-- A call has the same outcome in related sessions, and leaves them related. -/
theorem perform_coupled {call : Call} (hattempt : Coupled R call.attempt)
    (haborted : ∀ s t, R s t → R { s with notices := s.notices ++ [.aborted] }
      { t with notices := t.notices ++ [.aborted] }) {s t : Session} (hlike : R s t) :
    call.outcome t = call.outcome s ∧ R (call.next s) (call.next t) := by
  obtain ⟨hresult, hafter⟩ := hattempt s t hlike
  unfold outcome next
  rw [perform_run, perform_run]
  cases hon : call.attempt.on s with
  | mk result u =>
    cases hon' : call.attempt.on t with
    | mk result' u' =>
      rw [hon, hon'] at hresult hafter
      simp only at hresult hafter
      subst hresult
      cases result' with
      | ok outcome => exact ⟨rfl, hafter⟩
      | error fault =>
        simp only
        split
        · exact ⟨rfl, haborted _ _ hafter⟩
        · exact ⟨rfl, hafter⟩

end Call

end ProgramSupport
