import ProgramSupport.Proofs.Session.Registers

/-!
# Runs of entry points

A process of compiled code makes calls of entry points until one of them fails.  This file
provides

* `Session.run_shows` — the run of such a process beside the run on registers of lists;
* `Session.Mirrors` — the steps and the registers that the process has to leave;
* `Session.EndsAs` — how it has to end;
* `Session.entries_mirror` — the steps and the registers are as they have to be, and so is the end
  exactly when no call fails or the log filter of the environment can be cut into its parts.

The first failing precondition ends the process in any case.  Whether it does so by the exit
status and the diagnostic depends on the settings, which are needed then for the first time.
-/

namespace ProgramSupport

open ProgramSupport.Action

namespace Session

variable {origin s : Session} {h : Holdings}

/-! ### One call -/

theorem entry_answered {call : RegisterCall} {answer : Answer} {t : Session}
    (hon : call.operation.attempt.on s = (.ok (.ok answer), t)) :
    call.entry.perform.run s = (.answered answer, t) := by
  have hattempt : call.entry.attempt.on s = (.ok (.answered answer), t) := by
    show (call.operation.attempt >>= fun result => Form.entry.deliver result).on s = _
    rw [on_bind_ok hon, Form.deliver_ok_on]
  rw [Call.perform_run, hattempt]

/-- A violation ends the process, by an abort if the settings break off. -/
theorem entry_failed {call : RegisterCall} {violation : Violation}
    (hon : call.operation.attempt.on s = (.ok (.error violation), s)) :
    call.entry.perform.run s = match s.breaks? with
      | none => (.exited violation, s.escalated .exit violation)
      | some _ => (.aborted, { s with notices := s.notices ++ [.aborted] }) := by
  have hattempt : call.entry.attempt.on s = (escalateUnder .exit violation).on s := by
    show (call.operation.attempt >>= fun result => Form.entry.deliver result).on s = _
    rw [on_bind_ok hon, Form.deliver_error_on]
    rfl
  rw [Call.perform_run, hattempt, escalateUnder_on]
  cases s.breaks? <;> rfl

/-! ### Runs -/

/-- The run of a process beside the run on registers of lists. -/
theorem run_shows (hunset : origin.settings = none) (hs : Shows origin s h)
    (calls : List RegisterCall) :
    ∃ outcomes t, Lasting outcomes ∧
      outcomes.map Outcome.reply? = (Holdings.run calls h).1.map some ∧
      Shows origin t (Holdings.run calls h).2.1 ∧
      (run (calls.map RegisterCall.entry)).run s =
        match (Holdings.run calls h).2.2 with
        | none => (outcomes, t)
        | some violation =>
          match origin.breaks? with
          | none => (outcomes ++ [.exited violation], t.escalated .exit violation)
          | some _ => (outcomes ++ [.aborted], { t with notices := t.notices ++ [.aborted] }) := by
  induction calls generalizing s h with
  | nil => exact ⟨[], s, .nil, rfl, hs, rfl⟩
  | cons call calls ih =>
    have hreplies := call.operation_replies hunset hs
    cases hstep : h.step call with
    | error violation =>
      rw [hstep] at hreplies
      have hperform := entry_failed hreplies
      have hheld : Holdings.run (call :: calls) h = ([], h, some violation) := by
        rw [Holdings.run, hstep]
      rw [hheld]
      refine ⟨[], s, .nil, rfl, hs, ?_⟩
      rw [hs.breaks_eq] at hperform
      rw [List.map_cons]
      cases hbreaks : origin.breaks? with
      | none =>
        rw [hbreaks] at hperform
        rw [run_cons_end hperform rfl]
        rfl
      | some fault =>
        rw [hbreaks] at hperform
        rw [run_cons_end hperform rfl]
        rfl
    | ok after =>
      obtain ⟨reply, after⟩ := after
      rw [hstep] at hreplies
      obtain ⟨answer, hok, hreply, hshows⟩ := hreplies
      have hperform := entry_answered (Prod.ext hok rfl)
      have hheld : Holdings.run (call :: calls) h =
          (reply :: (Holdings.run calls after).1, (Holdings.run calls after).2) := by
        rw [Holdings.run, hstep]
      obtain ⟨outcomes, t, hlast, hmap, hfinal, hrun⟩ := ih hshows
      rw [hheld]
      refine ⟨.answered answer :: outcomes, t, .cons rfl hlast, ?_, hfinal, ?_⟩
      · rw [List.map_cons, List.map_cons, hmap]
        exact congrArg (· :: _) hreply
      · rw [List.map_cons, run_cons_go hperform rfl, hrun]
        cases (Holdings.run calls after).2.2 with
        | none => rfl
        | some violation => cases origin.breaks? <;> rfl

/-! ### Processes -/

/-- The steps of a process are the replies of registers of lists, and its registers hold the same
lists at its end. -/
def Mirrors (calls : List RegisterCall) (s : Session) : Prop :=
  (s.report (calls.map RegisterCall.entry)).steps.map Outcome.reply? =
      (Holdings.run calls {}).1.map some ∧
    ((run (calls.map RegisterCall.entry)).run s).2.strings.map (Option.map ByteString.bytes) =
      (Holdings.run calls {}).2.1.strings ∧
    ((run (calls.map RegisterCall.entry)).run s).2.arrays.map (Option.map IntArray.toList) =
      (Holdings.run calls {}).2.1.arrays

/-- A process without a failure ends with status zero and writes nothing to the error stream.
One with a failure ends with status one, and the diagnostic is the end of the error stream. -/
def EndsAs (calls : List RegisterCall) (s : Session) : Prop :=
  match (Holdings.run calls {}).2.2 with
  | none =>
    (s.report (calls.map RegisterCall.entry)).status = some 0 ∧
      (s.report (calls.map RegisterCall.entry)).lines = []
  | some violation =>
    (s.report (calls.map RegisterCall.entry)).status = some 1 ∧
      ∃ earlier, (s.report (calls.map RegisterCall.entry)).lines =
        earlier ++ Report.linesOf ("tern runtime error: " ++ violation.message)

theorem escalated_strings (s : Session) (violation : Violation) :
    (s.escalated .exit violation).strings = s.strings := loaded_strings s

theorem escalated_arrays (s : Session) (violation : Violation) :
    (s.escalated .exit violation).arrays = s.arrays := loaded_arrays s

variable {calls : List RegisterCall} {outcomes : List Outcome} {t after : Session}

/-- What a run beside registers of lists has to leave, it leaves. -/
theorem mirrors_of_run (hsteps : (s.report (calls.map RegisterCall.entry)).steps = outcomes)
    (hmap : outcomes.map Outcome.reply? = (Holdings.run calls {}).1.map some)
    (hshows : Shows origin t (Holdings.run calls {}).2.1)
    (hafter : ((run (calls.map RegisterCall.entry)).run s).2 = after)
    (hstrings : after.strings = t.strings) (harrays : after.arrays = t.arrays) :
    Mirrors calls s := by
  refine ⟨?_, ?_, ?_⟩
  · rw [hsteps, hmap]
  · rw [hafter, hstrings, hshows.strings_eq]
  · rw [hafter, harrays, hshows.arrays_eq]

/-- Processes that call entry points on registers, whatever the calls, the input and the
environment are.  The steps and the registers are those of registers of lists up to the first
failure, and the end is as it has to be exactly when no call fails or the log filter of the
environment can be cut into its parts; and registers of lists change only where a call names
them. -/
theorem entries_mirror (environment : Environment) (input : Input) (entropy : WordStream)
    (calls : List RegisterCall) :
    Mirrors calls { environment, input, entropy } ∧
      (EndsAs calls { environment, input, entropy } ↔
        (Holdings.run calls {}).2.2 = none ∨ environment.settings.splitFault? = none) ∧
      ∀ h call, Holdings.AllFramed h call.changedString call.changedArray (h.step call) := by
  have hstart : Shows { environment, input, entropy } { environment, input, entropy } {} :=
    ⟨rfl, rfl, rfl, fun a ha => absurd ha List.not_mem_nil⟩
  obtain ⟨outcomes, t, hlast, hmap, hshows, hrun⟩ := run_shows rfl hstart calls
  refine and_assoc.1 ⟨?_, Holdings.step_frame⟩
  unfold EndsAs
  cases hfailure : (Holdings.run calls {}).2.2 with
  | none =>
    rw [hfailure] at hrun
    have hreport := report_of_lasting hlast hrun
    have hnotices : t.notices = [] := by rw [hshows.rest_eq]
    refine ⟨mirrors_of_run (by rw [hreport]) hmap hshows (congrArg Prod.snd hrun) rfl rfl, ?_⟩
    refine ⟨fun _ => .inl rfl, fun _ => ?_⟩
    rw [hreport]
    refine ⟨rfl, ?_⟩
    rw [Report.lines, hnotices]
    rfl
  | some violation =>
    rw [hfailure] at hrun
    have hbreaks : Session.breaks? { environment, input, entropy } =
        environment.settings.splitFault? := rfl
    rw [hbreaks] at hrun
    cases hsplit : environment.settings.splitFault? with
    | none =>
      rw [hsplit] at hrun
      have hend : (Outcome.exited violation).ending? = some .exited := rfl
      have hreport := report_of_ended hlast hend hrun
      refine ⟨mirrors_of_run (by rw [hreport]) hmap hshows (congrArg Prod.snd hrun)
        (escalated_strings t violation) (escalated_arrays t violation), ?_⟩
      refine ⟨fun _ => .inr rfl, fun _ => ?_⟩
      rw [hreport]
      refine ⟨rfl, (t.loaded.notices ++ t.loaded.recorded (.violated violation)).flatMap
        fun notice => Report.linesOf notice.text, ?_⟩
      show List.flatMap (fun notice : Notice => Report.linesOf notice.text) (_ ++ [_]) = _
      rw [List.flatMap_append, List.flatMap_singleton]
      rfl
    | some fault =>
      rw [hsplit] at hrun
      have hend : Outcome.aborted.ending? = some .aborted := rfl
      have hreport := report_of_ended hlast hend hrun
      refine ⟨mirrors_of_run (by rw [hreport]) hmap hshows (congrArg Prod.snd hrun) rfl rfl, ?_⟩
      constructor
      · intro hends
        rw [hreport] at hends
        cases hends.1
      · intro hnone
        rcases hnone with hnone | hnone
        · cases hnone
        · cases hnone

/-- The filter begins with a blank of three bytes, so the settings break off, and the process is
aborted before it can say what is wrong. -/
theorem not_endsAs_blank_filter :
    ¬EndsAs [.arrayNew (-1)]
      { environment := [("TERN_LOG", .ofText "　a=5")], input := .stream [],
        entropy := .cyclic #[] } := by
  intro hends
  have hstatus : (report [RegisterCall.entry (.arrayNew (-1))]
      { environment := [("TERN_LOG", .ofText "　a=5")], input := .stream [],
        entropy := .cyclic #[] }).status = none := by
    decide +kernel
  have hone := hends.1
  rw [List.map_singleton, hstatus] at hone
  cases hone

end Session

end ProgramSupport
