import ProgramSupport.Proofs.Session.Runs

/-!
# What a process leaves behind

The report of a process follows from its run.  This file provides

* `Session.Upheld` — what the report of a process has to say;
* `Session.report_of_lasting` and `Session.report_of_ended` — the report of a run that goes on to
  its end, and of one that a call ends;
* `Session.report_cons_go` and `Session.report_cons_end` — the report of a run by its first call;
* `Session.upheld_iff` — the report says what it has to exactly when no call is cut.

A call can be cut only in an environment with a log filter that cannot be cut into its parts.
-/

namespace ProgramSupport

/-- The lines of a text on the error stream. -/
def Report.linesOf (text : String) : List String :=
  (partsBetween '\n' text.toList).map fun line => String.ofList (withoutReturn line)

namespace Session

/-- What the report of a process has to say.  Without a violation that exits, the status is zero
and every call has its step.  Otherwise the status is one, the steps are those of the calls
before, the error stream ends with the diagnostic, and later calls change nothing.  The output is
the text of the calls that were made, in order. -/
def Upheld (calls : List Call) (s : Session) : Prop :=
  match exit? calls s with
  | none =>
    (s.report calls).status = some 0 ∧ (s.report calls).steps = results calls s ∧
      (s.report calls).output = renderings calls s
  | some (made, violation) =>
    (s.report calls).status = some 1 ∧ (s.report calls).steps = results (calls.take made) s ∧
      (s.report calls).output = renderings (calls.take made) s ∧
      (∃ earlier, (s.report calls).lines =
        earlier ++ Report.linesOf ("tern runtime error: " ++ violation.message)) ∧
      ∀ later, s.report (calls.take (made + 1) ++ later) = s.report calls

variable {s t : Session} {outcomes : List Outcome} {calls : List Call}

/-! ### Reports of runs -/

theorem Lasting.findSome?_eq (h : Lasting outcomes) :
    outcomes.findSome? Outcome.ending? = none := by
  rw [List.findSome?_eq_none_iff]
  exact h

theorem Lasting.filter_eq (h : Lasting outcomes) :
    outcomes.filter (·.ending?.isNone) = outcomes := by
  rw [List.filter_eq_self]
  intro outcome hmem
  rw [h outcome hmem]
  rfl

theorem report_of_lasting (hlast : Lasting outcomes)
    (hrun : (run calls).run s = (outcomes, t)) :
    s.report calls =
      { status := some 0
        output := t.console.flush.writer.delivered
        notices := t.notices
        steps := outcomes } := by
  unfold report
  simp only [hrun, hlast.findSome?_eq, hlast.filter_eq]
  rfl

theorem report_of_ended {outcome : Outcome} {ending : Ending} (hlast : Lasting outcomes)
    (hend : outcome.ending? = some ending)
    (hrun : (run calls).run s = (outcomes ++ [outcome], t)) :
    s.report calls =
      { status := ending.status?
        output := t.output ending
        notices := t.notices
        steps := outcomes } := by
  have hfind : (outcomes ++ [outcome]).findSome? Outcome.ending? = some ending := by
    rw [List.findSome?_append, hlast.findSome?_eq, Option.none_or, List.findSome?_singleton, hend]
  have hfilter : (outcomes ++ [outcome]).filter (·.ending?.isNone) = outcomes := by
    have hdrop : [outcome].filter (·.ending?.isNone) = [] := by
      rw [List.filter_eq_nil_iff]
      intro other hmem
      rw [List.mem_singleton.1 hmem, hend]
      exact Bool.noConfusion
    rw [List.filter_append, hlast.filter_eq, hdrop, List.append_nil]
  unfold report
  simp only [hrun, hfind, hfilter]
  rfl

theorem report_nil (s : Session) :
    s.report [] =
      { status := some 0
        output := s.console.flush.writer.delivered
        notices := s.notices
        steps := [] } := rfl

/-- The report of a run whose first call does not end it has one step more than that of the
rest. -/
theorem report_cons_go {call : Call} (hgo : (call.outcome s).ending? = none) (calls : List Call) :
    s.report (call :: calls) =
      { (call.next s).report calls with
        steps := call.outcome s :: ((call.next s).report calls).steps } := by
  unfold report
  simp only [run_cons_go (call.perform_eq s) hgo, List.findSome?_cons, hgo]
  rw [List.filter_cons_of_pos (by rw [hgo]; rfl)]
  rfl

theorem report_cons_end {call : Call} {ending : Ending}
    (hend : (call.outcome s).ending? = some ending) (calls : List Call) :
    s.report (call :: calls) =
      { status := ending.status?
        output := (call.next s).output ending
        notices := (call.next s).notices
        steps := [] } :=
  report_of_ended .nil hend (run_cons_end (call.perform_eq s) hend calls)

/-- Only the console decides about the output. -/
theorem output_congr {s t : Session} (h : t.console = s.console) (ending : Ending) :
    t.output ending = s.output ending := by
  cases ending <;> simp only [output, h]

/-- A diagnostic as the last notice is the end of the error stream. -/
theorem lines_of_diagnostic {r : Report} {earlier : List Notice} {violation : Violation}
    (h : r.notices = earlier ++ [.diagnostic violation]) :
    ∃ lines, r.lines = lines ++ Report.linesOf ("tern runtime error: " ++ violation.message) := by
  refine ⟨earlier.flatMap fun notice => Report.linesOf notice.text, ?_⟩
  show r.notices.flatMap (fun notice => Report.linesOf notice.text) = _
  rw [h, List.flatMap_append, List.flatMap_singleton]
  rfl

/-! ### What has to be said, is said -/

/-- A process of which no call is cut leaves what it has to. -/
theorem upheld_of_not_cut (h : s.console.Carries []) (hcut : ¬Cut calls s) : Upheld calls s := by
  unfold Upheld
  cases hexit : exit? calls s with
  | none =>
    obtain ⟨hlast, t, hrun, hcarries⟩ := run_of_exit_none h hexit hcut
    rw [report_of_lasting hlast hrun]
    exact ⟨rfl, rfl, Console.flush_delivers hcarries⟩
  | some found =>
    obtain ⟨made, violation⟩ := found
    obtain ⟨hlast, t, hrun, hcarries, earlier, hnotices⟩ := run_of_exit_some h hexit hcut
    have hend : (Outcome.exited violation).ending? = some .exited := rfl
    have hreport : ∀ later, s.report (calls.take (made + 1) ++ later) =
        { status := some 1
          output := t.console.flush.writer.delivered
          notices := t.notices
          steps := results (calls.take made) s } :=
      fun later => report_of_ended hlast hend (hrun later)
    have hcalls := hreport (calls.drop (made + 1))
    rw [List.take_append_drop] at hcalls
    rw [hcalls]
    exact ⟨rfl, rfl, Console.flush_delivers hcarries, lines_of_diagnostic hnotices, hreport⟩

/-- A process of which a call is cut does not leave what it has to. -/
theorem not_upheld_of_cut (h : s.console.Carries []) (hcut : Cut calls s) : ¬Upheld calls s := by
  intro hupheld
  unfold Upheld at hupheld
  rcases run_of_cut h hcut with ⟨outcomes, t, hlast, hrun⟩ |
    ⟨made, violation, outcomes, t, hexit, hlast, hrun⟩
  · -- An aborted process has no status.
    have hreport := report_of_ended hlast rfl hrun
    cases hexit : exit? calls s with
    | none =>
      rw [hexit, hreport] at hupheld
      cases hupheld.1
    | some found =>
      rw [hexit, hreport] at hupheld
      cases hupheld.1
  · rw [hexit] at hupheld
    obtain ⟨hstatus, -, -, -, hlater⟩ := hupheld
    have hreport := hlater []
    rw [List.append_nil, report_of_lasting hlast hrun] at hreport
    rw [← hreport] at hstatus
    cases hstatus

/-- The reports of all processes, whatever their calls, input and environment are.  A report says
what it has to exactly when no call is cut, and those of all calls do exactly when the log filter
of the environment can be cut into its parts; and when the environment has no fault, and neither
it nor a call chooses a log filter, nothing but the diagnostic is on the error stream. -/
theorem upheld_iff (environment : Environment) (input : Input) (entropy : WordStream)
    (calls : List Call) :
    (Upheld calls { environment, input, entropy } ↔ ¬Cut calls { environment, input, entropy }) ∧
      ((∀ others, Upheld others { environment, input, entropy }) ↔
        environment.settings.splitFault? = none) ∧
      ∀ settings, Settings.ofLookup environment.lookup = .ok settings →
        settings.logFilter = none → (∀ call ∈ calls, call.Plain) →
          (report calls { environment, input, entropy }).notices =
            match exit? calls { environment, input, entropy } with
            | none => []
            | some (_, violation) => [.diagnostic violation] := by
  have hempty : ({} : Console).Carries [] := ⟨rfl, rfl⟩
  refine ⟨⟨?_, upheld_of_not_cut hempty⟩, ⟨?_, ?_⟩, ?_⟩
  · intro hupheld hcut
    exact not_upheld_of_cut hempty hcut hupheld
  · intro hupheld
    cases hsplit : environment.settings.splitFault? with
    | none => rfl
    | some fault =>
      have hbreaks : breaks? { environment, input, entropy } = some fault := hsplit
      have hcut : Cut [.orExit (.error (.nullValue ""))] { environment, input, entropy } :=
        Or.inl (Call.orExit_cut hbreaks _)
      exact absurd (hupheld _) (not_upheld_of_cut hempty hcut)
  · intro hnone others
    refine upheld_of_not_cut hempty fun hcut => ?_
    obtain ⟨fault, hsplit⟩ := splitFault_of_cut hempty hcut
    have hfault : environment.settings.splitFault? = some fault := hsplit
    rw [hnone] at hfault
    cases hfault
  · intro settings hsettings hlog hplain
    have hforce : environment.settings = settings := by
      rw [Environment.settings, hsettings]
    have hquiet : Quiet { environment, input, entropy } := by
      refine ⟨?_, fun _ => ?_⟩
      · show environment.settings.logFilter = none
        rw [hforce, hlog]
      · show environment.notices = []
        rw [Environment.notices, hsettings]
    exact run_of_quiet hempty hquiet hplain

/-- The filter begins with a blank of three bytes, by which the end of the target is shifted into
the blank.  So the process goes on, although it has to end by the violation. -/
theorem not_upheld_blank_filter :
    ¬Upheld [.orExit (.error (.nullValue "op"))]
      { environment := [("TERN_LOG", .ofText "　a=5")], input := .stream [],
        entropy := .cyclic #[] } := by
  intro hupheld
  have hstatus : (report [.orExit (.error (.nullValue "op"))]
      { environment := [("TERN_LOG", .ofText "　a=5")], input := .stream [],
        entropy := .cyclic #[] }).status = some 0 := by
    decide +kernel
  have hone := hupheld.1
  rw [hstatus] at hone
  cases hone

end Session

end ProgramSupport
