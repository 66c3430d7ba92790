import PmiExitModule.Proof.Notify

/-!
# Preserved temp files

A run of the event processor touches one file only, under a name that was not in use when it started. A
file that an event names, or that a process was given, is therefore safe from every later notification
as long as it exists, and what remains is that the run itself deletes it only after it has seen the
process exit with 0.
-/

namespace PmiExitModule

open Generic

/-- The action is a `ReportEventW` call with an event that says this temp file will be preserved. -/
def Action.SaysPreserved (path : WStr) : Action → Prop
  | .reportEvent event _ =>
      (event.dwEventID = .MSG_PROCESS_FAILED ∨ event.dwEventID = .MSG_PROCESS_TIMEDOUT)
        ∧ event.strings[3]? = some (.str path)
  | _ => False

/-- The action touches no file and says of none that it will be preserved. -/
def Action.Silent (action : Action) : Prop :=
  action.touches = none ∧ ∀ path, ¬ action.SaysPreserved path

theorem Action.Silent.untouched {action : Action} (h : action.Silent) {path : WStr} :
    action.touches = none ∧ ∀ p, action.SaysPreserved p → p = path :=
  ⟨h.1, fun p hsays => absurd hsays (h.2 p)⟩

theorem silent_createProcess (commandLine : LPCWSTR) (created : Bool) :
    (Action.createProcess commandLine created).Silent := ⟨rfl, fun _ h => h⟩

theorem silent_waitForSingleObject (dwRes : DWORD) : (Action.waitForSingleObject dwRes).Silent :=
  ⟨rfl, fun _ h => h⟩

theorem silent_getExitCodeProcess (dwExitCode : DWORD) :
    (Action.getExitCodeProcess dwExitCode).Silent := ⟨rfl, fun _ h => h⟩

section Report

variable {source : CEventSource} {wType : EventType} {id : EventId} {args : List CEventArg}
  {o : EventOutcomes} {ending : Ending Fault Unit} {calls : List Action}

theorem silent_of_made (h : Made (source.report wType id args o) ending calls)
    (hfailed : id ≠ .MSG_PROCESS_FAILED) (htimedout : id ≠ .MSG_PROCESS_TIMEDOUT) :
    ∀ action ∈ calls, action.Silent := by
  intro action hmem
  obtain ⟨accepted, rfl⟩ := eq_of_mem_of_made h hmem
  exact ⟨rfl, fun path hsays => hsays.1.elim hfailed htimedout⟩

theorem saysPreserved_of_made {first second third : CEventArg} {path : WStr}
    (h : Made (source.report wType id [first, second, third, .string (.str path)] o) ending calls) :
    ∀ action ∈ calls, action.touches = none ∧ ∀ p, action.SaysPreserved p → p = path := by
  intro action hmem
  obtain ⟨accepted, rfl⟩ := eq_of_mem_of_made h hmem
  refine ⟨rfl, ?_⟩
  intro p hsays
  have hstring := hsays.2
  simp only [List.map_cons, List.getElem?_cons_succ, List.getElem?_cons_zero,
    CEventArg.format_string, Option.some.injEq, LPCWSTR.str.injEq] at hstring
  exact hstring.symm

end Report

namespace CEventProcessor

/-- The caller of `RunProcess` preserves the temp file. -/
def Keeps (ending : Ending Fault (HRESULT × DWORD)) : Prop :=
  ∀ hr dwExitCode, ending = .returned (hr, dwExitCode) → FAILED hr ∨ dwExitCode ≠ 0

theorem keeps_returned {hr : HRESULT} {dwExitCode : DWORD} (h : FAILED hr ∨ dwExitCode ≠ 0) :
    Keeps (.returned (hr, dwExitCode)) := by
  intro hr' dwExitCode' heq
  obtain ⟨rfl, rfl⟩ := Prod.mk.inj (Ending.returned.inj heq)
  exact h

theorem keeps_faulted (fault : Fault) : Keeps (.faulted fault) := by
  intro hr dwExitCode heq
  cases heq

theorem keeps_map {ending : Ending Fault Unit} {hr : HRESULT} {dwExitCode : DWORD}
    (h : FAILED hr ∨ dwExitCode ≠ 0) : Keeps (ending.map fun _ => (hr, dwExitCode)) := by
  cases ending with
  | returned _ => exact keeps_returned h
  | faulted fault => exact keeps_faulted fault
  | running =>
      intro hr' dwExitCode' heq
      cases heq

/-- What the run of a process does to the temp file it was given: nothing; it says that the file is
preserved only when the caller preserves it; and it answers success with exit code 0 only when it has
waited for the process and read that exit code. -/
structure LeavesFile (path : WStr) (ending : Ending Fault (HRESULT × DWORD)) (calls : List Action) :
    Prop where
  untouched : ∀ action ∈ calls, action.touches = none
    ∧ ∀ p, action.SaysPreserved p → p = path ∧ Keeps ending
  exited : Keeps ending ∨ Exits calls

theorem LeavesFile.of_keeps {path : WStr} {ending : Ending Fault (HRESULT × DWORD)}
    {calls : List Action} (hkeeps : Keeps ending) (hcalls : ∀ action ∈ calls, action.touches = none
      ∧ ∀ p, action.SaysPreserved p → p = path) : LeavesFile path ending calls := by
  refine ⟨?_, Or.inl hkeeps⟩
  intro action hmem
  obtain ⟨huntouched, hpreserved⟩ := hcalls action hmem
  exact ⟨huntouched, fun p h => ⟨hpreserved p h, hkeeps⟩⟩

theorem LeavesFile.of_silent {path : WStr} {ending : Ending Fault (HRESULT × DWORD)}
    {calls : List Action} (hsilent : ∀ action ∈ calls, action.Silent)
    (hexited : Keeps ending ∨ Exits calls) : LeavesFile path ending calls := by
  refine ⟨?_, hexited⟩
  intro action hmem
  obtain ⟨huntouched, hsilent⟩ := hsilent action hmem
  exact ⟨huntouched, fun p h => absurd h (hsilent p)⟩

section ProcessRun

variable {processor : CEventProcessor} {bufArgs : List LPCWSTR} {path : WStr} {o : ProcessOutcomes}
  {events : EventId → EventOutcomes}

theorem silent_of_reportsStart {proc : CProcess} {ending : Ending Fault Unit} {started : List Action}
    (hstart : ReportsStart processor events proc ending started) :
    ∀ action ∈ .createProcess proc.getCommandLine true :: started, action.Silent := by
  rw [List.forall_mem_cons]
  exact ⟨silent_createProcess _ _, silent_of_made hstart (by decide) (by decide)⟩

theorem silent_of_waited {proc : CProcess} {ending : Ending Fault Unit} {started : List Action}
    (hstart : ReportsStart processor events proc ending started) (dwRes : DWORD) :
    ∀ action ∈ (.createProcess proc.getCommandLine true :: started) ++ [.waitForSingleObject dwRes],
      action.Silent := by
  rw [List.forall_mem_append, List.forall_mem_singleton]
  exact ⟨silent_of_reportsStart hstart, silent_waitForSingleObject dwRes⟩

theorem ProcessRun.leavesFile {ending : Ending Fault (HRESULT × DWORD)} {calls : List Action}
    (h : ProcessRun processor bufArgs (.str path) o events ending calls) :
    LeavesFile path ending calls := by
  cases h with
  | noExePath hnull =>
      exact .of_silent (by simp) (Or.inl (keeps_returned (Or.inl failed_E_UNEXPECTED)))
  | createFaulted fault files hnotNull hcreate =>
      exact .of_silent (by simp) (Or.inl (keeps_faulted fault))
  | notStarted hr proc calls ending reported hfailed hcreate hcalls hreport =>
      have hattempt : ∀ action ∈ calls, action.Silent := by
        rcases hcalls with rfl | rfl
        · simp
        · exact List.forall_mem_singleton.mpr (silent_createProcess _ _)
      apply LeavesFile.of_silent
      · rw [List.forall_mem_append]
        exact ⟨hattempt, silent_of_made hreport (by decide) (by decide)⟩
      · exact Or.inl (keeps_map (Or.inl hfailed))
  | startUnreported proc fault started hcreates hstart =>
      exact .of_silent (silent_of_reportsStart hstart) (Or.inl (keeps_faulted fault))
  | waitFailed proc started hcreates hstart hwait =>
      apply LeavesFile.of_silent (silent_of_waited hstart _)
      exact Or.inl (keeps_returned (Or.inl ((CProcess.failed_waitHResult_iff _ _).mpr hwait)))
  | timedOut proc started ending reported hcreates hstart hwait hreport =>
      apply LeavesFile.of_keeps (keeps_map (Or.inl (by decide)))
      rw [List.forall_mem_append]
      refine ⟨fun action hmem => (silent_of_reportsStart hstart action hmem).untouched, ?_⟩
      rw [List.forall_mem_cons]
      exact ⟨(silent_waitForSingleObject _).untouched, saysPreserved_of_made hreport⟩
  | exitCodeUnread proc started e hcreates hstart =>
      apply LeavesFile.of_silent (silent_of_waited hstart _)
      exact Or.inl (keeps_returned (Or.inl e.failed))
  | exited proc started dwExitCode ending reported hcreates hstart hread hreport =>
      rcases hreport.cases with ⟨hcode, hmade⟩ | ⟨rfl, hmade⟩
      · apply LeavesFile.of_keeps (keeps_map (Or.inr hcode))
        rw [List.forall_mem_append]
        refine ⟨fun action hmem => (silent_of_reportsStart hstart action hmem).untouched, ?_⟩
        rw [List.forall_mem_cons, List.forall_mem_cons]
        exact ⟨(silent_waitForSingleObject _).untouched, (silent_getExitCodeProcess _).untouched,
          saysPreserved_of_made hmade⟩
      · apply LeavesFile.of_silent
        · rw [List.forall_mem_append]
          refine ⟨silent_of_reportsStart hstart, ?_⟩
          rw [List.forall_mem_cons, List.forall_mem_cons]
          exact ⟨silent_waitForSingleObject _, silent_getExitCodeProcess _,
            silent_of_made hmade (by decide) (by decide)⟩
        · exact Or.inr ⟨by simp, by simp⟩

end ProcessRun

end CEventProcessor

/-- What one notification does to the files. -/
structure SparesFiles (files : FileSystem) (actions : List Action) : Prop where
  /-- It touches no file but one it has named. -/
  named : ∀ action ∈ actions, ∀ path, action.touches = some path → .getTempFileName path ∈ actions
  /-- It touches no file that exists when it starts. -/
  fresh : ∀ action ∈ actions, ∀ path, action.touches = some path → files path = none
  /-- A file it says will be preserved is there at its end. -/
  preserved : ∀ action ∈ actions, ∀ path, action.SaysPreserved path →
    (replay files actions path).isSome
  /-- Once it has created a process it deletes its file only after the exit of the process. -/
  deleted : (∃ commandLine, .createProcess commandLine true ∈ actions) →
    ∀ path before deleted, before ++ [.deleteFile path deleted] <+: actions → Exits before
  /-- The file of a process that was not seen to exit is there at its end. -/
  created : (∃ commandLine, .createProcess commandLine true ∈ actions) →
    ∀ path, .getTempFileName path ∈ actions → Exits actions ∨ (replay files actions path).isSome

/-- An action on the temp file of this path that runs no process. -/
structure Action.Prepares (path : WStr) (action : Action) : Prop where
  touches : ∀ p, action.touches = some p → p = path
  saysNothing : ∀ p, ¬ action.SaysPreserved p
  noProcess : ∀ commandLine, action ≠ .createProcess commandLine true

theorem SparesFiles.of_prepares {files : FileSystem} {path : WStr} {actions : List Action}
    (hfresh : files path = none) (hnamed : .getTempFileName path ∈ actions)
    (hactions : ∀ action ∈ actions, action.Prepares path) : SparesFiles files actions where
  named action hmem p htouches := (hactions action hmem).touches p htouches ▸ hnamed
  fresh action hmem p htouches := (hactions action hmem).touches p htouches ▸ hfresh
  preserved action hmem p hsays := absurd hsays ((hactions action hmem).saysNothing p)
  deleted := fun ⟨commandLine, hmem⟩ => absurd rfl ((hactions _ hmem).noProcess commandLine)
  created := fun ⟨commandLine, hmem⟩ => absurd rfl ((hactions _ hmem).noProcess commandLine)

theorem replay_isSome {files : FileSystem} {actions : List Action} {path : WStr}
    (hexists : (files path).isSome) (hkept : ∀ deleted, .deleteFile path deleted ∉ actions) :
    (replay files actions path).isSome := by
  refine replay_preserves (fun state : FileSystem => (state path).isSome) ?_ hexists
  intro action hmem state hstate
  by_cases htouches : action.touches = some path
  · cases action with
    | getTempFileName p =>
        obtain rfl := Option.some.inj htouches
        simp [Replay.apply, applyAction]
    | createFile p _ =>
        obtain rfl := Option.some.inj htouches
        simp [Replay.apply, applyAction]
    | writeFile _ p _ =>
        obtain rfl := Option.some.inj htouches
        simpa [Replay.apply, applyAction] using hstate
    | deleteFile p deleted =>
        obtain rfl := Option.some.inj htouches
        exact absurd hmem (hkept deleted)
    | _ => cases htouches
  · rw [show Replay.apply state action = applyAction state action from rfl,
      applyAction_of_not_touches htouches]
    exact hstate

theorem prefix_of_not_mem {α : Type} {before first second : List α} {x : α} (hx : x ∉ second)
    (h : before ++ [x] <+: first ++ second) : before ++ [x] <+: first := by
  induction second using List.reverseRecOn with
  | nil => simpa using h
  | append_singleton second y ih =>
      rw [List.mem_append, not_or] at hx
      rw [← List.append_assoc, List.prefix_concat_iff] at h
      rcases h with h | h
      · obtain ⟨-, hy⟩ := List.append_inj' h rfl
        exact absurd (List.mem_singleton.mpr (List.singleton_inj.mp hy)) hx.2
      · exact ih hx.1 h

/-- A report after a notification that is not about its file changes nothing. -/
theorem SparesFiles.append {files : FileSystem} {actions reported : List Action}
    (h : SparesFiles files actions) (hsilent : ∀ action ∈ reported, action.Silent)
    (hprocess : ∀ commandLine, .createProcess commandLine true ∉ reported) :
    SparesFiles files (actions ++ reported) := by
  have hreplay : ∀ path, replay files (actions ++ reported) path = replay files actions path := by
    intro path
    rw [replay_append]
    apply replay_of_not_touches
    intro action hmem htouches
    rw [(hsilent action hmem).1] at htouches
    cases htouches
  have hcreation : (∃ commandLine, .createProcess commandLine true ∈ actions ++ reported) →
      ∃ commandLine, .createProcess commandLine true ∈ actions := by
    rintro ⟨commandLine, hmem⟩
    exact ⟨commandLine, (List.mem_append.mp hmem).resolve_right (hprocess commandLine)⟩
  have hnotReported : ∀ action : Action, action.touches ≠ none → action ∉ reported := by
    intro action htouches hmem
    exact htouches (hsilent action hmem).1
  constructor
  · intro action hmem path htouches
    have hmem := (List.mem_append.mp hmem).resolve_right (hnotReported action (by simp [htouches]))
    exact List.mem_append_left _ (h.named action hmem path htouches)
  · intro action hmem path htouches
    rcases List.mem_append.mp hmem with hmem | hmem
    · exact h.fresh action hmem path htouches
    · exact absurd hmem (hnotReported action (by simp [htouches]))
  · intro action hmem path hsays
    rw [hreplay]
    rcases List.mem_append.mp hmem with hmem | hmem
    · exact h.preserved action hmem path hsays
    · exact absurd hsays ((hsilent action hmem).2 path)
  · intro hcreated path before deleted hinitial
    exact h.deleted (hcreation hcreated) path before deleted
      (prefix_of_not_mem (hnotReported _ (by simp [Action.touches])) hinitial)
  · intro hcreated path hmem
    rw [hreplay]
    have hmem := (List.mem_append.mp hmem).resolve_right (hnotReported _ (by simp [Action.touches]))
    exact (h.created (hcreation hcreated) path hmem).imp_left
      (Exits.mono · (List.subset_append_left _ _))

namespace CEventProcessor

section NotifyRun

variable {processor : CEventProcessor} {pwszSubjectKeyIdentifier pwszSerialNumber : LPCWSTR}
  {bufRawCert : List BYTE} {o : ProcessorOutcomes} {files : FileSystem} {path : WStr}
  {handle : HANDLE} {writes : List Action}

theorem Opened.prepares (hopened : Opened o files path handle writes) :
    ∀ action ∈ openingActions path handle writes, action.Prepares path := by
  intro action hmem
  rcases hopened.cases hmem with rfl | rfl | ⟨piece, rfl⟩
  all_goals
    constructor
    · intro p h
      exact (Option.some.inj h).symm
    · intro p h
      exact h
    · intro commandLine h
      cases h

theorem Opened.not_deleted (hopened : Opened o files path handle writes) (p : WStr) (deleted : Bool) :
    .deleteFile p deleted ∉ openingActions path handle writes := by
  intro hmem
  rcases hopened.cases hmem with h | h | ⟨piece, h⟩ <;> cases h

theorem prepares_closeHandle (path : WStr) (handle : HANDLE) :
    (Action.closeHandle handle).Prepares path := by
  constructor <;> simp [Action.touches, Action.SaysPreserved]

theorem prepares_getTempFileName (path : WStr) : (Action.getTempFileName path).Prepares path := by
  constructor <;> simp [Action.touches, Action.SaysPreserved]

theorem prepares_deleteFile (path : WStr) (deleted : Bool) :
    (Action.deleteFile path deleted).Prepares path := by
  constructor <;> simp [Action.touches, Action.SaysPreserved]

theorem LeavesFile.body_cases {ending : Ending Fault (HRESULT × DWORD)} {calls : List Action}
    (hleaves : LeavesFile path ending calls) (hopened : Opened o files path handle writes) :
    ∀ action ∈ openingActions path handle writes ++ .closeHandle handle :: calls,
      (∀ p, action.touches = some p → p = path) ∧ (∀ p deleted, action ≠ .deleteFile p deleted)
        ∧ ∀ p, action.SaysPreserved p → p = path ∧ Keeps ending := by
  intro action hmem
  rcases List.mem_append.mp hmem with hmem | hmem
  · have hprepares := hopened.prepares action hmem
    refine ⟨hprepares.touches, ?_, ?_⟩
    · intro p deleted heq
      exact hopened.not_deleted p deleted (heq ▸ hmem)
    · intro p hsays
      exact absurd hsays (hprepares.saysNothing p)
  rcases List.mem_cons.mp hmem with rfl | hmem
  · have hprepares := prepares_closeHandle path handle
    refine ⟨hprepares.touches, ?_, ?_⟩
    · intro p deleted heq
      cases heq
    · intro p hsays
      exact absurd hsays (hprepares.saysNothing p)
  · obtain ⟨htouches, hsays⟩ := hleaves.untouched action hmem
    refine ⟨?_, ?_, hsays⟩
    · intro p h
      rw [htouches] at h
      cases h
    · intro p deleted heq
      rw [heq] at htouches
      cases htouches

theorem replay_body_isSome (files : FileSystem) {rest : List Action}
    (hkept : ∀ action ∈ openingActions path handle writes ++ rest,
      ∀ p deleted, action ≠ .deleteFile p deleted) :
    (replay files (openingActions path handle writes ++ rest) path).isSome := by
  change (replay (applyAction files (.getTempFileName path))
    (.createFile path handle :: writes ++ rest) path).isSome
  apply replay_isSome
  · simp [applyAction]
  · intro deleted hmem
    exact hkept _ (List.mem_cons_of_mem _ hmem) path deleted rfl

/-- **What one run of the event processor does to the files.** -/
theorem NotifyRun.sparesFiles {ending : Ending Fault HRESULT} {actions : List Action}
    (h : NotifyRun processor pwszSubjectKeyIdentifier pwszSerialNumber bufRawCert o files ending
      actions) : SparesFiles files actions := by
  cases h with
  | noTempFile hr hfailed => constructor <;> simp
  | notOpened path hr hnamed hfailed =>
      apply SparesFiles.of_prepares hnamed.fresh List.mem_cons_self
      rw [List.forall_mem_singleton]
      exact prepares_getTempFileName path
  | writing path handle writes objTempFile filesOpen hopened hopen hloop =>
      exact .of_prepares hopened.named.fresh mem_openingActions hopened.prepares
  | notLaunched path handle writes hr hopened hfailed =>
      apply SparesFiles.of_prepares hopened.named.fresh (List.mem_append_left _ mem_openingActions)
      rw [List.forall_mem_append, List.forall_mem_cons, List.forall_mem_singleton]
      exact ⟨hopened.prepares, prepares_closeHandle path handle, prepares_deleteFile path _⟩
  | launchFaulted path handle writes fault hopened hfault =>
      apply SparesFiles.of_prepares hopened.named.fresh (List.mem_append_left _ mem_openingActions)
      rw [List.forall_mem_append, List.forall_mem_singleton]
      exact ⟨hopened.prepares, prepares_closeHandle path handle⟩
  | preserved path handle writes bufArgs ending calls hopened hlaunch hrun hkeep =>
      have hbody := hrun.leavesFile.body_cases hopened
      have hthere := replay_body_isSome files fun action hmem => (hbody action hmem).2.1
      constructor
      · intro action hmem p htouches
        exact (hbody action hmem).1 p htouches ▸ List.mem_append_left _ mem_openingActions
      · intro action hmem p htouches
        exact (hbody action hmem).1 p htouches ▸ hopened.named.fresh
      · intro action hmem p hsays
        exact ((hbody action hmem).2.2 p hsays).1 ▸ hthere
      · intro _ p before deleted hinitial
        exact absurd rfl ((hbody _ (hinitial.subset (by simp))).2.1 p deleted)
      · intro _ p hmem
        exact Or.inr ((hbody _ hmem).1 p rfl ▸ hthere)
  | deleted path handle writes bufArgs hr calls hopened hlaunch hrun hok =>
      have hleaves := hrun.leavesFile
      have hbody := hleaves.body_cases hopened
      have hnotKept : ¬ Keeps (.returned (hr, 0)) := by
        intro hkeeps
        rcases hkeeps hr 0 rfl with hfailed | hne
        · exact hok hfailed
        · exact hne rfl
      have hexits : Exits (openingActions path handle writes ++ .closeHandle handle :: calls) := by
        apply (hleaves.exited.resolve_left hnotKept).mono
        intro action hmem
        exact List.mem_append_right _ (List.mem_cons_of_mem _ hmem)
      have htouches : ∀ action ∈ openingActions path handle writes ++ .closeHandle handle :: calls
          ++ [.deleteFile path o.deleteFile], ∀ p, action.touches = some p → p = path := by
        rw [List.forall_mem_append, List.forall_mem_singleton]
        exact ⟨fun action hmem => (hbody action hmem).1, (prepares_deleteFile path _).touches⟩
      constructor
      · intro action hmem p h
        exact htouches action hmem p h ▸
          List.mem_append_left _ (List.mem_append_left _ mem_openingActions)
      · intro action hmem p h
        exact htouches action hmem p h ▸ hopened.named.fresh
      · intro action hmem p hsays
        rcases List.mem_append.mp hmem with hmem | hmem
        · exact absurd ((hbody action hmem).2.2 p hsays).2 hnotKept
        · obtain rfl := List.mem_singleton.mp hmem
          exact hsays.elim
      · intro _ p before deleted hinitial
        rcases List.prefix_concat_iff.mp hinitial with heq | hinitial
        · exact (List.append_inj' heq rfl).1 ▸ hexits
        · exact absurd rfl ((hbody _ (hinitial.subset (by simp))).2.1 p deleted)
      · intro _ p hmem
        exact Or.inl (hexits.mono (List.subset_append_left _ _))

end NotifyRun

end CEventProcessor

namespace CPMICertExit

variable (exit : CPMICertExit)

/-- **The step lemma.** -/
theorem notifyCall_sparesFiles (call : NotifyCall) (files : FileSystem) :
    SparesFiles files (exit.notifyCall call files).2 := by
  have hdispatch : SparesFiles files
      (exit.dispatch call.exitEvent call.context call.outcomes files).2 := by
    rcases exit.dispatch_cases call.exitEvent call.context call.outcomes files with
      ⟨fault, -, -, hrun⟩ | ⟨hr, -, -, hrun⟩ | ⟨cert, -, -, -, hrun⟩
    · rw [hrun]
      constructor <;> simp
    · rw [hrun]
      constructor <;> simp
    · rw [hrun]
      exact (CEventProcessor.notifyCertIssued_run _ _ _ _ _ _).sparesFiles
  rcases hrun : exit.dispatch call.exitEvent call.context call.outcomes files with ⟨ending, actions⟩
  rw [hrun] at hdispatch
  rcases exit.notify_cases hrun with ⟨hr, reportEnding, reported, -, -, hmade, hnotify⟩ | ⟨-, hnotify⟩
  · rw [notifyCall, hnotify]
    apply hdispatch.append (silent_of_made hmade (by decide) (by decide))
    intro commandLine hmem
    obtain ⟨accepted, heq⟩ := eq_of_mem_of_made hmade hmem
    cases heq
  · rw [notifyCall, hnotify]
    exact hdispatch

theorem history_untouched {path : WStr} {content : List BYTE} (calls : List NotifyCall)
    {files : FileSystem} (hexists : files path = some content) :
    stateAfter exit.notifyCall files calls path = some content
      ∧ ∀ run ∈ history exit.notifyCall files calls,
        ∀ action ∈ run.2, action.touches ≠ some path := by
  have hstep : ∀ call ∈ calls, ∀ state : FileSystem, state path = some content →
      replay state (exit.notifyCall call state).2 path = some content
        ∧ ∀ action ∈ (exit.notifyCall call state).2, action.touches ≠ some path := by
    intro call _ state hstate
    have huntouched : ∀ action ∈ (exit.notifyCall call state).2, action.touches ≠ some path := by
      intro action hmem htouches
      have hfresh := (exit.notifyCall_sparesFiles call state).fresh action hmem path htouches
      rw [hstate] at hfresh
      cases hfresh
    exact ⟨(replay_of_not_touches huntouched).trans hstate, huntouched⟩
  exact history_forall exit.notifyCall (fun state : FileSystem => state path = some content)
    (fun run => ∀ action ∈ run.2, action.touches ≠ some path) hstep hexists

/-- **Files that are preserved.** In every history of notifications, a file that a notification says
will be preserved is there at its end, no later notification touches it, and it keeps its content. The
file of a notification that created a process is deleted, by that notification or by a later one, only
after the process was seen to exit with 0. -/
theorem notify_preserves_files (files : FileSystem) (before : List NotifyCall) (call : NotifyCall)
    (after : List NotifyCall) :
    let start := stateAfter exit.notifyCall files before
    let actions := (exit.notifyCall call start).2
    let finish := replay start actions
    (∀ path, (∃ action ∈ actions, action.SaysPreserved path) →
      (finish path).isSome ∧ stateAfter exit.notifyCall finish after path = finish path
        ∧ ∀ later ∈ history exit.notifyCall finish after,
          ∀ action ∈ later.2, action.touches ≠ some path) ∧
    (∀ path, .getTempFileName path ∈ actions → (∃ commandLine, .createProcess commandLine true ∈ actions) →
      (∀ first deleted, first ++ [.deleteFile path deleted] <+: actions → Exits first)
        ∧ ∀ later ∈ history exit.notifyCall finish after,
          ∀ deleted, .deleteFile path deleted ∈ later.2 → Exits actions) := by
  intro start actions finish
  have hspares := exit.notifyCall_sparesFiles call start
  have huntouched : ∀ path, (finish path).isSome →
      stateAfter exit.notifyCall finish after path = finish path
        ∧ ∀ later ∈ history exit.notifyCall finish after,
          ∀ action ∈ later.2, action.touches ≠ some path := by
    intro path hexists
    obtain ⟨content, hcontent⟩ := Option.isSome_iff_exists.mp hexists
    rw [hcontent]
    exact exit.history_untouched after hcontent
  constructor
  · rintro path ⟨action, hmem, hsays⟩
    have hexists := hspares.preserved action hmem path hsays
    exact ⟨hexists, huntouched path hexists⟩
  · intro path hmem hcreated
    refine ⟨hspares.deleted hcreated path, ?_⟩
    intro later hlater deleted hdeleted
    rcases hspares.created hcreated path hmem with hexits | hexists
    · exact hexits
    · exact absurd rfl ((huntouched path hexists).2 later hlater _ hdeleted)

end CPMICertExit

end PmiExitModule
