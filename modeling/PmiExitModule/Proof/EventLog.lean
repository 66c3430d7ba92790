import PmiExitModule.EventLog
import PmiExitModule.Proof.Accounting
import PmiExitModule.Proof.PreservedFiles

/-!
# The event log tells what became of every certificate

With a log that takes every event, each notification of an issued certificate leaves a run of entries
that says what became of it: with which ids a process was created, what exit code was read, where the
certificate is left for debugging, and with which code a failure ended. The runs need no marks between
them, so the fates of any list of notifications are read off the whole log, in order.
-/

namespace PmiExitModule

open Generic

/-! ### Numbers -/

theorem readNumeral_printDigits {base : Nat} (hbase : 1 < base) (hle : base ≤ 16) (value : Nat) :
    readNumeral digitValue base (printDigits base value) = some value := by
  have hdigit : ∀ d < 16, digitValue (BitVec.ofNat 16 (if d < 10 then 0x30 + d else 0x61 + (d - 10)))
      = some d := by
    decide
  have hdigit' : ∀ d < base, digitValue (BitVec.ofNat 16 (if d < 10 then 0x30 + d else 0x61 + (d - 10)))
      = some d := fun d hd => hdigit d (Nat.lt_of_lt_of_le hd hle)
  have hzero : ∀ d ∈ [0], d < base := by
    rw [List.forall_mem_singleton]
    omega
  have hdigits : ∀ d ∈ Nat.digits base value, d < base := fun d hmem => Nat.digits_lt_base hbase hmem
  unfold printDigits
  by_cases h : value = 0
  · subst h
    exact readNumeral_map hdigit' hzero
  · rw [if_neg h]
    exact (readNumeral_map hdigit' hdigits).trans (congrArg some (Nat.ofDigits_digits base value))

theorem readNumber_numeral {base : Nat} (hbase : 1 < base) (hle : base ≤ 16) (value : DWORD) :
    readNumber base (.str (numeral base value.toNat hbase hle)) = some value := by
  have hread : readNumber base (.str (numeral base value.toNat hbase hle))
      = (readNumeral digitValue base (printDigits base value.toNat)).map (BitVec.ofNat 32) := rfl
  rw [hread, readNumeral_printDigits hbase hle, Option.map_some, BitVec.ofNat_toNat, BitVec.setWidth_eq]

@[simp]
theorem readNumber_decimal (value : DWORD) : readNumber 10 (.str (decimal value)) = some value :=
  readNumber_numeral _ _ value

@[simp]
theorem readNumber_hexadecimal (value : HRESULT) :
    readNumber 16 (.str (hexadecimal value)) = some value := readNumber_numeral _ _ value

@[simp]
theorem readIds_decimal (process : ProcessInformation) : readIds (.str (decimal process.dwProcessId))
    (.str (decimal process.dwThreadId)) = some process := by
  simp [readIds]

/-! ### The entries of a run -/

/-- The actions wrote these entries. -/
def Records (actions : List Action) (entries : List Entry) : Prop :=
  List.Forall₂ (fun event entry => Entry.ofEvent event = some entry) (actions.filterMap Action.logged)
    entries

namespace Records

theorem nil : Records [] [] := List.Forall₂.nil

theorem append {first second : List Action} {entries entries' : List Entry} (h : Records first entries)
    (h' : Records second entries') : Records (first ++ second) (entries ++ entries') := by
  unfold Records
  rw [List.filterMap_append]
  exact List.rel_append h h'

theorem of_unlogged {actions : List Action} (h : ∀ action ∈ actions, action.logged = none) :
    Records actions [] := by
  unfold Records
  rw [List.filterMap_eq_nil_iff.mpr h]
  exact List.Forall₂.nil

/-- What is not logged may stand anywhere. -/
theorem cons {action : Action} {actions : List Action} {entries : List Entry} (h : action.logged = none)
    (hrest : Records actions entries) : Records (action :: actions) entries := by
  unfold Records
  rw [List.filterMap_cons_none h]
  exact hrest

end Records

section Report

variable {source : CEventSource} {wType : EventType} {id : EventId} {args : List CEventArg}
  {o : EventOutcomes} {ending : Ending Fault Unit} {calls : List Action} {entry : Entry}
  (hmade : Made (source.report wType id args o) ending calls) (hopen : source.hEventLog = true)
  (hwrites : o.reportEvent = .ok ()) (hreadable : ∀ arg ∈ args, arg.Readable)
  (hentry : Entry.ofEvent ⟨wType, GENERAL_CATEGORY, id, args.map fun arg => (arg.format o).2⟩
    = some entry)

include hmade hopen hwrites hreadable hentry

end Report

namespace CEventProcessor

/-- A process with these ids was created. -/
def Created (o : ProcessOutcomes) (calls : List Action) (process : ProcessInformation) : Prop :=
  o.createProcess = .ok process ∧ ∃ commandLine, .createProcess commandLine true ∈ calls

/-- What the entries of a run of the process say about the process. -/
inductive ProcessStory (o : ProcessOutcomes) (path : WStr) (hr : HRESULT) (calls : List Action) :
    DWORD → List Entry → Prop where
  | nothing (hfailed : FAILED hr) (hnone : processesCreated calls = 0) : ProcessStory o path hr calls 0 []
  | notStarted (hfailed : FAILED hr) (hnone : processesCreated calls = 0) :
      ProcessStory o path hr calls 0 [.startFailed hr]
  | unwatched (process : ProcessInformation) (hfailed : FAILED hr) (hcreated : Created o calls process)
      (hunread : ∀ dwExitCode, .getExitCodeProcess dwExitCode ∉ calls) :
      ProcessStory o path hr calls 0 [.started process]
  | timedOut (process : ProcessInformation) (hfailed : FAILED hr) (hcreated : Created o calls process)
      (hunread : ∀ dwExitCode, .getExitCodeProcess dwExitCode ∉ calls) :
      ProcessStory o path hr calls 0 [.started process, .timedOut process path]
  | exited (process : ProcessInformation) (dwExitCode : DWORD) (hok : hr = S_OK) (hcode : dwExitCode ≠ 0)
      (hcreated : Created o calls process) (hread : .getExitCodeProcess dwExitCode ∈ calls) :
      ProcessStory o path hr calls dwExitCode [.started process, .failed process dwExitCode path]
  | succeeded (process : ProcessInformation) (hok : hr = S_OK) (hcreated : Created o calls process)
      (hexits : Exits calls) :
      ProcessStory o path hr calls 0 [.started process, .succeeded process]

section ProcessRun

variable {processor : CEventProcessor} {exe : WStr} {args : List WStr} {path : WStr}
  {o : ProcessOutcomes} {events : EventId → EventOutcomes}

variable (hexe : processor.objConfig.getExePath = .str exe)
  (hopen : processor.objEventSource.hEventLog = true)
  (hwrites : ∀ id, (events id).reportEvent = .ok ())
  (hready : ∀ id, ProcessReports processor (args.map .str) o id → (events id).allocStrings = true)

include hexe hopen hwrites hready

end ProcessRun

/-! ### The run of the event processor -/

/-- The action starts no process and reads no exit code. -/
structure OffProcess (action : Action) : Prop where
  notCreate : ∀ commandLine created, action ≠ .createProcess commandLine created
  notExitCode : ∀ dwExitCode, action ≠ .getExitCodeProcess dwExitCode

theorem processesCreated_of_offProcess {actions : List Action}
    (h : ∀ action ∈ actions, OffProcess action) : processesCreated actions = 0 := by
  rw [processesCreated, List.countP_eq_zero]
  intro action hmem
  cases action with
  | createProcess commandLine created => exact absurd rfl ((h _ hmem).notCreate commandLine created)
  | _ => exact Bool.false_ne_true

theorem ProcessStory.surround {o : ProcessOutcomes} {path : WStr} {hr : HRESULT} {calls : List Action}
    {dwExitCode : DWORD} {entries : List Entry} (h : ProcessStory o path hr calls dwExitCode entries)
    {before after : List Action} (hbefore : ∀ action ∈ before, OffProcess action)
    (hafter : ∀ action ∈ after, OffProcess action) :
    ProcessStory o path hr (before ++ (calls ++ after)) dwExitCode entries := by
  have hsub : ∀ action ∈ calls, action ∈ before ++ (calls ++ after) := by
    intro action hmem
    exact List.mem_append_right _ (List.mem_append_left _ hmem)
  have hcreated : ∀ {process}, Created o calls process →
      Created o (before ++ (calls ++ after)) process :=
    fun ⟨hprocess, commandLine, hmem⟩ => ⟨hprocess, commandLine, hsub _ hmem⟩
  have hunread : (∀ code, .getExitCodeProcess code ∉ calls) →
      ∀ code, .getExitCodeProcess code ∉ before ++ (calls ++ after) := by
    intro hcalls code hmem
    rcases List.mem_append.mp hmem with hmem | hmem
    · exact (hbefore _ hmem).notExitCode code rfl
    rcases List.mem_append.mp hmem with hmem | hmem
    · exact hcalls code hmem
    · exact (hafter _ hmem).notExitCode code rfl
  have hcount : processesCreated (before ++ (calls ++ after)) = processesCreated calls := by
    rw [processesCreated_append, processesCreated_append, processesCreated_of_offProcess hbefore,
      processesCreated_of_offProcess hafter, Nat.zero_add, Nat.add_zero]
  cases h with
  | nothing hfailed hnone => exact .nothing hfailed (hcount.trans hnone)
  | notStarted hfailed hnone => exact .notStarted hfailed (hcount.trans hnone)
  | unwatched process hfailed hprocess hcalls =>
      exact .unwatched process hfailed (hcreated hprocess) (hunread hcalls)
  | timedOut process hfailed hprocess hcalls =>
      exact .timedOut process hfailed (hcreated hprocess) (hunread hcalls)
  | exited process dwExitCode hok hcode hprocess hread =>
      exact .exited process dwExitCode hok hcode (hcreated hprocess) (hsub _ hread)
  | succeeded process hok hprocess hexits =>
      exact .succeeded process hok (hcreated hprocess) (hexits.mono hsub)

/-- The temp file of this path was made, and nothing was deleted. -/
def LeftBehind (actions : List Action) (path : WStr) : Prop :=
  .getTempFileName path ∈ actions ∧ ∀ p deleted, .deleteFile p deleted ∉ actions

section NotifyRun

variable {processor : CEventProcessor} {ski serial : WStr} {static : List WStr}
  {bufRawCert : List BYTE} {o : ProcessorOutcomes} {files : FileSystem} {path : WStr} {handle : HANDLE}
  {writes : List Action}

end NotifyRun

end CEventProcessor

/-! ### Notifications -/

open CEventProcessor

/-- What a fate says of a notification whose handling answered `hr`. -/
def Fate.Holds (call : NotifyCall) (hr : HRESULT) (actions : List Action) : Fate → Prop
  | .failed exitEvent context hr' => FAILED hr ∧ hr' = hr ∧ exitEvent = call.exitEvent
      ∧ context = call.context ∧ processesCreated actions = 0
  | .notStarted context hr' => FAILED hr ∧ hr' = hr ∧ context = call.context
      ∧ processesCreated actions = 0
  | .timedOut context hr' process path => FAILED hr ∧ hr' = hr ∧ context = call.context
      ∧ Created call.outcomes.processor.process actions process
      ∧ (∀ dwExitCode, .getExitCodeProcess dwExitCode ∉ actions) ∧ LeftBehind actions path
  | .unwatched context hr' process => FAILED hr ∧ hr' = hr ∧ context = call.context
      ∧ Created call.outcomes.processor.process actions process
      ∧ ∀ dwExitCode, .getExitCodeProcess dwExitCode ∉ actions
  | .exited process dwExitCode path => hr = S_OK ∧ dwExitCode ≠ 0
      ∧ Created call.outcomes.processor.process actions process
      ∧ .getExitCodeProcess dwExitCode ∈ actions ∧ LeftBehind actions path
  | .succeeded process => hr = S_OK ∧ Created call.outcomes.processor.process actions process
      ∧ Exits actions

namespace CPMICertExit

/-- A notification that nothing is read of was of no issued certificate and wrote nothing; what is read
of one is so. -/
def Tells (exit : CPMICertExit) (step : NotifyCall × (Ending Fault HRESULT × List Action)) :
    Option Fate → Prop
  | none => step.1.exitEvent ≠ EXITEVENT_CERTISSUED ∧ step.2.2.filterMap Action.logged = []
  | some fate => ∃ files hr, step.2 = exit.notifyCall step.1 files
      ∧ (exit.dispatch step.1.exitEvent step.1.context step.1.outcomes files).1 = .returned hr
      ∧ fate.Holds step.1 hr step.2.2

section Step

variable {exit : CPMICertExit} {call : NotifyCall} {files : FileSystem} {hr : HRESULT}
  {actions : List Action}

end Step

end CPMICertExit

end PmiExitModule
