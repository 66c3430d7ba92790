import PmiExitModule.Generic.Monitor
import PmiExitModule.Proof.Notify

/-!
# The protocol of a notification

What an observer of the calls of the module may rely on, as a machine that reads them: a file is named,
opened, written under its own handle and closed before a process is created; the process is announced,
waited for and asked for its exit code, in this order; its events name the ids it was announced with,
the exit code that was read and the file that was named; and the file is deleted when no process was
tried since it was closed, or after an exit with 0. A file may be closed with nothing written to it, the
command line is only compared with the one that is announced, and where the announcement was lost any
ids may follow. `Notify` never leaves this machine, over any sequence of notifications.
-/

namespace PmiExitModule

open Generic

/-- A process that was created once the file of this path was closed, with the process id and the thread
id in the event that announced it. -/
structure Watched where
  path : WStr
  ids : Option (LPCWSTR × LPCWSTR)
  deriving DecidableEq

inductive Phase where
  | idle
  | named (path : WStr)
  | writing (openFile : OpenFile)
  | written (path : WStr)
  | refused (commandLine : LPCWSTR)
  | notStarted
  | started (path : WStr) (commandLine : LPCWSTR)
  | announced (process : Watched)
  | waited (process : Watched) (dwRes : DWORD)
  | exited (process : Watched) (dwExitCode : DWORD)
  deriving DecidableEq

/-- A notification may end here. -/
def Phase.resting : Phase → Bool
  | writing _ => false
  | started _ _ => false
  | announced _ => false
  | _ => true

/-- These two are the ids the process was announced with, if it was announced. -/
def Watched.namedBy (process : Watched) (processId threadId : Option LPCWSTR) : Bool :=
  match process.ids with
  | none => true
  | some ids => processId = some ids.1 ∧ threadId = some ids.2

/-- Where an event leads, if it may be reported in this phase. -/
def Phase.report (phase : Phase) (event : Event) : Option Phase :=
  match event.dwEventID, phase with
  | .MSG_PROCESS_START_FAILED, .written _ => some .notStarted
  | .MSG_PROCESS_START_FAILED, .refused commandLine =>
      if event.strings[1]? = some commandLine then some .notStarted else none
  | .MSG_PROCESS_START_SUCCEEDED, .started path commandLine =>
      match event.strings with
      | [_, pwszCmdLine, dwProcessId, dwThreadId] =>
          if pwszCmdLine = commandLine then some (.announced ⟨path, some (dwProcessId, dwThreadId)⟩)
          else none
      | _ => none
  | .MSG_PROCESS_TIMEDOUT, .waited process dwRes =>
      if dwRes ≠ CProcess.WAIT_OBJECT_0 ∧ process.namedBy event.strings[1]? event.strings[2]?
          ∧ event.strings[3]? = some (.str process.path) then some phase
      else none
  | .MSG_PROCESS_SUCCEEDED, .exited process dwExitCode =>
      if dwExitCode = 0 ∧ process.namedBy event.strings[0]? event.strings[1]? then some phase else none
  | .MSG_PROCESS_FAILED, .exited process dwExitCode =>
      if dwExitCode ≠ 0 ∧ process.namedBy event.strings[0]? event.strings[1]?
          ∧ event.strings[2]? = some (.str (decimal dwExitCode))
          ∧ event.strings[3]? = some (.str process.path) then some phase
      else none
  | .MSG_NOTIFY_FAILED, phase => if phase.resting then some .idle else none
  | _, _ => none

def Phase.next (phase : Phase) (action : Action) : Option Phase :=
  match phase, action with
  | phase, .getTempFileName path => if phase.resting then some (.named path) else none
  | .named own, .createFile path handle => if path = own then some (.writing ⟨handle, path⟩) else none
  | .writing openFile, .writeFile handle path _ =>
      if openFile = ⟨handle, path⟩ then some (.writing openFile) else none
  | .writing openFile, .closeHandle handle =>
      if openFile.handle = handle then some (.written openFile.path) else none
  | .written path, .createProcess commandLine true => some (.started path commandLine)
  | .written _, .createProcess commandLine false => some (.refused commandLine)
  | .started path _, .waitForSingleObject dwRes => some (.waited ⟨path, none⟩ dwRes)
  | .announced process, .waitForSingleObject dwRes => some (.waited process dwRes)
  | .waited process dwRes, .getExitCodeProcess dwExitCode =>
      if dwRes = CProcess.WAIT_OBJECT_0 then some (.exited process dwExitCode) else none
  | .written own, .deleteFile path _ => if path = own then some .idle else none
  | .exited process dwExitCode, .deleteFile path _ =>
      if path = process.path ∧ dwExitCode = 0 then some .idle else none
  | phase, .reportEvent event _ => phase.report event
  | _, _ => none

section Report

variable {source : CEventSource} {wType : EventType} {id : EventId} {args : List CEventArg}
  {o : EventOutcomes} {phase phase' : Phase}

end Report

namespace CEventProcessor

/-! ### The temp file -/

section TempFile

variable (o : ProcessorOutcomes) {path : WStr}

end TempFile

/-! ### The process -/

section Process

variable (processor : CEventProcessor) (bufArgs : List LPCWSTR) (path : WStr)
  (o : ProcessOutcomes) (events : EventId → EventOutcomes)

end Process

/-! ### The notification of an issued certificate -/

section Notification

variable (processor : CEventProcessor) (pwszSubjectKeyIdentifier pwszSerialNumber : LPCWSTR)
  (bufRawCert : List BYTE) (o : ProcessorOutcomes)

end Notification

end CEventProcessor

namespace CPMICertExit

variable (exit : CPMICertExit)

end CPMICertExit

end PmiExitModule
