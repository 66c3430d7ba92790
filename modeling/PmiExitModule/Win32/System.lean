import PmiExitModule.Generic.Program
import PmiExitModule.Win32.Types

/-!
# The system the module acts on

Every call that leaves a trace outside the process is an action: what happens to the temp files, to
the event processor's process and to the event log. The state that actions are replayed on is the set
of existing files with their contents; the log and the processes are read off the actions themselves.
-/

namespace PmiExitModule

open Generic

/-- The messages of `PMIExitModuleMessages.mc`. -/
inductive EventId where
  | MSG_PROCESS_SUCCEEDED
  | MSG_PROCESS_FAILED
  | MSG_PROCESS_TIMEDOUT
  | MSG_PROCESS_START_SUCCEEDED
  | MSG_PROCESS_START_FAILED
  | MSG_NOTIFY_FAILED
  deriving DecidableEq, Repr

inductive EventType where
  | EVENTLOG_ERROR_TYPE
  | EVENTLOG_WARNING_TYPE
  | EVENTLOG_INFORMATION_TYPE
  deriving DecidableEq, Repr

/-- One call of `ReportEventW`: the module passes no event data and no user. -/
structure Event where
  wType : EventType
  wCategory : WORD
  dwEventID : EventId
  strings : List LPCWSTR
  deriving DecidableEq

/-- A call with an effect outside the module. -/
inductive Action where
  /-- `GetTempFileNameW` created an empty file of this name. -/
  | getTempFileName (path : WStr)
  /-- `CreateFileW` with `CREATE_ALWAYS` opened the file, empty, under this handle. -/
  | createFile (path : WStr) (hFile : HANDLE)
  /-- `WriteFile` was called on the handle and stored these bytes at the file position. -/
  | writeFile (hFile : HANDLE) (path : WStr) (bytes : List BYTE)
  | closeHandle (hFile : HANDLE)
  | deleteFile (path : WStr) (deleted : Bool)
  | createProcess (commandLine : LPCWSTR) (created : Bool)
  | waitForSingleObject (dwRes : DWORD)
  | getExitCodeProcess (dwExitCode : DWORD)
  | reportEvent (event : Event) (accepted : Bool)
  deriving DecidableEq

/-- The files that exist, by path, with their contents. -/
abbrev FileSystem := WStr → Option (List BYTE)

/-- The effect of an action on the files. A handle of the module is at the end of its file: the file
was empty when it was opened and nothing else writes to it while it is open. -/
def applyAction (files : FileSystem) : Action → FileSystem
  | .getTempFileName path => Function.update files path (some [])
  | .createFile path _ => Function.update files path (some [])
  | .writeFile _ path bytes => Function.update files path ((files path).map (· ++ bytes))
  | .deleteFile path true => Function.update files path none
  | _ => files

instance : Replay Action FileSystem := ⟨applyAction⟩

abbrev Prog (α : Type) := Program Fault Action FileSystem α

namespace Action

def logged : Action → Option Event
  | reportEvent event true => some event
  | _ => none

def isCreation : Action → Bool
  | createProcess _ created => created
  | _ => false

/-- The file whose existence or content the action may change. -/
def touches : Action → Option WStr
  | getTempFileName path => some path
  | createFile path _ => some path
  | writeFile _ path _ => some path
  | deleteFile path _ => some path
  | _ => none

end Action

def loggedIds (actions : List Action) : List EventId :=
  (actions.filterMap Action.logged).map Event.dwEventID

def processesCreated (actions : List Action) : Nat := actions.countP Action.isCreation

@[simp]
theorem loggedIds_append (first second : List Action) :
    loggedIds (first ++ second) = loggedIds first ++ loggedIds second := by
  simp [loggedIds]

@[simp]
theorem processesCreated_append (first second : List Action) :
    processesCreated (first ++ second) = processesCreated first + processesCreated second :=
  List.countP_append

theorem applyAction_of_not_touches {files : FileSystem} {action : Action} {path : WStr}
    (h : action.touches ≠ some path) : applyAction files action path = files path := by
  have hne : ∀ p, action.touches = some p → path ≠ p := by
    rintro p hp rfl
    exact h hp
  cases action with
  | getTempFileName p => exact Function.update_of_ne (hne p rfl) _ _
  | createFile p _ => exact Function.update_of_ne (hne p rfl) _ _
  | writeFile _ p _ => exact Function.update_of_ne (hne p rfl) _ _
  | deleteFile p deleted =>
      cases deleted with
      | true => exact Function.update_of_ne (hne p rfl) _ _
      | false => rfl
  | _ => rfl

theorem replay_of_not_touches {files : FileSystem} {actions : List Action} {path : WStr}
    (h : ∀ action ∈ actions, action.touches ≠ some path) :
    replay files actions path = files path := by
  refine replay_preserves (fun state : FileSystem => state path = files path) ?_ rfl
  intro action hmem state hstate
  calc applyAction state action path = state path := applyAction_of_not_touches (h action hmem)
    _ = files path := hstate

end PmiExitModule
