import Mathlib.Data.Nat.Digits.Defs
import PmiExitModule.Win32.System

/-!
# Event arguments and the event source

`CEventArg` and its derived classes turn values into insertion strings, `CEventSource::ReportEvent`
formats them in order and gives up on the first that fails, and `CPMIExitModuleEventSource` has one
method for each message of `PMIExitModuleMessages.mc`.
-/

namespace PmiExitModule

open Generic

/-! ### The message definitions -/

/-- A piece of a message text: literal text, or the insertion string of this number. -/
inductive MessagePart where
  | text (s : String)
  | insert (n : Nat)
  deriving DecidableEq

namespace EventId

def message : EventId → List MessagePart
  | MSG_PROCESS_SUCCEEDED =>
      [.text "The process [", .insert 1, .text "] with main thread id [", .insert 2,
        .text "] succeeded with exit code [", .insert 3, .text "]."]
  | MSG_PROCESS_FAILED =>
      [.text "The process [", .insert 1, .text "] with main thread id [", .insert 2,
        .text "] failed with exit code [", .insert 3, .text "]. The temp file [", .insert 4,
        .text "] will be preserved for debugging."]
  | MSG_PROCESS_TIMEDOUT =>
      [.text "Timed out waiting ", .insert 1, .text " seconds for process [", .insert 2,
        .text "] with main thread id [", .insert 3,
        .text "]. The process was not killed and could still be running. The temp file [", .insert 4,
        .text "] will be preserved for debugging."]
  | MSG_PROCESS_START_SUCCEEDED =>
      [.text "Started process [", .insert 1, .text "] with the following command line [", .insert 2,
        .text "]. Process ID=[", .insert 3, .text "]. Thread ID=[", .insert 4, .text "]."]
  | MSG_PROCESS_START_FAILED =>
      [.text "Failed to start process [", .insert 1, .text "] with the following command line [",
        .insert 2, .text "]. ", .text "HRESULT=", .insert 3, .text ". ", .insert 4]
  | MSG_NOTIFY_FAILED =>
      [.text "Internal error. Use internal tracing to capture more info and open a bug. ",
        .text "ICertExit::Notify(). ExitEvent=", .insert 1, .text ", Context=", .insert 2,
        .text ". ", .text "HRESULT=", .insert 3, .text ". ", .insert 4]

end EventId

/-- The number of the insertion string a message text shows behind `HRESULT=`. -/
def hresultInsert : List MessagePart → Option Nat
  | .text "HRESULT=" :: .insert n :: _ => some n
  | _ :: rest => hresultInsert rest
  | [] => none

/-! ### `CEventArg` -/

/-- `CStringEventArg`, `CNumericEventArg<DWORD>`, `CNumericEventArg<HRESULT>` (`LONG` is the same
type) and `CErrorMessageEventArg`. -/
inductive CEventArg where
  | string (pwszValue : LPCWSTR)
  | dword (varValue : DWORD)
  | hresult (varValue : HRESULT)
  | errorMessage (hr : HRESULT)

/-- What `FormatMessageW` answers: a text, not empty, or no characters and a last error. -/
inductive FormatMessageOutcome where
  | found (text : WStr)
  | failed (lastError : DWORD)
  deriving DecidableEq

structure EventOutcomes where
  /-- `bufFormattedStrings.Alloc` succeeds. -/
  allocStrings : Bool
  /-- `m_bufMessage.Alloc` succeeds. -/
  allocMessage : Bool
  formatMessage : FormatMessageOutcome
  reportEvent : Except Win32Error Unit

/-- The digits of a number, most significant first, as `%u` and `%x` print them. -/
def printDigits (base value : Nat) : List WCHAR :=
  let digit := fun d : Nat => BitVec.ofNat 16 (if d < 10 then 0x30 + d else 0x61 + (d - 10))
  if value = 0 then [digit 0] else (Nat.digits base value).reverse.map digit

namespace CEventArg

def cchNumericBuffer : Nat := 32

/-- `CNumericEventArg<T>::Format`: `StringCchPrintfW` into 32 characters. -/
def formatNumeric (base value : Nat) : HRESULT × LPCWSTR :=
  let text := printDigits base value
  if text.length < cchNumericBuffer then (S_OK, .str (untilNul text))
  else (STRSAFE_E_INSUFFICIENT_BUFFER, .null)

def format (arg : CEventArg) (o : EventOutcomes) : HRESULT × LPCWSTR :=
  match arg with
  | string pwszValue => (S_OK, pwszValue)
  | dword varValue => formatNumeric 10 varValue.toNat
  | hresult varValue => formatNumeric 16 varValue.toNat
  | errorMessage _ =>
      if o.allocMessage then
        match o.formatMessage with
        | .found text => (S_OK, .str text)
        | .failed lastError => (HRESULT_FROM_WIN32 lastError, .null)
      else (E_OUTOFMEMORY, .null)

/-- The formatting loop of `ReportEvent`, left at the first argument that fails. -/
def formatAll (o : EventOutcomes) : List CEventArg → HRESULT × List LPCWSTR
  | [] => (S_OK, [])
  | arg :: rest =>
      let (hr, s) := arg.format o
      if FAILED hr then (hr, [])
      else
        let (hrRest, strings) := formatAll o rest
        (hrRest, s :: strings)

end CEventArg

/-! ### `CEventSource` -/

/-- The member of `CEventSource` its methods read: whether the event log handle is open. -/
structure CEventSource where
  hEventLog : Bool

def GENERAL_CATEGORY : WORD := 1

namespace CEventSource

/-- `CEventSource::ReportEvent` of formatted strings. `ReportEventW` reads every string up to its
terminator. -/
def reportStrings (source : CEventSource) (event : Event) (o : EventOutcomes) : Prog HRESULT := do
  if !source.hEventLog then return HRESULT_FROM_WIN32 ERROR_INVALID_OPERATION
  if event.strings.any LPCWSTR.isUnterminated then Program.lift (.error .outOfBounds)
  else
    match o.reportEvent with
    | .error e =>
        Program.emit (.reportEvent event false)
        return HRESULT_FROM_WIN32 e.code
    | .ok () =>
        Program.emit (.reportEvent event true)
        return S_OK

def reportEvent (source : CEventSource) (wType : EventType) (dwEventID : EventId)
    (bufStrings : List CEventArg) (o : EventOutcomes) : Prog HRESULT := do
  if 0 < bufStrings.length ∧ !o.allocStrings then return E_OUTOFMEMORY
  let (hr, strings) := CEventArg.formatAll o bufStrings
  if FAILED hr then return hr
  source.reportStrings ⟨wType, GENERAL_CATEGORY, dwEventID, strings⟩ o

/-! ### `CPMIExitModuleEventSource` -/

/-- A report method: the result of `ReportEvent` is traced and dropped. -/
def report (source : CEventSource) (wType : EventType) (dwEventID : EventId)
    (bufStrings : List CEventArg) (o : EventOutcomes) : Prog Unit := do
  let _ ← source.reportEvent wType dwEventID bufStrings o

variable (source : CEventSource)

def reportProcessSucceeded (dwProcessID dwThreadID dwExitCode : DWORD) : EventOutcomes → Prog Unit :=
  source.report .EVENTLOG_INFORMATION_TYPE .MSG_PROCESS_SUCCEEDED
    [.dword dwProcessID, .dword dwThreadID, .dword dwExitCode]

def reportProcessFailed (dwProcessID dwThreadID dwExitCode : DWORD) (pwszTempFilePath : LPCWSTR) :
    EventOutcomes → Prog Unit :=
  source.report .EVENTLOG_ERROR_TYPE .MSG_PROCESS_FAILED
    [.dword dwProcessID, .dword dwThreadID, .dword dwExitCode, .string pwszTempFilePath]

def reportProcessTimedOut (dwSeconds dwProcessID dwThreadID : DWORD) (pwszTempFilePath : LPCWSTR) :
    EventOutcomes → Prog Unit :=
  source.report .EVENTLOG_WARNING_TYPE .MSG_PROCESS_TIMEDOUT
    [.dword dwSeconds, .dword dwProcessID, .dword dwThreadID, .string pwszTempFilePath]

def reportProcessStartSucceeded (pwszExePath pwszCmdLine : LPCWSTR) (dwProcessID dwThreadID : DWORD) :
    EventOutcomes → Prog Unit :=
  source.report .EVENTLOG_INFORMATION_TYPE .MSG_PROCESS_START_SUCCEEDED
    [.string pwszExePath, .string pwszCmdLine, .dword dwProcessID, .dword dwThreadID]

def reportProcessStartFailed (pwszExePath pwszCmdLine : LPCWSTR) (hrError : HRESULT) :
    EventOutcomes → Prog Unit :=
  source.report .EVENTLOG_ERROR_TYPE .MSG_PROCESS_START_FAILED
    [.string pwszExePath, .string pwszCmdLine, .hresult hrError, .errorMessage hrError]

def reportNotifyFailedInternalError (lExitEvent lContext : LONG) (hrError : HRESULT) :
    EventOutcomes → Prog Unit :=
  source.report .EVENTLOG_ERROR_TYPE .MSG_NOTIFY_FAILED
    [.hresult lExitEvent, .hresult lContext, .hresult hrError, .errorMessage hrError]

end CEventSource

end PmiExitModule
