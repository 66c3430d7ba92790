import PmiExitModule.EventSource
import PmiExitModule.Generic.Parsing
import PmiExitModule.Process

/-!
# What the event log tells

The log is all an administrator has. Read on its own it is a list of events with insertion strings, from
which ids, exit codes and error codes are read back as numbers; each notification wrote a run of events
that says itself where it ends, and what became of its certificate is read off that run.
-/

namespace PmiExitModule

open Generic

/-- What an event says, apart from command lines and message texts. -/
inductive Entry where
  | started (process : ProcessInformation)
  | startFailed (hr : HRESULT)
  | timedOut (process : ProcessInformation) (path : WStr)
  | failed (process : ProcessInformation) (dwExitCode : DWORD) (path : WStr)
  | succeeded (process : ProcessInformation)
  | notifyFailed (exitEvent context : LONG) (hr : HRESULT)
  deriving DecidableEq

/-- The value of a digit as `%u` and `%x` print it. -/
def digitValue (c : WCHAR) : Option Nat :=
  if 0x30 ≤ c.toNat ∧ c.toNat < 0x3a then some (c.toNat - 0x30)
  else if 0x61 ≤ c.toNat ∧ c.toNat < 0x67 then some (c.toNat - 0x61 + 10)
  else none

/-- An insertion string read as a number of 32 bits. -/
def readNumber (base : Nat) : LPCWSTR → Option DWORD
  | .str s => (readNumeral digitValue base s.units).map (BitVec.ofNat 32)
  | _ => none

def readIds (dwProcessId dwThreadId : LPCWSTR) : Option ProcessInformation := do
  return ⟨← readNumber 10 dwProcessId, ← readNumber 10 dwThreadId⟩

def Entry.ofEvent (event : Event) : Option Entry :=
  match event.dwEventID, event.strings with
  | .MSG_PROCESS_START_SUCCEEDED, [_, _, dwProcessId, dwThreadId] =>
      (readIds dwProcessId dwThreadId).map .started
  | .MSG_PROCESS_START_FAILED, [_, _, hr, _] => (readNumber 16 hr).map .startFailed
  | .MSG_PROCESS_TIMEDOUT, [_, dwProcessId, dwThreadId, .str path] =>
      (readIds dwProcessId dwThreadId).map fun process => .timedOut process path
  | .MSG_PROCESS_FAILED, [dwProcessId, dwThreadId, dwExitCode, .str path] => do
      return .failed (← readIds dwProcessId dwThreadId) (← readNumber 10 dwExitCode) path
  | .MSG_PROCESS_SUCCEEDED, [dwProcessId, dwThreadId, _] =>
      (readIds dwProcessId dwThreadId).map .succeeded
  | .MSG_NOTIFY_FAILED, [exitEvent, context, hr, _] => do
      return .notifyFailed (← readNumber 16 exitEvent) (← readNumber 16 context) (← readNumber 16 hr)
  | _, _ => none

/-- What became of a notification. -/
inductive Fate where
  /-- It failed and no process was created. -/
  | failed (exitEvent context : LONG) (hr : HRESULT)
  | notStarted (context : LONG) (hr : HRESULT)
  /-- The process may still be running on the temp file. -/
  | timedOut (context : LONG) (hr : HRESULT) (process : ProcessInformation) (path : WStr)
  /-- The process was not seen to exit, or its exit code could not be read. -/
  | unwatched (context : LONG) (hr : HRESULT) (process : ProcessInformation)
  | exited (process : ProcessInformation) (dwExitCode : DWORD) (path : WStr)
  | succeeded (process : ProcessInformation)
  deriving DecidableEq

/-- The fate that the next entries tell, and the entries behind them. -/
def Fate.read : List Entry → Option (Fate × List Entry)
  | .notifyFailed exitEvent context hr :: rest => some (.failed exitEvent context hr, rest)
  | .startFailed hr :: .notifyFailed _ context hr' :: rest =>
      if hr = hr' then some (.notStarted context hr, rest) else none
  | .started process :: .timedOut process' path :: .notifyFailed _ context hr :: rest =>
      if process = process' then some (.timedOut context hr process path, rest) else none
  | .started process :: .notifyFailed _ context hr :: rest => some (.unwatched context hr process, rest)
  | .started process :: .failed process' dwExitCode path :: rest =>
      if process = process' then some (.exited process dwExitCode path, rest) else none
  | .started process :: .succeeded process' :: rest =>
      if process = process' then some (.succeeded process, rest) else none
  | _ => none

end PmiExitModule
