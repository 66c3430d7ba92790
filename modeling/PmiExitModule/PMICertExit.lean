import PmiExitModule.CertServerExit
import PmiExitModule.EventProcessor

/-!
# `CPMICertExit`

The exit module the CA notifies. A notification of an issued certificate reads its properties from
the CA and hands them to an event processor; a failure of any notification is logged and swallowed,
so that `Notify` answers `S_OK` to the CA.
-/

namespace PmiExitModule

open Generic

def EXITEVENT_CERTISSUED : LONG := 1
def EXITEVENT_CERTPENDING : LONG := 2
def EXITEVENT_CERTDENIED : LONG := 4
def EXITEVENT_CERTREVOKED : LONG := 8
def EXITEVENT_CERTRETRIEVEPENDING : LONG := 0x10
def EXITEVENT_CRLISSUED : LONG := 0x20
def EXITEVENT_SHUTDOWN : LONG := 0x40
def EXITEVENT_CERTIMPORTED : LONG := 0x200

structure NotifyOutcomes where
  server : ServerOutcomes
  registry : RegistryOutcomes
  processor : ProcessorOutcomes

structure CPMICertExit where
  objEventSource : CEventSource

/-- What `CPMICertExit::NotifyCertIssued` hands to the event processor, and the processor. -/
structure IssuedCertificate where
  pwszSubjectKeyIdentifier : LPCWSTR
  pwszSerialNumber : LPCWSTR
  bufRawCert : List BYTE
  objEventProcessor : CEventProcessor

/-- The idiom of the `do … while (false)` blocks: a step that fails leaves the block with its code. -/
def orBreak {α β : Type} (step : Except Fault (HRESULT × α))
    (next : α → Except Fault (Except HRESULT β)) : Except Fault (Except HRESULT β) := do
  let (hr, value) ← step
  if FAILED hr then return .error hr
  next value

namespace CPMICertExit

variable (exit : CPMICertExit)

/-- The steps of `CPMICertExit::NotifyCertIssued(objServer)` before the event processor is notified. -/
def readIssuedCertificate (objServer : CCertServerExit) (o : NotifyOutcomes) :
    Except Fault (Except HRESULT IssuedCertificate) :=
  orBreak (objServer.getCertificateSubjectKeyIdentifierProperty o.server)
    fun strSubjectKeyIdentifier =>
  orBreak (objServer.getCertificateSerialNumberProperty o.server) fun strSerialNumber =>
  orBreak (objServer.getRawCertificateProperty o.server) fun buf =>
  orBreak (CEventProcessor.init { objEventSource := exit.objEventSource } o.registry)
    fun objEventProcessor =>
  .ok (.ok ⟨CHeapBuffer.get strSubjectKeyIdentifier, CHeapBuffer.get strSerialNumber, buf.getD [],
    objEventProcessor⟩)

def notifyCertIssuedWith (objServer : CCertServerExit) (o : NotifyOutcomes) : Prog HRESULT := do
  match ← Program.lift (exit.readIssuedCertificate objServer o) with
  | .error hr => return hr
  | .ok cert =>
      cert.objEventProcessor.notifyCertIssued cert.pwszSubjectKeyIdentifier cert.pwszSerialNumber
        cert.bufRawCert o.processor

def notifyCertIssued (lContext : LONG) (o : NotifyOutcomes) : Prog HRESULT := do
  let (hr, obj) := CCertServerExit.init lContext o.server
  if FAILED hr then return hr
  exit.notifyCertIssuedWith obj o

/-- `CPMICertExit::NotifyCRLIssued(lContext)`: the server object is initialised and nothing else. -/
def notifyCRLIssued (lContext : LONG) (o : NotifyOutcomes) : Prog HRESULT := do
  let (hr, _) := CCertServerExit.init lContext o.server
  if FAILED hr then return hr
  return S_OK

def notifyIgnored (_lContext : LONG) : Prog HRESULT := return S_OK

def notifyCertPending (lContext : LONG) : Prog HRESULT := notifyIgnored lContext
def notifyCertDenied (lContext : LONG) : Prog HRESULT := notifyIgnored lContext
def notifyCertRevoked (lContext : LONG) : Prog HRESULT := notifyIgnored lContext
def notifyCertRetrievePending (lContext : LONG) : Prog HRESULT := notifyIgnored lContext
def notifyShutdown (lContext : LONG) : Prog HRESULT := notifyIgnored lContext
def notifyCertImported (lContext : LONG) : Prog HRESULT := notifyIgnored lContext

/-- The `switch` of `Notify`. An event it does not know is ignored. -/
def dispatch (exitEvent context : LONG) (o : NotifyOutcomes) : Prog HRESULT :=
  if exitEvent = EXITEVENT_CERTISSUED then exit.notifyCertIssued context o
  else if exitEvent = EXITEVENT_CERTPENDING then notifyCertPending context
  else if exitEvent = EXITEVENT_CERTDENIED then notifyCertDenied context
  else if exitEvent = EXITEVENT_CERTREVOKED then notifyCertRevoked context
  else if exitEvent = EXITEVENT_CERTRETRIEVEPENDING then notifyCertRetrievePending context
  else if exitEvent = EXITEVENT_CRLISSUED then notifyCRLIssued context o
  else if exitEvent = EXITEVENT_SHUTDOWN then notifyShutdown context
  else if exitEvent = EXITEVENT_CERTIMPORTED then notifyCertImported context
  else return S_OK

def notify (exitEvent context : LONG) (o : NotifyOutcomes) : Prog HRESULT := do
  let hr ← exit.dispatch exitEvent context o
  if FAILED hr then do
    exit.objEventSource.reportNotifyFailedInternalError exitEvent context hr
      (o.processor.events .MSG_NOTIFY_FAILED)
    return S_OK
  return hr

end CPMICertExit

end PmiExitModule
