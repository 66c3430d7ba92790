import PmiExitModule.Proof.MultiString
import PmiExitModule.Proof.CommandLine
import PmiExitModule.Proof.Escaping
import PmiExitModule.Proof.PowerShell
import PmiExitModule.Proof.WriteLoop
import PmiExitModule.Proof.EventReport
import PmiExitModule.Proof.PreservedFiles
import PmiExitModule.Proof.PropertyValues
import PmiExitModule.Proof.Accounting
import PmiExitModule.Proof.MessageRegistration
import PmiExitModule.Proof.CursorTrace
import PmiExitModule.Proof.TempFileLifecycle
import PmiExitModule.Proof.Leftovers
import PmiExitModule.Proof.ConfigLoad
import PmiExitModule.Proof.Concurrency
import PmiExitModule.Proof.Delivery
import PmiExitModule.Proof.Protocol
import PmiExitModule.Proof.ObjectLife
import PmiExitModule.Proof.Uninitialised
import PmiExitModule.Proof.SetupRuns
import PmiExitModule.Proof.HeapBuffers
import PmiExitModule.Proof.EventLog
import PmiExitModule.Proof.ProcessLife
