import PmiExitModule.Proof.Accounting
import PmiExitModule.Proof.ConfigLoad
import PmiExitModule.Proof.FreshBlocks

/-!
# What fresh memory holds does not matter

Two runs of a notification on blocks that hold different garbage are followed side by side, from the
strings of the certificate to the last event. The one buffer that is filled from outside, the one of
the path of the EXE, has to be given its terminator with its value; then both runs act alike.
-/

namespace PmiExitModule

open Generic

/-! ### The strings of a certificate -/

namespace CCertServerExit

theorem getCertificateStringProperty_agree (server : CCertServerExit) (o : ServerOutcomes)
    (garbage : Garbage) (name : PropertyName) :
    ExceptAlike (Agree CHeapBuffer.get) (server.getCertificateStringProperty o name)
      (server.getCertificateStringProperty (o.refill garbage) name) := by
  have hsame : server.getCertificateProperty (o.refill garbage) name .PropTypeString
      = server.getCertificateProperty o name .PropTypeString := rfl
  simp only [getCertificateStringProperty, hsame]
  rcases server.getCertificateProperty o name .PropTypeString with ⟨hr, _ | var⟩
  · exact ⟨rfl, fun _ => rfl⟩
  · exact CHeapBuffer.copy_agree var.bstrVal (o.allocString name) (garbage.string name)

end CCertServerExit

/-! ### The configuration -/

namespace CEventProcessorConfig

/-- The value of the EXE path decides the string: it has a terminator. -/
def ExePathDecided (o : RegistryOutcomes) : Prop :=
  ∀ value, o.queryExePath = .ok value → NUL ∈ unitsOfBytes value.data

/-- What the rest of the module reads of the configuration. -/
def shown (config : CEventProcessorConfig) : LPCWSTR × Except Fault (List LPCWSTR) × Bool :=
  (config.getExePath, config.getArguments, config.fEscapeForPS)

theorem exePath_decided {value : RegistryValue} (fresh fresh' : List BYTE)
    (hdecided : NUL ∈ unitsOfBytes value.data) :
    LPCWSTR.ofCells (unitsOfBytes (value.data ++ fresh.drop value.data.length))
      = LPCWSTR.ofCells (unitsOfBytes (value.data ++ fresh'.drop value.data.length)) := by
  obtain ⟨units, hunits⟩ := unitsOfBytes_append (fresh.drop value.data.length) value.data
  obtain ⟨units', hunits'⟩ := unitsOfBytes_append (fresh'.drop value.data.length) value.data
  rw [hunits, hunits']
  apply ofCells_eq_of_take (n := (unitsOfBytes value.data).length)
  · rw [List.take_left, List.take_left]
  · rw [List.take_left]
    exact hdecided

section Arguments

variable (value : MultiString) (garbage : Nat → WCHAR)

theorem data_refill : (value.refill garbage).data = value.data := by
  change (value.data ++ _).take value.cch = value.data
  rw [← value.data_length, List.take_left]

/-- The arguments are read of the data, and of nothing behind it. -/
theorem mapM_argumentAt_refill :
    ((value.refill garbage).visits.map (some ·.offset)).mapM (argumentAt (value.refill garbage).buf)
      = (value.visits.map (some ·.offset)).mapM (argumentAt value.buf) := by
  obtain ⟨strings, hstrings, hmap⟩ := value.exists_strings
  obtain ⟨strings', hstrings', hmap'⟩ := (value.refill garbage).exists_strings
  rw [data_refill] at hstrings'
  obtain rfl : strings' = strings :=
    List.map_injective_iff.mpr WStr.units_injective (hstrings'.trans hstrings.symm)
  rw [hmap, hmap']

end Arguments

/-- The EXE path is passed through while the arguments are read. -/
theorem readArguments_alike (config config' : CEventProcessorConfig) (o : RegistryOutcomes)
    (garbage : Garbage) (hpath : config.getExePath = config'.getExePath)
    (hflag : config.fEscapeForPS = config'.fEscapeForPS)
    (harguments : config.getArguments = config'.getArguments) :
    ExceptAlike (Agree shown) (config.readArguments o) (config'.readArguments (o.refill garbage)) := by
  cases hdata : o.allocArgData with
  | false =>
      simp only [readArguments, RegistryOutcomes.refill, hdata]
      exact agree_of_failed failed_E_OUTOFMEMORY _ _
  | true =>
      cases hquery : o.queryArguments with
      | error e =>
          simp only [readArguments, RegistryOutcomes.refill, hdata, hquery]
          exact ⟨rfl, fun _ => by simp only [shown, hpath, hflag, harguments]⟩
      | ok value =>
          have hquery' : (o.refill garbage).queryArguments = .ok (value.refill garbage.argData) := by
            rw [RegistryOutcomes.refill, hquery]
            rfl
          cases halloc : o.allocArguments with
          | false =>
              have hcount := (value.passes_eq value.buf_drop).1
              have hcount' := ((value.refill garbage.argData).passes_eq
                (value.refill garbage.argData).buf_drop).1
              simp only [readArguments, hquery, hquery', hcount, hcount']
              simp only [RegistryOutcomes.refill, hdata, halloc]
              exact agree_of_failed failed_E_OUTOFMEMORY _ _
          | true =>
              rw [readArguments_of_value config hquery hdata halloc,
                readArguments_of_value config' hquery' hdata halloc]
              exact ⟨rfl, fun _ => Prod.ext hpath
                (Prod.ext (mapM_argumentAt_refill value garbage.argData).symm hflag)⟩

theorem init_agree (o : RegistryOutcomes) (garbage : Garbage) (hdecided : ExePathDecided o) :
    ExceptAlike (Agree shown) (init {} o) (init {} (o.refill garbage)) := by
  unfold init RegistryOutcomes.refill
  apply ExceptAlike.ite
  · intro hopen
    exact agree_of_failed (failed_HRESULT_FROM_WIN32_iff.mpr hopen) _ _
  intro _
  cases halloc : o.allocExePath with
  | none => exact agree_of_failed failed_E_OUTOFMEMORY _ _
  | some old =>
      rw [refill_some, heapAlloc_some, heapAlloc_some]
      generalize (List.range (2 * g_cbRegValueBuffer)).map old = fresh
      generalize (List.range (2 * g_cbRegValueBuffer)).map garbage.exePath = fresh'
      cases hquery : o.queryExePath with
      | error e => exact agree_of_failed e.failed _ _
      | ok value =>
          have hpath := exePath_decided fresh fresh' (hdecided value hquery)
          apply ExceptAlike.ite
          · intro _
            exact agree_of_failed failed_E_UNEXPECTED _ _
          intro _
          simp only [readEscapeForPS]
          cases o.queryEscapeForPS with
          | error e => exact readArguments_alike _ _ o garbage hpath rfl rfl
          | ok dwEscapeForPS => exact readArguments_alike _ _ o garbage hpath rfl rfl

end CEventProcessorConfig

/-! ### The event processor -/

namespace CEventProcessor

/-- Two event processors that report to the same log and are configured alike. -/
structure Alike (processor processor' : CEventProcessor) : Prop where
  source : processor.objEventSource = processor'.objEventSource
  exePath : processor.objConfig.getExePath = processor'.objConfig.getExePath
  arguments : processor.objConfig.getArguments = processor'.objConfig.getArguments
  flag : processor.objConfig.fEscapeForPS = processor'.objConfig.fEscapeForPS

theorem init_agree (source : CEventSource) (o : RegistryOutcomes) (garbage : Garbage)
    (hdecided : CEventProcessorConfig.ExePathDecided o) :
    ExceptAlike
      (fun result result' => result.1 = result'.1 ∧ (¬ FAILED result.1 → Alike result.2 result'.2))
      (init { objEventSource := source } o)
      (init { objEventSource := source } (o.refill garbage)) := by
  apply (CEventProcessorConfig.init_agree o garbage hdecided).bind
  rintro ⟨hr, config⟩ ⟨hr', config'⟩ ⟨hhr, hshown⟩
  refine ⟨hhr, ?_⟩
  intro hok
  obtain ⟨hpath, hrest⟩ := Prod.mk.inj (hshown hok)
  obtain ⟨harguments, hflag⟩ := Prod.mk.inj hrest
  exact ⟨rfl, hpath, harguments, hflag⟩

theorem getTempFilePath_alike (o : ProcessorOutcomes) (garbage : Garbage) :
    Program.Alike (Agree CHeapBuffer.get) (getTempFilePath o)
      (getTempFilePath (o.refill garbage)) := by
  unfold getTempFilePath ProcessorOutcomes.refill
  cases o.getTempPath with
  | error e => exact Program.alike_pure (agree_of_failed e.failed _ _)
  | ok folder =>
      cases o.allocTempFile with
      | none => exact Program.alike_pure (agree_of_failed failed_E_OUTOFMEMORY _ _)
      | some old =>
          rw [refill_some, heapAlloc_some, heapAlloc_some]
          apply (Program.alike_refl _).bind
          rintro files _ rfl
          dsimp only
          cases hnext : o.tempFileNames.next folder g_pwszTempFileNamePrefix files with
          | error e => exact Program.alike_pure (agree_of_failed e.failed _ _)
          | ok name =>
              have hshort := o.tempFileNames.short _ _ _ _ hnext
              have hfits : ∀ cells : Nat → WCHAR,
                  name.length < ((List.range (MAX_PATH + 1)).map cells).length := by
                intro cells
                rw [List.length_map, List.length_range]
                omega
              obtain ⟨cells, hstore, htext⟩ := store_string _ name (hfits old)
              obtain ⟨cells', hstore', htext'⟩ := store_string _ name (hfits garbage.tempFile)
              dsimp only
              rw [hstore, hstore']
              apply (Program.alike_refl _).bind
              rintro _ _ rfl
              have hcells : ExceptAlike (fun cells cells' => LPCWSTR.ofCells cells = .ofCells cells')
                  (.ok cells : Except Fault _) (.ok cells') := htext.trans htext'.symm
              apply (Program.alike_lift hcells).bind
              intro block block' hblock
              exact Program.alike_pure ⟨rfl, fun _ => hblock⟩

theorem escapeArgumentForPS_agree (pwsz : LPCWSTR) (heap : HeapOutcome WCHAR)
    (garbage : Nat → WCHAR) :
    ExceptAlike (Agree CHeapBuffer.get) (escapeArgumentForPS pwsz heap)
      (escapeArgumentForPS pwsz (refill heap garbage)) := by
  unfold escapeArgumentForPS
  apply (exceptAlike_eq _).bind
  rintro cch _ rfl
  cases heap with
  | none => exact agree_of_failed failed_E_OUTOFMEMORY _ _
  | some old =>
      simp only [refill_some, heapAlloc_some]
      have hsize : ∀ cells : Nat → WCHAR, ((List.range (cch + 3)).map cells).length = cch + 3 := by
        simp
      have happend : Copies fun c => stringCchCopyExW c (.str wszApostrophe) :=
        copies_stringCchCopyExW (.str wszApostrophe)
      have hcopies : Copies (escapeCopies pwsz) :=
        happend.andThen ((copies_stringCchCopyExW pwsz).andThen happend)
      by_cases hmax : cch + 3 ≤ STRSAFE_MAX_CCH
      · have hstart : Cursor.Alike ⟨(List.range (cch + 3)).map old, 0, cch + 3⟩
            ⟨(List.range (cch + 3)).map garbage, 0, cch + 3⟩ :=
          ⟨rfl, rfl, (hsize old).trans (hsize garbage).symm, rfl, Nat.zero_le _,
            Nat.succ_pos _, hmax⟩
        apply (hcopies _ _ hstart).bind
        rintro ⟨hr, c⟩ ⟨hr', c'⟩ ⟨hhr, hwritten⟩
        exact ⟨hhr, fun _ => hwritten.ofCells⟩
      · have hrefused : ∀ cells, escapeCopies pwsz ⟨cells, 0, cch + 3⟩
            = .ok (STRSAFE_E_INVALID_PARAMETER, ⟨cells, 0, cch + 3⟩) := by
          intro cells
          have hlarge : STRSAFE_MAX_CCH < cch + 3 := Nat.lt_of_not_le hmax
          simp [escapeCopies, stringCchCopyExW, hlarge, bind, Except.bind, pure, Except.pure]
        rw [hrefused, hrefused]
        exact agree_of_failed failed_STRSAFE_E_INVALID_PARAMETER _ _

section Alike

variable {processor processor' : CEventProcessor} (h : Alike processor processor')

include h

theorem escapeArguments_agree (pwszSubjectKeyIdentifier pwszTempFile : LPCWSTR)
    (o : ProcessorOutcomes) (garbage : Garbage) :
    ExceptAlike (Agree id) (processor.escapeArguments pwszSubjectKeyIdentifier pwszTempFile o)
      (processor'.escapeArguments pwszSubjectKeyIdentifier pwszTempFile
        (o.refill garbage)) := by
  unfold escapeArguments ProcessorOutcomes.refill
  rw [← h.flag]
  apply ExceptAlike.ite
  · intro _
    exact ⟨rfl, fun _ => rfl⟩
  intro _
  apply (escapeArgumentForPS_agree _ _ garbage.escSubjectKeyIdentifier).bind
  rintro ⟨hr, buf⟩ ⟨hr', buf'⟩ ⟨hhr, hbuf⟩
  obtain rfl : hr = hr' := hhr
  apply ExceptAlike.ite
  · intro hfailed
    exact agree_of_failed hfailed _ _
  intro hok
  apply (escapeArgumentForPS_agree _ _ garbage.escTempFile).bind
  rintro ⟨hr, file⟩ ⟨hr', file'⟩ ⟨hhr, hfile⟩
  obtain rfl : hr = hr' := hhr
  apply ExceptAlike.ite
  · intro hfailed
    exact agree_of_failed hfailed _ _
  · intro hok'
    exact ⟨rfl, fun _ => Prod.ext (hbuf hok) (hfile hok')⟩

theorem watchProcess_congr {proc proc' : CProcess} (hproc : proc.Alike proc') (pwszTempFile : LPCWSTR)
    (dwExitCode : DWORD) (o : ProcessOutcomes) (events : EventId → EventOutcomes) :
    processor.watchProcess proc pwszTempFile dwExitCode o events
      = processor'.watchProcess proc' pwszTempFile dwExitCode o events := by
  have hprocess : proc.getProcessID = proc'.getProcessID := by
    rw [CProcess.getProcessID, CProcess.getProcessID, hproc.procInfo]
  have hthread : proc.getThreadID = proc'.getThreadID := by
    rw [CProcess.getThreadID, CProcess.getThreadID, hproc.procInfo]
  unfold watchProcess
  rw [h.source, h.exePath, hproc.commandLine, hprocess, hthread]

theorem runProcess_alike (bufArgs : List LPCWSTR) (pwszTempFile : LPCWSTR) (dwExitCode : DWORD)
    (o : ProcessOutcomes) (garbage : Garbage) (events : EventId → EventOutcomes) :
    Program.Alike (· = ·) (processor.runProcess bufArgs pwszTempFile dwExitCode o events)
      (processor'.runProcess bufArgs pwszTempFile dwExitCode (o.refill garbage) events) := by
  unfold runProcess
  rw [h.exePath]
  apply Program.Alike.ite
  · intro _
    exact Program.alike_refl _
  intro _
  apply (CProcess.create_alike {} _ bufArgs o garbage).bind
  rintro ⟨hr, proc⟩ ⟨hr', proc'⟩ ⟨hhr, hproc⟩
  obtain rfl : hr = hr' := hhr
  dsimp only at hproc
  apply Program.Alike.ite
  · intro _
    rw [h.source, hproc.commandLine]
    exact Program.alike_refl _
  · intro _
    rw [watchProcess_congr h hproc]
    exact Program.alike_refl _

theorem launch_alike (pwszSubjectKeyIdentifier pwszSerialNumber pwszTempFile : LPCWSTR)
    (o : ProcessorOutcomes) (garbage : Garbage)
    {file file' : CTempFile} (hfile : file.Alike file') :
    Program.Alike (fun result result' => result.1 = result'.1 ∧ result.2.Alike result'.2)
      (processor.launch pwszSubjectKeyIdentifier pwszSerialNumber pwszTempFile o file)
      (processor'.launch pwszSubjectKeyIdentifier pwszSerialNumber pwszTempFile
        (o.refill garbage) file') := by
  have hpreserved : (file.preserve).Alike file'.preserve :=
    ⟨hfile.length, hfile.path, hfile.hFile, rfl⟩
  have hescape := escapeArguments_agree h pwszSubjectKeyIdentifier pwszTempFile o garbage
  apply (Program.alike_lift hescape).bind
  rintro ⟨hr, ski, temp⟩ ⟨hr', ski', temp'⟩ ⟨hhr, hstrings⟩
  obtain rfl : hr = hr' := hhr
  apply Program.Alike.ite
  · intro _
    exact Program.alike_pure ⟨rfl, hfile⟩
  intro hok
  obtain ⟨hski, htemp⟩ := Prod.mk.inj (hstrings hok)
  obtain rfl : ski = ski' := hski
  obtain rfl : temp = temp' := htemp
  apply Program.Alike.ite
  · intro _
    exact Program.alike_pure ⟨rfl, hfile⟩
  intro _
  rw [h.arguments]
  apply (Program.alike_refl _).bind
  rintro bufBaseArgs _ rfl
  apply (runProcess_alike h _ pwszTempFile 0 o.process garbage o.events).bind
  rintro ⟨hr, dwExitCode⟩ _ rfl
  apply Program.Alike.ite
  · intro _
    exact Program.alike_pure ⟨rfl, hpreserved⟩
  · intro _
    exact Program.alike_pure ⟨rfl, hfile⟩

omit h in
theorem writeLoop_congr {file file' : CTempFile} (hfile : file.hFile = file'.hFile)
    (bufRawCert : List BYTE) (cbTotal : Nat) (schedule : List WriteOutcome) :
    writeLoop file bufRawCert cbTotal schedule = writeLoop file' bufRawCert cbTotal schedule := by
  induction schedule generalizing cbTotal with
  | nil => rfl
  | cons o rest ih => simp only [writeLoop, CTempFile.write_congr hfile, ih]

theorem writeAndLaunch_alike (pwszSubjectKeyIdentifier pwszSerialNumber : LPCWSTR)
    (bufRawCert : List BYTE) (o : ProcessorOutcomes) (garbage : Garbage) :
    Program.Alike (fun result result' => result.1 = result'.1 ∧ result.2.Alike result'.2)
      (processor.writeAndLaunch pwszSubjectKeyIdentifier pwszSerialNumber bufRawCert o)
      (processor'.writeAndLaunch pwszSubjectKeyIdentifier pwszSerialNumber bufRawCert
        (o.refill garbage)) := by
  apply (getTempFilePath_alike o garbage).bind
  rintro ⟨hr, strTempFile⟩ ⟨hr', strTempFile'⟩ ⟨hhr, htemp⟩
  obtain rfl : hr = hr' := hhr
  apply Program.Alike.ite
  · intro _
    exact Program.alike_pure ⟨rfl, CTempFile.alike_refl _⟩
  intro hok
  have htempFile : CHeapBuffer.get strTempFile = CHeapBuffer.get strTempFile' := htemp hok
  rw [htempFile]
  apply (CTempFile.create_alike {} (CHeapBuffer.get strTempFile') o.tempFile garbage).bind
  rintro ⟨hr, file⟩ ⟨hr', file'⟩ ⟨hhr, hfile⟩
  obtain rfl : hr = hr' := hhr
  dsimp only at hfile
  apply Program.Alike.ite
  · intro _
    exact Program.alike_pure ⟨rfl, hfile⟩
  intro _
  rw [writeLoop_congr hfile.hFile]
  apply (Program.alike_refl _).bind
  rintro ⟨hr, cbTotal⟩ _ rfl
  apply Program.Alike.ite
  · intro _
    exact Program.alike_pure ⟨rfl, hfile⟩
  intro _
  apply (CTempFile.close_alike hfile).bind
  intro closed closed' hclosed
  exact launch_alike h _ _ _ o garbage hclosed

theorem notifyCertIssued_alike (pwszSubjectKeyIdentifier pwszSerialNumber : LPCWSTR)
    (bufRawCert : List BYTE) (o : ProcessorOutcomes) (garbage : Garbage) :
    Program.Alike (· = ·)
      (processor.notifyCertIssued pwszSubjectKeyIdentifier pwszSerialNumber bufRawCert o)
      (processor'.notifyCertIssued pwszSubjectKeyIdentifier pwszSerialNumber bufRawCert
        (o.refill garbage)) := by
  apply (writeAndLaunch_alike h pwszSubjectKeyIdentifier pwszSerialNumber bufRawCert o garbage).bind
  rintro ⟨hr, file⟩ ⟨hr', file'⟩ ⟨hhr, hfile⟩
  obtain rfl : hr = hr' := hhr
  apply (CTempFile.destroy_alike hfile o.deleteFile).bind
  rintro _ _ rfl
  exact Program.alike_pure rfl

end Alike

end CEventProcessor

/-! ### The notification -/

theorem orBreak_alike {α β : Type} {related : α → α → Prop} {related' : β → β → Prop}
    {step step' : Except Fault (HRESULT × α)} {next next' : α → Except Fault (Except HRESULT β)}
    (hstep : ExceptAlike
      (fun result result' => result.1 = result'.1
        ∧ (¬ FAILED result.1 → related result.2 result'.2))
      step step')
    (hnext : ∀ value value', related value value' →
      ExceptAlike (ExceptAlike related') (next value) (next' value')) :
    ExceptAlike (ExceptAlike related') (orBreak step next) (orBreak step' next') := by
  apply hstep.bind
  rintro ⟨hr, value⟩ ⟨hr', value'⟩ ⟨hhr, hvalue⟩
  obtain rfl : hr = hr' := hhr
  apply ExceptAlike.ite
  · intro _
    exact rfl
  · intro hok
    exact hnext value value' (hvalue hok)

namespace CPMICertExit

def SameString (buf buf' : CHeapBuffer WCHAR) : Prop := buf.get = buf'.get

/-- The same strings and the same certificate, handed to event processors that are configured alike. -/
structure SameCertificate (cert cert' : IssuedCertificate) : Prop where
  identifier : cert.pwszSubjectKeyIdentifier = cert'.pwszSubjectKeyIdentifier
  serialNumber : cert.pwszSerialNumber = cert'.pwszSerialNumber
  rawCert : cert.bufRawCert = cert'.bufRawCert
  processor : cert.objEventProcessor.Alike cert'.objEventProcessor

section Notify

variable (exit : CPMICertExit) (o : NotifyOutcomes) (garbage : Garbage)
  (hdecided : CEventProcessorConfig.ExePathDecided o.registry)

include hdecided

theorem readIssuedCertificate_alike (objServer : CCertServerExit) :
    ExceptAlike (ExceptAlike SameCertificate) (exit.readIssuedCertificate objServer o)
      (exit.readIssuedCertificate objServer (o.refill garbage)) := by
  have hstring : ∀ name, ExceptAlike
      (fun result result' => result.1 = result'.1 ∧ (¬ FAILED result.1 → SameString result.2 result'.2))
      (objServer.getCertificateStringProperty o.server name)
      (objServer.getCertificateStringProperty (o.server.refill garbage) name) :=
    objServer.getCertificateStringProperty_agree o.server garbage
  have hraw : ExceptAlike
      (fun result result' => result.1 = result'.1 ∧ (¬ FAILED result.1 → Eq result.2 result'.2))
      (objServer.getRawCertificateProperty o.server)
      (objServer.getRawCertificateProperty (o.server.refill garbage)) :=
    exceptAlike_refl fun _ _ => ⟨rfl, fun _ => rfl⟩
  apply orBreak_alike (hstring _)
  intro identifier identifier' hidentifier
  apply orBreak_alike (hstring _)
  intro serialNumber serialNumber' hserial
  apply orBreak_alike hraw
  rintro buf _ rfl
  apply orBreak_alike (CEventProcessor.init_agree exit.objEventSource o.registry garbage hdecided)
  intro processor processor' hprocessor
  exact ⟨hidentifier, hserial, rfl, hprocessor⟩

theorem notifyCertIssuedWith_alike (objServer : CCertServerExit) :
    Program.Alike (· = ·) (exit.notifyCertIssuedWith objServer o)
      (exit.notifyCertIssuedWith objServer (o.refill garbage)) := by
  apply (Program.alike_lift (readIssuedCertificate_alike exit o garbage hdecided objServer)).bind
  rintro (hr | cert) (hr' | cert') halike
  · obtain rfl : hr = hr' := halike
    exact Program.alike_refl _
  · exact halike.elim
  · exact halike.elim
  · obtain ⟨hidentifier, hserial, hraw, hprocessor⟩ := halike
    dsimp only
    rw [hidentifier, hserial, hraw]
    exact CEventProcessor.notifyCertIssued_alike hprocessor _ _ _ o.processor garbage

theorem notify_refill (exitEvent context : LONG) :
    exit.notify exitEvent context (o.refill garbage) = exit.notify exitEvent context o := by
  have hissued : exit.notifyCertIssued context (o.refill garbage)
      = exit.notifyCertIssued context o := by
    apply Eq.symm
    apply Program.eq_of_alike
    apply Program.Alike.ite
    · intro _
      exact Program.alike_refl _
    · intro _
      exact notifyCertIssuedWith_alike exit o garbage hdecided _
  have hcrl : notifyCRLIssued context (o.refill garbage) = notifyCRLIssued context o := rfl
  have hdispatch : exit.dispatch exitEvent context (o.refill garbage)
      = exit.dispatch exitEvent context o := by
    unfold dispatch
    rw [hissued, hcrl]
  unfold notify
  rw [hdispatch]
  rfl

end Notify

/-- The same notification, made while the heap hands out blocks with other garbage in them. -/
def Rerun (call call' : NotifyCall) : Prop :=
  ∃ garbage, call' = { call with outcomes := call.outcomes.refill garbage }

/-- **Uninitialised memory is not observable.** When the path of the EXE is decided by its registry
value, a module acts and answers the same over any list of notifications, whatever its fresh blocks
held. -/
theorem notifications_ignore_garbage (exit : CPMICertExit) (files : FileSystem)
    (calls calls' : List NotifyCall) (hrerun : List.Forall₂ Rerun calls calls')
    (hdecided : ∀ call ∈ calls, CEventProcessorConfig.ExePathDecided call.outcomes.registry) :
    history exit.notifyCall files calls' = history exit.notifyCall files calls := by
  induction hrerun generalizing files with
  | nil => rfl
  | @cons call call' calls calls' hcall _ ih =>
      obtain ⟨garbage, rfl⟩ := hcall
      have hsame : exit.notifyCall { call with outcomes := call.outcomes.refill garbage }
          = exit.notifyCall call :=
        notify_refill exit call.outcomes garbage (hdecided call List.mem_cons_self) call.exitEvent
          call.context
      rw [history, history, hsame]
      congr 1
      apply ih
      intro later hlater
      exact hdecided later (List.mem_cons_of_mem _ hlater)

def otherGarbage : Garbage where
  string := fun _ _ => 0x41
  exePath := fun _ => 0x42
  argData := fun _ => 0x48
  tempFile := fun _ => 0x43
  path := fun _ => 0x44
  escSubjectKeyIdentifier := fun _ => 0x45
  escTempFile := fun _ => 0x46
  cmdLine := fun _ => 0x47

theorem notifications_ignore_garbage_example :
    history (⟨⟨true⟩⟩ : CPMICertExit).notifyCall (fun _ => none)
        [{ issuedCall ordinaryCA (smallRegistry 1) CEventProcessor.acceptingEvents with
            outcomes := (issuedCall ordinaryCA (smallRegistry 1)
              CEventProcessor.acceptingEvents).outcomes.refill otherGarbage }]
      = history (⟨⟨true⟩⟩ : CPMICertExit).notifyCall (fun _ => none)
        [issuedCall ordinaryCA (smallRegistry 1) CEventProcessor.acceptingEvents] := by
  apply notifications_ignore_garbage
  · exact List.Forall₂.cons ⟨otherGarbage, rfl⟩ List.Forall₂.nil
  · rintro call hmem value hquery
    obtain rfl := List.mem_singleton.mp hmem
    cases hquery
    decide

end CPMICertExit

end PmiExitModule
