import PmiExitModule.Proof.Escaping
import PmiExitModule.Proof.TempFile
import PmiExitModule.Proof.WriteLoop

/-!
# The preparation of a notification

What `NotifyCertIssued` does before it calls `RunProcess`, as a program of its own, and how that ends.
`GetTempFileNameW` has created the file before `CTempFile::Create` takes the path over, and `Create`
gives the path up again when it fails.
-/

namespace PmiExitModule

open Generic

namespace CEventProcessor

/-! ### The temp file -/

/-- The temp file of a notification that starts with these files has this path. -/
def TempPath (o : ProcessorOutcomes) (files : FileSystem) (path : WStr) : Prop :=
  ∃ folder, o.getTempPath = .ok folder
    ∧ o.tempFileNames.next folder g_pwszTempFileNamePrefix files = .ok path

theorem TempPath.short {o : ProcessorOutcomes} {files : FileSystem} {path : WStr}
    (h : TempPath o files path) : path.length < MAX_PATH := by
  obtain ⟨folder, -, hnext⟩ := h
  exact o.tempFileNames.short _ _ _ _ hnext

theorem TempPath.fresh {o : ProcessorOutcomes} {files : FileSystem} {path : WStr}
    (h : TempPath o files path) : files path = none := by
  obtain ⟨folder, -, hnext⟩ := h
  exact o.tempFileNames.fresh _ _ _ _ hnext

/-- `GetTempFileNameW` is called from these files, and creates one. -/
def Named (o : ProcessorOutcomes) (files : FileSystem) : Prop :=
  o.allocTempFile ≠ none ∧ ∃ path, TempPath o files path

theorem getTempFilePath_of_not_named {o : ProcessorOutcomes} {files : FileSystem}
    (h : ¬ Named o files) :
    ∃ hr buf, FAILED hr ∧ getTempFilePath o files = (.returned (hr, buf), []) := by
  cases hfolder : o.getTempPath with
  | error e => exact ⟨_, none, e.failed, by rw [getTempFilePath, hfolder]; rfl⟩
  | ok folder =>
      cases halloc : o.allocTempFile with
      | none =>
          refine ⟨E_OUTOFMEMORY, none, failed_E_OUTOFMEMORY, ?_⟩
          simp [getTempFilePath, hfolder, halloc]
      | some garbage =>
          cases hnext : o.tempFileNames.next folder g_pwszTempFileNamePrefix files with
          | error e =>
              refine ⟨_, some ((List.range (MAX_PATH + 1)).map garbage), e.failed, ?_⟩
              simp only [getTempFilePath, hfolder, halloc, heapAlloc_some, Program.read_bind_apply,
                hnext]
              rfl
          | ok path =>
              have halloc' : o.allocTempFile ≠ none := by simp [halloc]
              exact absurd ⟨halloc', path, folder, hfolder, hnext⟩ h

/-- Of the files on which it is called `getTempFilePath` sees the path alone. -/
theorem getTempFilePath_of_short {o : ProcessorOutcomes} {path : WStr}
    (halloc : o.allocTempFile ≠ none) (hshort : path.length < MAX_PATH) :
    ∃ buf, CHeapBuffer.get buf = .str path ∧ ∀ files, TempPath o files path →
      getTempFilePath o files = (.returned (S_OK, buf), [.getTempFileName path]) := by
  obtain ⟨garbage, halloc⟩ := Option.ne_none_iff_exists'.mp halloc
  obtain ⟨cells, hstore, hget⟩ := store_string ((List.range (MAX_PATH + 1)).map garbage) path
    (by simpa using Nat.lt_succ_of_lt hshort)
  refine ⟨some cells, hget, ?_⟩
  rintro files ⟨folder, hfolder, hnext⟩
  simp only [getTempFilePath, hfolder, halloc, heapAlloc_some, Program.read_bind_apply,
    hnext, Program.emit_bind_apply, hstore, Program.lift_ok_bind_apply]
  rfl

theorem getTempFilePath_of_tempPath {o : ProcessorOutcomes} {files : FileSystem} {path : WStr}
    (halloc : o.allocTempFile ≠ none) (h : TempPath o files path) :
    ∃ buf, CHeapBuffer.get buf = .str path
      ∧ getTempFilePath o files = (.returned (S_OK, buf), [.getTempFileName path]) := by
  obtain ⟨buf, hget, hrun⟩ := getTempFilePath_of_short halloc h.short
  exact ⟨buf, hget, hrun files h⟩

theorem writeLoop_cases {objTempFile : CTempFile} {openFile : OpenFile}
    (hopen : objTempFile.hFile = some openFile) (bytes : List BYTE) (outcomes : List WriteOutcome)
    (cbTotal : Nat) (files : FileSystem) :
    ∃ ending writes, writeLoop objTempFile bytes cbTotal outcomes files = (ending, writes)
      ∧ (∀ action ∈ writes, ∃ piece, action = .writeFile openFile.handle openFile.path piece)
      ∧ (ending = .running ∨ (∃ hr total, ending = .returned (hr, total) ∧ FAILED hr) ∨
        ∃ total, ending = .returned (S_OK, total)) := by
  induction outcomes generalizing cbTotal files with
  | nil =>
      by_cases hlt : cbTotal < bytes.length
      · exact ⟨.running, [], by rw [writeLoop, if_pos hlt]; rfl, by simp, Or.inl rfl⟩
      · exact ⟨_, [], writeLoop_done files (Nat.not_lt.mp hlt) _, by simp, Or.inr (Or.inr ⟨_, rfl⟩)⟩
  | cons outcome rest ih =>
      by_cases hlt : cbTotal < bytes.length
      · cases outcome with
        | error e =>
            exact ⟨_, _, writeLoop_error hopen rest files hlt e, by simp,
              Or.inr (Or.inl ⟨_, _, rfl, e.failed⟩)⟩
        | ok nBytesWritten =>
            obtain ⟨ending, writes, hrest, hwrites, hending⟩ := ih _ _
            have hloop := writeLoop_ok hopen rest files hlt nBytesWritten
            rw [hrest] at hloop
            exact ⟨ending, _, hloop, List.forall_mem_cons.mpr ⟨⟨_, rfl⟩, hwrites⟩, hending⟩
      · exact ⟨_, [], writeLoop_done files (Nat.not_lt.mp hlt) _, by simp, Or.inr (Or.inr ⟨_, rfl⟩)⟩

/-- `CTempFile::Create` cannot take the file over: there is no memory for its path, or the file cannot
be opened. -/
def Refused (o : ProcessorOutcomes) : Prop :=
  o.tempFile.allocPath = none ∨ ∃ e, o.tempFile.createFile = .error e

theorem not_refused {o : ProcessorOutcomes} {garbage : Nat → WCHAR} {handle : HANDLE}
    (halloc : o.tempFile.allocPath = some garbage) (hcreate : o.tempFile.createFile = .ok handle) :
    ¬ Refused o := by
  rintro (h | ⟨e, h⟩)
  · rw [halloc] at h
    cases h
  · rw [hcreate] at h
    cases h

section Opened

variable (o : ProcessorOutcomes) (files : FileSystem)

/-- The temp file was created under a name that was not in use, taken over, and written to. -/
structure Opened (path : WStr) (handle : HANDLE) (writes : List Action) : Prop where
  named : TempPath o files path
  allocated : o.allocTempFile ≠ none
  taken : ¬ Refused o
  writes : ∀ action ∈ writes, ∃ piece, action = .writeFile handle path piece

def openingActions (path : WStr) (handle : HANDLE) (writes : List Action) : List Action :=
  .getTempFileName path :: .createFile path handle :: writes

theorem mem_openingActions {path : WStr} {handle : HANDLE} {writes : List Action} :
    .getTempFileName path ∈ openingActions path handle writes := List.mem_cons_self

variable {o files} in
theorem Opened.cases {path : WStr} {handle : HANDLE} {writes : List Action}
    (hopened : Opened o files path handle writes) {action : Action}
    (hmem : action ∈ openingActions path handle writes) : action = .getTempFileName path
      ∨ action = .createFile path handle ∨ ∃ piece, action = .writeFile handle path piece := by
  rcases List.mem_cons.mp hmem with rfl | hmem
  · exact Or.inl rfl
  rcases List.mem_cons.mp hmem with rfl | hmem
  · exact Or.inr (Or.inl rfl)
  · exact Or.inr (Or.inr (hopened.writes action hmem))

end Opened

section Prepare

variable (processor : CEventProcessor) (pwszSubjectKeyIdentifier pwszSerialNumber : LPCWSTR)
  (bufRawCert : List BYTE) (o : ProcessorOutcomes)

/-! ### The arguments -/

/-- The arguments the process is launched with on this temp file. -/
def LaunchesWith (path : WStr) (bufArgs : List LPCWSTR) : Prop :=
  ∃ hr pwszEscSubjectKeyIdentifier pwszEscTempFile bufBaseArgs, ¬ FAILED hr
    ∧ processor.escapeArguments pwszSubjectKeyIdentifier (.str path) o
      = .ok (hr, pwszEscSubjectKeyIdentifier, pwszEscTempFile)
    ∧ processor.objConfig.getArguments = .ok bufBaseArgs
    ∧ bufArgs = bufBaseArgs
      ++ certIssuedArguments pwszEscSubjectKeyIdentifier pwszSerialNumber pwszEscTempFile

def processArguments (static : List WStr) (escSki serial escPath : WStr) : List WStr :=
  static ++ [wszCertIssued, wszSubjectKeyIdentifierSwitch, escSki, wszSerialNumberSwitch, serial,
    wszRawCertPathSwitch, escPath]

theorem map_str_processArguments (static : List WStr) (escSki serial escPath : WStr) :
    (processArguments static escSki serial escPath).map LPCWSTR.str = static.map .str
      ++ certIssuedArguments (.str escSki) (.str serial) (.str escPath) :=
  List.map_append

variable {processor pwszSubjectKeyIdentifier pwszSerialNumber bufRawCert o} in
theorem LaunchesWith.eq_map_str {static : List WStr} {ski serial path : WStr}
    {bufArgs : List LPCWSTR} (hargs : processor.objConfig.getArguments = .ok (static.map .str))
    (h : LaunchesWith processor (.str ski) (.str serial) o path bufArgs) :
    bufArgs = (processArguments static (processor.escaped ski) serial
      (processor.escaped path)).map .str := by
  obtain ⟨hr, escSki, escPath, bufBaseArgs, hok, hescaped, hbase, rfl⟩ := h
  obtain rfl : static.map .str = bufBaseArgs := Except.ok.inj (hargs.symm.trans hbase)
  rcases processor.escapeArguments_cases ski path o with ⟨hr', escSki', escPath', hfailed, hrun⟩ | hrun
  · obtain ⟨rfl, -⟩ := Prod.mk.inj (Except.ok.inj (hescaped.symm.trans hrun))
    exact absurd hfailed hok
  · simp only [hescaped, Except.ok.injEq, Prod.mk.injEq] at hrun
    obtain ⟨-, rfl, rfl⟩ := hrun
    exact (map_str_processArguments _ _ _ _).symm

def buildArguments (pwszTempFile : LPCWSTR) : Except Fault (HRESULT × Option (List LPCWSTR)) := do
  let (hr, pwszEscSubjectKeyIdentifier, pwszEscTempFile) ←
    processor.escapeArguments pwszSubjectKeyIdentifier pwszTempFile o
  if FAILED hr then return (hr, none)
  if !o.allocArgs then return (E_OUTOFMEMORY, none)
  let bufBaseArgs ← processor.objConfig.getArguments
  return (hr, some (bufBaseArgs
    ++ certIssuedArguments pwszEscSubjectKeyIdentifier pwszSerialNumber pwszEscTempFile))

theorem buildArguments_cases (path : WStr) :
    (∃ fault, (processor.escapeArguments pwszSubjectKeyIdentifier (.str path) o = .error fault
        ∨ processor.objConfig.getArguments = .error fault)
      ∧ processor.buildArguments pwszSubjectKeyIdentifier pwszSerialNumber o (.str path)
        = .error fault) ∨
    (∃ hr, FAILED hr
      ∧ processor.buildArguments pwszSubjectKeyIdentifier pwszSerialNumber o (.str path)
        = .ok (hr, none)) ∨
    ∃ hr bufArgs, LaunchesWith processor pwszSubjectKeyIdentifier pwszSerialNumber o path bufArgs
      ∧ processor.buildArguments pwszSubjectKeyIdentifier pwszSerialNumber o (.str path)
        = .ok (hr, some bufArgs) := by
  cases hescape : processor.escapeArguments pwszSubjectKeyIdentifier (.str path) o with
  | error fault =>
      refine Or.inl ⟨fault, Or.inl rfl, ?_⟩
      rw [buildArguments, hescape]
      rfl
  | ok escaped =>
      obtain ⟨hr, pwszEscSubjectKeyIdentifier, pwszEscTempFile⟩ := escaped
      by_cases hfailed : FAILED hr
      · refine Or.inr (Or.inl ⟨hr, hfailed, ?_⟩)
        simp only [buildArguments, hescape, bind, Except.bind, hfailed, if_true]
        rfl
      cases halloc : o.allocArgs with
      | false =>
          refine Or.inr (Or.inl ⟨E_OUTOFMEMORY, failed_E_OUTOFMEMORY, ?_⟩)
          simp only [buildArguments, hescape, bind, Except.bind, hfailed, if_false, halloc,
            Bool.not_false, if_true]
          rfl
      | true =>
          cases hargs : processor.objConfig.getArguments with
          | error fault =>
              refine Or.inl ⟨fault, Or.inr rfl, ?_⟩
              simp only [buildArguments, hescape, bind, Except.bind, hfailed, if_false, halloc,
                Bool.not_true, Bool.false_eq_true, hargs]
          | ok bufBaseArgs =>
              refine Or.inr (Or.inr ⟨hr, _, ⟨hr, _, _, _, hfailed, hescape, hargs, rfl⟩, ?_⟩)
              simp only [buildArguments, hescape, bind, Except.bind, hfailed, if_false, halloc,
                Bool.not_true, Bool.false_eq_true, hargs]
              rfl

/-! ### The steps before `RunProcess` -/

/-- The part of `NotifyCertIssued` before `RunProcess`: what it leaves in `hr` and the temp file, and
what it hands to `RunProcess` if it gets that far. -/
def prepare : Prog ((HRESULT × CTempFile) × Option (List LPCWSTR × LPCWSTR)) := do
  let (hr, strTempFile) ← getTempFilePath o
  if FAILED hr then return ((hr, {}), none)
  let pwszTempFile := CHeapBuffer.get strTempFile
  let (hr, objTempFile) ← CTempFile.create {} pwszTempFile o.tempFile
  if FAILED hr then return ((hr, objTempFile), none)
  let (hr, _) ← writeLoop objTempFile bufRawCert 0 o.writeFile
  if FAILED hr then return ((hr, objTempFile), none)
  let objTempFile ← objTempFile.close
  let (hr, bufArgs) ← Program.lift
    (processor.buildArguments pwszSubjectKeyIdentifier pwszSerialNumber o pwszTempFile)
  return ((hr, objTempFile), bufArgs.map fun bufArgs => (bufArgs, pwszTempFile))

/-- The rest of `NotifyCertIssued`, from the call of `RunProcess` on. -/
def runAndKeep (objTempFile : CTempFile) (bufArgs : List LPCWSTR) (pwszTempFile : LPCWSTR) :
    Prog (HRESULT × CTempFile) := do
  let (hr, dwExitCode) ← processor.runProcess bufArgs pwszTempFile 0 o.process o.events
  if FAILED hr ∨ dwExitCode ≠ 0 then return (hr, objTempFile.preserve)
  return (hr, objTempFile)

theorem launch_eq (pwszTempFile : LPCWSTR) (objTempFile : CTempFile) :
    processor.launch pwszSubjectKeyIdentifier pwszSerialNumber pwszTempFile o objTempFile
      = Program.lift
          (processor.buildArguments pwszSubjectKeyIdentifier pwszSerialNumber o pwszTempFile)
        >>= fun built => match built.2 with
          | none => pure (built.1, objTempFile)
          | some bufArgs => processor.runAndKeep o objTempFile bufArgs pwszTempFile := by
  unfold launch buildArguments
  rw [Program.lift_bind, Program.bind_assoc]
  congr 1
  funext escaped
  by_cases hfailed : FAILED escaped.1
  · simp only [hfailed, if_true, Program.lift_pure, Program.pure_bind]
  cases o.allocArgs with
  | false => simp only [hfailed, if_false, Bool.not_false, if_true, Program.lift_pure, Program.pure_bind]
  | true =>
      simp only [hfailed, if_false, Bool.not_true, Bool.false_eq_true, Program.lift_bind,
        Program.bind_assoc, Program.lift_pure, Program.pure_bind]
      rfl

/-- `NotifyCertIssued` is its preparation, and `RunProcess` if the preparation gets there. -/
theorem writeAndLaunch_eq :
    processor.writeAndLaunch pwszSubjectKeyIdentifier pwszSerialNumber bufRawCert o
      = processor.prepare pwszSubjectKeyIdentifier pwszSerialNumber bufRawCert o >>= fun prepared =>
          match prepared.2 with
          | none => pure prepared.1
          | some launch => processor.runAndKeep o prepared.1.2 launch.1 launch.2 := by
  unfold writeAndLaunch prepare
  simp only [launch_eq, Program.bind_assoc]
  congr 1
  funext temp
  by_cases htemp : FAILED temp.1
  · simp only [htemp, if_true, Program.pure_bind]
  simp only [htemp, if_false, Program.bind_assoc]
  congr 1
  funext created
  by_cases hcreate : FAILED created.1
  · simp only [hcreate, if_true, Program.pure_bind]
  simp only [hcreate, if_false, Program.bind_assoc]
  congr 1
  funext written
  by_cases hwrite : FAILED written.1
  · simp only [hwrite, if_true, Program.pure_bind]
  simp only [hwrite, if_false, Program.bind_assoc]
  congr 1
  funext closed
  congr 1
  funext built
  rw [Program.pure_bind]
  cases built.2 with
  | none => rfl
  | some bufArgs => rfl

/-! ### The runs of the preparation -/

section PrepareRun

variable (files : FileSystem)

inductive PrepareRun :
    Ending Fault ((HRESULT × CTempFile) × Option (List LPCWSTR × LPCWSTR)) → List Action → Prop where
  | noTempFile (hr : HRESULT) (hfailed : FAILED hr) (hnotNamed : ¬ Named o files) :
      PrepareRun (.returned ((hr, {}), none)) []
  | refused (path : WStr) (hr : HRESULT) (hfailed : FAILED hr) (halloc : o.allocTempFile ≠ none)
      (hnamed : TempPath o files path) (hrefused : Refused o) :
      PrepareRun (.returned ((hr, {}), none)) [.getTempFileName path]
  | writing (path : WStr) (handle : HANDLE) (writes : List Action) (objTempFile : CTempFile)
      (filesOpen : FileSystem) (hopened : Opened o files path handle writes)
      (hopen : objTempFile.hFile = some ⟨handle, path⟩)
      (hloop : writeLoop objTempFile bufRawCert 0 o.writeFile filesOpen = (.running, writes)) :
      PrepareRun .running (openingActions path handle writes)
  | notWritten (path : WStr) (handle : HANDLE) (writes : List Action) (hr : HRESULT)
      (objTempFile : CTempFile) (hfailed : FAILED hr) (hopened : Opened o files path handle writes)
      (howns : objTempFile.Owns path)
      (hopen : objTempFile.hFile = some ⟨handle, path⟩) (hpreserve : objTempFile.fPreserve = false) :
      PrepareRun (.returned ((hr, objTempFile), none)) (openingActions path handle writes)
  | argumentsFaulted (path : WStr) (handle : HANDLE) (writes : List Action) (fault : Fault)
      (hopened : Opened o files path handle writes)
      (hfault : processor.escapeArguments pwszSubjectKeyIdentifier (.str path) o = .error fault
        ∨ processor.objConfig.getArguments = .error fault) :
      PrepareRun (.faulted fault) (openingActions path handle writes ++ [.closeHandle handle])
  | notBuilt (path : WStr) (handle : HANDLE) (writes : List Action) (hr : HRESULT)
      (objTempFile : CTempFile) (hfailed : FAILED hr) (hopened : Opened o files path handle writes)
      (howns : objTempFile.Owns path) (hclosed : objTempFile.hFile = none)
      (hpreserve : objTempFile.fPreserve = false) :
      PrepareRun (.returned ((hr, objTempFile), none))
        (openingActions path handle writes ++ [.closeHandle handle])
  | ready (path : WStr) (handle : HANDLE) (writes : List Action) (hr : HRESULT)
      (objTempFile : CTempFile) (bufArgs : List LPCWSTR) (hopened : Opened o files path handle writes)
      (howns : objTempFile.Owns path) (hclosed : objTempFile.hFile = none)
      (hpreserve : objTempFile.fPreserve = false)
      (hlaunch : LaunchesWith processor pwszSubjectKeyIdentifier pwszSerialNumber o path bufArgs) :
      PrepareRun (.returned ((hr, objTempFile), some (bufArgs, .str path)))
        (openingActions path handle writes ++ [.closeHandle handle])

variable {o files} in
theorem create_of_refused {path : WStr} (hshort : path.length ≤ MAX_PATH) (h : Refused o) :
    ∃ hr, FAILED hr ∧ CTempFile.create {} (.str path) o.tempFile files = (.returned (hr, {}), []) := by
  cases halloc : o.tempFile.allocPath with
  | none =>
      exact ⟨_, failed_E_OUTOFMEMORY,
        CTempFile.create_of_allocPath_failed false hshort halloc files⟩
  | some garbage =>
      obtain ⟨e, hcreate⟩ := h.resolve_left (by simp [halloc])
      exact ⟨_, e.failed, CTempFile.create_of_createFile_failed false hshort halloc hcreate files⟩

variable {o} in
theorem create_of_not_refused {path : WStr} (hshort : path.length ≤ MAX_PATH) (h : ¬ Refused o) :
    ∃ (objTempFile : CTempFile) (handle : HANDLE), objTempFile.Owns path
      ∧ objTempFile.hFile = some ⟨handle, path⟩ ∧ objTempFile.fPreserve = false
      ∧ ∀ files, CTempFile.create {} (.str path) o.tempFile files
          = (.returned (S_OK, objTempFile), [.createFile path handle]) := by
  obtain ⟨halloc, hcreate⟩ := not_or.mp h
  obtain ⟨garbage, halloc⟩ := Option.ne_none_iff_exists'.mp halloc
  cases hopens : o.tempFile.createFile with
  | error e => exact absurd ⟨e, hopens⟩ hcreate
  | ok handle =>
      obtain ⟨objTempFile, howns, hopen, hpreserve, hrun⟩ :=
        CTempFile.create_of_opened false hshort halloc hopens
      exact ⟨objTempFile, handle, howns, hopen, hpreserve, hrun⟩

theorem prepare_of_opened {path : WStr} {buf : CHeapBuffer WCHAR} {objTempFile : CTempFile}
    {handle : HANDLE} {actions : List Action}
    {ending : Ending Fault ((HRESULT × CTempFile) × Option (List LPCWSTR × LPCWSTR))}
    (htemp : getTempFilePath o files = (.returned (S_OK, buf), [.getTempFileName path]))
    (hget : CHeapBuffer.get buf = .str path)
    (hcreate : CTempFile.create {} (.str path) o.tempFile (replay files [Action.getTempFileName path])
      = (.returned (S_OK, objTempFile), [.createFile path handle]))
    (hrest : (do
        let (hr, _) ← writeLoop objTempFile bufRawCert 0 o.writeFile
        if FAILED hr then return ((hr, objTempFile), none)
        let objTempFile ← objTempFile.close
        let (hr, bufArgs) ← Program.lift
          (processor.buildArguments pwszSubjectKeyIdentifier pwszSerialNumber o (.str path))
        return ((hr, objTempFile), bufArgs.map fun bufArgs => (bufArgs, .str path)) :
          Prog ((HRESULT × CTempFile) × Option (List LPCWSTR × LPCWSTR)))
        (replay (replay files [Action.getTempFileName path]) [Action.createFile path handle])
      = (ending, actions)) :
    processor.prepare pwszSubjectKeyIdentifier pwszSerialNumber bufRawCert o files
      = (ending, .getTempFileName path :: .createFile path handle :: actions) := by
  apply Program.bind_chain htemp
  simp only [not_failed_S_OK, if_false, hget]
  apply Program.bind_chain hcreate
  simp only [not_failed_S_OK, if_false]
  exact hrest

theorem prepare_run :
    PrepareRun processor pwszSubjectKeyIdentifier pwszSerialNumber bufRawCert o files
      (processor.prepare pwszSubjectKeyIdentifier pwszSerialNumber bufRawCert o files).1
      (processor.prepare pwszSubjectKeyIdentifier pwszSerialNumber bufRawCert o files).2 := by
  by_cases hnamed : Named o files
  swap
  · obtain ⟨hr, buf, hfailed, htemp⟩ := getTempFilePath_of_not_named hnamed
    have hprepare : processor.prepare pwszSubjectKeyIdentifier pwszSerialNumber bufRawCert o files
        = (.returned ((hr, {}), none), []) :=
      Program.bind_chain htemp (by simp only [hfailed, if_true]; rfl)
    rw [hprepare]
    exact .noTempFile hr hfailed hnamed
  obtain ⟨halloc, path, hpath⟩ := hnamed
  obtain ⟨buf, hget, htemp⟩ := getTempFilePath_of_tempPath halloc hpath
  by_cases hrefused : Refused o
  · obtain ⟨hr, hfailed, hcreate⟩ := create_of_refused hpath.short.le hrefused
    have hprepare : processor.prepare pwszSubjectKeyIdentifier pwszSerialNumber bufRawCert o files
        = (.returned ((hr, {}), none), [.getTempFileName path]) := by
      apply Program.bind_chain htemp
      simp only [not_failed_S_OK, if_false, hget]
      exact Program.bind_chain hcreate (by simp only [hfailed, if_true]; rfl)
    rw [hprepare]
    exact .refused path hr hfailed halloc hpath hrefused
  obtain ⟨objTempFile, handle, howns, hopen, hpreserve, hcreate⟩ :=
    create_of_not_refused hpath.short.le hrefused
  set filesOpen := replay (replay files [Action.getTempFileName path]) [Action.createFile path handle]
  obtain ⟨loopEnding, writes, hloop, hwrites, hends⟩ :=
    writeLoop_cases hopen bufRawCert o.writeFile 0 filesOpen
  have hopened : Opened o files path handle writes := ⟨hpath, halloc, hrefused, hwrites⟩
  rcases hends with rfl | ⟨hr, total, rfl, hfailed⟩ | ⟨total, rfl⟩
  · rw [processor.prepare_of_opened _ _ _ _ _ htemp hget (hcreate _) (Program.bind_of_running hloop)]
    exact .writing path handle writes objTempFile filesOpen hopened hopen hloop
  · have hprepare : processor.prepare pwszSubjectKeyIdentifier pwszSerialNumber bufRawCert o files
        = (.returned ((hr, objTempFile), none), openingActions path handle (writes ++ [])) := by
      apply processor.prepare_of_opened _ _ _ _ _ htemp hget (hcreate _)
      apply Program.bind_chain hloop
      simp only [hfailed, if_true]
      rfl
    rw [hprepare, List.append_nil]
    exact .notWritten path handle writes hr objTempFile hfailed hopened howns hopen hpreserve
  -- the file is written and closed: what is left causes no events
  set closed : CTempFile := { objTempFile with hFile := none }
  have hbuilt : ∀ {ending}, (∀ state, (Program.lift
        (processor.buildArguments pwszSubjectKeyIdentifier pwszSerialNumber o (.str path)) >>=
          fun built => pure ((built.1, closed), built.2.map fun bufArgs => (bufArgs, .str path)) :
            Prog ((HRESULT × CTempFile) × Option (List LPCWSTR × LPCWSTR))) state = (ending, [])) →
      processor.prepare pwszSubjectKeyIdentifier pwszSerialNumber bufRawCert o files
        = (ending, openingActions path handle writes ++ [.closeHandle handle]) := by
    intro ending hrest
    apply processor.prepare_of_opened _ _ _ _ _ htemp hget (hcreate _)
    apply Program.bind_chain hloop
    simp only [not_failed_S_OK, if_false]
    exact Program.bind_chain (CTempFile.close_of_open hopen _) (hrest _)
  rcases processor.buildArguments_cases pwszSubjectKeyIdentifier pwszSerialNumber o path with
    ⟨fault, hfault, hbuild⟩ | ⟨hr, hfailed, hbuild⟩ | ⟨hr, bufArgs, hlaunch, hbuild⟩
  · rw [hbuild] at hbuilt
    rw [hbuilt fun _ => rfl]
    exact .argumentsFaulted path handle writes fault hopened hfault
  · rw [hbuild] at hbuilt
    rw [hbuilt fun _ => rfl]
    exact .notBuilt path handle writes hr closed hfailed hopened howns rfl hpreserve
  · rw [hbuild] at hbuilt
    rw [hbuilt fun _ => rfl]
    exact .ready path handle writes hr closed bufArgs hopened howns rfl hpreserve hlaunch

variable {processor pwszSubjectKeyIdentifier pwszSerialNumber bufRawCert o files} in
theorem prepareRun_of_prepare
    {ending : Ending Fault ((HRESULT × CTempFile) × Option (List LPCWSTR × LPCWSTR))}
    {actions : List Action}
    (h : processor.prepare pwszSubjectKeyIdentifier pwszSerialNumber bufRawCert o files
      = (ending, actions)) :
    PrepareRun processor pwszSubjectKeyIdentifier pwszSerialNumber bufRawCert o files ending actions := by
  have hrun := processor.prepare_run pwszSubjectKeyIdentifier pwszSerialNumber bufRawCert o files
  rwa [h] at hrun

/-- The notification gets to `RunProcess`, with these arguments and this temp file. -/
def RunsOn (path : WStr) (bufArgs : List LPCWSTR) : Prop :=
  ∃ prepared actions,
    processor.prepare pwszSubjectKeyIdentifier pwszSerialNumber bufRawCert o files
      = (.returned (prepared, some (bufArgs, .str path)), actions)

variable {processor pwszSubjectKeyIdentifier pwszSerialNumber bufRawCert o files} in
theorem RunsOn.launchesWith {path : WStr} {bufArgs : List LPCWSTR}
    (h : RunsOn processor pwszSubjectKeyIdentifier pwszSerialNumber bufRawCert o files path bufArgs) :
    LaunchesWith processor pwszSubjectKeyIdentifier pwszSerialNumber o path bufArgs := by
  obtain ⟨prepared, actions, hprepare⟩ := h
  cases prepareRun_of_prepare hprepare with
  | ready _ handle writes hr objTempFile _ hopened howns hclosed hpreserve hlaunch => exact hlaunch

/-- With a name for the temp file, the calls that `NotifyCertIssued` makes before `CreateProcessW`
succeed. -/
structure Succeeds (cbRawCert : Nat) : Prop where
  allocTempFile : o.allocTempFile ≠ none
  taken : ¬ Refused o
  written : ∀ e, .error e ∉ o.writeFile
  reached : cbRawCert ≤ (o.writeFile.map WriteOutcome.count).sum
  allocEscSubjectKeyIdentifier : o.allocEscSubjectKeyIdentifier ≠ none
  allocEscTempFile : o.allocEscTempFile ≠ none
  allocArgs : o.allocArgs = true
  allocCmdLine : o.process.allocCmdLine ≠ none

variable {processor pwszSubjectKeyIdentifier pwszSerialNumber bufRawCert o files} in
theorem runsOn_of_succeeds {path : WStr} {bufArgs : List LPCWSTR} {hr : HRESULT}
    (hpath : TempPath o files path) (hsucceeds : Succeeds o bufRawCert.length)
    (hbuild : processor.buildArguments pwszSubjectKeyIdentifier pwszSerialNumber o (.str path)
      = .ok (hr, some bufArgs)) :
    RunsOn processor pwszSubjectKeyIdentifier pwszSerialNumber bufRawCert o files path bufArgs := by
  obtain ⟨buf, hget, htemp⟩ := getTempFilePath_of_tempPath hsucceeds.allocTempFile hpath
  obtain ⟨objTempFile, handle, -, hopen, -, hcreate⟩ :=
    create_of_not_refused hpath.short.le hsucceeds.taken
  set filesOpen := replay (replay files [Action.getTempFileName path]) [Action.createFile path handle]
  rcases hloop : writeLoop objTempFile bufRawCert 0 o.writeFile filesOpen with ⟨ending, writes⟩
  obtain ⟨total, htotal⟩ := writeLoop_of_reached hopen filesOpen hsucceeds.written
    (hsucceeds.reached.trans (Nat.zero_add _).ge)
  rw [hloop] at htotal
  obtain rfl : ending = .returned (S_OK, total) := htotal
  refine ⟨(hr, { objTempFile with hFile := none }),
    openingActions path handle (writes ++ [.closeHandle handle]),
    processor.prepare_of_opened _ _ _ _ _ htemp hget (hcreate _) ?_⟩
  apply Program.bind_chain hloop
  simp only [not_failed_S_OK, if_false]
  rw [← List.append_nil [_]]
  apply Program.bind_chain (CTempFile.close_of_open hopen _)
  rw [hbuild]
  rfl

end PrepareRun

end Prepare

end CEventProcessor

end PmiExitModule
