import PmiExitModule.Proof.Leftovers

/-!
# What the process finds

`RunProcess` is called on a temp file that was written and closed. `WriteFile` on a disk file takes all
the bytes it is given or fails, and on such a file system the write loop leaves the certificate in the
file before the process is created. Nothing of the notification touches the file after that but its own
deletion.
-/

namespace PmiExitModule

open Generic

namespace CTempFile

/-- A call of the destructor: it closes a handle, or deletes the file of this object. -/
def Destroys (file : CTempFile) (action : Action) : Prop :=
  (∃ handle, action = .closeHandle handle)
    ∨ ∃ path deleted, file.Owns path ∧ action = .deleteFile path deleted

theorem close_emits (file : CTempFile) :
    file.close.Emits file.Destroys fun closed => closed.strPath = file.strPath := by
  unfold close
  cases file.hFile with
  | none => exact Program.emits_pure rfl
  | some openFile =>
      have hclose : file.Destroys (.closeHandle openFile.handle) := Or.inl ⟨_, rfl⟩
      exact (Program.emits_emit hclose).bind fun _ _ => Program.emits_pure rfl

theorem destroy_emits (file : CTempFile) (deleted : Bool) :
    (file.destroy deleted).Emits file.Destroys fun _ => True := by
  refine file.close_emits.bind ?_
  intro closed hpath
  by_cases hpreserve : closed.fPreserve = true
  · simp only [hpreserve, if_true]
    exact Program.emits_pure trivial
  simp only [hpreserve]
  apply Program.Emits.ite _ (Program.emits_pure trivial)
  refine Program.Emits.bind (Program.emits_lift fun path hderef => hderef) ?_
  intro path hderef
  refine Program.emits_emit (Or.inr ⟨path, deleted, ?_, rfl⟩)
  unfold Owns
  rw [← hpath]
  cases hget : closed.strPath.get with
  | null =>
      rw [hget] at hderef
      cases hderef
  | unterminated cells =>
      rw [hget] at hderef
      cases hderef
  | str s =>
      rw [hget] at hderef
      cases hderef
      rfl

end CTempFile

namespace CEventProcessor

theorem TempPath.unique {o : ProcessorOutcomes} {files : FileSystem} {path path' : WStr}
    (h : TempPath o files path) (h' : TempPath o files path') : path = path' := by
  obtain ⟨folder, hfolder, hnext⟩ := h
  obtain ⟨folder', hfolder', hnext'⟩ := h'
  obtain rfl := Except.ok.inj (hfolder.symm.trans hfolder')
  exact Except.ok.inj (hnext.symm.trans hnext')

/-- Every `WriteFile` that succeeds takes all the bytes it is given. -/
def WritesWhole (o : ProcessorOutcomes) (bufRawCert : List BYTE) : Prop :=
  ∀ nBytesWritten, .ok nBytesWritten ∈ o.writeFile → nBytesWritten.toNat = bufRawCert.length

theorem pieceWritten_whole {bytes : List BYTE} {nBytesWritten : DWORD}
    (h : nBytesWritten.toNat = bytes.length) : pieceWritten bytes nBytesWritten = bytes := by
  have hsmall : bytes.length < 2 ^ 32 := h ▸ nBytesWritten.isLt
  rw [pieceWritten_of_le (by rw [h, Nat.mod_eq_of_lt hsmall]), h, List.take_length]

theorem written_of_writeLoop {objTempFile : CTempFile} {openFile : OpenFile} {bytes : List BYTE}
    {outcomes : List WriteOutcome} {files : FileSystem} {hr : HRESULT} {total : Nat}
    {writes : List Action} (hopen : objTempFile.hFile = some openFile)
    (hempty : files openFile.path = some [])
    (hwhole : ∀ nBytesWritten, .ok nBytesWritten ∈ outcomes → nBytesWritten.toNat = bytes.length)
    (hloop : writeLoop objTempFile bytes 0 outcomes files = (.returned (hr, total), writes))
    (hok : ¬ FAILED hr) : replay files writes openFile.path = some bytes := by
  by_cases hlt : 0 < bytes.length
  swap
  · rw [writeLoop_done files (Nat.not_lt.mp hlt)] at hloop
    cases hloop
    rw [replay_nil, hempty, List.eq_nil_of_length_eq_zero (Nat.eq_zero_of_not_pos hlt)]
  cases outcomes with
  | nil =>
      rw [writeLoop, if_pos hlt] at hloop
      cases hloop
  | cons outcome rest =>
      cases outcome with
      | error e =>
          rw [writeLoop_error hopen rest files hlt e] at hloop
          obtain ⟨rfl, -⟩ := Prod.mk.inj (Ending.returned.inj (Prod.mk.inj hloop).1)
          exact absurd e.failed hok
      | ok nBytesWritten =>
          have hcount := hwhole nBytesWritten List.mem_cons_self
          have hdone : bytes.length ≤ 0 + nBytesWritten.toNat := by omega
          rw [writeLoop_ok hopen rest files hlt, writeLoop_done _ hdone, pieceWritten_whole hcount] at hloop
          obtain ⟨-, rfl⟩ := Prod.mk.inj hloop
          simp [Replay.apply, applyAction, hempty]

section Launch

variable {processor : CEventProcessor} {pwszSubjectKeyIdentifier pwszSerialNumber : LPCWSTR}
  {bufRawCert : List BYTE} {o : ProcessorOutcomes} {files : FileSystem} {hr : HRESULT}
  {objTempFile : CTempFile} {launch : List LPCWSTR × LPCWSTR} {actions : List Action}

/-- The preparation that gets to `RunProcess` has ended the write loop, and the file holds what the loop
left in it. -/
theorem written_of_prepare (hwhole : WritesWhole o bufRawCert)
    (hprepare : processor.prepare pwszSubjectKeyIdentifier pwszSerialNumber bufRawCert o files
      = (.returned ((hr, objTempFile), some launch), actions)) {path : WStr}
    (hpath : TempPath o files path) : replay files actions path = some bufRawCert := by
  obtain ⟨⟨hrTemp, strTempFile⟩, _, _, htemp, hcreating, rfl⟩ :=
    Program.exists_of_bind_eq_returned hprepare
  have hnamed : Named o files := by
    by_contra hnot
    obtain ⟨hr', buf, hfailed, hfails⟩ := getTempFilePath_of_not_named hnot
    cases htemp.symm.trans hfails
    simp only [hfailed, if_true] at hcreating
    cases hcreating
  obtain ⟨buf, hget, htemp'⟩ := getTempFilePath_of_tempPath hnamed.1 hpath
  cases htemp.symm.trans htemp'
  simp only [not_failed_S_OK, if_false, hget] at hcreating
  obtain ⟨⟨hrCreate, created⟩, _, _, hcreate, hwriting, rfl⟩ :=
    Program.exists_of_bind_eq_returned hcreating
  have haccepted : ¬ Refused o := by
    intro hrefused
    obtain ⟨hr', hfailed, hfails⟩ := create_of_refused hpath.short.le hrefused
    cases hcreate.symm.trans hfails
    simp only [hfailed, if_true] at hwriting
    cases hwriting
  obtain ⟨created', handle, -, hopen, -, hcreates⟩ := create_of_not_refused hpath.short.le haccepted
  cases hcreate.symm.trans (hcreates _)
  simp only [not_failed_S_OK, if_false] at hwriting
  obtain ⟨⟨hrWrite, total⟩, writes, _, hloop, hclosing, rfl⟩ :=
    Program.exists_of_bind_eq_returned hwriting
  have hok : ¬ FAILED hrWrite := by
    intro hfailed
    simp only [hfailed, if_true] at hclosing
    cases hclosing
  simp only [hok, if_false] at hclosing
  obtain ⟨closed, _, _, hclose, hbuilding, rfl⟩ := Program.exists_of_bind_eq_returned hclosing
  cases hclose.symm.trans (CTempFile.close_of_open hopen _)
  cases hbuild : processor.buildArguments pwszSubjectKeyIdentifier pwszSerialNumber o (.str path) with
  | error fault =>
      rw [hbuild, Program.lift_error_bind_apply] at hbuilding
      cases hbuilding
  | ok built =>
      rw [hbuild, Program.lift_ok_bind_apply] at hbuilding
      obtain ⟨-, rfl⟩ := Prod.mk.inj hbuilding
      have hempty : applyAction (applyAction files (.getTempFileName path)) (.createFile path handle)
          path = some [] := Function.update_self _ _ _
      have hwritten := written_of_writeLoop hopen hempty hwhole hloop hok
      rw [replay_append, replay_append, replay_append]
      exact hwritten

theorem createProcess_notMem_of_prepare {ending : Ending Fault
    ((HRESULT × CTempFile) × Option (List LPCWSTR × LPCWSTR))}
    (hprepare : processor.prepare pwszSubjectKeyIdentifier pwszSerialNumber bufRawCert o files
      = (ending, actions)) (text : LPCWSTR) (created : Bool) :
    .createProcess text created ∉ actions := by
  have hopening : ∀ {path handle writes}, Opened o files path handle writes →
      .createProcess text created ∉ openingActions path handle writes := by
    intro path handle writes hopened hmem
    rcases hopened.cases hmem with h | h | ⟨piece, h⟩ <;> cases h
  cases prepareRun_of_prepare hprepare with
  | noTempFile => simp
  | refused => simp
  | writing _ _ _ _ _ hopened => exact hopening hopened
  | notWritten _ _ _ _ _ _ hopened => exact hopening hopened
  | argumentsFaulted _ _ _ _ hopened => simp [hopening hopened]
  | notBuilt _ _ _ _ _ _ hopened => simp [hopening hopened]
  | ready _ _ _ _ _ _ hopened => simp [hopening hopened]

/-- After its body `NotifyCertIssued` runs the destructor of the temp file, and nothing else. -/
theorem exists_finish_of_returned
    (hbody : processor.writeAndLaunch pwszSubjectKeyIdentifier pwszSerialNumber bufRawCert o files
      = (.returned (hr, objTempFile), actions)) :
    ∃ finish, (processor.notifyCertIssued pwszSubjectKeyIdentifier pwszSerialNumber bufRawCert o files).2
        = actions ++ finish ∧ ∀ action ∈ finish, objTempFile.Destroys action := by
  have hfinish := (objTempFile.destroy_emits o.deleteFile (replay files actions)).1
  refine ⟨_, ?_, hfinish⟩
  rw [notifyCertIssued, Program.bind_of_returned hbody]
  exact congrArg (actions ++ ·) (congrArg Prod.snd (Program.bind_pure_apply _ _ fun _ => hr))

variable (processor pwszSubjectKeyIdentifier pwszSerialNumber bufRawCert o files)

/-- The notification gets to `RunProcess` with these arguments, and from then on touches no file but to
delete its own. -/
structure Launches (path : WStr) (bufArgs : List LPCWSTR) (prepared launched : List Action) : Prop where
  named : TempPath o files path
  arguments : LaunchesWith processor pwszSubjectKeyIdentifier pwszSerialNumber o path bufArgs
  prepare : ∃ hr objTempFile,
    processor.prepare pwszSubjectKeyIdentifier pwszSerialNumber bufRawCert o files
      = (.returned ((hr, objTempFile), some (bufArgs, .str path)), prepared)
  actions : (processor.notifyCertIssued pwszSubjectKeyIdentifier pwszSerialNumber bufRawCert o files).2
    = prepared ++ launched
  launched : ∀ action ∈ launched, action.touches = none ∨ ∃ deleted, action = .deleteFile path deleted

variable {processor pwszSubjectKeyIdentifier pwszSerialNumber bufRawCert o files}

theorem launches_of_prepare {bufArgs : List LPCWSTR} {pwszTempFile : LPCWSTR} {prepared : List Action}
    (hprepare : processor.prepare pwszSubjectKeyIdentifier pwszSerialNumber bufRawCert o files
      = (.returned ((hr, objTempFile), some (bufArgs, pwszTempFile)), prepared)) :
    ∃ path launched, Launches processor pwszSubjectKeyIdentifier pwszSerialNumber bufRawCert o files
      path bufArgs prepared launched := by
  have hbody := writeAndLaunch_of_ready hprepare
  cases prepareRun_of_prepare hprepare with
  | ready path handle writes _ _ _ hopened howns hclosed hpreserve hlaunch =>
  rcases hrun : processor.runAndKeep o objTempFile bufArgs (.str path) (replay files
    (openingActions path handle writes ++ [.closeHandle handle])) with ⟨ending, calls⟩
  rw [hrun] at hbody
  have hcalls : ∀ action ∈ calls, action.touches = none := by
    rw [runAndKeep_eq] at hrun
    obtain ⟨-, rfl⟩ := Prod.mk.inj hrun
    intro action hmem
    exact ((runProcess_run _ _ _ _ _ _).leavesFile.untouched action hmem).1
  cases ending with
  | running =>
      refine ⟨path, calls, hopened.named, hlaunch, ⟨hr, objTempFile, hprepare⟩, ?_, ?_⟩
      · rw [notifyCertIssued_of_running hbody]
      · exact fun action hmem => Or.inl (hcalls action hmem)
  | faulted fault =>
      refine ⟨path, calls, hopened.named, hlaunch, ⟨hr, objTempFile, hprepare⟩, ?_, ?_⟩
      · rw [notifyCertIssued_of_faulted hbody]
      · exact fun action hmem => Or.inl (hcalls action hmem)
  | returned result =>
      obtain ⟨hrRun, objTempFile'⟩ := result
      have howned : objTempFile'.Owns path := by
        rcases (runAndKeep_returned hrun).1 with rfl | rfl
        · exact howns
        · exact howns
      obtain ⟨finish, hactions, hfinish⟩ := exists_finish_of_returned hbody
      refine ⟨path, calls ++ finish, hopened.named, hlaunch, ⟨hr, objTempFile, hprepare⟩, ?_, ?_⟩
      · rw [hactions, List.append_assoc]
      · rw [List.forall_mem_append]
        refine ⟨fun action hmem => Or.inl (hcalls action hmem), ?_⟩
        intro action hmem
        rcases hfinish action hmem with ⟨handle, rfl⟩ | ⟨path', deleted, howned', rfl⟩
        · exact Or.inl rfl
        · obtain rfl := LPCWSTR.str.inj (howned.symm.trans howned')
          exact Or.inr ⟨deleted, rfl⟩

theorem launches_of_created {text : LPCWSTR} {created : Bool}
    (hmem : .createProcess text created
      ∈ (processor.notifyCertIssued pwszSubjectKeyIdentifier pwszSerialNumber bufRawCert o files).2) :
    ∃ path bufArgs prepared launched, Launches processor pwszSubjectKeyIdentifier pwszSerialNumber
      bufRawCert o files path bufArgs prepared launched := by
  rcases hprepare : processor.prepare pwszSubjectKeyIdentifier pwszSerialNumber bufRawCert o files with
    ⟨ending, prepared⟩
  have hnotPrepared := createProcess_notMem_of_prepare hprepare text created
  cases ending with
  | running =>
      rw [notifyCertIssued_of_running (writeAndLaunch_of_running hprepare)] at hmem
      exact absurd hmem hnotPrepared
  | faulted fault =>
      rw [notifyCertIssued_of_faulted (writeAndLaunch_of_faulted hprepare)] at hmem
      exact absurd hmem hnotPrepared
  | returned result =>
      obtain ⟨⟨hr, objTempFile⟩, launch⟩ := result
      cases launch with
      | none =>
          have hbody : processor.writeAndLaunch pwszSubjectKeyIdentifier pwszSerialNumber bufRawCert o
              files = (.returned (hr, objTempFile), prepared ++ []) := by
            rw [writeAndLaunch_eq]
            exact Program.bind_of_returned hprepare
          obtain ⟨finish, hactions, hfinish⟩ := exists_finish_of_returned hbody
          rw [hactions, List.append_nil] at hmem
          rcases List.mem_append.mp hmem with hmem | hmem
          · exact absurd hmem hnotPrepared
          · rcases hfinish _ hmem with ⟨handle, h⟩ | ⟨path, deleted, -, h⟩ <;> cases h
      | some launch =>
          obtain ⟨path, launched, hlaunches⟩ := launches_of_prepare hprepare
          exact ⟨path, launch.1, prepared, launched, hlaunches⟩

/-- From the creation of the process on, the file holds the certificate until it is deleted, whatever
touches no file may follow. -/
theorem Launches.written {path : WStr} {bufArgs : List LPCWSTR} {prepared launched reported done :
      List Action} {text : LPCWSTR} {created : Bool}
    (h : Launches processor pwszSubjectKeyIdentifier pwszSerialNumber bufRawCert o files path bufArgs
      prepared launched) (hwhole : WritesWhole o bufRawCert)
    (hreported : ∀ action ∈ reported, action.touches = none)
    (hinitial : done <+: prepared ++ launched ++ reported) (hmem : .createProcess text created ∈ done)
    (hkept : ∀ deleted, .deleteFile path deleted ∉ done) :
    replay files done path = some bufRawCert := by
  obtain ⟨hr, objTempFile, hprepare⟩ := h.prepare
  have hwritten := written_of_prepare hwhole hprepare h.named
  rw [List.append_assoc] at hinitial
  rcases List.prefix_or_prefix_of_prefix hinitial (List.prefix_append prepared _) with hshort | ⟨rest, rfl⟩
  · exact absurd (hshort.subset hmem) (createProcess_notMem_of_prepare hprepare text created)
  rw [List.prefix_append_right_inj] at hinitial
  rw [replay_append]
  refine Eq.trans (replay_of_not_touches ?_) hwritten
  intro action hrest htouches
  rcases List.mem_append.mp (hinitial.subset hrest) with hlaunched | hlaunched
  · rcases h.launched action hlaunched with hnone | ⟨deleted, rfl⟩
    · rw [hnone] at htouches
      cases htouches
    · exact hkept deleted (List.mem_append_right _ hrest)
  · rw [hreported action hlaunched] at htouches
    cases htouches

end Launch

section NotifyRun

variable {processor : CEventProcessor} {pwszSubjectKeyIdentifier pwszSerialNumber : LPCWSTR}
  {bufRawCert : List BYTE} {o : ProcessorOutcomes} {files : FileSystem}

theorem not_saysPreserved_of_prepares {own : WStr} {actions : List Action}
    (hprepares : ∀ action ∈ actions, action.Prepares own) (path : WStr) :
    ¬ ∃ action ∈ actions, action.SaysPreserved path := by
  rintro ⟨action, hmem, htells⟩
  exact (hprepares action hmem).saysNothing path htells

/-- Once an event has said that the file is preserved, nothing touches it. -/
theorem NotifyRun.untouched_of_saysPreserved {ending : Ending Fault HRESULT}
    {actions done rest : List Action} {path : WStr}
    (h : NotifyRun processor pwszSubjectKeyIdentifier pwszSerialNumber bufRawCert o files ending actions)
    (hsplit : actions = done ++ rest) (htells : ∃ action ∈ done, action.SaysPreserved path) :
    .getTempFileName path ∈ done ∧ ∀ action ∈ rest, action.touches = none := by
  obtain ⟨action, hmem, htells⟩ := htells
  have hsaid : ∃ action ∈ actions, action.SaysPreserved path :=
    ⟨action, hsplit ▸ List.mem_append_left _ hmem, htells⟩
  have hclosing : ∀ {path handle writes}, Opened o files path handle writes →
      ∀ action ∈ openingActions path handle writes ++ [.closeHandle handle], action.Prepares path := by
    intro path handle writes hopened
    exact List.forall_mem_append.mpr
      ⟨hopened.prepares, List.forall_mem_singleton.mpr (prepares_closeHandle path handle)⟩
  cases h with
  | noTempFile hr hfailed => exact absurd hsaid (by simp)
  | notOpened own hr hnamed hfailed =>
      have hprepares := List.forall_mem_singleton.mpr (prepares_getTempFileName own)
      exact absurd hsaid (not_saysPreserved_of_prepares hprepares path)
  | writing own handle writes objTempFile filesOpen hopened hopen hloop =>
      exact absurd hsaid (not_saysPreserved_of_prepares hopened.prepares path)
  | notLaunched own handle writes hr hopened hfailed =>
      have hprepares := List.forall_mem_append.mpr ⟨hopened.prepares, List.forall_mem_cons.mpr
        ⟨prepares_closeHandle own handle,
          List.forall_mem_singleton.mpr (prepares_deleteFile own o.deleteFile)⟩⟩
      exact absurd hsaid (not_saysPreserved_of_prepares hprepares path)
  | launchFaulted own handle writes fault hopened hfault =>
      exact absurd hsaid (not_saysPreserved_of_prepares (hclosing hopened) path)
  | preserved own handle writes bufArgs ending calls hopened hlaunch hrun hkeep =>
      have hleaves := hrun.leavesFile.untouched
      have hnot := not_saysPreserved_of_prepares (hclosing hopened) path
      rw [List.append_cons] at hsplit
      rcases List.append_eq_append_iff.mp hsplit with ⟨called, rfl, rfl⟩ | ⟨opening, heq, -⟩
      · have hcalled : action ∈ called := by
          exact (List.mem_append.mp hmem).resolve_left fun hmem => hnot ⟨action, hmem, htells⟩
        obtain rfl := ((hleaves action (List.mem_append_left _ hcalled)).2 path htells).1
        refine ⟨by simp [openingActions], ?_⟩
        intro action hmem
        exact (hleaves action (List.mem_append_right _ hmem)).1
      · refine absurd ⟨action, ?_, htells⟩ hnot
        rw [heq]
        exact List.mem_append_left _ hmem
  | deleted own handle writes bufArgs hr calls hopened hlaunch hrun hok =>
      -- the event would make the caller preserve the file, and it did not
      obtain ⟨action, hmem, htells⟩ := hsaid
      rcases List.mem_append.mp hmem with hmem | hmem
      · have hkeeps := ((hrun.leavesFile.body_cases hopened action hmem).2.2 path htells).2
        rcases hkeeps hr 0 rfl with hfailed | hcode
        · exact absurd hfailed hok
        · exact absurd rfl hcode
      · rw [List.mem_singleton.mp hmem] at htells
        exact absurd htells ((prepares_deleteFile own o.deleteFile).saysNothing path)

end NotifyRun

end CEventProcessor

namespace CPMICertExit

/-- What a notification does: nothing, or what the event processor does with the certificate, and then
perhaps the report of its failure. -/
theorem notifyCall_cases (exit : CPMICertExit) (call : NotifyCall) (files : FileSystem) :
    ∃ body reported, (exit.notifyCall call files).2 = body ++ reported
      ∧ (∀ action ∈ reported, action.Silent ∧ ∀ text created, action ≠ .createProcess text created)
      ∧ (body = [] ∨ ∃ cert, exit.Reaches call cert ∧ body
        = (cert.objEventProcessor.notifyCertIssued cert.pwszSubjectKeyIdentifier cert.pwszSerialNumber
            cert.bufRawCert call.outcomes.processor files).2) := by
  have hdispatch : (exit.dispatch call.exitEvent call.context call.outcomes files).2 = []
      ∨ ∃ cert, exit.Reaches call cert
        ∧ (exit.dispatch call.exitEvent call.context call.outcomes files).2
          = (cert.objEventProcessor.notifyCertIssued cert.pwszSubjectKeyIdentifier cert.pwszSerialNumber
            cert.bufRawCert call.outcomes.processor files).2 := by
    rcases exit.dispatch_cases call.exitEvent call.context call.outcomes files with
      ⟨fault, -, -, hrun⟩ | ⟨hr, -, -, hrun⟩ | ⟨cert, hissued, hinit, hread, hrun⟩
    · exact Or.inl (congrArg Prod.snd hrun)
    · exact Or.inl (congrArg Prod.snd hrun)
    · exact Or.inr ⟨cert, ⟨hissued, hinit, hread⟩, congrArg Prod.snd hrun⟩
  rcases hrun : exit.dispatch call.exitEvent call.context call.outcomes files with ⟨ending, body⟩
  rw [hrun] at hdispatch
  rcases exit.notify_cases hrun with ⟨hr, reportEnding, reported, -, -, hmade, hnotify⟩ | ⟨-, hnotify⟩
  · refine ⟨body, reported, congrArg Prod.snd hnotify, ?_, hdispatch⟩
    intro action hmem
    refine ⟨silent_of_made hmade (by decide) (by decide) action hmem, ?_⟩
    rintro text created rfl
    exact CEventProcessor.createProcess_notMem_of_made hmade hmem
  · exact ⟨body, [], (congrArg Prod.snd hnotify).trans (List.append_nil _).symm,
      List.forall_mem_nil _, hdispatch⟩

theorem untouched_of_saysPreserved (exit : CPMICertExit) {call : NotifyCall} {files : FileSystem}
    {done rest : List Action} {path : WStr} (hsplit : (exit.notifyCall call files).2 = done ++ rest)
    (htells : ∃ action ∈ done, action.SaysPreserved path) :
    .getTempFileName path ∈ done ∧ ∀ action ∈ rest, action.touches = none := by
  obtain ⟨body, reported, hactions, hreported, hbody⟩ := exit.notifyCall_cases call files
  obtain ⟨action, hmem, htells⟩ := htells
  have hnotReported : action ∉ reported := fun hmem => (hreported action hmem).1.2 path htells
  rw [hsplit] at hactions
  have hbodyMem : action ∈ body := by
    have hall : action ∈ body ++ reported := hactions ▸ List.mem_append_left _ hmem
    exact (List.mem_append.mp hall).resolve_right hnotReported
  rcases hbody with rfl | ⟨cert, -, hbody⟩
  · cases hbodyMem
  have hrun := CEventProcessor.notifyCertIssued_run cert.objEventProcessor
    cert.pwszSubjectKeyIdentifier cert.pwszSerialNumber cert.bufRawCert call.outcomes.processor files
  rw [← hbody] at hrun
  rcases List.append_eq_append_iff.mp hactions with ⟨middle, rfl, rfl⟩ | ⟨middle, rfl, rfl⟩
  · obtain ⟨hnamed, hmiddle⟩ := hrun.untouched_of_saysPreserved rfl ⟨action, hmem, htells⟩
    refine ⟨hnamed, List.forall_mem_append.mpr ⟨hmiddle, ?_⟩⟩
    exact fun action hmem => (hreported action hmem).1.1
  · obtain ⟨hnamed, -⟩ := hrun.untouched_of_saysPreserved (List.append_nil body).symm
      ⟨action, hbodyMem, htells⟩
    refine ⟨List.mem_append_left _ hnamed, ?_⟩
    exact fun action hmem => (hreported action (List.mem_append_right _ hmem)).1.1

end CPMICertExit

end PmiExitModule
