import PmiExitModule.Proof.Accounting
import PmiExitModule.Proof.PreservedFiles

/-!
# What notifications leave behind

The failures of `CTempFile::Create`, and no others, leave the file behind that `GetTempFileNameW` has
created. Where `Create` takes the file over, the object owns the only file that was touched, so its
destructor deletes the file unless the process was seen to fail.
-/

namespace PmiExitModule

open Generic

namespace CEventProcessor

section Leftovers

variable (processor : CEventProcessor) (pwszSubjectKeyIdentifier pwszSerialNumber : LPCWSTR)
  (bufRawCert : List BYTE) (o : ProcessorOutcomes) (files : FileSystem)

/-- When the notification returns without having called `RunProcess`, the file that `GetTempFileNameW`
created for it is gone. -/
def LeavesNothing : Prop :=
  ∀ prepared actions,
    processor.prepare pwszSubjectKeyIdentifier pwszSerialNumber bufRawCert o files
        = (.returned (prepared, none), actions) →
    ∀ path,
      .getTempFileName path ∈ (processor.notifyCertIssued pwszSubjectKeyIdentifier pwszSerialNumber
        bufRawCert o files).2 →
      replay files (processor.notifyCertIssued pwszSubjectKeyIdentifier pwszSerialNumber bufRawCert o
        files).2 path = none

/-- The notification told its temp file of this path to preserve the file. -/
def Preserves (path : WStr) : Prop :=
  ∃ hr objTempFile actions,
    processor.writeAndLaunch pwszSubjectKeyIdentifier pwszSerialNumber bufRawCert o files
        = (.returned (hr, objTempFile), actions)
      ∧ objTempFile.fPreserve = true ∧ objTempFile.Owns path

variable {processor pwszSubjectKeyIdentifier pwszSerialNumber bufRawCert o files} {path : WStr}
  {hr : HRESULT} {objTempFile : CTempFile} {actions finish : List Action}

theorem replay_deleteFile (files : FileSystem) (actions : List Action) (path : WStr) :
    replay files (actions ++ [Action.deleteFile path true]) path = none := by
  rw [replay_append]
  exact Function.update_self _ _ _

/-! ### Ownership -/

/-- The object owns the one file that was touched, under a name that was not in use. -/
structure Holds (files : FileSystem) (objTempFile : CTempFile) (actions : List Action)
    (path : WStr) : Prop where
  owns : objTempFile.Owns path
  fresh : files path = none
  touches : ∀ action ∈ actions, ∀ p, action.touches = some p → p = path

namespace Holds

theorem of_prepares (howns : objTempFile.Owns path) (hfresh : files path = none)
    (hactions : ∀ action ∈ actions, action.Prepares path) : Holds files objTempFile actions path :=
  ⟨howns, hfresh, fun action hmem => (hactions action hmem).touches⟩

theorem untouched (h : Holds files objTempFile actions path) {p : WStr} (hp : p ≠ path) :
    replay files actions p = files p := by
  apply replay_of_not_touches
  intro action hmem htouches
  exact hp (h.touches action hmem p htouches)

theorem append (h : Holds files objTempFile actions path)
    (hfinish : ∀ action ∈ finish, action.Prepares path) :
    Holds files objTempFile (actions ++ finish) path :=
  ⟨h.owns, h.fresh,
    List.forall_mem_append.mpr ⟨h.touches, fun action hmem => (hfinish action hmem).touches⟩⟩

theorem destroyed (h : Holds files objTempFile actions path)
    (hpreserve : objTempFile.fPreserve = false) :
    ∃ finish, (∀ state, objTempFile.destroy true state = (.returned (), finish))
      ∧ Holds files objTempFile (actions ++ finish) path
      ∧ replay files (actions ++ finish) path = none := by
  have hdelete := prepares_deleteFile path true
  cases hfile : objTempFile.hFile with
  | none =>
      refine ⟨[.deleteFile path true], CTempFile.destroy_of_closed h.owns hfile hpreserve true,
        h.append (List.forall_mem_singleton.mpr hdelete), replay_deleteFile _ _ _⟩
  | some openFile =>
      refine ⟨[.closeHandle openFile.handle, .deleteFile path true],
        CTempFile.destroy_of_open h.owns hfile hpreserve true, h.append ?_, ?_⟩
      · exact List.forall_mem_cons.mpr
          ⟨prepares_closeHandle path _, List.forall_mem_singleton.mpr hdelete⟩
      · rw [List.append_cons]
        exact replay_deleteFile _ _ _

end Holds

/-- What the preparation leaves in its temp file when it returns: nothing when no file was created, and
otherwise the file, not preserved, and closed if the process comes next. -/
theorem holds_of_prepared (htaken : Named o files → ¬ Refused o)
    {launch : Option (List LPCWSTR × LPCWSTR)}
    (hprepare : processor.prepare pwszSubjectKeyIdentifier pwszSerialNumber bufRawCert o files
      = (.returned ((hr, objTempFile), launch), actions)) :
    (objTempFile = {} ∧ launch = none ∧ actions = []) ∨
    ∃ path, Holds files objTempFile actions path ∧ objTempFile.fPreserve = false
      ∧ (launch = none ∨ objTempFile.hFile = none ∧ ∃ bufArgs, launch = some (bufArgs, .str path)) := by
  have hclosing : ∀ {path handle writes}, Opened o files path handle writes →
      ∀ action ∈ openingActions path handle writes ++ [.closeHandle handle], action.Prepares path := by
    intro path handle writes hopened
    exact List.forall_mem_append.mpr
      ⟨hopened.prepares, List.forall_mem_singleton.mpr (prepares_closeHandle path handle)⟩
  cases prepareRun_of_prepare hprepare with
  | noTempFile => exact Or.inl ⟨rfl, rfl, rfl⟩
  | refused path hr hfailed halloc hnamed hrefused =>
      exact absurd hrefused (htaken ⟨halloc, path, hnamed⟩)
  | notWritten path handle writes _ _ hfailed hopened howns hopen hpreserve =>
      exact Or.inr ⟨path, .of_prepares howns hopened.named.fresh hopened.prepares, hpreserve, Or.inl rfl⟩
  | notBuilt path handle writes _ _ hfailed hopened howns hclosed hpreserve =>
      exact Or.inr ⟨path, .of_prepares howns hopened.named.fresh (hclosing hopened), hpreserve,
        Or.inl rfl⟩
  | ready path handle writes _ _ bufArgs hopened howns hclosed hpreserve hlaunch =>
      exact Or.inr ⟨path, .of_prepares howns hopened.named.fresh (hclosing hopened), hpreserve,
        Or.inr ⟨hclosed, bufArgs, rfl⟩⟩

/-! ### The preparation leaves no file, and when -/

theorem leavesNothing_of_not_refused (hdelete : o.deleteFile = true)
    (htaken : Named o files → ¬ Refused o) :
    processor.LeavesNothing pwszSubjectKeyIdentifier pwszSerialNumber bufRawCert o files := by
  rintro ⟨hr, objTempFile⟩ actions hprepare path hmem
  rcases holds_of_prepared htaken hprepare with ⟨rfl, -, rfl⟩ | ⟨owned, hholds, hpreserve, -⟩
  · rw [notifyCertIssued_of_prepared hprepare (CTempFile.destroy_fresh _)] at hmem
    cases hmem
  · obtain ⟨finish, hdestroy, hfinished, hgone⟩ := hholds.destroyed hpreserve
    rw [← hdelete] at hdestroy
    rw [notifyCertIssued_of_prepared hprepare hdestroy] at hmem ⊢
    obtain rfl : path = owned := hfinished.touches _ hmem path rfl
    exact hgone

theorem not_leavesNothing_of_refused (hnamed : Named o files) (hrefused : Refused o) :
    ¬ processor.LeavesNothing pwszSubjectKeyIdentifier pwszSerialNumber bufRawCert o files := by
  intro hleaves
  rcases hprepare : processor.prepare pwszSubjectKeyIdentifier pwszSerialNumber bufRawCert o files with
    ⟨ending, actions⟩
  cases prepareRun_of_prepare hprepare with
  | noTempFile _ _ hnotNamed => exact hnotNamed hnamed
  | refused path hr hfailed halloc hpath _ =>
      have hgone := hleaves _ _ hprepare path
      rw [notifyCertIssued_of_prepared hprepare (CTempFile.destroy_fresh _), List.append_nil] at hgone
      have hthere : replay files [Action.getTempFileName path] path = some [] :=
        Function.update_self _ _ _
      rw [hgone List.mem_cons_self] at hthere
      cases hthere
  | writing _ _ _ _ _ hopened => exact hopened.taken hrefused
  | notWritten _ _ _ _ _ _ hopened => exact hopened.taken hrefused
  | argumentsFaulted _ _ _ _ hopened => exact hopened.taken hrefused
  | notBuilt _ _ _ _ _ _ hopened => exact hopened.taken hrefused
  | ready _ _ _ _ _ _ hopened => exact hopened.taken hrefused

/-- **One notification.** Its preparation leaves no file exactly when `CTempFile::Create` takes over the
file that was created. -/
theorem leavesNothing_iff_taken (hdelete : o.deleteFile = true) :
    processor.LeavesNothing pwszSubjectKeyIdentifier pwszSerialNumber bufRawCert o files
      ↔ (Named o files → ¬ Refused o) := by
  constructor
  · intro hleaves hnamed hrefused
    exact not_leavesNothing_of_refused hnamed hrefused hleaves
  · exact leavesNothing_of_not_refused hdelete

/-! ### What a notification leaves -/

theorem runAndKeep_returned {bufArgs : List LPCWSTR} {objTempFile' : CTempFile}
    (h : processor.runAndKeep o objTempFile bufArgs (.str path) files
      = (.returned (hr, objTempFile'), actions)) :
    (objTempFile' = objTempFile ∨ objTempFile' = objTempFile.preserve)
      ∧ ∀ action ∈ actions, action.touches = none := by
  have hleaves := (runProcess_run processor bufArgs (.str path) o.process o.events files).leavesFile
  rw [runAndKeep_eq] at h
  obtain ⟨hending, rfl⟩ := Prod.mk.inj h
  refine ⟨?_, fun action hmem => (hleaves.untouched action hmem).1⟩
  rcases hprocess : (processor.runProcess bufArgs (.str path) 0 o.process o.events files).1 with
    ⟨hrRun, dwExitCode⟩ | fault | _
  · rw [hprocess] at hending
    obtain ⟨-, rfl⟩ := Prod.mk.inj (Ending.returned.inj hending)
    by_cases hkeep : FAILED hrRun ∨ dwExitCode ≠ 0
    · exact Or.inr (if_pos hkeep)
    · exact Or.inl (if_neg hkeep)
  · rw [hprocess] at hending
    cases hending
  · rw [hprocess] at hending
    cases hending

/-- When the body returns, its temp file owns all that was touched, and is closed if it is preserved. -/
theorem holds_of_returned (htaken : Named o files → ¬ Refused o)
    (hbody : processor.writeAndLaunch pwszSubjectKeyIdentifier pwszSerialNumber bufRawCert o files
      = (.returned (hr, objTempFile), actions)) :
    (objTempFile = {} ∧ actions = []) ∨ ∃ path, Holds files objTempFile actions path
      ∧ (objTempFile.fPreserve = true → objTempFile.hFile = none) := by
  rw [writeAndLaunch_eq] at hbody
  obtain ⟨⟨⟨hrPrepared, prepared⟩, launch⟩, before, after, hprepare, hrest, rfl⟩ :=
    Program.exists_of_bind_eq_returned hbody
  rcases holds_of_prepared htaken hprepare with ⟨rfl, rfl, rfl⟩ | ⟨path, hholds, hpreserve, hlaunch⟩
  · cases hrest
    exact Or.inl ⟨rfl, rfl⟩
  right
  refine ⟨path, ?_⟩
  rcases hlaunch with rfl | ⟨hclosed, bufArgs, rfl⟩
  · cases hrest
    rw [List.append_nil]
    refine ⟨hholds, ?_⟩
    intro h
    rw [hpreserve] at h
    cases h
  · obtain ⟨hkept, hcalls⟩ := runAndKeep_returned hrest
    have htouches : ∀ action ∈ before ++ after, ∀ p, action.touches = some p → p = path := by
      refine List.forall_mem_append.mpr ⟨hholds.touches, ?_⟩
      intro action hmem p htouches
      rw [hcalls action hmem] at htouches
      cases htouches
    rcases hkept with rfl | rfl
    · exact ⟨⟨hholds.owns, hholds.fresh, htouches⟩, fun _ => hclosed⟩
    · exact ⟨⟨hholds.owns, hholds.fresh, htouches⟩, fun _ => hclosed⟩

theorem preserves_of_left (hdelete : o.deleteFile = true) (htaken : Named o files → ¬ Refused o)
    (hrun : processor.notifyCertIssued pwszSubjectKeyIdentifier pwszSerialNumber bufRawCert o files
      = (.returned hr, actions)) (hleft : (replay files actions path).isSome) :
    (files path).isSome
      ∨ processor.Preserves pwszSubjectKeyIdentifier pwszSerialNumber bufRawCert o files path := by
  obtain ⟨⟨hrBody, objTempFile⟩, body, finish, hbody, hrest, rfl⟩ :=
    Program.exists_of_bind_eq_returned hrun
  obtain ⟨_, finish, _, hdestroy, hreturn, rfl⟩ := Program.exists_of_bind_eq_returned hrest
  cases hreturn
  rw [List.append_nil] at hleft
  rcases holds_of_returned htaken hbody with ⟨rfl, rfl⟩ | ⟨owned, hholds, hclosed⟩
  · cases hdestroy
    exact Or.inl hleft
  cases hpreserve : objTempFile.fPreserve with
  | true =>
      rw [CTempFile.destroy_of_preserved (hclosed hpreserve) hpreserve] at hdestroy
      cases hdestroy
      rw [List.append_nil] at hleft
      by_cases hpath : path = owned
      · exact Or.inr ⟨_, objTempFile, body, hbody, hpreserve, hpath ▸ hholds.owns⟩
      · exact Or.inl (hholds.untouched hpath ▸ hleft)
  | false =>
      obtain ⟨finish', hruns, hfinished, hgone⟩ := hholds.destroyed hpreserve
      rw [hdelete, hruns] at hdestroy
      cases hdestroy
      by_cases hpath : path = owned
      · rw [hpath, hgone] at hleft
        cases hleft
      · exact Or.inl (hfinished.untouched hpath ▸ hleft)

end Leftovers

end CEventProcessor

/-! ### Histories -/

namespace CPMICertExit

open CEventProcessor

variable (exit : CPMICertExit) (call : NotifyCall) (files : FileSystem)

/-- If the notification creates a temp file, `CTempFile::Create` takes it over. -/
def TakesOver : Prop :=
  (∃ cert, exit.Reaches call cert) → Named call.outcomes.processor files →
    ¬ Refused call.outcomes.processor

/-- The file of this path was preserved by the notification, or the notification named it and never
returned. -/
def Leaves (path : WStr) : Prop :=
  ((∀ hr, (exit.notifyCall call files).1 ≠ .returned hr)
      ∧ .getTempFileName path ∈ (exit.notifyCall call files).2) ∨
    ∃ cert, exit.Reaches call cert ∧ cert.objEventProcessor.Preserves cert.pwszSubjectKeyIdentifier
      cert.pwszSerialNumber cert.bufRawCert call.outcomes.processor files path

variable {exit call files} {path : WStr}

theorem leaves_of_dispatched (hdelete : call.outcomes.processor.deleteFile = true)
    (htaken : exit.TakesOver call files) {hr : HRESULT} {actions : List Action}
    (hrun : exit.dispatch call.exitEvent call.context call.outcomes files = (.returned hr, actions))
    (hleft : (replay files actions path).isSome) :
    (files path).isSome ∨ exit.Leaves call files path := by
  rcases exit.dispatch_cases call.exitEvent call.context call.outcomes files with
    ⟨fault, -, -, hdispatch⟩ | ⟨hr', -, -, hdispatch⟩ | ⟨cert, hissued, hinit, hread, hdispatch⟩
  · rw [hrun] at hdispatch
    cases hdispatch
  · rw [hrun] at hdispatch
    cases hdispatch
    exact Or.inl hleft
  · have hreaches : exit.Reaches call cert := ⟨hissued, hinit, hread⟩
    exact (preserves_of_left hdelete (htaken ⟨cert, hreaches⟩) (hdispatch.symm.trans hrun) hleft).imp_right
      fun hpreserves => Or.inr ⟨cert, hreaches, hpreserves⟩

/-- **The step lemma.** -/
theorem leaves_of_left (hdelete : call.outcomes.processor.deleteFile = true)
    (htaken : exit.TakesOver call files)
    (hleft : (replay files (exit.notifyCall call files).2 path).isSome) :
    (files path).isSome ∨ exit.Leaves call files path := by
  by_cases hreturns : ∃ hr, (exit.notifyCall call files).1 = .returned hr
  swap
  · by_cases hnamed : .getTempFileName path ∈ (exit.notifyCall call files).2
    · exact Or.inr (Or.inl ⟨fun hr heq => hreturns ⟨hr, heq⟩, hnamed⟩)
    · have hspares := exit.notifyCall_sparesFiles call files
      rw [replay_of_not_touches fun action hmem h => hnamed (hspares.named action hmem path h)] at hleft
      exact Or.inl hleft
  obtain ⟨hr, hreturned⟩ := hreturns
  rcases hrun : exit.dispatch call.exitEvent call.context call.outcomes files with ⟨ending, actions⟩
  rcases exit.notify_cases hrun with ⟨hr', reportEnding, reported, rfl, -, hmade, hnotify⟩ | ⟨-, hnotify⟩
  · rw [notifyCall, hnotify] at hleft
    have huntouched : ∀ action ∈ reported, action.touches ≠ some path := by
      intro action hmem htouches
      rw [(silent_of_made hmade (by decide) (by decide) action hmem).1] at htouches
      cases htouches
    rw [replay_append, replay_of_not_touches huntouched] at hleft
    exact leaves_of_dispatched hdelete htaken hrun hleft
  · rw [notifyCall, hnotify] at hleft hreturned
    obtain rfl : ending = .returned hr := hreturned
    exact leaves_of_dispatched hdelete htaken hrun hleft

/-- **The run lemma.** -/
theorem leaves_of_left_after {calls : List NotifyCall}
    (hdelete : ∀ call ∈ calls, call.outcomes.processor.deleteFile = true)
    (htaken : ∀ before call after, calls = before ++ call :: after →
      exit.TakesOver call (stateAfter exit.notifyCall files before))
    (hleft : (stateAfter exit.notifyCall files calls path).isSome) :
    (files path).isSome ∨ ∃ before call after, calls = before ++ call :: after
      ∧ exit.Leaves call (stateAfter exit.notifyCall files before) path := by
  induction calls generalizing files with
  | nil => exact Or.inl hleft
  | cons call rest ih =>
      have hrest := ih (fun later hmem => hdelete later (List.mem_cons_of_mem _ hmem))
        (fun before later after heq => htaken (call :: before) later after (by rw [heq]; rfl)) hleft
      rcases hrest with hthere | ⟨before, later, after, rfl, hleaves⟩
      · have hcall := leaves_of_left (hdelete call List.mem_cons_self) (htaken [] call rest rfl) hthere
        exact hcall.imp_right fun hleaves => ⟨[], call, rest, rfl, hleaves⟩
      · exact Or.inr ⟨call :: before, later, after, rfl, hleaves⟩

/-- **No temp file is left behind, and when.** The preparation of a notification leaves no file exactly
when `CTempFile::Create` takes over the file that `GetTempFileNameW` created. In every history of
notifications whose files are all taken over, a file that is there at the end was there before the
first of them, was preserved by one of them, or was named by one that never returned. -/
theorem notify_leaves_preserved_files (processor : CEventProcessor)
    (pwszSubjectKeyIdentifier pwszSerialNumber : LPCWSTR) (bufRawCert : List BYTE)
    (o : ProcessorOutcomes) (files : FileSystem) (hdelete : o.deleteFile = true) :
    (processor.LeavesNothing pwszSubjectKeyIdentifier pwszSerialNumber bufRawCert o files
        ↔ (Named o files → ¬ Refused o)) ∧
    ∀ (exit : CPMICertExit) (calls : List NotifyCall),
      (∀ call ∈ calls, call.outcomes.processor.deleteFile = true) →
      (∀ before call after, calls = before ++ call :: after →
        exit.TakesOver call (stateAfter exit.notifyCall files before)) →
      ∀ path, (stateAfter exit.notifyCall files calls path).isSome →
        (files path).isSome ∨ ∃ before call after, calls = before ++ call :: after
          ∧ exit.Leaves call (stateAfter exit.notifyCall files before) path := by
  constructor
  · exact leavesNothing_iff_taken hdelete
  · intro exit calls hdeletes htaken path hleft
    exact leaves_of_left_after hdeletes htaken hleft

def failingProcess : NotifyCall :=
  let call := issuedCall ordinaryCA (smallRegistry 1) acceptingEvents
  { call with
    outcomes := { call.outcomes with
      processor := { succeedingProcessor [1, 2] with
        process := { CProcess.succeedingProcess with getExitCodeProcess := .ok 1 } } } }

theorem notify_leaves_preserved_files_example :
    (⟨{}, ⟨true⟩⟩ : CEventProcessor).LeavesNothing (.str exampleTempPath) (.str exampleTempPath) [1, 2]
        { succeedingProcessor [1, 2] with allocArgs := false } (fun _ => none)
      ∧ ∃ before call after, [failingProcess] = before ++ call :: after
        ∧ (⟨⟨true⟩⟩ : CPMICertExit).Leaves call (stateAfter (⟨⟨true⟩⟩ : CPMICertExit).notifyCall
            (fun _ => none) before) exampleTempPath := by
  obtain ⟨hleavesNothing, hhistory⟩ := notify_leaves_preserved_files ⟨{}, ⟨true⟩⟩ (.str exampleTempPath)
    (.str exampleTempPath) [1, 2] { succeedingProcessor [1, 2] with allocArgs := false } (fun _ => none)
    rfl
  constructor
  · apply hleavesNothing.mpr
    exact fun _ => not_refused rfl rfl
  · refine (hhistory ⟨⟨true⟩⟩ [failingProcess] (List.forall_mem_singleton.mpr rfl) ?_ exampleTempPath
      (by decide +kernel)).resolve_left Bool.false_ne_true
    rintro before call after heq - -
    obtain rfl : call = failingProcess := List.mem_singleton.mp (heq ▸ by simp)
    exact not_refused rfl rfl

/-- Another process holds the new temp file open, so that `CreateFileW` fails. -/
def sharingViolation : ProcessorOutcomes :=
  { succeedingProcessor [1, 2] with
    tempFile := { allocPath := some fun _ => NUL, createFile := .error ⟨32, by decide⟩ } }

/-- `DeleteFileW` would succeed, and it is not called: `Create` gave up the path. -/
theorem notifyCertIssued_leaves_file :
    sharingViolation.deleteFile = true
      ∧ (⟨{}, ⟨true⟩⟩ : CEventProcessor).notifyCertIssued (.str exampleTempPath) (.str exampleTempPath)
          [1, 2] sharingViolation (fun _ => none)
        = (.returned (HRESULT_FROM_WIN32 32), [.getTempFileName exampleTempPath])
      ∧ replay (fun _ => none : FileSystem) [Action.getTempFileName exampleTempPath] exampleTempPath
        = some []
      ∧ ¬ (⟨{}, ⟨true⟩⟩ : CEventProcessor).LeavesNothing (.str exampleTempPath) (.str exampleTempPath)
          [1, 2] sharingViolation (fun _ => none) := by
  refine ⟨rfl, by decide +kernel, by decide +kernel, ?_⟩
  apply not_leavesNothing_of_refused
  · exact ⟨nofun, exampleTempPath, _, rfl, by decide +kernel⟩
  · exact Or.inr ⟨_, rfl⟩

end CPMICertExit

end PmiExitModule
