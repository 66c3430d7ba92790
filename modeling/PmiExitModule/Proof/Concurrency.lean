import PmiExitModule.Proof.Launch
import PmiExitModule.Proof.Reads

/-!
# Notifications side by side

The module keeps no lock, and nothing keeps the CA from notifying it of the next certificate while it
still waits for the process of the last one. A notification looks at the files once, in the call of
`GetTempFileNameW` that names its own; from then on it touches that file only, and only until it has
deleted it. So notifications that run side by side, in any order of their calls, are programs on keys of
their own, and what each of them leaves in its file is what it would leave there alone.
-/

namespace PmiExitModule

open Generic

theorem actsLocally_touches : ActsLocally (ν := List BYTE) Action.touches where
  frame _ _ _ h := applyAction_of_not_touches h
  congr files files' action path h := by
    have hupdate : ∀ (p : WStr) (content content' : Option (List BYTE)),
        (path = p → content = content') →
        Function.update files p content path = Function.update files' p content' path := by
      intro p content content' hsame
      by_cases hp : path = p
      · subst hp
        rw [Function.update_self, Function.update_self, hsame rfl]
      · rw [Function.update_of_ne hp, Function.update_of_ne hp, h]
    cases action with
    | getTempFileName p => exact hupdate p _ _ fun _ => rfl
    | createFile p _ => exact hupdate p _ _ fun _ => rfl
    | writeFile _ p bytes =>
        apply hupdate p
        rintro rfl
        rw [h]
    | deleteFile p deleted =>
        cases deleted with
        | true => exact hupdate p _ _ fun _ => rfl
        | false => exact h
    | _ => exact h

/-! ### The file of a notification -/

/-- The action touches this file at most, and does not delete it. -/
def Action.KeepsFile (path : WStr) (action : Action) : Prop :=
  (∀ p, action.touches = some p → p = path) ∧ ∀ p deleted, action ≠ .deleteFile p deleted

theorem Action.keepsFile_of_untouched {path : WStr} {action : Action} (h : action.touches = none) :
    action.KeepsFile path := by
  constructor
  · intro p htouches
    rw [h] at htouches
    cases htouches
  · rintro p deleted rfl
    cases h

/-- The actions name this file first, touch no other, and do not touch it again once they have called
for its deletion. -/
def WorksOn (path : WStr) (actions : List Action) : Prop :=
  ∃ body tail, actions = .getTempFileName path :: (body ++ tail)
    ∧ (∀ action ∈ body, action.KeepsFile path)
    ∧ (tail = [] ∨ ∃ deleted rest, tail = .deleteFile path deleted :: rest
      ∧ ∀ action ∈ rest, action.touches = none)

namespace WorksOn

variable {path : WStr} {actions : List Action} {files : FileSystem}

theorem touches (h : WorksOn path actions) :
    ∀ action ∈ actions, ∀ p, action.touches = some p → p = path := by
  obtain ⟨body, tail, rfl, hbody, htail⟩ := h
  rw [List.forall_mem_cons, List.forall_mem_append]
  refine ⟨fun p h => (Option.some.inj h).symm, fun action hmem => (hbody action hmem).1, ?_⟩
  rcases htail with rfl | ⟨deleted, rest, rfl, hrest⟩
  · exact List.forall_mem_nil _
  · rw [List.forall_mem_cons]
    refine ⟨fun p h => (Option.some.inj h).symm, ?_⟩
    intro action hmem p h
    rw [hrest action hmem] at h
    cases h

/-- Actions that touch no file may follow. -/
theorem append (h : WorksOn path actions) {reported : List Action}
    (hreported : ∀ action ∈ reported, action.touches = none) :
    WorksOn path (actions ++ reported) := by
  obtain ⟨body, tail, rfl, hbody, rfl | ⟨deleted, rest, rfl, hrest⟩⟩ := h
  · refine ⟨body ++ reported, [], by simp, ?_, Or.inl rfl⟩
    exact List.forall_mem_append.mpr
      ⟨hbody, fun action hmem => Action.keepsFile_of_untouched (hreported action hmem)⟩
  · refine ⟨body, _, by simp, hbody, Or.inr ⟨deleted, rest ++ reported, rfl, ?_⟩⟩
    exact List.forall_mem_append.mpr ⟨hrest, hreported⟩

/-- Where the file is touched again it has not been deleted yet. -/
theorem notMem_of_touched (h : WorksOn path actions) {before after : List Action} {action : Action}
    (hsplit : actions = before ++ action :: after) (hne : before ≠ [])
    (htouches : action.touches = some path) :
    ∃ body, before = .getTempFileName path :: body
      ∧ ∀ p deleted, .deleteFile p deleted ∉ body := by
  obtain ⟨body, tail, heq, hbody, htail⟩ := h
  have hkept : ∀ p deleted, .deleteFile p deleted ∉ body := by
    intro p deleted hmem
    exact (hbody _ hmem).2 p deleted rfl
  obtain ⟨first, before, rfl⟩ := List.exists_cons_of_ne_nil hne
  rw [heq] at hsplit
  obtain ⟨rfl, hrest⟩ := List.cons.inj hsplit
  refine ⟨before, rfl, ?_⟩
  rcases List.append_eq_append_iff.mp hrest with ⟨middle, rfl, hmiddle⟩ | ⟨middle, rfl, -⟩
  · cases middle with
    | nil =>
        rw [List.append_nil]
        exact hkept
    | cons deletion middle =>
        -- the action would come after the deletion, where nothing touches the file
        rcases htail with rfl | ⟨deleted, rest, rfl, hafter⟩
        · cases hmiddle
        · obtain ⟨-, rfl⟩ := List.cons.inj hmiddle
          rw [hafter action (by simp)] at htouches
          cases htouches
  · intro p deleted hmem
    exact hkept p deleted (List.mem_append_left _ hmem)

theorem isPrivate (h : WorksOn path actions) (hfresh : files path = none) :
    Private Action.touches files actions where
  fresh action hmem p htouches := h.touches action hmem p htouches ▸ hfresh
  inUse := by
    intro before action after p hsplit hne htouches
    obtain rfl := h.touches action (hsplit ▸ by simp) p htouches
    obtain ⟨body, rfl, hkept⟩ := h.notMem_of_touched hsplit hne htouches
    have hnamed : (applyAction files (.getTempFileName p) p).isSome := by simp [applyAction]
    rw [replay_cons]
    exact replay_isSome hnamed (hkept p)

end WorksOn

theorem isPrivate_of_untouched {files : FileSystem} {actions : List Action}
    (h : ∀ action ∈ actions, action.touches = none) : Private Action.touches files actions where
  fresh action hmem path htouches := by
    rw [h action hmem] at htouches
    cases htouches
  inUse before action after path hsplit _ htouches := by
    rw [h action (hsplit ▸ by simp)] at htouches
    cases htouches

namespace CEventProcessor

section NotifyRun

variable {processor : CEventProcessor} {pwszSubjectKeyIdentifier pwszSerialNumber : LPCWSTR}
  {bufRawCert : List BYTE} {o : ProcessorOutcomes} {files : FileSystem}

theorem Opened.keepsFile {path : WStr} {handle : HANDLE} {writes : List Action}
    (hopened : Opened o files path handle writes) :
    ∀ action ∈ .createFile path handle :: writes, action.KeepsFile path := by
  intro action hmem
  have hmem := List.mem_cons_of_mem (.getTempFileName path) hmem
  constructor
  · exact (hopened.prepares action hmem).touches
  · intro p deleted heq
    exact hopened.not_deleted p deleted (heq ▸ hmem)

theorem NotifyRun.worksOn {ending : Ending Fault HRESULT} {actions : List Action}
    (h : NotifyRun processor pwszSubjectKeyIdentifier pwszSerialNumber bufRawCert o files ending
      actions) : actions = [] ∨ ∃ path, files path = none ∧ WorksOn path actions := by
  have hclose : ∀ path handle, (Action.closeHandle handle).KeepsFile path := by
    intro path handle
    exact Action.keepsFile_of_untouched rfl
  have hcalls : ∀ {path bufArgs ending calls},
      ProcessRun processor bufArgs (.str path) o.process o.events ending calls →
      ∀ action ∈ calls, action.KeepsFile path := by
    intro path bufArgs ending calls hrun action hmem
    exact Action.keepsFile_of_untouched (hrun.leavesFile.untouched action hmem).1
  cases h with
  | noTempFile hr hfailed => exact Or.inl rfl
  | notOpened path hr hnamed hfailed =>
      exact Or.inr ⟨path, hnamed.fresh, [], [], rfl, List.forall_mem_nil _, Or.inl rfl⟩
  | writing path handle writes objTempFile filesOpen hopened hopen hloop =>
      refine Or.inr ⟨path, hopened.named.fresh, _, [], ?_, hopened.keepsFile, Or.inl rfl⟩
      rw [List.append_nil]
      rfl
  | notLaunched path handle writes hr hopened hfailed =>
      refine Or.inr ⟨path, hopened.named.fresh, .createFile path handle :: writes
        ++ [.closeHandle handle], [.deleteFile path o.deleteFile], ?_, ?_,
        Or.inr ⟨o.deleteFile, [], rfl, List.forall_mem_nil _⟩⟩
      · rw [List.append_assoc]
        rfl
      · rw [List.forall_mem_append, List.forall_mem_singleton]
        exact ⟨hopened.keepsFile, hclose path handle⟩
  | launchFaulted path handle writes fault hopened hfault =>
      refine Or.inr ⟨path, hopened.named.fresh, .createFile path handle :: writes
        ++ [.closeHandle handle], [], ?_, ?_, Or.inl rfl⟩
      · rw [List.append_nil]
        rfl
      · rw [List.forall_mem_append, List.forall_mem_singleton]
        exact ⟨hopened.keepsFile, hclose path handle⟩
  | preserved path handle writes bufArgs ending calls hopened hlaunch hrun hkeep =>
      refine Or.inr ⟨path, hopened.named.fresh, .createFile path handle :: writes
        ++ .closeHandle handle :: calls, [], ?_, ?_, Or.inl rfl⟩
      · rw [List.append_nil]
        rfl
      · exact List.forall_mem_append.mpr ⟨hopened.keepsFile,
          List.forall_mem_cons.mpr ⟨hclose path handle, hcalls hrun⟩⟩
  | deleted path handle writes bufArgs hr calls hopened hlaunch hrun hok =>
      refine Or.inr ⟨path, hopened.named.fresh, .createFile path handle :: writes
        ++ .closeHandle handle :: calls, [.deleteFile path o.deleteFile], rfl, ?_,
        Or.inr ⟨o.deleteFile, [], rfl, List.forall_mem_nil _⟩⟩
      exact List.forall_mem_append.mpr ⟨hopened.keepsFile,
        List.forall_mem_cons.mpr ⟨hclose path handle, hcalls hrun⟩⟩

end NotifyRun

end CEventProcessor

namespace CPMICertExit

open CEventProcessor

section NotifyCall

variable (exit : CPMICertExit) (call : NotifyCall) (files : FileSystem)

theorem notifyCall_worksOn : (∀ action ∈ (exit.notifyCall call files).2, action.touches = none)
    ∨ ∃ path, files path = none ∧ WorksOn path (exit.notifyCall call files).2 := by
  obtain ⟨body, reported, hactions, hreported, hbody⟩ := exit.notifyCall_cases call files
  rw [hactions]
  have huntouched : ∀ action ∈ reported, action.touches = none := by
    intro action hmem
    exact (hreported action hmem).1.1
  rcases hbody with rfl | ⟨cert, -, rfl⟩
  · exact Or.inl huntouched
  · have hrun := CEventProcessor.notifyCertIssued_run cert.objEventProcessor
      cert.pwszSubjectKeyIdentifier cert.pwszSerialNumber cert.bufRawCert call.outcomes.processor files
    rcases hrun.worksOn with hnothing | ⟨path, hfresh, hworks⟩
    · rw [hnothing]
      exact Or.inl huntouched
    · exact Or.inr ⟨path, hfresh, hworks.append huntouched⟩

theorem notifyCall_isPrivate : Private Action.touches files (exit.notifyCall call files).2 := by
  rcases exit.notifyCall_worksOn call files with huntouched | ⟨path, hfresh, hworks⟩
  · exact isPrivate_of_untouched huntouched
  · exact hworks.isPrivate hfresh

end NotifyCall

/-! ### Any number of notifications -/

section Notifications

variable {ι : Type} [DecidableEq ι] (exits : ι → CPMICertExit) (calls : ι → NotifyCall)

/-- The notifications the CA makes, each on an exit module it holds, as programs on the files. -/
def notifications (i : ι) (files : FileSystem) : List Action :=
  ((exits i).notifyCall (calls i) files).2

variable (files : FileSystem) (schedule : List ι)

theorem isolated_notifications : Isolated Action.touches (notifications exits calls) files
    (interleaved (notifications exits calls) files schedule) :=
  isolated_interleaved actsLocally_touches (fun i state => (exits i).notifyCall_isPrivate (calls i) state)
    files schedule

/-- **Notifications do not notice each other.** Whatever the order in which the calls of any number of
notifications are made, each of them does what it would do alone: whatever has become of the files since
its first call, a notification that began so on them would make the same calls. What its calls have left
in a file so far is what they would have left there alone. Two notifications never have a file at the same
time, and the other files are as they were. -/
theorem notifications_isolated :
    (∀ i program,
      (interleaved (notifications exits calls) files schedule).programs i = some program →
        program.done <+: ((exits i).notifyCall (calls i) program.origin).2
          ∧ (program.done ≠ [] → ∀ now,
            ((exits i).notifyCall (calls i) now).2.head? = program.done.head? →
            ((exits i).notifyCall (calls i) now).2 = program.done ++ program.rest)
          ∧ ∀ path content, program.Touched Action.touches path → program.view path = some content →
            files path = none
              ∧ (interleaved (notifications exits calls) files schedule).state path = some content) ∧
    (∀ i j program other path, i ≠ j →
      (interleaved (notifications exits calls) files schedule).programs i = some program →
      (interleaved (notifications exits calls) files schedule).programs j = some other →
      program.Touched Action.touches path → other.Touched Action.touches path →
      program.view path = none ∨ other.view path = none) ∧
    ∀ path,
      (∀ i program,
        (interleaved (notifications exits calls) files schedule).programs i = some program →
          program.Touched Action.touches path → program.view path = none) →
      (interleaved (notifications exits calls) files schedule).state path = files path := by
  have hisolated := isolated_notifications exits calls files schedule
  refine ⟨?_, hisolated.apart, hisolated.others⟩
  intro i program hprogram
  have hwhole := hisolated.whole i program hprogram
  refine ⟨⟨program.rest, hwhole.symm⟩, ?_, ?_⟩
  · exact ((exits i).readsFirst_notifyCall (calls i)).goesOn hwhole
  intro path content htouched hview
  exact ⟨hisolated.unused i program path hprogram htouched,
    hisolated.view i program path content hprogram htouched hview⟩

variable {i : ι} {program : Progress Action FileSystem}

variable {exits calls files schedule} in
theorem prefix_of_programs (hprogram :
      (interleaved (notifications exits calls) files schedule).programs i = some program) :
    program.done <+: ((exits i).notifyCall (calls i) program.origin).2 :=
  ⟨program.rest, ((isolated_notifications exits calls files schedule).whole i program hprogram).symm⟩

theorem touched_of_view {path : WStr} {content : List BYTE} (hfresh : program.origin path = none)
    (hview : program.view path = some content) : program.Touched Action.touches path := by
  by_contra hnot
  have hframe : replay program.origin program.done path = program.origin path := by
    apply replay_of_not_touches
    intro action hmem htouches
    exact hnot ⟨action, hmem, htouches⟩
  cases hfresh.symm.trans (hframe.symm.trans hview)

/-- **The process finds the certificate.** Where a `WriteFile` that succeeds takes all the bytes it is
given, the file whose path is in the arguments of a process holds the certificate, from the creation of
the process until it was seen to exit with 0, whatever other notifications do meanwhile. -/
theorem process_finds_certificate
    (hprogram : (interleaved (notifications exits calls) files schedule).programs i = some program)
    (hwhole : ∀ cert, (exits i).Reaches (calls i) cert →
      WritesWhole (calls i).outcomes.processor cert.bufRawCert) {text : LPCWSTR}
    (hcreated : .createProcess text true ∈ program.done) :
    ∃ cert path bufArgs filesBefore, (exits i).Reaches (calls i) cert
      ∧ LaunchesWith cert.objEventProcessor cert.pwszSubjectKeyIdentifier cert.pwszSerialNumber
        (calls i).outcomes.processor path bufArgs
      ∧ .createProcess text true ∈ (CProcess.create {} cert.objEventProcessor.objConfig.getExePath
        bufArgs (calls i).outcomes.processor.process filesBefore).2
      ∧ ((interleaved (notifications exits calls) files schedule).state path = some cert.bufRawCert
        ∨ Exits program.done) := by
  have hinitial := prefix_of_programs hprogram
  have hspares := (exits i).notifyCall_sparesFiles (calls i) program.origin
  obtain ⟨body, reported, hactions, hreported, hbody⟩ :=
    (exits i).notifyCall_cases (calls i) program.origin
  rw [hactions] at hinitial hspares
  have hmem : .createProcess text true ∈ body := by
    rcases List.mem_append.mp (hinitial.subset hcreated) with hmem | hmem
    · exact hmem
    · exact absurd rfl ((hreported _ hmem).2 text true)
  rcases hbody with rfl | ⟨cert, hreaches, rfl⟩
  · cases hmem
  obtain ⟨path, bufArgs, filesBefore, hpath, hlaunch, hcreate⟩ :=
    (notifyCertIssued_run _ _ _ _ _ _).createProcess_mem hmem
  refine ⟨cert, path, bufArgs, filesBefore, hreaches, hlaunch, hcreate, ?_⟩
  by_cases hexits : Exits program.done
  · exact Or.inr hexits
  left
  have hkept : ∀ deleted, .deleteFile path deleted ∉ program.done := by
    intro deleted hdeleted
    obtain ⟨first, rest, hsplit⟩ := List.append_of_mem hdeleted
    have hdone : first ++ [.deleteFile path deleted] <+: program.done := ⟨rest, by simp [hsplit]⟩
    apply hexits
    have hexited := hspares.deleted ⟨text, List.mem_append_left _ hmem⟩ path first deleted
      (hdone.trans hinitial)
    exact hexited.mono ((List.prefix_append first _).trans hdone).subset
  obtain ⟨path', bufArgs', prepared, launched, hlaunches⟩ := launches_of_created hmem
  obtain rfl := hpath.unique hlaunches.named
  rw [hlaunches.actions] at hinitial
  have hview := hlaunches.written (hwhole cert hreaches) (fun action hmem => (hreported action hmem).1.1)
    hinitial hcreated hkept
  exact (isolated_notifications exits calls files schedule).view i program path _ hprogram
    (touched_of_view hpath.fresh hview) hview

/-- **A preserved file stays.** Once a notification has said in the event log that it will preserve a
file, the file is there with the same content from then on, whatever notifications follow or go on. -/
theorem preserved_file_stays {path : WStr}
    (hprogram : (interleaved (notifications exits calls) files schedule).programs i = some program)
    (htells : ∃ action ∈ program.done, action.SaysPreserved path) :
    ∃ content, program.view path = some content
      ∧ ∀ later,
        (interleaved (notifications exits calls) files (schedule ++ later)).state path = some content := by
  have hisolated := isolated_notifications exits calls files schedule
  have hwhole : ((exits i).notifyCall (calls i) program.origin).2 = program.done ++ program.rest :=
    hisolated.whole i program hprogram
  obtain ⟨hnamed, huntouched⟩ := (exits i).untouched_of_saysPreserved hwhole htells
  have hrest : ∀ action ∈ program.rest, action.touches ≠ some path := by
    intro action hmem htouches
    rw [huntouched action hmem] at htouches
    cases htouches
  obtain ⟨action, hmem, hsaid⟩ := htells
  have hleft := ((exits i).notifyCall_sparesFiles (calls i) program.origin).preserved action
    (hwhole ▸ List.mem_append_left _ hmem) path hsaid
  rw [hwhole, replay_append, replay_of_not_touches hrest] at hleft
  obtain ⟨content, hview⟩ := Option.isSome_iff_exists.mp hleft
  refine ⟨content, hview, ?_⟩
  intro later
  rw [interleaved_append]
  apply hisolated.persists actsLocally_touches
    (fun i state => (exits i).notifyCall_isPrivate (calls i) state) hprogram _ hview hrest
  exact ⟨_, hnamed, rfl⟩

end Notifications

/-! ### Two notifications whose calls alternate -/

def secondTempPath : WStr := .ofLiteral "C:\\T\\PMIB.tmp"

def twoFailingProcesses : Bool → NotifyCall
  | false => failingProcess
  | true =>
      { failingProcess with
        outcomes := { failingProcess.outcomes with
          processor := { failingProcess.outcomes.processor with
            tempFileNames := oneName secondTempPath (by decide) } } }

def alternating (turns : Nat) : List Bool := (List.replicate turns [false, true]).flatten

/-- The first of the two after nine turns each: it has made all its calls. -/
def firstOfTwo : Progress Action FileSystem :=
  ((interleaved (notifications (fun _ => ⟨⟨true⟩⟩) twoFailingProcesses) (fun _ => none)
    (alternating 9)).programs false).get (by decide +kernel)

theorem programs_firstOfTwo : (interleaved (notifications (fun _ => ⟨⟨true⟩⟩) twoFailingProcesses)
    (fun _ => none) (alternating 9)).programs false = some firstOfTwo :=
  (Option.some_get _).symm

def exampleCommandLine : LPCWSTR := .str (.ofLiteral
  "a certissued -subjectkeyidentifier '0a' -serialnumber 61 -rawcertpath 'C:\\T\\PMI1.tmp'")

theorem process_finds_certificate_example :
    ∃ cert path bufArgs filesBefore, (⟨⟨true⟩⟩ : CPMICertExit).Reaches failingProcess cert
      ∧ LaunchesWith cert.objEventProcessor cert.pwszSubjectKeyIdentifier cert.pwszSerialNumber
        failingProcess.outcomes.processor path bufArgs
      ∧ .createProcess exampleCommandLine true
        ∈ (CProcess.create {} cert.objEventProcessor.objConfig.getExePath
          bufArgs failingProcess.outcomes.processor.process filesBefore).2
      ∧ ((interleaved (notifications (fun _ => (⟨⟨true⟩⟩ : CPMICertExit)) twoFailingProcesses)
          (fun _ => none) (alternating 9)).state path = some cert.bufRawCert ∨ Exits firstOfTwo.done) := by
  apply process_finds_certificate (fun _ => ⟨⟨true⟩⟩) twoFailingProcesses (fun _ => none) (alternating 9)
    programs_firstOfTwo
  · intro cert hreaches nBytesWritten hmem
    have hcert : [1, 2] = cert.bufRawCert :=
      Except.ok.inj (bufRawCert_of_readIssuedCertificate hreaches.2.2)
    obtain rfl : nBytesWritten = 2 := Except.ok.inj (List.mem_singleton.mp hmem)
    rw [← hcert]
    rfl
  · decide +kernel

theorem preserved_file_stays_example : ∃ content, firstOfTwo.view exampleTempPath = some content
    ∧ ∀ later, (interleaved (notifications (fun _ => (⟨⟨true⟩⟩ : CPMICertExit)) twoFailingProcesses)
      (fun _ => none) (alternating 9 ++ later)).state exampleTempPath = some content := by
  apply preserved_file_stays (fun _ => ⟨⟨true⟩⟩) twoFailingProcesses (fun _ => none) (alternating 9)
    programs_firstOfTwo
  refine ⟨.reportEvent ⟨.EVENTLOG_ERROR_TYPE, GENERAL_CATEGORY, .MSG_PROCESS_FAILED,
    [.str (.ofLiteral "4100"), .str (.ofLiteral "4104"), .str (.ofLiteral "1"), .str exampleTempPath]⟩
    true, by decide +kernel, Or.inl rfl, rfl⟩

end CPMICertExit

end PmiExitModule
