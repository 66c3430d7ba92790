import PmiExitModule.Proof.TempFile

/-!
# The lifecycle of a temp file

Any calls on one object in any order, and then its destruction. The object owns no path until a
`Create` succeeds, then it owns that path for good; its file is open from there to the first `Close`.
So the whole life is one of two traces: nothing at all, or one file that is opened, written to, closed
and then deleted unless it was preserved.
-/

namespace PmiExitModule

open Generic

/-- A call on a `CTempFile`; a path may be null. -/
inductive FileCall where
  | create (path : Option WStr) (o : CreateFileOutcomes)
  | write (buf : List BYTE) (cbIndex cbCount : Nat) (o : WriteOutcome)
  | close
  | preserve

namespace FileCall

def pointer : Option WStr → LPCWSTR
  | none => .null
  | some path => .str path

/-- The call on an object, with what it answers; `Close` and `Preserve` answer nothing, here `S_OK`. -/
def run (file : CTempFile) : FileCall → Prog (HRESULT × CTempFile)
  | create path o => file.create (pointer path) o
  | write buf cbIndex cbCount o => do
      let (hr, _) ← file.write buf cbIndex cbCount o
      return (hr, file)
  | close => do
      let file ← file.close
      return (S_OK, file)
  | preserve => return (S_OK, file.preserve)

def isPreserve : FileCall → Bool
  | preserve => true
  | _ => false

end FileCall

namespace CTempFile

/-- The calls one after the other and then the destructor, with what the calls answer. -/
def lifetime (file : CTempFile) (deleted : Bool) : List FileCall → Prog (List HRESULT)
  | [] => do
      file.destroy deleted
      return []
  | call :: rest => do
      let (hr, file) ← call.run file
      let hrs ← file.lifetime deleted rest
      return hr :: hrs

def createdPaths : List FileCall → List HRESULT → List (Option WStr)
  | .create path _ :: calls, hr :: hrs =>
      if FAILED hr then createdPaths calls hrs else path :: createdPaths calls hrs
  | _ :: calls, _ :: hrs => createdPaths calls hrs
  | _, _ => []

def isDeletion : Action → Bool
  | .deleteFile _ _ => true
  | _ => false

/-- The deletion of each created path. -/
def deletions (created : List (Option WStr)) (deleted : Bool) : List Action :=
  created.filterMap fun path => path.map fun path => .deleteFile path deleted

def deletion (path : WStr) (preserved deleted : Bool) : List Action :=
  if preserved then [] else [.deleteFile path deleted]

/-- The traces of a life, by the paths its successful `Create` calls were given. -/
inductive LifetimeTrace (preserved deleted : Bool) : List (Option WStr) → List Action → Prop where
  | unused : LifetimeTrace preserved deleted [] []
  | used (path : WStr) (handle : HANDLE) (writes : List Action)
      (hwrites : ∀ action ∈ writes, ∃ bytes, action = .writeFile handle path bytes) :
      LifetimeTrace preserved deleted [some path]
        (.createFile path handle :: (writes ++ .closeHandle handle :: deletion path preserved deleted))

theorem createdPaths_cons (call : FileCall) (calls : List FileCall) (hr : HRESULT) (hrs : List HRESULT) :
    createdPaths (call :: calls) (hr :: hrs) = createdPaths [call] [hr] ++ createdPaths calls hrs := by
  cases call with
  | create path o =>
      by_cases hfailed : FAILED hr
      · simp [createdPaths, hfailed]
      · simp [createdPaths, hfailed]
  | _ => rfl

theorem lifetime_cons {file file' : CTempFile} {deleted : Bool} {call : FileCall}
    {rest : List FileCall} {files : FileSystem} {hr : HRESULT} {hrs : List HRESULT}
    {before after : List Action} (hcall : call.run file files = (.returned (hr, file'), before))
    (hrest : file'.lifetime deleted rest (replay files before) = (.returned hrs, after)) :
    file.lifetime deleted (call :: rest) files = (.returned (hr :: hrs), before ++ after) := by
  apply Program.bind_chain hcall
  simp only [Program.bind_of_returned hrest, Program.pure_apply, List.append_nil]

/-! ### An object that owns a path -/

section Owned

variable {file : CTempFile} {path : WStr}

/-- The file after a call that leaves its path alone. -/
def after (file : CTempFile) (call : FileCall) : CTempFile :=
  { file with fPreserve := file.fPreserve || call.isPreserve }

theorem after_eq_self {call : FileCall} (h : call.isPreserve = false) : file.after call = file := by
  simp [after, h]

theorem run_of_closed (howns : file.Owns path) (hclosed : file.hFile = none) (call : FileCall)
    (files : FileSystem) :
    ∃ hr, call.run file files = (.returned (hr, file.after call), [])
      ∧ createdPaths [call] [hr] = [] := by
  cases call with
  | create newPath o =>
      refine ⟨HRESULT_FROM_WIN32 ERROR_INVALID_OPERATION, ?_, rfl⟩
      rw [after_eq_self rfl]
      exact create_of_owned (CHeapBuffer.getLength_pos_of_get_eq howns) _ o files
  | write buf cbIndex cbCount o =>
      refine ⟨HRESULT_FROM_WIN32 ERROR_INVALID_OPERATION, ?_, rfl⟩
      rw [after_eq_self rfl]
      simp [FileCall.run, write, hclosed]
  | close =>
      refine ⟨S_OK, ?_, rfl⟩
      rw [after_eq_self rfl]
      exact Program.bind_of_returned (close_of_closed hclosed files)
  | preserve =>
      refine ⟨S_OK, ?_, rfl⟩
      simp [FileCall.run, after, FileCall.isPreserve, preserve]

theorem destroy_of_owned_closed (howns : file.Owns path) (hclosed : file.hFile = none)
    (deleted : Bool) (files : FileSystem) :
    file.destroy deleted files = (.returned (), deletion path file.fPreserve deleted) := by
  cases hpreserve : file.fPreserve with
  | true => exact destroy_of_preserved hclosed hpreserve deleted files
  | false => exact destroy_of_closed howns hclosed hpreserve deleted files

theorem lifetime_of_closed (howns : file.Owns path) (hclosed : file.hFile = none) (deleted : Bool)
    (calls : List FileCall) (files : FileSystem) :
    ∃ hrs, file.lifetime deleted calls files = (.returned hrs,
        deletion path (file.fPreserve || calls.any FileCall.isPreserve) deleted)
      ∧ hrs.length = calls.length ∧ createdPaths calls hrs = [] := by
  induction calls generalizing file with
  | nil =>
      refine ⟨[], ?_, rfl, rfl⟩
      rw [lifetime, Program.bind_of_returned (destroy_of_owned_closed howns hclosed deleted files)]
      simp
  | cons call rest ih =>
      obtain ⟨hr, hcall, hcreated⟩ := run_of_closed howns hclosed call files
      have hownsAfter : (file.after call).Owns path := howns
      have hclosedAfter : (file.after call).hFile = none := hclosed
      obtain ⟨hrs, hrest, hlength, hcreatedRest⟩ := ih hownsAfter hclosedAfter
      refine ⟨hr :: hrs, ?_, congrArg (· + 1) hlength, ?_⟩
      · rw [lifetime_cons hcall hrest, List.nil_append, List.any_cons, ← Bool.or_assoc]
        rfl
      · rw [createdPaths_cons, hcreated, hcreatedRest, List.append_nil]

def WritesOn (handle : HANDLE) (path : WStr) (actions : List Action) : Prop :=
  ∀ action ∈ actions, ∃ bytes, action = .writeFile handle path bytes

theorem run_write_of_open {handle : HANDLE} (hopen : file.hFile = some ⟨handle, path⟩)
    (buf : List BYTE) (cbIndex cbCount : Nat) (o : WriteOutcome) (files : FileSystem) :
    ∃ hr bytes, (FileCall.write buf cbIndex cbCount o).run file files
      = (.returned (hr, file), [.writeFile handle path bytes]) := by
  have hwrite : ∃ hr cbWritten bytes, file.write buf cbIndex cbCount o files
      = (.returned (hr, cbWritten), [.writeFile handle path bytes]) := by
    cases o with
    | error e => exact ⟨_, _, _, by simp only [write, hopen]; rfl⟩
    | ok nBytesWritten => exact ⟨_, _, _, by simp only [write, hopen]; rfl⟩
  obtain ⟨hr, cbWritten, bytes, hwrite⟩ := hwrite
  exact ⟨hr, bytes, Program.bind_of_returned hwrite⟩

theorem run_of_open {handle : HANDLE} (howns : file.Owns path)
    (hopen : file.hFile = some ⟨handle, path⟩) (call : FileCall) (files : FileSystem) :
    ∃ hr, createdPaths [call] [hr] = [] ∧
      ((∃ actions, WritesOn handle path actions
          ∧ call.run file files = (.returned (hr, file.after call), actions)) ∨
        (call.isPreserve = false
          ∧ call.run file files = (.returned (hr, { file with hFile := none }), [.closeHandle handle]))) := by
  cases call with
  | create newPath o =>
      refine ⟨HRESULT_FROM_WIN32 ERROR_INVALID_OPERATION, rfl, Or.inl ⟨[], List.forall_mem_nil _, ?_⟩⟩
      rw [after_eq_self rfl]
      exact create_of_owned (CHeapBuffer.getLength_pos_of_get_eq howns) _ o files
  | write buf cbIndex cbCount o =>
      obtain ⟨hr, bytes, hrun⟩ := run_write_of_open hopen buf cbIndex cbCount o files
      refine ⟨hr, rfl, Or.inl ⟨_, List.forall_mem_singleton.mpr ⟨bytes, rfl⟩, ?_⟩⟩
      rw [after_eq_self rfl]
      exact hrun
  | close =>
      refine ⟨S_OK, rfl, Or.inr ⟨rfl, ?_⟩⟩
      exact Program.bind_of_returned (close_of_open hopen files)
  | preserve =>
      refine ⟨S_OK, rfl, Or.inl ⟨[], List.forall_mem_nil _, ?_⟩⟩
      simp [FileCall.run, after, FileCall.isPreserve, preserve]

theorem destroy_of_owned_open {handle : HANDLE} (howns : file.Owns path)
    (hopen : file.hFile = some ⟨handle, path⟩) (deleted : Bool) (files : FileSystem) :
    file.destroy deleted files
      = (.returned (), .closeHandle handle :: deletion path file.fPreserve deleted) := by
  cases hpreserve : file.fPreserve with
  | true =>
      rw [destroy, Program.bind_of_returned (close_of_open hopen files)]
      simp [hpreserve, deletion]
  | false => exact destroy_of_open howns hopen hpreserve deleted files

theorem lifetime_of_open {handle : HANDLE} (howns : file.Owns path)
    (hopen : file.hFile = some ⟨handle, path⟩) (deleted : Bool) (calls : List FileCall)
    (files : FileSystem) :
    ∃ hrs writes, file.lifetime deleted calls files = (.returned hrs, writes ++ .closeHandle handle ::
        deletion path (file.fPreserve || calls.any FileCall.isPreserve) deleted)
      ∧ WritesOn handle path writes ∧ hrs.length = calls.length ∧ createdPaths calls hrs = [] := by
  induction calls generalizing file files with
  | nil =>
      refine ⟨[], [], ?_, List.forall_mem_nil _, rfl, rfl⟩
      rw [lifetime, Program.bind_of_returned (destroy_of_owned_open howns hopen deleted files)]
      simp
  | cons call rest ih =>
      obtain ⟨hr, hcreated, ⟨actions, hactions, hcall⟩ | ⟨hkept, hcall⟩⟩ :=
        run_of_open howns hopen call files
      · have hownsAfter : (file.after call).Owns path := howns
        have hopenAfter : (file.after call).hFile = some ⟨handle, path⟩ := hopen
        obtain ⟨hrs, writes, hrest, hwrites, hlength, hcreatedRest⟩ :=
          ih hownsAfter hopenAfter (replay files actions)
        refine ⟨hr :: hrs, actions ++ writes, ?_, List.forall_mem_append.mpr ⟨hactions, hwrites⟩,
          congrArg (· + 1) hlength, ?_⟩
        · rw [lifetime_cons hcall hrest, List.append_assoc, List.any_cons, ← Bool.or_assoc]
          rfl
        · rw [createdPaths_cons, hcreated, hcreatedRest, List.append_nil]
      · have hownsClosed : ({ file with hFile := none } : CTempFile).Owns path := howns
        obtain ⟨hrs, hrest, hlength, hcreatedRest⟩ :=
          lifetime_of_closed hownsClosed rfl deleted rest (replay files [Action.closeHandle handle])
        refine ⟨hr :: hrs, [], ?_, List.forall_mem_nil _, congrArg (· + 1) hlength, ?_⟩
        · rw [lifetime_cons hcall hrest, List.any_cons, hkept]
          rfl
        · rw [createdPaths_cons, hcreated, hcreatedRest, List.append_nil]

end Owned

/-! ### An object that owns none -/

theorem fresh_or_eq (fPreserve : Bool) {call : FileCall} (h : call.isPreserve = false) :
    fresh (fPreserve || call.isPreserve) = fresh fPreserve := by
  rw [h, Bool.or_false]

theorem run_of_fresh (fPreserve : Bool) (call : FileCall) (files : FileSystem) :
    (∃ hr, createdPaths [call] [hr] = [] ∧ call.run (fresh fPreserve) files
      = (.returned (hr, fresh (fPreserve || call.isPreserve)), [])) ∨
    ∃ path o file handle, call = .create (some path) o ∧ file.Owns path
      ∧ file.hFile = some ⟨handle, path⟩ ∧ file.fPreserve = fPreserve
      ∧ call.run (fresh fPreserve) files = (.returned (S_OK, file), [.createFile path handle]) := by
  cases call with
  | create path o =>
      cases path with
      | none =>
          refine Or.inl ⟨STRSAFE_E_INVALID_PARAMETER, by simp [createdPaths], ?_⟩
          rw [fresh_or_eq fPreserve rfl]
          exact create_of_refusedPath fPreserve .null o rfl failed_STRSAFE_E_INVALID_PARAMETER files
      | some path =>
          rcases create_cases fPreserve path o files with
            ⟨hr, hfailed, hrun⟩ | ⟨file, handle, howns, hopen, hpreserve, hrun⟩
          · refine Or.inl ⟨hr, by simp [createdPaths, hfailed], ?_⟩
            rw [fresh_or_eq fPreserve rfl]
            exact hrun
          · exact Or.inr ⟨path, o, file, handle, rfl, howns, hopen, hpreserve, hrun⟩
  | write buf cbIndex cbCount o =>
      refine Or.inl ⟨HRESULT_FROM_WIN32 ERROR_INVALID_OPERATION, rfl, ?_⟩
      simp [FileCall.run, write, fresh, FileCall.isPreserve]
  | close =>
      refine Or.inl ⟨S_OK, rfl, ?_⟩
      rw [fresh_or_eq fPreserve rfl]
      exact Program.bind_of_returned (close_of_closed rfl files)
  | preserve =>
      refine Or.inl ⟨S_OK, rfl, ?_⟩
      simp [FileCall.run, fresh, FileCall.isPreserve, preserve]

theorem destroy_of_fresh (fPreserve deleted : Bool) (files : FileSystem) :
    (fresh fPreserve).destroy deleted files = (.returned (), []) := by
  cases fPreserve with
  | true => exact destroy_of_preserved rfl rfl deleted files
  | false => exact destroy_fresh deleted files

/-- **The life of an object.** It answers every call, and leaves one of the two traces. -/
theorem lifetime_of_fresh (fPreserve deleted : Bool) (calls : List FileCall) (files : FileSystem) :
    ∃ hrs actions, (fresh fPreserve).lifetime deleted calls files = (.returned hrs, actions)
      ∧ hrs.length = calls.length
      ∧ LifetimeTrace (fPreserve || calls.any FileCall.isPreserve) deleted (createdPaths calls hrs)
          actions := by
  induction calls generalizing fPreserve files with
  | nil =>
      refine ⟨[], [], ?_, rfl, .unused⟩
      rw [lifetime, Program.bind_of_returned (destroy_of_fresh fPreserve deleted files)]
      rfl
  | cons call rest ih =>
      rcases run_of_fresh fPreserve call files with
        ⟨hr, hcreated, hcall⟩ | ⟨path, o, file, handle, rfl, howns, hopen, hpreserve, hcall⟩
      · obtain ⟨hrs, actions, hrest, hlength, htrace⟩ := ih (fPreserve || call.isPreserve) files
        refine ⟨hr :: hrs, actions, lifetime_cons hcall hrest, congrArg (· + 1) hlength, ?_⟩
        rw [createdPaths_cons, hcreated, List.nil_append, List.any_cons, ← Bool.or_assoc]
        exact htrace
      · obtain ⟨hrs, writes, hrest, hwrites, hlength, hcreated⟩ :=
          lifetime_of_open howns hopen deleted rest (replay files [Action.createFile path handle])
        refine ⟨_, _, lifetime_cons hcall hrest, congrArg (· + 1) hlength, ?_⟩
        rw [createdPaths_cons, hcreated, hpreserve, List.any_cons]
        exact .used path handle writes hwrites

/-- A `Create` that can succeed does so in every life in which none has succeeded before. -/
theorem lifetime_creates_again (fPreserve deleted : Bool) (before rest : List FileCall) {path : WStr}
    {o : CreateFileOutcomes} (hshort : path.length ≤ MAX_PATH) (halloc : o.allocPath ≠ none)
    (hcreate : ∃ handle, o.createFile = .ok handle) (files : FileSystem) {hrs : List HRESULT}
    {actions : List Action}
    (hrun : (fresh fPreserve).lifetime deleted (before ++ .create (some path) o :: rest) files
      = (.returned hrs, actions))
    (hnone : createdPaths before hrs = []) : hrs[before.length]? = some S_OK := by
  induction before generalizing fPreserve files hrs actions with
  | nil =>
      obtain ⟨garbage, halloc⟩ := Option.ne_none_iff_exists'.mp halloc
      obtain ⟨handle, hcreate⟩ := hcreate
      obtain ⟨file, howns, hopen, -, hcall⟩ := create_of_opened fPreserve hshort halloc hcreate
      obtain ⟨hrsRest, writes, hrest, -⟩ := lifetime_of_open howns hopen deleted rest
        (replay files [Action.createFile path handle])
      have hlife : (fresh fPreserve).lifetime deleted (.create (some path) o :: rest) files = _ :=
        lifetime_cons (hcall files) hrest
      obtain ⟨hanswers, -⟩ := Prod.mk.inj (hlife.symm.trans hrun)
      obtain rfl := Ending.returned.inj hanswers
      rfl
  | cons call before ih =>
      rcases run_of_fresh fPreserve call files with
        ⟨hr, -, hcall⟩ | ⟨created, o', file, handle, rfl, howns, hopen, -, hcall⟩
      · obtain ⟨hrsRest, actionsRest, hrest, -⟩ := lifetime_of_fresh (fPreserve || call.isPreserve)
          deleted (before ++ .create (some path) o :: rest) files
        have hlife := lifetime_cons hcall hrest
        obtain ⟨hanswers, -⟩ := Prod.mk.inj (hlife.symm.trans hrun)
        obtain rfl := Ending.returned.inj hanswers
        rw [createdPaths_cons, List.append_eq_nil_iff] at hnone
        exact ih _ files hrest hnone.2
      · obtain ⟨hrsRest, writes, hrest, -⟩ := lifetime_of_open howns hopen deleted
          (before ++ .create (some path) o :: rest) (replay files [Action.createFile created handle])
        have hlife := lifetime_cons hcall hrest
        obtain ⟨hanswers, -⟩ := Prod.mk.inj (hlife.symm.trans hrun)
        obtain rfl := Ending.returned.inj hanswers
        simp [createdPaths] at hnone

/-! ### The handles of a life -/

/-- The file that is open after an action, and `none` where the action is out of place: a file is
opened and a path deleted only while no file is open, and writes and closes are those of the open
file. -/
def handleStep : Option OpenFile → Action → Option (Option OpenFile)
  | none, .createFile path hFile => some (some ⟨hFile, path⟩)
  | some openFile, .writeFile hFile path _ =>
      if openFile = ⟨hFile, path⟩ then some (some openFile) else none
  | some openFile, .closeHandle hFile => if openFile.handle = hFile then some none else none
  | none, .deleteFile _ _ => some none
  | _, _ => none

/-- At most one file is open at any time, and at the end none is. -/
def HandlesPaired (actions : List Action) : Prop := actions.foldlM handleStep none = some none

theorem foldlM_handleStep_writes {handle : HANDLE} {path : WStr} {writes : List Action}
    (h : WritesOn handle path writes) :
    writes.foldlM handleStep (some ⟨handle, path⟩) = some (some ⟨handle, path⟩) := by
  induction writes with
  | nil => rfl
  | cons action rest ih =>
      obtain ⟨⟨bytes, rfl⟩, hrest⟩ := List.forall_mem_cons.mp h
      rw [List.foldlM_cons, handleStep, if_pos rfl]
      exact ih hrest

section LifetimeTrace

variable {preserved deleted : Bool} {created : List (Option WStr)} {actions : List Action}

theorem LifetimeTrace.handlesPaired (h : LifetimeTrace preserved deleted created actions) :
    HandlesPaired actions := by
  cases h with
  | unused => rfl
  | used path handle writes hwrites =>
      have hdeletion : (deletion path preserved deleted).foldlM handleStep none = some none := by
        cases preserved with
        | true => rfl
        | false => rfl
      have hclose : handleStep (some ⟨handle, path⟩) (.closeHandle handle) = some none := if_pos rfl
      change List.foldlM handleStep (some ⟨handle, path⟩) _ = _
      rw [List.foldlM_append, foldlM_handleStep_writes hwrites, Option.bind_eq_bind, Option.bind_some,
        List.foldlM_cons, hclose]
      exact hdeletion

theorem LifetimeTrace.length_created (h : LifetimeTrace preserved deleted created actions) :
    created.length ≤ 1 := by
  cases h with
  | unused => exact Nat.zero_le 1
  | used => exact le_rfl

theorem LifetimeTrace.deletions (h : LifetimeTrace preserved deleted created actions) :
    actions.filter isDeletion
      = if preserved then [] else deletions created deleted := by
  cases h with
  | unused => cases preserved <;> rfl
  | used path handle writes hwrites =>
      have hkept : writes.filter isDeletion = [] := by
        rw [List.filter_eq_nil_iff]
        intro action hmem
        obtain ⟨bytes, rfl⟩ := hwrites action hmem
        exact Bool.false_ne_true
      rw [List.filter_cons_of_neg Bool.false_ne_true, List.filter_append, hkept, List.nil_append,
        List.filter_cons_of_neg Bool.false_ne_true]
      cases preserved with
      | true => rfl
      | false => rfl

end LifetimeTrace

/-- **The lifecycle.** Whatever is called in whatever order, and whatever the calls answer: at most one
`Create` succeeds, and one that can succeed does so as long as none has. The handles are paired, and
the path of the successful `Create` is deleted, once and last, unless it was preserved. -/
theorem lifetime_spec (calls : List FileCall) (deleted : Bool) (files : FileSystem) :
    ∃ hrs actions, lifetime {} deleted calls files = (.returned hrs, actions) ∧
      hrs.length = calls.length ∧
      (createdPaths calls hrs).length ≤ 1 ∧
      (∀ before path o rest, calls = before ++ .create (some path) o :: rest →
        createdPaths before hrs = [] → path.length ≤ MAX_PATH → o.allocPath ≠ none →
        (∃ handle, o.createFile = .ok handle) → hrs[before.length]? = some S_OK) ∧
      HandlesPaired actions ∧
      LifetimeTrace (calls.any FileCall.isPreserve) deleted (createdPaths calls hrs) actions ∧
      actions.filter isDeletion
        = if calls.any FileCall.isPreserve then []
          else deletions (createdPaths calls hrs) deleted := by
  obtain ⟨hrs, actions, hrun, hlength, htrace⟩ := lifetime_of_fresh false deleted calls files
  rw [Bool.false_or] at htrace
  refine ⟨hrs, actions, hrun, hlength, htrace.length_created, ?_, htrace.handlesPaired, htrace,
    htrace.deletions⟩
  rintro before path o rest rfl hnone hshort halloc hcreate
  exact lifetime_creates_again false deleted before rest hshort halloc hcreate files hrun hnone

def openingCall : FileCall :=
  .create (some (.ofLiteral "C:\\T\\PMI2.tmp")) { allocPath := some fun _ => NUL, createFile := .ok 4 }

theorem lifetime_spec_example :
    ∃ hrs actions, lifetime {} true [openingCall, .preserve] (fun _ => none) = (.returned hrs, actions)
      ∧ hrs[0]? = some S_OK ∧ HandlesPaired actions ∧ actions.filter isDeletion = [] := by
  obtain ⟨hrs, actions, hrun, -, -, hcreates, hpaired, -, hdeletions⟩ :=
    lifetime_spec [openingCall, .preserve] true fun _ => none
  refine ⟨hrs, actions, hrun, ?_, hpaired, hdeletions⟩
  exact hcreates [] _ _ [.preserve] rfl rfl (by decide) (Option.some_ne_none _) ⟨4, rfl⟩

end CTempFile

end PmiExitModule
