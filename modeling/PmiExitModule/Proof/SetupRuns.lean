import PmiExitModule.Proof.MessageRegistration

/-!
# Installing and uninstalling, again and again

An install sets its values in one order and stops at the first the registry refuses. So all there is to
know about the key, after any runs of the tool, is which install set each of the values: a list of
paths, overwritten from its front by the next install. The runs of the tool refine the runs of that
abstract registration.
-/

namespace PmiExitModule.Setup

open Generic

/-! ### The abstract registration -/

/-- The values of the key in the order an install sets them. -/
def valueNames : List WStr := wszCategoryCount :: wszParameterCount :: rgpwszPathValueNames

/-- What an install of this path sets under a name. -/
def valueFor (path name : WStr) : StoredValue :=
  if name = wszCategoryCount then ⟨REG_DWORD, bytesOfDword PMI_EXITMODULE_CATEGORYCOUNT⟩
  else if name = wszParameterCount then ⟨REG_DWORD, bytesOfDword PMI_EXITMODULE_PARAMETERCOUNT⟩
  else ⟨REG_SZ, bytesOfUnits (storedUnits path)⟩

/-- For each of the values that are there, in their order, the path of the install that set it. -/
structure PathsSet where
  paths : List WStr
  bounded : paths.length ≤ valueNames.length

namespace PathsSet

def none : PathsSet := ⟨[], Nat.zero_le _⟩

def valueAt (set : PathsSet) (name : WStr) : Option StoredValue :=
  set.paths[valueNames.idxOf name]?.map (valueFor · name)

/-- An install of this path that gets through `n` values. -/
def overwrite (set : PathsSet) (path : WStr) (n : Nat) : PathsSet where
  paths := List.replicate (min n valueNames.length) path ++ set.paths.drop (min n valueNames.length)
  bounded := by
    have hbounded := set.bounded
    rw [List.length_append, List.length_replicate, List.length_drop]
    omega

end PathsSet

/-- The registration of the message file; `none` where the key is absent. -/
abbrev Registration := Option PathsSet

def keyOf (registration : Registration) : EventSourceKey := registration.map PathsSet.valueAt

structure SetupRun where
  argv : List WStr
  o : SetupOutcomes

def accepts (o : SetupOutcomes) (name : WStr) : Bool := o.regSetKeyValue name = ERROR_SUCCESS

/-- How many of the values the registry takes before it refuses one. -/
def accepted (o : SetupOutcomes) : Nat := (valueNames.takeWhile (accepts o)).length

def exitCode (fSuccess : Bool) : Nat := if fSuccess then EXIT_SUCCESS else EXIT_FAILURE

/-- What one run of the tool answers and makes of a registration. -/
inductive Registers (run : SetupRun) (before : Registration) : Nat → Registration → Prop where
  | refused (h : (CArguments.tryParse {} run.argv).1 = false) : Registers run before EXIT_FAILURE before
  | notFound (parsed : WStr)
      (hparse : CArguments.tryParse {} run.argv = (true, { eOperation := .INSTALL, strPath := parsed }))
      (hchosen : ∀ path, ¬ ChosenPath parsed run.o path) : Registers run before EXIT_FAILURE before
  | notOpened (parsed path : WStr)
      (hparse : CArguments.tryParse {} run.argv = (true, { eOperation := .INSTALL, strPath := parsed }))
      (hchosen : ChosenPath parsed run.o path) (hcreate : run.o.regCreateKeyEx ≠ ERROR_SUCCESS) :
      Registers run before EXIT_FAILURE before
  | installed (parsed path : WStr)
      (hparse : CArguments.tryParse {} run.argv = (true, { eOperation := .INSTALL, strPath := parsed }))
      (hchosen : ChosenPath parsed run.o path) (hcreate : run.o.regCreateKeyEx = ERROR_SUCCESS) :
      Registers run before (exitCode (accepted run.o = valueNames.length))
        (some ((before.getD .none).overwrite path (accepted run.o)))
  | removed (args : CArguments) (hparse : CArguments.tryParse {} run.argv = (true, args))
      (hoperation : args.eOperation = .UINSTALL) (hdelete : run.o.regDeleteKeyEx = ERROR_SUCCESS) :
      Registers run before EXIT_SUCCESS none
  | kept (args : CArguments) (hparse : CArguments.tryParse {} run.argv = (true, args))
      (hoperation : args.eOperation = .UINSTALL) (hdelete : run.o.regDeleteKeyEx ≠ ERROR_SUCCESS) :
      Registers run before (exitCode (run.o.regDeleteKeyEx = ERROR_FILE_NOT_FOUND)) before

/-- The same for runs one after the other, with their exit codes. -/
inductive RegistersAll : List SetupRun → Registration → List Nat → Registration → Prop where
  | nil (registration : Registration) : RegistersAll [] registration [] registration
  | cons {run : SetupRun} {runs : List SetupRun} {before middle after : Registration} {code : Nat}
      {codes : List Nat} (hfirst : Registers run before code middle)
      (hrest : RegistersAll runs middle codes after) :
      RegistersAll (run :: runs) before (code :: codes) after

/-! ### The values of a key -/

theorem keyOf_valueAt_overwrite (set : PathsSet) (path name : WStr) {n : Nat}
    (hn : n ≤ valueNames.length) :
    (set.overwrite path n).valueAt name
      = if name ∈ valueNames.take n then some (valueFor path name) else set.valueAt name := by
  have hmin : min n valueNames.length = n := Nat.min_eq_left hn
  unfold PathsSet.valueAt PathsSet.overwrite
  dsimp only
  rw [hmin]
  by_cases hfirst : valueNames.idxOf name < n
  · have hmem : name ∈ valueNames := List.idxOf_lt_length_iff.mp (hfirst.trans_le hn)
    rw [if_pos ((List.mem_take_iff_idxOf_lt hmem).mpr hfirst),
      List.getElem?_append_left (by rwa [List.length_replicate]), List.getElem?_replicate, if_pos hfirst]
    rfl
  · have hlater : name ∉ valueNames.take n := by
      intro htake
      exact hfirst ((List.mem_take_iff_idxOf_lt (List.mem_of_mem_take htake)).mp htake)
    have hlength : (List.replicate n path).length ≤ valueNames.idxOf name := by
      rw [List.length_replicate]
      omega
    rw [if_neg hlater, List.getElem?_append_right hlength, List.length_replicate, List.getElem?_drop,
      Nat.add_sub_cancel' (Nat.le_of_not_lt hfirst)]

/-- Setting values under names, in any order, leaves the others as they are. -/
theorem replay_setKeyValues (values : WStr → Option StoredValue) (valueOf : WStr → StoredValue)
    (names : List WStr) :
    replay (some values) (names.map fun name => RegAction.setKeyValue name (valueOf name))
      = some fun name => if name ∈ names then some (valueOf name) else values name := by
  induction names generalizing values with
  | nil => simp
  | cons first rest ih =>
      rw [List.map_cons, replay_cons]
      change replay (some (Function.update values first (some (valueOf first)))) _ = _
      rw [ih]
      congr 1
      funext name
      by_cases hrest : name ∈ rest
      · simp [hrest]
      · by_cases hfirst : name = first
        · subst hfirst
          simp [hrest]
        · simp [hrest, hfirst]

/-- **What an install leaves behind.** -/
theorem replay_install (registration : Registration) (path : WStr) {n : Nat} (hn : n ≤ valueNames.length) :
    replay (keyOf registration) (.createKey ::
        (valueNames.take n).map fun name => RegAction.setKeyValue name (valueFor path name))
      = keyOf (some ((registration.getD .none).overwrite path n)) := by
  have hcreate : Replay.apply (keyOf registration) RegAction.createKey
      = some (registration.getD .none).valueAt := by
    cases registration with
    | none => rfl
    | some set => rfl
  rw [replay_cons, hcreate, replay_setKeyValues]
  change some _ = some _
  congr 1
  funext name
  exact (keyOf_valueAt_overwrite _ path name hn).symm

/-! ### The runs of the tool -/

def setValues (path : WStr) (names : List WStr) : List RegAction :=
  names.map fun name => .setKeyValue name (valueFor path name)

theorem take_accepted (o : SetupOutcomes) :
    valueNames.take (accepted o) = valueNames.takeWhile (accepts o) :=
  (List.prefix_iff_eq_take.mp (List.takeWhile_prefix _)).symm

section Calls

variable {o : SetupOutcomes} {key : EventSourceKey}

theorem valueFor_path (path : WStr) {name : WStr} (h : name ∈ rgpwszPathValueNames) :
    valueFor path name = ⟨REG_SZ, bytesOfUnits (storedUnits path)⟩ := by
  have hcategory : name ≠ wszCategoryCount := by
    rintro rfl
    exact absurd h (by decide)
  have hparameter : name ≠ wszParameterCount := by
    rintro rfl
    exact absurd h (by decide)
  rw [valueFor, if_neg hcategory, if_neg hparameter]

theorem setPathValues_eq (path : WStr) {names : List WStr}
    (hnames : ∀ name ∈ names, name ∈ rgpwszPathValueNames) :
    setPathValues path o names key
      = (.returned (decide ((names.takeWhile (accepts o)).length = names.length)),
          setValues path (names.takeWhile (accepts o))) := by
  induction names generalizing key with
  | nil => rfl
  | cons name rest ih =>
      obtain ⟨hname, hrest⟩ := List.forall_mem_cons.mp hnames
      by_cases haccept : o.regSetKeyValue name = ERROR_SUCCESS
      · have hset : regSetKeyValueW name REG_SZ (bytesOfUnits (path.units ++ [NUL])) (cbPath path) o key
            = _ := regSetKeyValueW_of_accepted (cbPath_le path) haccept
        have hyes : accepts o name = true := decide_eq_true haccept
        rw [take_cbPath, ← valueFor_path path hname] at hset
        rw [setPathValues, Program.bind_of_returned hset, List.takeWhile_cons_of_pos hyes]
        simp [ih hrest, setValues]
      · have hset : regSetKeyValueW name REG_SZ (bytesOfUnits (path.units ++ [NUL])) (cbPath path) o key
            = _ := regSetKeyValueW_of_refused (cbPath_le path) haccept
        have hno : ¬ accepts o name = true := by simpa [accepts] using haccept
        rw [setPathValues, Program.bind_of_returned hset, List.takeWhile_cons_of_neg hno]
        simp [haccept, setValues]

theorem installMessageDLL_eq (path : WStr) (hcreate : o.regCreateKeyEx = ERROR_SUCCESS) :
    installMessageDLL path o key
      = (.returned (decide (accepted o = valueNames.length)),
          .createKey :: setValues path (valueNames.takeWhile (accepts o))) := by
  have hdword : ∀ dwValue : DWORD, 4 ≤ (bytesOfDword dwValue).length := fun _ => le_rfl
  have htake : ∀ dwValue : DWORD, (bytesOfDword dwValue).take 4 = bytesOfDword dwValue :=
    fun _ => rfl
  have hcategoryValue : valueFor path wszCategoryCount
      = ⟨REG_DWORD, bytesOfDword PMI_EXITMODULE_CATEGORYCOUNT⟩ := rfl
  have hparameterValue : valueFor path wszParameterCount
      = ⟨REG_DWORD, bytesOfDword PMI_EXITMODULE_PARAMETERCOUNT⟩ := rfl
  rw [installMessageDLL, if_neg (not_not.mpr hcreate), Program.emit_bind_apply, accepted, valueNames]
  by_cases hcategory : o.regSetKeyValue wszCategoryCount = ERROR_SUCCESS
  · have hyes : accepts o wszCategoryCount = true := decide_eq_true hcategory
    rw [Program.bind_of_returned (regSetKeyValueW_of_accepted (hdword _) hcategory),
      if_neg (not_not.mpr rfl), List.takeWhile_cons_of_pos hyes, htake, ← hcategoryValue]
    by_cases hparameter : o.regSetKeyValue wszParameterCount = ERROR_SUCCESS
    · have hyes' : accepts o wszParameterCount = true := decide_eq_true hparameter
      rw [Program.bind_of_returned (regSetKeyValueW_of_accepted (hdword _) hparameter),
        if_neg (not_not.mpr rfl), List.takeWhile_cons_of_pos hyes', htake, ← hparameterValue,
        setPathValues_eq path fun _ h => h]
      simp [setValues]
    · have hno : ¬ accepts o wszParameterCount = true := by simpa [accepts] using hparameter
      rw [Program.bind_of_returned (regSetKeyValueW_of_refused (hdword _) hparameter),
        if_pos hparameter, List.takeWhile_cons_of_neg hno]
      simp [setValues]
  · have hno : ¬ accepts o wszCategoryCount = true := by simpa [accepts] using hcategory
    rw [Program.bind_of_returned (regSetKeyValueW_of_refused (hdword _) hcategory),
      if_pos hcategory, List.takeWhile_cons_of_neg hno]
    simp [setValues]

theorem installMessageDLL_of_notOpened (path : WStr) (hcreate : o.regCreateKeyEx ≠ ERROR_SUCCESS) :
    installMessageDLL path o key = (.returned false, []) := by
  rw [installMessageDLL, if_pos hcreate]
  rfl

end Calls

namespace SetupRun

def wmain (run : SetupRun) : SetupProg Nat := Setup.wmain run.argv run.o

variable (run : SetupRun) (registration : Registration)

theorem exists_registers_of_install {parsed : WStr}
    (hparse : CArguments.tryParse {} run.argv = (true, { eOperation := .INSTALL, strPath := parsed })) :
    ∃ code after events, Registers run registration code after
      ∧ run.wmain (keyOf registration) = (.returned code, events)
      ∧ replay (keyOf registration) events = keyOf after := by
  have hrun : run.wmain (keyOf registration) = _ := wmain_of_install hparse
  by_cases hchosen : ∃ path, ChosenPath parsed run.o path
  · obtain ⟨path, hchosen⟩ := hchosen
    rw [install_of_chosen hchosen] at hrun
    by_cases hcreate : run.o.regCreateKeyEx = ERROR_SUCCESS
    · rw [installMessageDLL_eq path hcreate] at hrun
      refine ⟨_, _, _, .installed parsed path hparse hchosen hcreate, hrun, ?_⟩
      rw [← take_accepted]
      exact replay_install registration path (List.takeWhile_prefix _).length_le
    · rw [installMessageDLL_of_notOpened path hcreate] at hrun
      exact ⟨_, _, _, .notOpened parsed path hparse hchosen hcreate, hrun, rfl⟩
  · have hnone := not_exists.mp hchosen
    rw [install_of_not_chosen hnone] at hrun
    exact ⟨_, _, _, .notFound parsed hparse hnone, hrun, rfl⟩

theorem exists_registers_of_uninstall {args : CArguments}
    (hparse : CArguments.tryParse {} run.argv = (true, args)) (hoperation : args.eOperation = .UINSTALL) :
    ∃ code after events, Registers run registration code after
      ∧ run.wmain (keyOf registration) = (.returned code, events)
      ∧ replay (keyOf registration) events = keyOf after := by
  have hrun : run.wmain = do
      let fSuccess ← uninstallMessageDLL run.o
      return exitCode fSuccess := by
    unfold wmain Setup.wmain
    rw [hparse]
    simp only [hoperation]
    rfl
  by_cases hdelete : run.o.regDeleteKeyEx = ERROR_SUCCESS
  · refine ⟨_, _, [.deleteKey], .removed args hparse hoperation hdelete, ?_, rfl⟩
    rw [hrun, uninstallMessageDLL, if_pos hdelete]
    rfl
  · refine ⟨_, _, [], .kept args hparse hoperation hdelete, ?_, rfl⟩
    rw [hrun]
    simp [uninstallMessageDLL, hdelete]

/-- **One run refines one step of the registration.** -/
theorem exists_registers : ∃ code after events, Registers run registration code after
    ∧ run.wmain (keyOf registration) = (.returned code, events)
    ∧ replay (keyOf registration) events = keyOf after := by
  rcases hparse : CArguments.tryParse {} run.argv with ⟨parsed, args⟩
  cases parsed with
  | false =>
      have hrefused : (CArguments.tryParse {} run.argv).1 = false := by rw [hparse]
      refine ⟨_, _, [], .refused hrefused, ?_, rfl⟩
      simp [wmain, Setup.wmain, hparse]
  | true =>
      obtain ⟨eOperation, strPath⟩ := args
      cases eOperation with
      | INSTALL => exact exists_registers_of_install run registration hparse
      | UINSTALL => exact exists_registers_of_uninstall run registration hparse rfl

end SetupRun

/-- **The setup tool refines the registration.** Whatever the runs are called with and whatever the
registry answers, they exit with the codes of the registration and leave its key behind. -/
theorem runs_refine_registration (runs : List SetupRun) (registration : Registration) :
    ∃ codes after, RegistersAll runs registration codes after
      ∧ (history SetupRun.wmain (keyOf registration) runs).map Prod.fst = codes.map .returned
      ∧ stateAfter SetupRun.wmain (keyOf registration) runs = keyOf after := by
  induction runs generalizing registration with
  | nil => exact ⟨[], registration, .nil registration, rfl, rfl⟩
  | cons run runs ih =>
      obtain ⟨code, middle, events, hfirst, hrun, hreplay⟩ := run.exists_registers registration
      obtain ⟨codes, after, hrest, hcodes, hstate⟩ := ih middle
      refine ⟨code :: codes, after, .cons hfirst hrest, ?_, ?_⟩
      · rw [history, hrun, List.map_cons, List.map_cons, hreplay, hcodes]
      · rw [stateAfter, hrun, hreplay, hstate]

/-! ### What the exit code tells -/

/-- A key that runs of the tool made of an absent one. -/
def Reachable (key : EventSourceKey) : Prop := ∃ runs, key = stateAfter SetupRun.wmain none runs

/-- The key a whole install of this path leaves behind: its five values and no others. -/
def registered (path : WStr) : EventSourceKey :=
  some fun name => if name ∈ valueNames then some (valueFor path name) else none

theorem Reachable.exists_registration {key : EventSourceKey} (h : Reachable key) :
    ∃ registration, key = keyOf registration := by
  obtain ⟨runs, rfl⟩ := h
  have hstep : ∀ run ∈ runs, ∀ key, (∃ registration, key = keyOf registration) →
      (∃ registration, replay key (run.wmain key).2 = keyOf registration) ∧ True := by
    rintro run - _ ⟨registration, rfl⟩
    obtain ⟨code, after, events, -, hrun, hreplay⟩ := run.exists_registers registration
    rw [hrun]
    exact ⟨⟨after, hreplay⟩, trivial⟩
  exact (history_invariant SetupRun.wmain (fun key => ∃ registration, key = keyOf registration)
    (fun _ _ => True) hstep ⟨none, rfl⟩).1

theorem valueAt_none (set : PathsSet) {name : WStr} (h : name ∉ valueNames) : set.valueAt name = none := by
  have hidx : valueNames.idxOf name = valueNames.length := List.idxOf_eq_length_iff.mpr h
  unfold PathsSet.valueAt
  rw [hidx, List.getElem?_eq_none set.bounded]
  rfl

/-- An install that gets through all its values leaves nothing of what was there before. -/
theorem keyOf_overwrite_all (set : PathsSet) (path : WStr) :
    keyOf (some (set.overwrite path valueNames.length)) = registered path := by
  change some _ = some _
  congr 1
  funext name
  rw [keyOf_valueAt_overwrite set path name le_rfl, List.take_length]
  by_cases hname : name ∈ valueNames
  · rw [if_pos hname, if_pos hname]
  · rw [if_neg hname, if_neg hname, valueAt_none set hname]

theorem holds_overwrite {registration : Registration} {name : WStr} {value : StoredValue}
    (h : Holds (keyOf registration) name value) (path : WStr) {n : Nat} (hn : n ≤ valueNames.length) :
    ∃ value', Holds (keyOf (some ((registration.getD .none).overwrite path n))) name value' := by
  obtain ⟨values, hkey, hvalue⟩ := h
  cases registration with
  | none => cases hkey
  | some set =>
      obtain rfl := Option.some.inj hkey
      have hlater := keyOf_valueAt_overwrite set path name hn
      by_cases hname : name ∈ valueNames.take n
      · rw [if_pos hname] at hlater
        exact ⟨valueFor path name, _, rfl, hlater⟩
      · rw [if_neg hname] at hlater
        exact ⟨value, _, rfl, hlater.trans hvalue⟩

theorem exitCode_eq_success_iff {c : Prop} [Decidable c] : exitCode c = EXIT_SUCCESS ↔ c := by
  by_cases hc : c
  · simp [exitCode, hc]
  · simp [exitCode, hc, EXIT_SUCCESS, EXIT_FAILURE]

/-- What a run that exited so says of its key, which was this before. -/
def Tells (run : SetupRun) (before : EventSourceKey) (code : Nat) (after : EventSourceKey) : Prop :=
  if code = EXIT_SUCCESS then
    (∃ parsed path,
        CArguments.tryParse {} run.argv = (true, { eOperation := .INSTALL, strPath := parsed })
        ∧ ChosenPath parsed run.o path ∧ after = registered path) ∨
      ∃ args, CArguments.tryParse {} run.argv = (true, args) ∧ args.eOperation = .UINSTALL ∧ after = none
  else ∀ name value, Holds before name value → ∃ value', Holds after name value'

theorem tells_of_unchanged {run : SetupRun} {key : EventSourceKey} {code : Nat} (h : code ≠ EXIT_SUCCESS) :
    Tells run key code key := by
  rw [Tells, if_neg h]
  intro name value hholds
  exact ⟨value, hholds⟩

theorem tells_of_registers {run : SetupRun} {before after : Registration} {code : Nat}
    (h : Registers run before code after)
    (htruthful : run.o.regDeleteKeyEx = ERROR_FILE_NOT_FOUND → keyOf before = none) :
    Tells run (keyOf before) code (keyOf after) := by
  have hfailure : EXIT_FAILURE ≠ EXIT_SUCCESS := by decide
  cases h with
  | refused _ => exact tells_of_unchanged hfailure
  | notFound parsed hparse hchosen => exact tells_of_unchanged hfailure
  | notOpened parsed path hparse hchosen hcreate => exact tells_of_unchanged hfailure
  | installed parsed path hparse hchosen hcreate =>
      by_cases hall : accepted run.o = valueNames.length
      · rw [Tells, if_pos (exitCode_eq_success_iff.mpr hall)]
        refine Or.inl ⟨parsed, path, hparse, hchosen, ?_⟩
        rw [hall]
        exact keyOf_overwrite_all _ path
      · have hcode : exitCode (accepted run.o = valueNames.length) ≠ EXIT_SUCCESS := by
          intro hcode
          exact hall (exitCode_eq_success_iff.mp hcode)
        rw [Tells, if_neg hcode]
        intro name value hholds
        exact holds_overwrite hholds path (List.takeWhile_prefix _).length_le
  | removed args hparse hoperation hdelete => exact Or.inr ⟨args, hparse, hoperation, rfl⟩
  | kept args hparse hoperation hdelete =>
      by_cases habsent : run.o.regDeleteKeyEx = ERROR_FILE_NOT_FOUND
      · rw [Tells, if_pos (exitCode_eq_success_iff.mpr habsent)]
        exact Or.inr ⟨args, hparse, hoperation, htruthful habsent⟩
      · apply tells_of_unchanged
        intro hcode
        exact habsent (exitCode_eq_success_iff.mp hcode)

/-- **The exit code tells what is registered.** Whatever runs came before, as long as the registry calls
an absent key absent: after a run that exits with success the key is the whole registration of the path
it chose, or gone; a run that exits with failure leaves every value there is a value. -/
theorem exitCode_tells (run : SetupRun) (key : EventSourceKey) (hreach : Reachable key)
    (htruthful : run.o.regDeleteKeyEx = ERROR_FILE_NOT_FOUND → key = none) :
    ∃ code, (run.wmain key).1 = .returned code
      ∧ Tells run key code (replay key (run.wmain key).2) := by
  obtain ⟨registration, rfl⟩ := hreach.exists_registration
  obtain ⟨code, after, events, hregisters, hrun, hreplay⟩ := run.exists_registers registration
  refine ⟨code, ?_, ?_⟩
  · rw [hrun]
  · rw [hrun, hreplay]
    exact tells_of_registers hregisters htruthful

def wholeInstall : SetupRun where
  argv := [g_pwszMessageDLLName, wszInstallOption, g_pwszMessageDLLName]
  o := acceptingSetup g_pwszMessageDLLName

/-- The registry refuses the first of the paths. -/
def refusedInstall : SetupRun :=
  { wholeInstall with
    o := { wholeInstall.o with
      regSetKeyValue := fun name => if name = rgpwszPathValueNames[0] then 5 else ERROR_SUCCESS } }

theorem exitCode_tells_example :
    ∃ code, (refusedInstall.wmain (stateAfter SetupRun.wmain none [wholeInstall])).1 = .returned code
      ∧ Tells refusedInstall (stateAfter SetupRun.wmain none [wholeInstall]) code
        (replay (stateAfter SetupRun.wmain none [wholeInstall])
          (refusedInstall.wmain (stateAfter SetupRun.wmain none [wholeInstall])).2) :=
  exitCode_tells refusedInstall _ ⟨[wholeInstall], rfl⟩ fun habsent => absurd habsent (by decide)

end PmiExitModule.Setup
