import PmiExitModule.Proof.SetupArguments
import PmiExitModule.Setup.Main

/-!
# What the setup tool registers

An install that goes through sets the three message file values to one path. The byte count handed to
the registry leaves the terminator out, and the directory the path is built from is that of the
executable's path cut to the buffer.
-/

namespace PmiExitModule.Setup

open Generic

/-! ### What is asked for -/

/-- `dir` is a path up to its last separator, the separator included. -/
def IsDirectoryOf (dir path : WStr) : Prop :=
  ∃ before name : List WCHAR, dir.units = before ++ [BACKSLASH] ∧ path.units = dir.units ++ name
    ∧ BACKSLASH ∉ name

/-- The path to register: the one given, else the message DLL beside the running executable. -/
def IsInstallPath (parsed : WStr) (o : SetupOutcomes) (path : WStr) : Prop :=
  parsed ≠ wszEmpty ∧ path = parsed ∨
    parsed = wszEmpty ∧ ∃ full dir, o.moduleFileName = .ok full ∧ IsDirectoryOf dir full
      ∧ path = dir ++ g_pwszMessageDLLName

def Holds (key : EventSourceKey) (name : WStr) (value : StoredValue) : Prop :=
  ∃ values, key = some values ∧ values name = some value

/-- If the install ends with `EXIT_SUCCESS`, the three message file values hold the path to register
as a terminated string. -/
def RegistersMessageFiles (argv : List WStr) (o : SetupOutcomes) (key : EventSourceKey) : Prop :=
  ∀ parsed, CArguments.tryParse {} argv = (true, { eOperation := .INSTALL, strPath := parsed }) →
    (wmain argv o key).1 = .returned EXIT_SUCCESS →
      ∃ path, IsInstallPath parsed o path ∧ ∀ name ∈ rgpwszPathValueNames,
        Holds (replay key (wmain argv o key).2) name
          ⟨REG_SZ, bytesOfUnits (path.units ++ [NUL])⟩

/-! ### Which installs go through -/

/-- The path the tool settles on: without a path given, it knows the first `MAX_PATH` characters of
the executable's path, and asks for a DLL that exists. -/
def ChosenPath (parsed : WStr) (o : SetupOutcomes) (path : WStr) : Prop :=
  parsed ≠ wszEmpty ∧ path = parsed ∨
    parsed = wszEmpty ∧ ∃ full dir, o.moduleFileName = .ok full
      ∧ IsDirectoryOf dir (full.take MAX_PATH) ∧ path = dir ++ g_pwszMessageDLLName
      ∧ o.pathFileExists path = true

def KeyWritable (o : SetupOutcomes) : Prop :=
  o.regCreateKeyEx = ERROR_SUCCESS ∧
    ∀ name ∈ wszCategoryCount :: wszParameterCount :: rgpwszPathValueNames,
      o.regSetKeyValue name = ERROR_SUCCESS

/-- The command line asks for an install, a path is found for it, and every registry call succeeds. -/
structure InstallsAs (argv : List WStr) (o : SetupOutcomes) (parsed path : WStr) : Prop where
  parse : CArguments.tryParse {} argv = (true, { eOperation := .INSTALL, strPath := parsed })
  chosen : ChosenPath parsed o path
  writable : KeyWritable o

/-- The executable's path has a separator behind the part of it that fits the buffer. -/
def CutsDirectory (parsed : WStr) (o : SetupOutcomes) : Prop :=
  parsed = wszEmpty ∧ ∃ full, o.moduleFileName = .ok full ∧ BACKSLASH ∈ full.units.drop MAX_PATH

/-! ### The search for the DLL -/

theorem wcsrchr_of_not_mem {units : List WCHAR} {c : WCHAR} (h : c ∉ units) :
    wcsrchr units c = none := by
  induction units with
  | nil => rfl
  | cons unit rest ih =>
      obtain ⟨hne, hrest⟩ := List.ne_and_not_mem_of_not_mem_cons h
      rw [wcsrchr, ih hrest]
      exact if_neg hne.symm

theorem wcsrchr_append {before after : List WCHAR} {c : WCHAR} (h : c ∉ after) :
    wcsrchr (before ++ c :: after) c = some before.length := by
  induction before with
  | nil =>
      rw [List.nil_append, wcsrchr, wcsrchr_of_not_mem h]
      exact if_pos rfl
  | cons unit rest ih =>
      rw [List.cons_append, wcsrchr, ih]
      rfl

theorem wcsrchr_cases (units : List WCHAR) (c : WCHAR) :
    (c ∉ units ∧ wcsrchr units c = none) ∨
      ∃ before after, units = before ++ c :: after ∧ c ∉ after
        ∧ wcsrchr units c = some before.length := by
  by_cases hmem : c ∈ units
  · obtain ⟨before, after, hsplit, hafter⟩ :=
      List.eq_append_cons_of_mem (List.mem_reverse.mpr hmem)
    have hunits : units = after.reverse ++ c :: before.reverse := by
      rw [← List.reverse_reverse units, hsplit]
      simp
    have hlast : c ∉ before.reverse := fun h => hafter (List.mem_reverse.mp h)
    refine Or.inr ⟨after.reverse, before.reverse, hunits, hlast, ?_⟩
    rw [hunits]
    exact wcsrchr_append hlast
  · exact Or.inl ⟨hmem, wcsrchr_of_not_mem hmem⟩

theorem take_split {before after : List WCHAR} {c : WCHAR} :
    (before ++ c :: after).take (before.length + 1) = before ++ [c] := by
  rw [← List.singleton_append, ← List.append_assoc]
  apply List.take_left'
  simp

theorem isDirectoryOf_iff {dir path : WStr} :
    IsDirectoryOf dir path ↔
      ∃ n, wcsrchr path.units BACKSLASH = some n ∧ dir = path.take (n + 1) := by
  constructor
  · rintro ⟨before, name, hdir, hpath, hname⟩
    have hsplit : path.units = before ++ BACKSLASH :: name := by
      rw [hpath, hdir, List.append_assoc, List.singleton_append]
    refine ⟨before.length, ?_, ?_⟩
    · rw [hsplit]
      exact wcsrchr_append hname
    · ext1
      change dir.units = path.units.take (before.length + 1)
      rw [hsplit, take_split, hdir]
  · rintro ⟨n, hfound, rfl⟩
    rcases wcsrchr_cases path.units BACKSLASH with ⟨-, hnone⟩ | ⟨before, after, hsplit, hafter, hsome⟩
    · rw [hnone] at hfound
      cases hfound
    · obtain rfl : before.length = n := Option.some.inj (hsome.symm.trans hfound)
      have hdir : (path.take (before.length + 1)).units = before ++ [BACKSLASH] := by
        change path.units.take (before.length + 1) = _
        rw [hsplit, take_split]
      refine ⟨before, after, hdir, ?_, hafter⟩
      rw [hdir, hsplit, List.append_assoc, List.singleton_append]

theorem IsDirectoryOf.ne_nil {dir path : WStr} (h : IsDirectoryOf dir path) : path.units ≠ [] := by
  obtain ⟨before, name, hdir, hpath, -⟩ := h
  rw [hpath, hdir]
  simp

theorem getModuleFileNameW_snd (full : WStr) :
    (getModuleFileNameW full (MAX_PATH + 1)).2 = full.take MAX_PATH := by
  unfold getModuleFileNameW
  split
  next hshort =>
    ext1
    exact (List.take_of_length_le (Nat.le_of_lt_succ hshort)).symm
  next => rfl

theorem getModuleFileNameW_fst_eq_zero_iff (full : WStr) :
    (getModuleFileNameW full (MAX_PATH + 1)).1 = 0 ↔ full.units = [] := by
  unfold getModuleFileNameW WStr.length
  split
  next => exact List.length_eq_zero_iff
  next hlong =>
    refine iff_of_false (Nat.succ_ne_zero _) ?_
    intro hempty
    exact hlong (by simp [hempty])

theorem findMessageDLL_eq_true_iff (strPath path : WStr) (o : SetupOutcomes) :
    findMessageDLL strPath o = (true, path) ↔
      ∃ full dir, o.moduleFileName = .ok full ∧ IsDirectoryOf dir (full.take MAX_PATH)
        ∧ path = dir ++ g_pwszMessageDLLName ∧ o.pathFileExists path = true := by
  unfold findMessageDLL
  cases hfull : o.moduleFileName with
  | error e => simp
  | ok full =>
      simp only [getModuleFileNameW_fst_eq_zero_iff, getModuleFileNameW_snd]
      by_cases hempty : full.units = []
      · refine iff_of_false (by simp [hempty]) ?_
        rintro ⟨_, dir, ⟨rfl⟩, hdir, -⟩
        exact hdir.ne_nil (by simp [WStr.take, hempty])
      · rw [if_neg hempty]
        cases hfound : wcsrchr (full.take MAX_PATH).units BACKSLASH with
        | none =>
            refine iff_of_false (by simp) ?_
            rintro ⟨_, dir, ⟨rfl⟩, hdir, -⟩
            obtain ⟨n, hsome, -⟩ := isDirectoryOf_iff.mp hdir
            simp [hfound] at hsome
        | some n =>
            constructor
            · intro h
              obtain ⟨hexists, rfl⟩ := Prod.mk.inj h
              exact ⟨full, _, rfl, isDirectoryOf_iff.mpr ⟨n, hfound, rfl⟩, rfl, hexists⟩
            · rintro ⟨_, dir, ⟨rfl⟩, hdir, rfl, hexists⟩
              obtain ⟨m, hsome, rfl⟩ := isDirectoryOf_iff.mp hdir
              obtain rfl : n = m := Option.some.inj (hfound.symm.trans hsome)
              exact Prod.ext hexists rfl

/-! ### The registry calls -/

section RegistryCalls

variable {o : SetupOutcomes} {key : EventSourceKey}

theorem regSetKeyValueW_of_accepted {name : WStr} {dwType : DWORD} {pData : List BYTE} {cbData : Nat}
    (hread : cbData ≤ pData.length) (h : o.regSetKeyValue name = ERROR_SUCCESS) :
    regSetKeyValueW name dwType pData cbData o key
      = (.returned ERROR_SUCCESS, [.setKeyValue name ⟨dwType, pData.take cbData⟩]) := by
  simp [regSetKeyValueW, readBlock, hread, h]

theorem regSetKeyValueW_of_refused {name : WStr} {dwType : DWORD} {pData : List BYTE} {cbData : Nat}
    (hread : cbData ≤ pData.length) (h : o.regSetKeyValue name ≠ ERROR_SUCCESS) :
    regSetKeyValueW name dwType pData cbData o key = (.returned (o.regSetKeyValue name), []) := by
  simp [regSetKeyValueW, readBlock, hread, h]

theorem cbPath_eq (path : WStr) : cbPath path = 2 * (path.length % 2 ^ 31) := by
  unfold cbPath
  omega

theorem cbPath_le (path : WStr) : cbPath path ≤ (bytesOfUnits (path.units ++ [NUL])).length := by
  rw [cbPath_eq, bytesOfUnits_length, List.length_append, List.length_singleton]
  have hmod : path.length % 2 ^ 31 ≤ path.units.length := Nat.mod_le _ _
  omega

/-- The units of a path that are stored: all of them, for a path shorter than 2 GiB. -/
def storedUnits (path : WStr) : List WCHAR := path.units.take (path.length % 2 ^ 31)

theorem take_bytesOfUnits (units : List WCHAR) (n : Nat) :
    (bytesOfUnits units).take (2 * n) = bytesOfUnits (units.take n) := by
  induction n generalizing units with
  | zero => simp [bytesOfUnits]
  | succ n ih =>
      cases units with
      | nil => simp [bytesOfUnits]
      | cons unit rest =>
          rw [bytesOfUnits_cons, List.take_succ_cons, bytesOfUnits_cons, ← ih]
          rfl

theorem take_cbPath (path : WStr) :
    (bytesOfUnits (path.units ++ [NUL])).take (cbPath path) = bytesOfUnits (storedUnits path) := by
  have hmod : path.length % 2 ^ 31 ≤ path.units.length := Nat.mod_le _ _
  rw [cbPath_eq, take_bytesOfUnits, List.take_append_of_le_length hmod, storedUnits]

theorem setPathValues_of_accepted (path : WStr) {names : List WStr}
    (h : ∀ name ∈ names, o.regSetKeyValue name = ERROR_SUCCESS) :
    setPathValues path o names key
      = (.returned true,
          names.map fun name => .setKeyValue name ⟨REG_SZ, bytesOfUnits (storedUnits path)⟩) := by
  induction names generalizing key with
  | nil => rfl
  | cons name rest ih =>
      obtain ⟨hname, hrest⟩ := List.forall_mem_cons.mp h
      have hset : regSetKeyValueW name REG_SZ (bytesOfUnits (path.units ++ [NUL])) (cbPath path) o key
          = _ := regSetKeyValueW_of_accepted (cbPath_le path) hname
      rw [take_cbPath] at hset
      rw [setPathValues, Program.bind_of_returned hset]
      simp [ih hrest]

theorem setPathValues_of_refused (path : WStr) {names : List WStr}
    (h : ¬ ∀ name ∈ names, o.regSetKeyValue name = ERROR_SUCCESS) :
    (setPathValues path o names key).1 = .returned false := by
  induction names generalizing key with
  | nil => exact absurd (List.forall_mem_nil _) h
  | cons name rest ih =>
      by_cases hname : o.regSetKeyValue name = ERROR_SUCCESS
      · have hrest : ¬ ∀ name ∈ rest, o.regSetKeyValue name = ERROR_SUCCESS :=
          fun hrest => h (List.forall_mem_cons.mpr ⟨hname, hrest⟩)
        rw [setPathValues, Program.bind_of_returned (regSetKeyValueW_of_accepted (cbPath_le path) hname)]
        simp [ih hrest]
      · rw [setPathValues, Program.bind_of_returned (regSetKeyValueW_of_refused (cbPath_le path) hname)]
        simp [hname]

def installActions (path : WStr) : List RegAction :=
  .createKey ::
    .setKeyValue wszCategoryCount ⟨REG_DWORD, bytesOfDword PMI_EXITMODULE_CATEGORYCOUNT⟩ ::
    .setKeyValue wszParameterCount ⟨REG_DWORD, bytesOfDword PMI_EXITMODULE_PARAMETERCOUNT⟩ ::
    rgpwszPathValueNames.map fun name =>
      .setKeyValue name ⟨REG_SZ, bytesOfUnits (storedUnits path)⟩

theorem installMessageDLL_of_writable (path : WStr) (h : KeyWritable o) :
    installMessageDLL path o key = (.returned true, installActions path) := by
  obtain ⟨hcreate, hset⟩ := h
  obtain ⟨hcategory, hset⟩ := List.forall_mem_cons.mp hset
  obtain ⟨hparameter, hset⟩ := List.forall_mem_cons.mp hset
  have hdword : ∀ dwValue : DWORD, 4 ≤ (bytesOfDword dwValue).length := fun _ => le_rfl
  have htake : ∀ dwValue : DWORD, (bytesOfDword dwValue).take 4 = bytesOfDword dwValue :=
    fun _ => rfl
  rw [installMessageDLL, if_neg (not_not.mpr hcreate), Program.emit_bind_apply,
    Program.bind_of_returned (regSetKeyValueW_of_accepted (hdword _) hcategory),
    if_neg (not_not.mpr rfl),
    Program.bind_of_returned (regSetKeyValueW_of_accepted (hdword _) hparameter),
    if_neg (not_not.mpr rfl), setPathValues_of_accepted path hset, htake, htake]
  rfl

theorem installMessageDLL_of_not_writable (path : WStr) (h : ¬ KeyWritable o) :
    (installMessageDLL path o key).1 = .returned false := by
  have hdword : ∀ dwValue : DWORD, 4 ≤ (bytesOfDword dwValue).length := fun _ => le_rfl
  unfold installMessageDLL
  by_cases hcreate : o.regCreateKeyEx = ERROR_SUCCESS
  · rw [if_neg (not_not.mpr hcreate), Program.emit_bind_apply]
    by_cases hcategory : o.regSetKeyValue wszCategoryCount = ERROR_SUCCESS
    · rw [Program.bind_of_returned (regSetKeyValueW_of_accepted (hdword _) hcategory),
        if_neg (not_not.mpr rfl)]
      by_cases hparameter : o.regSetKeyValue wszParameterCount = ERROR_SUCCESS
      · rw [Program.bind_of_returned (regSetKeyValueW_of_accepted (hdword _) hparameter),
          if_neg (not_not.mpr rfl)]
        apply setPathValues_of_refused
        intro hset
        exact h ⟨hcreate, List.forall_mem_cons.mpr
          ⟨hcategory, List.forall_mem_cons.mpr ⟨hparameter, hset⟩⟩⟩
      · rw [Program.bind_of_returned (regSetKeyValueW_of_refused (hdword _) hparameter),
          if_pos hparameter]
        rfl
    · rw [Program.bind_of_returned (regSetKeyValueW_of_refused (hdword _) hcategory),
        if_pos hcategory]
      rfl
  · rw [if_pos hcreate]
    rfl

end RegistryCalls

/-! ### The run of the tool -/

section Run

variable {argv : List WStr} {o : SetupOutcomes} {key : EventSourceKey} {parsed path : WStr}

theorem chosenPath_given_iff (hparsed : parsed ≠ wszEmpty) : ChosenPath parsed o path ↔ path = parsed := by
  simp [ChosenPath, hparsed]

theorem chosenPath_found_iff : ChosenPath wszEmpty o path ↔ findMessageDLL wszEmpty o = (true, path) := by
  rw [findMessageDLL_eq_true_iff]
  simp [ChosenPath]

theorem install_of_chosen (h : ChosenPath parsed o path) :
    install parsed o key = installMessageDLL path o key := by
  unfold install
  by_cases hparsed : parsed = wszEmpty
  · subst hparsed
    rw [if_pos rfl, chosenPath_found_iff.mp h]
    rfl
  · rw [if_neg hparsed, (chosenPath_given_iff hparsed).mp h]
    rfl

theorem install_of_not_chosen (h : ∀ path, ¬ ChosenPath parsed o path) :
    install parsed o key = (.returned false, []) := by
  have hparsed : parsed = wszEmpty := by
    by_contra hne
    exact h parsed ((chosenPath_given_iff hne).mpr rfl)
  subst hparsed
  rcases hfind : findMessageDLL wszEmpty o with ⟨found, path⟩
  cases found with
  | false => simp [install, hfind]
  | true => exact absurd (chosenPath_found_iff.mpr hfind) (h path)

theorem wmain_of_install
    (hparse : CArguments.tryParse {} argv = (true, { eOperation := .INSTALL, strPath := parsed })) :
    wmain argv o key
      = ((install parsed o key).1.map fun fSuccess => if fSuccess then EXIT_SUCCESS else EXIT_FAILURE,
          (install parsed o key).2) := by
  rw [← Program.bind_pure_apply key (install parsed o)]
  simp [wmain, hparse]

theorem InstallsAs.run (h : InstallsAs argv o parsed path) :
    wmain argv o key = (.returned EXIT_SUCCESS, installActions path) := by
  rw [wmain_of_install h.parse, install_of_chosen h.chosen, installMessageDLL_of_writable path h.writable]
  rfl

theorem installsAs_of_success
    (hparse : CArguments.tryParse {} argv = (true, { eOperation := .INSTALL, strPath := parsed }))
    (hsuccess : (wmain argv o key).1 = .returned EXIT_SUCCESS) : ∃ path, InstallsAs argv o parsed path := by
  rw [wmain_of_install hparse] at hsuccess
  have hfailure : ∀ ending : Ending Fault Bool, ending = .returned false →
      ending.map (fun fSuccess => if fSuccess then EXIT_SUCCESS else EXIT_FAILURE)
        ≠ .returned EXIT_SUCCESS := by
    rintro ending rfl
    decide
  by_cases hchosen : ∃ path, ChosenPath parsed o path
  · obtain ⟨path, hchosen⟩ := hchosen
    by_cases hwritable : KeyWritable o
    · exact ⟨path, hparse, hchosen, hwritable⟩
    · rw [install_of_chosen hchosen] at hsuccess
      exact absurd hsuccess (hfailure _ (installMessageDLL_of_not_writable path hwritable))
  · rw [install_of_not_chosen (not_exists.mp hchosen)] at hsuccess
    exact absurd hsuccess (hfailure _ rfl)

end Run

/-! ### What the key then holds -/

theorem replay_setKeyValue (values : WStr → Option StoredValue) (value : StoredValue)
    (names : List WStr) :
    ∃ values',
      replay (some values) (names.map fun name => RegAction.setKeyValue name value) = some values'
        ∧ ∀ name, name ∈ names ∨ values name = some value → values' name = some value := by
  induction names generalizing values with
  | nil => exact ⟨values, rfl, fun name h => h.resolve_left List.not_mem_nil⟩
  | cons first rest ih =>
      obtain ⟨values', hreplay, hvalues'⟩ := ih (Function.update values first (some value))
      refine ⟨values', hreplay, ?_⟩
      intro name h
      apply hvalues'
      by_cases hfirst : name = first
      · right
        rw [hfirst, Function.update_self]
      · rw [Function.update_of_ne hfirst]
        exact h.imp_left fun hmem => (List.mem_cons.mp hmem).resolve_left hfirst

theorem holds_of_installActions (key : EventSourceKey) (path : WStr) :
    ∀ name ∈ rgpwszPathValueNames,
      Holds (replay key (installActions path)) name ⟨REG_SZ, bytesOfUnits (storedUnits path)⟩ := by
  intro name hname
  obtain ⟨values, hreplay, hvalues⟩ :=
    replay_setKeyValue _ ⟨REG_SZ, bytesOfUnits (storedUnits path)⟩ rgpwszPathValueNames
  refine ⟨values, ?_, hvalues name (Or.inl hname)⟩
  rw [installActions, replay_cons, replay_cons, replay_cons]
  exact hreplay

theorem Holds.unique {key : EventSourceKey} {name : WStr} {value value' : StoredValue}
    (h : Holds key name value) (h' : Holds key name value') : value = value' := by
  obtain ⟨values, rfl, hvalue⟩ := h
  obtain ⟨_, ⟨rfl⟩, hvalue'⟩ := h'
  exact Option.some.inj (hvalue.symm.trans hvalue')

/-- The units stored for a path never end in a terminator: they are units of the path. -/
theorem bytesOfUnits_storedUnits_ne (path other : WStr) :
    bytesOfUnits (storedUnits path) ≠ bytesOfUnits (other.units ++ [NUL]) := by
  intro h
  have hunits : storedUnits path = other.units ++ [NUL] := bytesOfUnits_injective h
  have hmem : NUL ∈ storedUnits path := by
    rw [hunits]
    simp
  exact path.nulFree (List.mem_of_mem_take hmem)

/-! ### The path that is registered -/

theorem isDirectoryOf_iff_of_take {full dir : WStr} {n : Nat} (hdir : IsDirectoryOf dir (full.take n)) :
    IsDirectoryOf dir full ↔ BACKSLASH ∉ full.units.drop n := by
  obtain ⟨before, name, hbefore, hcut, hname⟩ := hdir
  change full.units.take n = dir.units ++ name at hcut
  constructor
  · rintro ⟨_, wholeName, -, hwhole, hwholeName⟩
    have hle : dir.units.length ≤ n := by
      calc dir.units.length ≤ (dir.units ++ name).length := by simp
        _ = (full.units.take n).length := by rw [hcut]
        _ ≤ n := List.length_take_le n full.units
    have hdrop : full.units.drop n = wholeName.drop (n - dir.units.length) := by
      rw [hwhole, List.drop_append, List.drop_eq_nil_of_le hle, List.nil_append]
    intro hmem
    rw [hdrop] at hmem
    exact hwholeName (List.mem_of_mem_drop hmem)
  · intro hrest
    refine ⟨before, name ++ full.units.drop n, hbefore, ?_, ?_⟩
    · calc full.units = full.units.take n ++ full.units.drop n := (List.take_append_drop n _).symm
        _ = dir.units ++ (name ++ full.units.drop n) := by rw [hcut, List.append_assoc]
    · intro hmem
      exact (List.mem_append.mp hmem).elim hname hrest

theorem append_messageDLL_injective {dir dir' : WStr}
    (h : dir ++ g_pwszMessageDLLName = dir' ++ g_pwszMessageDLLName) : dir = dir' := by
  ext1
  exact List.append_cancel_right (congrArg WStr.units h)

theorem ChosenPath.isInstallPath_iff {parsed path : WStr} {o : SetupOutcomes}
    (h : ChosenPath parsed o path) : IsInstallPath parsed o path ↔ ¬ CutsDirectory parsed o := by
  obtain ⟨hparsed, rfl⟩ | ⟨rfl, full, dir, hfull, hdir, rfl, -⟩ := h
  · apply iff_of_true (Or.inl ⟨hparsed, rfl⟩)
    intro hcuts
    exact hparsed hcuts.1
  · have hcuts : CutsDirectory wszEmpty o ↔ BACKSLASH ∈ full.units.drop MAX_PATH := by
      constructor
      · rintro ⟨-, full', hfull', hmem⟩
        obtain rfl : full = full' := Except.ok.inj (hfull.symm.trans hfull')
        exact hmem
      · intro hmem
        exact ⟨rfl, full, hfull, hmem⟩
    rw [hcuts, ← isDirectoryOf_iff_of_take hdir]
    constructor
    · rintro (⟨hne, -⟩ | ⟨-, full', dir', hfull', hdir', hpath⟩)
      · exact absurd rfl hne
      · obtain rfl : full = full' := Except.ok.inj (hfull.symm.trans hfull')
        rw [append_messageDLL_injective hpath]
        exact hdir'
    · intro hwhole
      exact Or.inr ⟨rfl, full, dir, hfull, hwhole, rfl⟩

section InstallsAs

variable {argv : List WStr} {o : SetupOutcomes} {parsed path : WStr}

theorem InstallsAs.holds (h : InstallsAs argv o parsed path) (key : EventSourceKey) :
    ∀ name ∈ rgpwszPathValueNames, Holds (replay key (wmain argv o key).2) name
      ⟨REG_SZ, bytesOfUnits (storedUnits path)⟩ := by
  rw [h.run]
  exact holds_of_installActions key path

theorem InstallsAs.not_registersMessageFiles (h : InstallsAs argv o parsed path)
    (key : EventSourceKey) : ¬ RegistersMessageFiles argv o key := by
  intro hregisters
  have hsuccess : (wmain argv o key).1 = .returned EXIT_SUCCESS := by rw [h.run]
  obtain ⟨other, -, hholds⟩ := hregisters parsed h.parse hsuccess
  have hname : WStr.ofLiteral "EventMessageFile" ∈ rgpwszPathValueNames := by decide
  have hvalue := (h.holds key _ hname).unique (hholds _ hname)
  exact bytesOfUnits_storedUnits_ne path other (congrArg StoredValue.data hvalue)

end InstallsAs

/-- **What an install leaves behind.** No install that goes through stores the terminator. It stores
one path three times, and that is the path asked for exactly when no separator of the executable's
path lies behind the part that fits the buffer. -/
theorem registersMessageFiles_iff (argv : List WStr) (o : SetupOutcomes) (key : EventSourceKey) :
    (RegistersMessageFiles argv o key ↔ ¬ ∃ parsed path, InstallsAs argv o parsed path) ∧
      ∀ parsed path, InstallsAs argv o parsed path →
        (wmain argv o key).1 = .returned EXIT_SUCCESS ∧
          (∀ name ∈ rgpwszPathValueNames, Holds (replay key (wmain argv o key).2) name
            ⟨REG_SZ, bytesOfUnits (storedUnits path)⟩) ∧
          (IsInstallPath parsed o path ↔ ¬ CutsDirectory parsed o) := by
  constructor
  · constructor
    · rintro hregisters ⟨parsed, path, hinstalls⟩
      exact hinstalls.not_registersMessageFiles key hregisters
    · intro hnone parsed hparse hsuccess
      exact absurd ⟨parsed, installsAs_of_success hparse hsuccess⟩ hnone
  · intro parsed path hinstalls
    refine ⟨?_, hinstalls.holds key, hinstalls.chosen.isInstallPath_iff⟩
    rw [hinstalls.run]

def acceptingSetup (moduleFileName : WStr) : SetupOutcomes where
  moduleFileName := .ok moduleFileName
  pathFileExists := fun _ => true
  regCreateKeyEx := ERROR_SUCCESS
  regSetKeyValue := fun _ => ERROR_SUCCESS
  regDeleteKeyEx := ERROR_SUCCESS

theorem keyWritable_acceptingSetup (moduleFileName : WStr) :
    KeyWritable (acceptingSetup moduleFileName) := by
  constructor
  · rfl
  · intro name _
    rfl

/-- The path of an executable in a folder below the root whose name is 260 characters long. -/
def longModuleFileName : WStr where
  units := BACKSLASH :: List.replicate 260 0x61 ++ [BACKSLASH, 0x61]
  nulFree := by decide

/-- `setup.exe /i a` stores the two bytes of `a` and no terminator. From a deep folder, `setup.exe`
registers the DLL of an ancestor. -/
theorem install_drops_terminator :
    ¬ RegistersMessageFiles [.ofLiteral "setup.exe", .ofLiteral "/i", .ofLiteral "a"]
        (acceptingSetup (.ofLiteral "setup.exe")) none ∧
      Holds (replay none (wmain [.ofLiteral "setup.exe", .ofLiteral "/i", .ofLiteral "a"]
        (acceptingSetup (.ofLiteral "setup.exe")) none).2)
        (.ofLiteral "EventMessageFile") ⟨REG_SZ, [0x61, 0]⟩ ∧
      Holds (replay none (wmain [.ofLiteral "setup.exe"] (acceptingSetup longModuleFileName) none).2)
        (.ofLiteral "EventMessageFile")
        ⟨REG_SZ, bytesOfUnits (wide "\\PMIExitModuleMessages.dll")⟩ ∧
      ¬ IsInstallPath wszEmpty (acceptingSetup longModuleFileName)
        (.ofLiteral "\\PMIExitModuleMessages.dll") := by
  have hname : WStr.ofLiteral "EventMessageFile" ∈ rgpwszPathValueNames := by decide
  have hgiven : InstallsAs [.ofLiteral "setup.exe", .ofLiteral "/i", .ofLiteral "a"]
      (acceptingSetup (.ofLiteral "setup.exe")) (.ofLiteral "a") (.ofLiteral "a") :=
    ⟨by decide, Or.inl ⟨by decide, rfl⟩, keyWritable_acceptingSetup _⟩
  have hdir : IsDirectoryOf ⟨[BACKSLASH], by decide⟩ (longModuleFileName.take MAX_PATH) := by
    refine ⟨[], (List.replicate 260 0x61 ++ [BACKSLASH, 0x61]).take 259, rfl, rfl, ?_⟩
    rw [List.take_append_of_le_length (by rw [List.length_replicate]; decide)]
    intro hmem
    exact absurd (List.eq_of_mem_replicate (List.mem_of_mem_take hmem)) (by decide)
  have hfound : InstallsAs [.ofLiteral "setup.exe"] (acceptingSetup longModuleFileName) wszEmpty
      (.ofLiteral "\\PMIExitModuleMessages.dll") :=
    ⟨rfl, Or.inr ⟨rfl, longModuleFileName, _, rfl, hdir, rfl, rfl⟩, keyWritable_acceptingSetup _⟩
  refine ⟨hgiven.not_registersMessageFiles none, hgiven.holds none _ hname,
    hfound.holds none _ hname, ?_⟩
  rw [hfound.chosen.isInstallPath_iff, not_not]
  refine ⟨rfl, longModuleFileName, rfl, ?_⟩
  change BACKSLASH ∈ [0x61, BACKSLASH, 0x61]
  decide

end PmiExitModule.Setup
