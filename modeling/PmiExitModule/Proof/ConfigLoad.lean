import PmiExitModule.Proof.PropertyValues

/-!
# The loaded configuration

What `Init` makes of the values of the module's key. The path of the EXE is taken as it is stored, with
whatever the fresh block holds behind it. The two optional values are loaded when they can be read; a
value that cannot be read counts as one that is not there.
-/

namespace PmiExitModule

open Generic

namespace CEventProcessorConfig

/-! ### What a success says -/

section Success

variable {config config' : CEventProcessorConfig} {o : RegistryOutcomes} {hr : HRESULT}

theorem readArguments_succeeded (h : readArguments config o = .ok (hr, config')) (hok : ¬ FAILED hr) :
    (∃ e, o.queryArguments = .error e ∧ config' = config) ∨
    ∃ answer, o.queryArguments = .ok answer ∧ config' = { config with
      bufArgData := some answer.buf, bufArguments := some (answer.visits.map (some ·.offset)) } := by
  rcases config.readArguments_cases o with
    ⟨hr', config'', hfailed, hread⟩ | ⟨e, hquery, hread⟩ | ⟨answer, hquery, hread⟩
  · rw [hread] at h
    cases h
    exact absurd hfailed hok
  · rw [hread] at h
    cases h
    exact Or.inl ⟨e, hquery, rfl⟩
  · rw [hread] at h
    cases h
    exact Or.inr ⟨answer, hquery, rfl⟩

theorem succeeded_of_init (h : init {} o = .ok (hr, config)) (hok : ¬ FAILED hr) :
    ∃ value garbage, o.queryExePath = .ok value ∧ o.allocExePath = some garbage
      ∧ ((withExePath value garbage).readEscapeForPS o).readArguments o = .ok (hr, config) := by
  rcases init_exePath_cases o with
    ⟨hr', config', hfailed, hrun⟩ | ⟨value, garbage, hquery, halloc, hrun⟩
  · rw [hrun] at h
    cases h
    exact absurd hfailed hok
  · exact ⟨value, garbage, hquery, halloc, hrun.symm.trans h⟩

end Success

/-! ### The path of the EXE -/

theorem unitsOfBytes_append (rest : List BYTE) :
    ∀ bytes : List BYTE, ∃ units, unitsOfBytes (bytes ++ rest) = unitsOfBytes bytes ++ units
  | [] => ⟨unitsOfBytes rest, rfl⟩
  | [byte] => ⟨unitsOfBytes (byte :: rest), rfl⟩
  | low :: high :: bytes => by
      obtain ⟨units, hunits⟩ := unitsOfBytes_append rest bytes
      exact ⟨units, congrArg ((high ++ low) :: ·) hunits⟩

def writtenUnits (value : RegistryValue) : List WCHAR := unitsOfBytes value.data

theorem exePathBuffer_eq (value : RegistryValue) (garbage : Nat → BYTE) :
    ∃ unwritten, exePathBuffer value garbage = writtenUnits value ++ unwritten :=
  unitsOfBytes_append _ value.data

/-- The path of the EXE ends in the part of the buffer that was written, it is the stored string, and
the scans of `CProcess` need nothing but that part. -/
structure ExePathTerminated (value : RegistryValue) (config : CEventProcessorConfig) : Prop where
  terminator : ∃ buf nIndex, config.strExePath = some buf ∧ nIndex < buf.length
    ∧ 2 * nIndex + 1 < value.data.length ∧ buf[nIndex]? = some NUL
  stored : config.getExePath = .str (untilNul (writtenUnits value))
  hasWhiteSpace : ∃ answer, CProcess.hasWhiteSpace (.ofCells (writtenUnits value)) = .ok answer
  writeArgument : ∀ cells : List WCHAR, cells ≠ [] → cells.length ≤ STRSAFE_MAX_CCH →
    ∃ result, CProcess.writeArgument ⟨cells, 0, cells.length⟩ (.ofCells (writtenUnits value))
      = .ok result

section ExePath

variable {config : CEventProcessorConfig} {value : RegistryValue} {garbage : Nat → BYTE}

theorem nul_mem_of_terminator (hexe : config.strExePath = some (exePathBuffer value garbage))
    (h : ∃ buf nIndex, config.strExePath = some buf ∧ nIndex < buf.length
      ∧ 2 * nIndex + 1 < value.data.length ∧ buf[nIndex]? = some NUL) : NUL ∈ writtenUnits value := by
  obtain ⟨buf, nIndex, hbuf, -, hwritten, hnul⟩ := h
  obtain rfl := Option.some.inj (hexe.symm.trans hbuf)
  obtain ⟨unwritten, hsplit⟩ := exePathBuffer_eq value garbage
  have hlength : nIndex < (writtenUnits value).length := by
    rw [writtenUnits, unitsOfBytes_length]
    omega
  rw [hsplit, List.getElem?_append_left hlength] at hnul
  exact List.mem_of_getElem? hnul

theorem exePathTerminated_of_mem (hexe : config.strExePath = some (exePathBuffer value garbage))
    (hmem : NUL ∈ writtenUnits value) : ExePathTerminated value config := by
  obtain ⟨unwritten, hsplit⟩ := exePathBuffer_eq value garbage
  have hwritten : LPCWSTR.ofCells (writtenUnits value) = .str (untilNul (writtenUnits value)) :=
    if_pos hmem
  obtain ⟨before, after, hunits, hbefore⟩ := List.eq_append_cons_of_mem hmem
  have hlength : before.length < value.data.length / 2 := by
    rw [← unitsOfBytes_length, ← writtenUnits, hunits, List.length_append, List.length_cons]
    omega
  constructor
  · refine ⟨_, before.length, hexe, ?_, by omega, ?_⟩
    · rw [hsplit, hunits, List.length_append, List.length_append, List.length_cons]
      omega
    · rw [hsplit, hunits, List.append_assoc, List.getElem?_append_right le_rfl, Nat.sub_self]
      rfl
  · rw [getExePath, hexe, hsplit, hunits, untilNul_append_nul ⟨before, hbefore⟩ after]
    change LPCWSTR.ofCells (before ++ NUL :: after ++ unwritten) = _
    rw [List.append_assoc]
    exact LPCWSTR.ofCells_append_nul ⟨before, hbefore⟩ (after ++ unwritten)
  · rw [hwritten]
    exact ⟨_, rfl⟩
  · intro cells hne hmax
    obtain ⟨c, hrun, -⟩ := CProcess.pushes_writeArgument (untilNul (writtenUnits value)) _ _
      (Cursor.refines_fresh hne) hmax
    rw [hwritten]
    exact ⟨_, hrun⟩

end ExePath

/-- **The path of the EXE, and when it is terminated.** When `Init` succeeds, the buffer it read the path
into is terminated in its written part, holds the stored string and serves the scans of `CProcess`
without the rest of the block if and only if a whole terminator is among the stored bytes. -/
theorem exePathTerminated_iff (o : RegistryOutcomes) (hr : HRESULT) (config : CEventProcessorConfig)
    (value : RegistryValue) (hinit : init {} o = .ok (hr, config)) (hok : ¬ FAILED hr)
    (hquery : o.queryExePath = .ok value) :
    ExePathTerminated value config ↔ NUL ∈ unitsOfBytes value.data := by
  obtain ⟨value', garbage, hquery', -, hread⟩ := succeeded_of_init hinit hok
  obtain rfl := Except.ok.inj (hquery'.symm.trans hquery)
  have hexe : config.strExePath = some (exePathBuffer value' garbage) := by
    rcases readArguments_succeeded hread hok with ⟨e, -, rfl⟩ | ⟨answer, -, rfl⟩
    · rw [readEscapeForPS_eq]
      rfl
    · rw [readEscapeForPS_eq]
      rfl
  constructor
  · intro h
    exact nul_mem_of_terminator hexe h.terminator
  · intro hmem
    exact exePathTerminated_of_mem hexe hmem

/-- This path of the EXE is stored, and the block it is read into held no zeros before. -/
def registryWithPath (value : RegistryValue) : RegistryOutcomes :=
  { CPMICertExit.smallRegistry 1 with
    allocExePath := some fun _ => 0x62
    queryExePath := .ok value }

def terminatedPath : RegistryValue := ⟨REG_SZ, [0x63, 0, 0, 0], by decide⟩

def barePath : RegistryValue := ⟨REG_SZ, [0x63, 0], by decide⟩

theorem exePathTerminated_iff_example :
    ∃ config, init {} (registryWithPath terminatedPath) = .ok (S_OK, config)
      ∧ (ExePathTerminated terminatedPath config ↔ NUL ∈ unitsOfBytes [0x63, 0, 0, 0]) :=
  ⟨_, rfl, exePathTerminated_iff (registryWithPath terminatedPath) S_OK _ _ rfl not_failed_S_OK rfl⟩

/-- `Init` takes the path without its terminator, and the scan of `HasWhiteSpace` runs out of the
buffer. -/
theorem init_accepts_unterminated :
    ∃ config, init {} (registryWithPath barePath) = .ok (S_OK, config)
      ∧ ¬ ExePathTerminated barePath config
      ∧ CProcess.hasWhiteSpace config.getExePath = .error .outOfBounds := by
  refine ⟨_, rfl, ?_, by decide +kernel⟩
  intro h
  obtain ⟨answer, hscan⟩ := h.hasWhiteSpace
  have hfault : CProcess.hasWhiteSpace (.ofCells (writtenUnits barePath)) = .error .outOfBounds := by
    decide
  rw [hfault] at hscan
  cases hscan

end CEventProcessorConfig

/-! ### The optional values -/

namespace StoredValue

def IsDword (value : StoredValue) : Prop := value.dwType = REG_DWORD ∧ value.data.length ≤ 4

/-- `QueryMultiStringValue` reads it into the buffer of `Init`. -/
structure IsMultiSz (value : StoredValue) : Prop where
  type : value.dwType = REG_MULTI_SZ
  fits : value.data.length ≤ 2 * g_cbRegValueBuffer
  even : value.data.length % 2 = 0
  terminated : EndsTerminated NUL (unitsOfBytes value.data)

/-- The strings it holds, up to the empty one that ends them. -/
def strings (value : StoredValue) : List (List WCHAR) := leadingRun NUL (unitsOfBytes value.data)

end StoredValue

/-- The optional values of the module's key; a value that is not there is `none`. -/
structure OptionalValues where
  escapeForPS : Option StoredValue
  arguments : Option StoredValue

/-- What `CRegKey` is documented to answer on a key with these values. -/
structure RegistryOutcomes.Reads (o : RegistryOutcomes) (values : OptionalValues) : Prop where
  dword : ∀ value, values.escapeForPS = some value → value.IsDword →
    o.queryEscapeForPS = .ok (dwordOfBytes value.data)
  noDword : (∀ value, values.escapeForPS = some value → ¬ value.IsDword) →
    ∃ e, o.queryEscapeForPS = .error e
  multiSz : ∀ value, values.arguments = some value → value.IsMultiSz →
    ∃ answer, o.queryArguments = .ok answer ∧ answer.data = unitsOfBytes value.data
  noMultiSz : (∀ value, values.arguments = some value → ¬ value.IsMultiSz) →
    ∃ e, o.queryArguments = .error e

namespace CEventProcessorConfig

/-- The configuration is what can be read of these values: the strings are the static arguments, and
where a value cannot be read there are none, and the flag is off. -/
structure Loaded (values : OptionalValues) (config : CEventProcessorConfig) (strings : List WStr) :
    Prop where
  getArguments : config.getArguments = .ok (strings.map .str)
  arguments : ∀ value, values.arguments = some value → value.IsMultiSz →
    strings.map WStr.units = value.strings
  noArguments : (∀ value, values.arguments = some value → ¬ value.IsMultiSz) → strings = []
  flag : ∀ value, values.escapeForPS = some value → value.IsDword →
    (config.fEscapeForPS = true ↔ dwordOfBytes value.data ≠ 0)
  noFlag : (∀ value, values.escapeForPS = some value → ¬ value.IsDword) →
    config.fEscapeForPS = false

section Loaded

variable {values : OptionalValues} {o : RegistryOutcomes}

theorem fEscapeForPS_of_reads (hreads : o.Reads values) {config : CEventProcessorConfig}
    (hoff : config.fEscapeForPS = false) :
    (∀ value, values.escapeForPS = some value → value.IsDword →
      ((config.readEscapeForPS o).fEscapeForPS = true ↔ dwordOfBytes value.data ≠ 0)) ∧
    ((∀ value, values.escapeForPS = some value → ¬ value.IsDword) →
      (config.readEscapeForPS o).fEscapeForPS = false) := by
  constructor
  · intro value hvalue hdword
    rw [readEscapeForPS_of_ok (hreads.dword value hvalue hdword)]
    exact decide_eq_true_iff
  · intro hnone
    obtain ⟨e, hquery⟩ := hreads.noDword hnone
    rw [readEscapeForPS_of_error hquery]
    exact hoff

theorem loaded_of_init (hreads : o.Reads values) {hr : HRESULT} {config : CEventProcessorConfig}
    (hinit : init {} o = .ok (hr, config)) (hok : ¬ FAILED hr) :
    ∃ strings, Loaded values config strings := by
  obtain ⟨value, garbage, -, -, hread⟩ := succeeded_of_init hinit hok
  obtain ⟨hflag, hnoFlag⟩ := fEscapeForPS_of_reads hreads
    (rfl : (withExePath value garbage).fEscapeForPS = false)
  rcases readArguments_succeeded hread hok with ⟨e, hquery, rfl⟩ | ⟨answer, hquery, rfl⟩
  · refine ⟨[], ?_, ?_, fun _ => rfl, hflag, hnoFlag⟩
    · rw [readEscapeForPS_eq]
      rfl
    · intro arguments harguments hmultiSz
      obtain ⟨answer, hanswer, -⟩ := hreads.multiSz arguments harguments hmultiSz
      rw [hquery] at hanswer
      cases hanswer
  · obtain ⟨strings, hstrings, hmap⟩ := answer.exists_strings
    refine ⟨strings, hmap, ?_, ?_, hflag, hnoFlag⟩
    · intro arguments harguments hmultiSz
      obtain ⟨answer', hanswer, hdata⟩ := hreads.multiSz arguments harguments hmultiSz
      obtain rfl := Except.ok.inj (hquery.symm.trans hanswer)
      rw [hstrings, hdata]
      rfl
    · intro hnone
      obtain ⟨e, herror⟩ := hreads.noMultiSz hnone
      rw [hquery] at herror
      cases herror

end Loaded

end CEventProcessorConfig

/-! ### The launch -/

namespace CEventProcessor

/-- What stands for a string among the arguments, with `EscapeForPS` and without. -/
def StandsFor (fEscapeForPS : Bool) (pwsz pwszEsc : LPCWSTR) : Prop :=
  if fEscapeForPS then ∃ v : WStr, pwsz = .str v ∧ pwszEsc = .str (quoted v) else pwszEsc = pwsz

theorem standsFor_of_escapeArgumentForPS {pwsz : LPCWSTR} {heap : HeapOutcome WCHAR} {hr : HRESULT}
    {strResult : CHeapBuffer WCHAR} (h : escapeArgumentForPS pwsz heap = .ok (hr, strResult))
    (hok : ¬ FAILED hr) : StandsFor true pwsz strResult.get := by
  cases pwsz with
  | null => cases h
  | unterminated cells => cases h
  | str v =>
      rcases escapeArgumentForPS_cases v heap with ⟨hr', result, hfailed, hrun⟩ | ⟨cells, hrun, htext⟩
      · rw [hrun] at h
        cases h
        exact absurd hfailed hok
      · rw [hrun] at h
        cases h
        exact ⟨v, rfl, htext⟩

theorem standsFor_of_escapeArguments {processor : CEventProcessor}
    {pwszSubjectKeyIdentifier pwszTempFile pwszEscSubjectKeyIdentifier pwszEscTempFile : LPCWSTR}
    {o : ProcessorOutcomes} {hr : HRESULT}
    (h : processor.escapeArguments pwszSubjectKeyIdentifier pwszTempFile o
      = .ok (hr, pwszEscSubjectKeyIdentifier, pwszEscTempFile)) (hok : ¬ FAILED hr) :
    StandsFor processor.objConfig.fEscapeForPS pwszSubjectKeyIdentifier pwszEscSubjectKeyIdentifier
      ∧ StandsFor processor.objConfig.fEscapeForPS pwszTempFile pwszEscTempFile := by
  cases hescape : processor.objConfig.fEscapeForPS with
  | false =>
      simp only [escapeArguments, hescape, Bool.not_false, if_true] at h
      cases h
      exact ⟨rfl, rfl⟩
  | true =>
      simp only [escapeArguments, hescape, Bool.not_true, Bool.false_eq_true, if_false] at h
      obtain ⟨⟨hrSki, strEscSki⟩, hski, h⟩ := exists_of_bind_eq_ok h
      by_cases hfailed : FAILED hrSki
      · simp only [hfailed, if_true] at h
        cases h
        exact absurd hfailed hok
      simp only [hfailed, if_false] at h
      obtain ⟨⟨hrPath, strEscPath⟩, hpath, h⟩ := exists_of_bind_eq_ok h
      by_cases hfailedPath : FAILED hrPath
      · simp only [hfailedPath, if_true] at h
        cases h
        exact absurd hfailedPath hok
      simp only [hfailedPath, if_false] at h
      cases h
      exact ⟨standsFor_of_escapeArgumentForPS hski hfailed,
        standsFor_of_escapeArgumentForPS hpath hfailedPath⟩

/-- The process is created on the static arguments of the configuration and under its escaping. -/
def LaunchesLoaded (config : CEventProcessorConfig) (strings : List WStr) : Prop :=
  ∀ (objEventSource : CEventSource) (pwszSubjectKeyIdentifier pwszSerialNumber : LPCWSTR)
    (bufRawCert : List BYTE) (o : ProcessorOutcomes) (files : FileSystem) (commandLine : LPCWSTR)
    (created : Bool),
    .createProcess commandLine created
      ∈ ((⟨config, objEventSource⟩ : CEventProcessor).notifyCertIssued pwszSubjectKeyIdentifier
        pwszSerialNumber bufRawCert o files).2 →
    ∃ path pwszEscSubjectKeyIdentifier pwszEscTempFile filesBefore, TempPath o files path
      ∧ StandsFor config.fEscapeForPS pwszSubjectKeyIdentifier pwszEscSubjectKeyIdentifier
      ∧ StandsFor config.fEscapeForPS (.str path) pwszEscTempFile
      ∧ .createProcess commandLine created
        ∈ (CProcess.create {} config.getExePath (strings.map .str
          ++ certIssuedArguments pwszEscSubjectKeyIdentifier pwszSerialNumber pwszEscTempFile)
          o.process filesBefore).2

theorem launchesLoaded_of_getArguments {config : CEventProcessorConfig} {strings : List WStr}
    (hargs : config.getArguments = .ok (strings.map .str)) : LaunchesLoaded config strings := by
  intro objEventSource pwszSubjectKeyIdentifier pwszSerialNumber bufRawCert o files commandLine created
    hmem
  obtain ⟨path, bufArgs, filesBefore, hnamed, hlaunch, hcreate⟩ :=
    (notifyCertIssued_run _ _ _ _ _ _).createProcess_mem hmem
  obtain ⟨hr, pwszEscSubjectKeyIdentifier, pwszEscTempFile, bufBaseArgs, hok, hescaped, hbase, rfl⟩ :=
    hlaunch
  obtain rfl := Except.ok.inj (hbase.symm.trans hargs)
  obtain ⟨hski, hpath⟩ := standsFor_of_escapeArguments hescaped hok
  exact ⟨path, pwszEscSubjectKeyIdentifier, pwszEscTempFile, filesBefore, hnamed, hski, hpath, hcreate⟩

end CEventProcessor

namespace CEventProcessorConfig

/-- **What a successful load loads.** For every content of the key, the static arguments are the strings
the value holds if it can be read, and otherwise there are none; the flag says whether its value is
non-zero if that can be read, and otherwise it is off; and no process is created but on these arguments
and under this flag. -/
theorem init_loads_readable_values (o : RegistryOutcomes) (values : OptionalValues)
    (hreads : o.Reads values) (hr : HRESULT) (config : CEventProcessorConfig)
    (hinit : init {} o = .ok (hr, config)) (hok : ¬ FAILED hr) :
    ∃ strings, Loaded values config strings ∧ CEventProcessor.LaunchesLoaded config strings := by
  obtain ⟨strings, hloaded⟩ := loaded_of_init hreads hinit hok
  exact ⟨strings, hloaded, CEventProcessor.launchesLoaded_of_getArguments hloaded.getArguments⟩

def readableValues : OptionalValues where
  escapeForPS := some ⟨REG_DWORD, [1, 0, 0, 0]⟩
  arguments := some ⟨REG_MULTI_SZ, [0x2D, 0, 0x66, 0, 0, 0, 0, 0]⟩

def readableAnswer : MultiString where
  buf := [0x2D, 0x66] ++ List.replicate 1022 NUL
  cch := 4
  length := by rw [List.length_append, List.length_replicate]; rfl
  pos := by decide
  le := by rw [List.length_append, List.length_replicate]; decide
  last := rfl
  lastTwo _ := rfl

def readableRegistry : RegistryOutcomes :=
  { registryWithPath terminatedPath with queryArguments := .ok readableAnswer }

theorem readableRegistry_reads : readableRegistry.Reads readableValues := by
  constructor
  · rintro value ⟨⟩ -
    rfl
  · intro hnone
    exact absurd ⟨rfl, by decide⟩ (hnone _ rfl)
  · rintro value ⟨⟩ -
    exact ⟨readableAnswer, rfl, rfl⟩
  · intro hnone
    exact absurd ⟨rfl, by decide, rfl, ⟨rfl, fun _ => rfl⟩⟩ (hnone _ rfl)

theorem init_loads_readable_values_example :
    ∃ config strings, Loaded readableValues config strings
      ∧ CEventProcessor.LaunchesLoaded config strings := by
  have hinit := readArguments_of_value ((withExePath terminatedPath
    fun _ => 0x62).readEscapeForPS readableRegistry) (rfl : readableRegistry.queryArguments = _) rfl rfl
  exact ⟨_, init_loads_readable_values readableRegistry readableValues readableRegistry_reads S_OK _ hinit
    not_failed_S_OK⟩

/-- A value of one string of 1023 characters: with its two terminators it is longer than the buffer. -/
def longArguments : StoredValue :=
  ⟨REG_MULTI_SZ, bytesOfUnits (encodeSegments NUL [List.replicate 1023 0x61])⟩

def unreadableValues : OptionalValues where
  escapeForPS := some ⟨REG_SZ, [0x31, 0, 0, 0]⟩
  arguments := some longArguments

def unreadableRegistry : RegistryOutcomes :=
  { registryWithPath terminatedPath with
    queryEscapeForPS := .error ⟨13, by decide⟩
    queryArguments := .error ⟨234, by decide⟩ }

theorem not_isMultiSz_longArguments : ¬ longArguments.IsMultiSz := by
  intro h
  have hlength : longArguments.data.length = 2050 := by
    rw [longArguments, bytesOfUnits_length, encodeSegments]
    simp only [List.flatMap_cons, List.flatMap_nil, List.length_append, List.length_replicate,
      List.length_singleton, List.length_nil]
  have hfits := h.fits
  rw [hlength] at hfits
  exact absurd hfits (by decide)

/-- Both values are there, and `Init` succeeds without them. -/
theorem init_ignores_unreadable_values :
    unreadableRegistry.Reads unreadableValues
      ∧ unreadableValues.arguments = some longArguments
      ∧ longArguments.strings = [List.replicate 1023 0x61]
      ∧ unreadableValues.escapeForPS = some ⟨REG_SZ, [0x31, 0, 0, 0]⟩
      ∧ ∃ config, init {} unreadableRegistry = .ok (S_OK, config)
        ∧ config.getArguments = .ok [] ∧ config.fEscapeForPS = false := by
  refine ⟨⟨?_, fun _ => ⟨_, rfl⟩, ?_, fun _ => ⟨_, rfl⟩⟩, rfl, ?_, rfl, _, rfl, rfl, rfl⟩
  · rintro value ⟨⟩ hdword
    exact absurd hdword.1 (by decide)
  · rintro value ⟨⟩ hmultiSz
    exact absurd hmultiSz not_isMultiSz_longArguments
  · rw [StoredValue.strings, longArguments, unitsOfBytes_bytesOfUnits]
    apply leadingRun_encodeSegments
    rw [List.forall_mem_singleton]
    refine ⟨List.ne_nil_of_length_eq_add_one (List.length_replicate : _ = 1022 + 1), ?_⟩
    intro hmem
    exact absurd (List.eq_of_mem_replicate hmem) (by decide)

end CEventProcessorConfig

end PmiExitModule
