import PmiExitModule.Proof.CommandLine
import PmiExitModule.Proof.Escaping
import PmiExitModule.Proof.Runs

/-!
# Launching PowerShell

With `EscapeForPS` on, a value crosses two quoting layers: single quotes for the script, and double quotes
for the argument rules when it holds a space. The single quotes make every value an argument that is not
empty and does not end in a backslash, which are the two cases the outer layer gets wrong for a value
with spaces; so PowerShell, which joins its arguments with spaces, sees the text that was meant.
-/

namespace PmiExitModule

open Generic

/-- What both layers need of a subject key identifier or a temp path. -/
structure PlainValue (v : WStr) : Prop where
  noApostrophe : APOSTROPHE ∉ v.units
  noQuote : QUOTE ∉ v.units
  noTab : TAB ∉ v.units

/-- What the argument rules need of an argument that is handed over as it is. -/
structure PlainArgument (a : WStr) : Prop where
  nonempty : a.units ≠ []
  noQuote : QUOTE ∉ a.units
  noTab : TAB ∉ a.units
  noBackslash : ¬ (SPACE ∈ a.units ∧ a.units.getLast? = some BACKSLASH)

theorem PlainArgument.roundTrips {a : WStr} (h : PlainArgument a) :
    crtLexicon.ArgumentRoundTrips a.units := by
  refine ⟨h.nonempty, ?_, h.noBackslash⟩
  intro htab
  exact absurd htab h.noTab

/-- Between single quotes a value is an argument the outer layer gets right. -/
theorem PlainValue.plainArgument {v : WStr} (h : PlainValue v) : PlainArgument (quoted v) where
  nonempty := by simp [quoted_units]
  noQuote := by
    have hne : QUOTE ≠ APOSTROPHE := by decide
    simp [quoted_units, hne, h.noQuote]
  noTab := by
    have hne : TAB ≠ APOSTROPHE := by decide
    simp [quoted_units, hne, h.noTab]
  noBackslash := by
    rintro ⟨-, hlast⟩
    rw [quoted_units, List.getLast?_append_of_ne_nil _ (by simp), List.getLast?_singleton,
      Option.some.injEq] at hlast
    exact absurd hlast (by decide)

theorem PlainValue.decodes {v : WStr} (h : PlainValue v) {following : List WCHAR}
    (hfollowing : following.head? ≠ some APOSTROPHE) :
    readLiteral APOSTROPHE ((quoted v).units ++ following) = some (v.units, following) :=
  (readLiteral_wrapped_iff APOSTROPHE hfollowing).mpr h.noApostrophe

/-! ### The text of the script -/

def scriptHead (static : List WStr) : List WCHAR :=
  static.flatMap (fun a => a.units ++ [SPACE]) ++ wide "certissued -subjectkeyidentifier "

def scriptMiddle (serial : WStr) : List WCHAR :=
  wide " -serialnumber " ++ serial.units ++ wide " -rawcertpath "

def scriptText (static : List WStr) (ski serial path : WStr) : List WCHAR :=
  scriptHead static ++ ((quoted ski).units ++ (scriptMiddle serial ++ (quoted path).units))

namespace CEventProcessor

def scriptArguments (static : List WStr) (ski serial path : WStr) : List WStr :=
  processArguments static (quoted ski) serial (quoted path)

variable {exe : WStr} {static : List WStr} {ski serial path : WStr}

theorem plainArgument_of_mem_scriptArguments (hstatic : ∀ a ∈ static, PlainArgument a)
    (hserial : PlainArgument serial) (hski : PlainValue ski) (hpath : PlainValue path) :
    ∀ a ∈ scriptArguments static ski serial path, PlainArgument a := by
  have hnames : ∀ a ∈ [wszCertIssued, wszSubjectKeyIdentifierSwitch, wszSerialNumberSwitch,
      wszRawCertPathSwitch], PlainArgument a := by
    intro a hmem
    constructor <;> revert a <;> decide
  simp only [List.forall_mem_cons] at hnames
  obtain ⟨hissued, hskiSwitch, hserialSwitch, hpathSwitch, -⟩ := hnames
  rw [scriptArguments, processArguments, List.forall_mem_append]
  refine ⟨hstatic, ?_⟩
  simp only [List.forall_mem_cons]
  exact ⟨hissued, hskiSwitch, hski.plainArgument, hserialSwitch, hserial, hpathSwitch,
    hpath.plainArgument, by simp⟩

theorem intercalate_scriptArguments :
    List.intercalate [SPACE] ((scriptArguments static ski serial path).map WStr.units)
      = scriptText static ski serial path := by
  have htail : List.intercalate [SPACE] ((scriptArguments [] ski serial path).map WStr.units)
      = scriptText [] ski serial path := by
    have hhead : wide "certissued -subjectkeyidentifier "
        = wszCertIssued.units ++ [SPACE] ++ wszSubjectKeyIdentifierSwitch.units ++ [SPACE] := by decide
    have hserial : wide " -serialnumber " = [SPACE] ++ wszSerialNumberSwitch.units ++ [SPACE] := by
      decide
    have hpath : wide " -rawcertpath " = [SPACE] ++ wszRawCertPathSwitch.units ++ [SPACE] := by decide
    simp [scriptArguments, processArguments, scriptText, scriptHead, scriptMiddle, hhead, hserial, hpath]
  induction static with
  | nil => exact htail
  | cons a static ih =>
      have hne : (scriptArguments static ski serial path).map WStr.units ≠ [] := by
        simp [scriptArguments, processArguments]
      have hcons : (scriptArguments (a :: static) ski serial path).map WStr.units
          = a.units :: (scriptArguments static ski serial path).map WStr.units := rfl
      rw [hcons, List.intercalate_cons_of_ne_nil hne, ih]
      simp [scriptText, scriptHead]

theorem intercalate_splitCommandLine (hexeQuote : QUOTE ∉ exe.units) (hexeTab : TAB ∉ exe.units)
    (hplain : ∀ a ∈ scriptArguments static ski serial path, PlainArgument a) :
    List.intercalate [SPACE] (crtLexicon.splitCommandLine
        (CProcess.commandLine exe (scriptArguments static ski serial path)).units).tail
      = scriptText static ski serial path := by
  have hquotes : ∀ units ∈ (scriptArguments static ski serial path).map WStr.units,
      crtLexicon.quote ∉ units := by
    rw [List.forall_mem_map]
    intro a hmem
    exact (hplain a hmem).noQuote
  have hroundTrips : ∀ units ∈ (scriptArguments static ski serial path).map WStr.units,
      crtLexicon.ArgumentRoundTrips units := by
    rw [List.forall_mem_map]
    intro a hmem
    exact (hplain a hmem).roundTrips
  have hname : crtLexicon.NameRoundTrips exe.units := by
    intro htab
    exact absurd htab hexeTab
  have hsplit := (crtLexicon.splitCommandLine_renderCommandLine_iff exe.units
    ((scriptArguments static ski serial path).map WStr.units) hexeQuote hquotes).mpr
    ⟨hname, hroundTrips⟩
  have hline : (CProcess.commandLine exe (scriptArguments static ski serial path)).units
      = crtLexicon.renderCommandLine exe.units
        ((scriptArguments static ski serial path).map WStr.units) := rfl
  rw [hline, hsplit, List.tail_cons, intercalate_scriptArguments]

/-! ### The command lines of a run -/

/-- A value whose rendering fits into a command line is not too long to be escaped. -/
theorem escapable_of_fits {v : WStr} (hmem : quoted v ∈ scriptArguments static ski serial path)
    (hfits : (CProcess.rendering exe (scriptArguments static ski serial path)).length
      < CProcess.g_cchMaxCommandLine) : v.length + 3 ≤ STRSAFE_MAX_CCH := by
  have hunits := crtLexicon.length_le_renderArguments (List.mem_map_of_mem (f := WStr.units) hmem)
  have hlength := CProcess.rendering_length exe (scriptArguments static ski serial path)
  have hquoted : (quoted v).units.length = v.length + 2 := by
    simp [quoted_units, WStr.length]
  have hmax : CProcess.g_cchMaxCommandLine ≤ STRSAFE_MAX_CCH := by decide
  omega

section ScriptRun

variable {processor : CEventProcessor} {o : ProcessorOutcomes} {bufRawCert : List BYTE}
  {files : FileSystem} (hescape : processor.objConfig.fEscapeForPS = true)
  (hexePath : processor.objConfig.getExePath = .str exe)
  (hargs : processor.objConfig.getArguments = .ok (static.map .str)) (hpath : TempPath o files path)
  (hfits : (CProcess.rendering exe (scriptArguments static ski serial path)).length
    < CProcess.g_cchMaxCommandLine)

include hescape hexePath hargs hpath hfits

theorem eq_of_createProcess_mem {text : LPCWSTR} {created : Bool} (hmem : .createProcess text created
      ∈ (processor.notifyCertIssued (.str ski) (.str serial) bufRawCert o files).2) :
    text = .str (CProcess.commandLine exe (scriptArguments static ski serial path)) := by
  obtain ⟨path', bufArgs, filesBefore, ⟨folder', hfolder', hname'⟩, hlaunch, hcreate⟩ :=
    (notifyCertIssued_run processor (.str ski) (.str serial) bufRawCert o files).createProcess_mem hmem
  obtain ⟨folder, hfolder, hname⟩ := hpath
  obtain rfl : folder = folder' := Except.ok.inj (hfolder.symm.trans hfolder')
  obtain rfl : path = path' := Except.ok.inj (hname.symm.trans hname')
  have hbufArgs : bufArgs = (scriptArguments static ski serial path).map .str := by
    rw [hlaunch.eq_map_str hargs, escaped, escaped, if_pos hescape, if_pos hescape]
    rfl
  rw [hbufArgs, hexePath] at hcreate
  obtain ⟨-, -, -, htext⟩ := (CProcess.createProcess_mem_create_iff _ _ _ _ _ _).mp ⟨created, hcreate⟩
  rw [htext, CProcess.truncatedCommandLine_of_fits hfits]

theorem createProcess_mem_of_succeeds (hsucceeds : Succeeds o bufRawCert.length) :
    ∃ created, .createProcess (.str (CProcess.commandLine exe (scriptArguments static ski serial path)))
      created ∈ (processor.notifyCertIssued (.str ski) (.str serial) bufRawCert o files).2 := by
  have hski : ski.length + 3 ≤ STRSAFE_MAX_CCH :=
    escapable_of_fits (by simp [scriptArguments, processArguments]) hfits
  have hpathShort : path.length + 3 ≤ STRSAFE_MAX_CCH :=
    escapable_of_fits (by simp [scriptArguments, processArguments]) hfits
  have hescaped := escapeArguments_of_alloc hescape hsucceeds.allocEscSubjectKeyIdentifier
    hsucceeds.allocEscTempFile hski hpathShort
  have hbuild : processor.buildArguments (.str ski) (.str serial) o (.str path)
      = .ok (S_OK, some ((scriptArguments static ski serial path).map .str)) := by
    rw [scriptArguments, map_str_processArguments]
    simp only [buildArguments, hescaped, hsucceeds.allocArgs, hargs, bind, Except.bind, not_failed_S_OK,
      if_false, Bool.not_true, Bool.false_eq_true]
    rfl
  have hnotNull : processor.objConfig.getExePath ≠ .null := by
    rw [hexePath]
    exact LPCWSTR.noConfusion
  obtain ⟨filesBefore, hsubset⟩ := (runsOn_of_succeeds hpath hsucceeds hbuild).create_subset hnotNull
  have hexe : (crtLexicon.renderArgument exe.units).length < CProcess.g_cchMaxCommandLine := by
    have hlength := CProcess.rendering_length exe (scriptArguments static ski serial path)
    omega
  have hcreate := (CProcess.createProcess_mem_create_iff {} exe (scriptArguments static ski serial path)
    o.process filesBefore _).mpr ⟨rfl, hsucceeds.allocCmdLine, hexe, rfl⟩
  obtain ⟨created, hmem⟩ := hcreate
  rw [CProcess.truncatedCommandLine_of_fits hfits, ← hexePath] at hmem
  exact ⟨created, hsubset hmem⟩

end ScriptRun

/-- **The two quoting layers compose.** In PowerShell mode every process is created with one command
line, and one is created when the calls before it succeed; split by the argument rules and joined with
spaces behind the program name it is the text of the script, and its two literals decode to the subject
key identifier and the temp path. -/
theorem notifyCertIssued_scriptText (processor : CEventProcessor) (o : ProcessorOutcomes)
    (exe : WStr) (static : List WStr) (ski serial path folder : WStr) (bufRawCert : List BYTE)
    (files : FileSystem) (hescape : processor.objConfig.fEscapeForPS = true)
    (hexePath : processor.objConfig.getExePath = .str exe)
    (hargs : processor.objConfig.getArguments = .ok (static.map .str))
    (hfolder : o.getTempPath = .ok folder)
    (hname : o.tempFileNames.next folder g_pwszTempFileNamePrefix files = .ok path)
    (_hexe : exe.units ≠ []) (hexeTab : TAB ∉ exe.units) (hexeQuote : QUOTE ∉ exe.units)
    (hstatic : ∀ a ∈ static, PlainArgument a) (hserial : PlainArgument serial)
    (hski : PlainValue ski) (hpath : PlainValue path)
    (hfits : (CProcess.rendering exe (scriptArguments static ski serial path)).length
      < CProcess.g_cchMaxCommandLine) :
    ∃ line : WStr,
      (∀ cells : List WCHAR, cells.length = CProcess.g_cchMaxCommandLine →
        ∃ cells', CProcess.formatCommandLine (.str exe) (static.map .str ++ certIssuedArguments
            (.str (quoted ski)) (.str serial) (.str (quoted path))) cells = .ok (S_OK, cells')
          ∧ LPCWSTR.ofCells cells' = .str line)
      ∧ (∀ text created, .createProcess text created
        ∈ (processor.notifyCertIssued (.str ski) (.str serial) bufRawCert o files).2 → text = .str line)
      ∧ (Succeeds o bufRawCert.length → ∃ created, .createProcess (.str line) created
        ∈ (processor.notifyCertIssued (.str ski) (.str serial) bufRawCert o files).2)
      ∧ List.intercalate [SPACE] (crtLexicon.splitCommandLine line.units).tail
        = scriptText static ski serial path
      ∧ readLiteral APOSTROPHE ((scriptText static ski serial path).drop (scriptHead static).length)
        = some (ski.units, scriptMiddle serial ++ (quoted path).units)
      ∧ readLiteral APOSTROPHE (quoted path).units = some (path.units, []) := by
  have htempPath : TempPath o files path := ⟨folder, hfolder, hname⟩
  refine ⟨CProcess.commandLine exe (scriptArguments static ski serial path), ?_,
    fun _ _ => eq_of_createProcess_mem hescape hexePath hargs htempPath hfits,
    createProcess_mem_of_succeeds hescape hexePath hargs htempPath hfits,
    intercalate_splitCommandLine hexeQuote hexeTab
      (plainArgument_of_mem_scriptArguments hstatic hserial hski hpath), ?_, ?_⟩
  · intro cells hlength
    rw [← map_str_processArguments]
    exact CProcess.formatCommandLine_of_fits exe _ (by rw [hlength]; decide) (hlength ▸ hfits)
  · rw [scriptText, List.drop_left]
    exact hski.decodes (by simp [scriptMiddle, wide]; decide)
  · rw [← List.append_nil (quoted path).units]
    exact hpath.decodes (by simp)

def powershell : CEventProcessor where
  objConfig := {
    strExePath := some (wide "C:\\P S\\powershell.exe" ++ [NUL])
    bufArgData := some (wide "-NoProfile" ++ [NUL, NUL])
    bufArguments := some [some 0]
    fEscapeForPS := true }
  objEventSource := ⟨true⟩

def spacedIdentifier : WStr := .ofLiteral "0a  1b\\"

def exampleSerial : WStr := .ofLiteral "61"

def exampleStatic : List WStr := [.ofLiteral "-NoProfile"]

theorem notifyCertIssued_scriptText_example :
    ∃ line : WStr,
      (∀ cells : List WCHAR, cells.length = CProcess.g_cchMaxCommandLine →
        ∃ cells', CProcess.formatCommandLine (.str (.ofLiteral "C:\\P S\\powershell.exe"))
            (exampleStatic.map .str ++ certIssuedArguments (.str (quoted spacedIdentifier))
              (.str exampleSerial) (.str (quoted exampleTempPath))) cells = .ok (S_OK, cells')
          ∧ LPCWSTR.ofCells cells' = .str line)
      ∧ (∀ text created, .createProcess text created
        ∈ (powershell.notifyCertIssued (.str spacedIdentifier) (.str exampleSerial) [1, 2]
          (succeedingProcessor [1, 2]) fun _ => none).2 → text = .str line)
      ∧ (∃ created, .createProcess (.str line) created
        ∈ (powershell.notifyCertIssued (.str spacedIdentifier) (.str exampleSerial) [1, 2]
          (succeedingProcessor [1, 2]) fun _ => none).2)
      ∧ List.intercalate [SPACE] (crtLexicon.splitCommandLine line.units).tail
        = scriptText exampleStatic spacedIdentifier exampleSerial exampleTempPath
      ∧ readLiteral APOSTROPHE ((scriptText exampleStatic spacedIdentifier exampleSerial
          exampleTempPath).drop (scriptHead exampleStatic).length)
        = some (spacedIdentifier.units, scriptMiddle exampleSerial ++ (quoted exampleTempPath).units)
      ∧ readLiteral APOSTROPHE (quoted exampleTempPath).units = some (exampleTempPath.units, []) := by
  have hstatic : ∀ a ∈ exampleStatic, PlainArgument a := by
    intro a hmem
    obtain rfl := List.mem_singleton.mp hmem
    constructor <;> decide
  have hsucceeds : Succeeds (succeedingProcessor [1, 2]) 2 :=
    ⟨nofun, not_refused rfl rfl, by simp [succeedingProcessor], by decide, nofun, nofun, rfl, nofun⟩
  obtain ⟨line, hformats, hall, hcreated, hsplit⟩ := notifyCertIssued_scriptText powershell
    (succeedingProcessor [1, 2]) (.ofLiteral "C:\\P S\\powershell.exe") exampleStatic spacedIdentifier
    exampleSerial exampleTempPath (.ofLiteral "C:\\T\\") [1, 2] (fun _ => none) rfl (by decide)
    (by decide) rfl (by decide) (by decide) (by decide) (by decide) hstatic (by constructor <;> decide)
    (by constructor <;> decide) (by constructor <;> decide) (by decide +kernel)
  exact ⟨line, hformats, hall, hcreated hsucceeds, hsplit⟩

example : scriptText exampleStatic spacedIdentifier exampleSerial exampleTempPath
    = wide ("-NoProfile certissued -subjectkeyidentifier '0a  1b\\' "
      ++ "-serialnumber 61 -rawcertpath 'C:\\T\\PMI1.tmp'") := by decide +kernel

end CEventProcessor

end PmiExitModule
