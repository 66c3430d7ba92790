import PmiExitModule.Proof.ConfigLoad
import PmiExitModule.Proof.Launch

/-!
# From the key and the CA to the arguments of the process

The strings that the process of an issued certificate reads back from its command line were bytes three
times on the way: in the values of the module's key, in the variants of the CA, and in the buffer of the
command line. What is lost is lost in the last step only, where the quoting rules and the length of the
buffer decide.
-/

namespace PmiExitModule

open Generic CProcess

/-! ### The strings of the CA -/

theorem VARIANT.Yields.unique {var : VARIANT} {pwsz pwsz' : LPCWSTR} (h : var.Yields pwsz)
    (h' : var.Yields pwsz') : pwsz = pwsz' := by
  obtain ⟨-, data, hdata, rfl⟩ := h
  obtain ⟨-, data', hdata', rfl⟩ := h'
  obtain rfl := BSTR.bytes.inj (hdata.symm.trans hdata')
  rfl

namespace CCertServerExit

variable {server : CCertServerExit} {o : ServerOutcomes} {name : PropertyName}

theorem get_of_getCertificateStringProperty {hr : HRESULT} {buf : CHeapBuffer WCHAR} {pwsz : LPCWSTR}
    (hread : server.getCertificateStringProperty o name = .ok (hr, buf)) (hok : ¬ FAILED hr)
    (hyields : (stringVariant o name).Yields pwsz) : buf.get = pwsz := by
  rcases server.getCertificateStringProperty_cases o name with
    ⟨-, hwild, -⟩ | ⟨buf', -, -, hread', hiff⟩ | ⟨hr', buf', -, -, hfailed, hread'⟩
  · obtain ⟨-, data, hdata, -⟩ := hyields
    cases hdata.symm.trans hwild
  · obtain ⟨-, rfl⟩ := Prod.mk.inj (Except.ok.inj (hread.symm.trans hread'))
    apply VARIANT.Yields.unique _ hyields
    obtain ⟨hvt, data, hdata, -⟩ := hyields
    exact hiff.mpr ⟨hvt, by simp [hdata]⟩
  · obtain ⟨rfl, -⟩ := Prod.mk.inj (Except.ok.inj (hread.symm.trans hread'))
    exact absurd hfailed hok

end CCertServerExit

namespace CPMICertExit

open CCertServerExit PropertyName CEventProcessor CEventProcessorConfig

theorem strings_of_readIssuedCertificate (exit : CPMICertExit) {objServer : CCertServerExit}
    {o : NotifyOutcomes} {cert : IssuedCertificate} {pwszIdentifier pwszSerial : LPCWSTR}
    (hread : exit.readIssuedCertificate objServer o = .ok (.ok cert))
    (hidentifier : (stringVariant o.server wszPROPCERTIFICATESUBJECTKEYIDENTIFIER).Yields pwszIdentifier)
    (hserial : (stringVariant o.server wszPROPCERTIFICATESERIALNUMBER).Yields pwszSerial) :
    cert.pwszSubjectKeyIdentifier = pwszIdentifier ∧ cert.pwszSerialNumber = pwszSerial := by
  obtain ⟨hrSki, ski, hski, hokSki, hread⟩ := succeeded_of_orBreak hread
  obtain ⟨hrSerial, serial, hreadSerial, hokSerial, hread⟩ := succeeded_of_orBreak hread
  obtain ⟨_, _, -, -, hread⟩ := succeeded_of_orBreak hread
  obtain ⟨_, _, -, -, hread⟩ := succeeded_of_orBreak hread
  obtain rfl := Except.ok.inj (Except.ok.inj hread)
  exact ⟨get_of_getCertificateStringProperty hski hokSki hidentifier,
    get_of_getCertificateStringProperty hreadSerial hokSerial hserial⟩

/-! ### The arguments -/

/-- What the key of the module and the CA hold when a certificate is issued. -/
structure Holding (call : NotifyCall) (pathValue : RegistryValue) (values : OptionalValues)
    (ski serial : WStr) : Prop where
  exePath : call.outcomes.registry.queryExePath = .ok pathValue
  terminated : NUL ∈ unitsOfBytes pathValue.data
  values : call.outcomes.registry.Reads values
  identifier :
    (stringVariant call.outcomes.server wszPROPCERTIFICATESUBJECTKEYIDENTIFIER).Yields (.str ski)
  serialNumber : (stringVariant call.outcomes.server wszPROPCERTIFICATESERIALNUMBER).Yields (.str serial)

def storedExePath (pathValue : RegistryValue) : WStr := untilNul (unitsOfBytes pathValue.data)

/-- The words the module adds itself are read back, so that only the values matter. -/
theorem forall_mem_processArguments_iff {p : WStr → Prop} {static : List WStr} {ski serial path : WStr}
    (hwords : ∀ a ∈ [wszCertIssued, wszSubjectKeyIdentifierSwitch, wszSerialNumberSwitch,
      wszRawCertPathSwitch], p a) :
    (∀ a ∈ processArguments static ski serial path, p a) ↔ ∀ a ∈ static ++ [ski, serial, path], p a := by
  simp only [List.forall_mem_cons] at hwords
  obtain ⟨hissued, hski, hserial, hpath, -⟩ := hwords
  simp only [processArguments, List.forall_mem_append, List.forall_mem_cons, hissued, hski, hserial,
    hpath, true_and]

theorem splitCommandLine_processArguments_iff {exe ski serial path : WStr} {static : List WStr}
    (hexe : QUOTE ∉ exe.units) (hquotes : ∀ a ∈ static ++ [ski, serial, path], QUOTE ∉ a.units) :
    crtLexicon.splitCommandLine (commandLine exe (processArguments static ski serial path)).units
        = exe.units :: (processArguments static ski serial path).map WStr.units
      ↔ crtLexicon.NameRoundTrips exe.units
        ∧ ∀ a ∈ static ++ [ski, serial, path], crtLexicon.ArgumentRoundTrips a.units := by
  have hall : ∀ a ∈ processArguments static ski serial path, QUOTE ∉ a.units :=
    (forall_mem_processArguments_iff (by decide)).mpr hquotes
  have hsplit := crtLexicon.splitCommandLine_renderCommandLine_iff exe.units
    ((processArguments static ski serial path).map WStr.units) hexe (List.forall_mem_map.mpr hall)
  have hwords : ∀ a ∈ [wszCertIssued, wszSubjectKeyIdentifierSwitch, wszSerialNumberSwitch,
      wszRawCertPathSwitch], crtLexicon.ArgumentRoundTrips a.units := by
    unfold Lexicon.ArgumentRoundTrips
    decide
  rw [List.forall_mem_map, forall_mem_processArguments_iff hwords] at hsplit
  exact hsplit

/-- **What the process is told.** Every process that a notification creates is given one command line:
the stored path, the stored static arguments, and the identifier, the serial number and the path of the
temp file, cut where the buffer ends. If it fits and there are no double quotes, the process reads back
the strings that were held, one by one, if and only if each of them survives the quoting. -/
theorem notify_hands_over_arguments (exit : CPMICertExit) (call : NotifyCall) (files : FileSystem)
    (pathValue : RegistryValue) (values : OptionalValues) (ski serial : WStr)
    (hholding : Holding call pathValue values ski serial) (text : LPCWSTR) (created : Bool)
    (hmem : .createProcess text created ∈ (exit.notifyCall call files).2) :
    ∃ cert static path line, exit.Reaches call cert
      ∧ Loaded values cert.objEventProcessor.objConfig static
      ∧ TempPath call.outcomes.processor files path ∧ text = .str line ∧
      let exe := storedExePath pathValue
      let escSki := cert.objEventProcessor.escaped ski
      let escPath := cert.objEventProcessor.escaped path
      let args := processArguments static escSki serial escPath
      line = truncatedCommandLine exe args g_cchMaxCommandLine ∧
      ((rendering exe args).length < g_cchMaxCommandLine → QUOTE ∉ exe.units →
        (∀ a ∈ static ++ [escSki, serial, escPath], QUOTE ∉ a.units) →
        (crtLexicon.splitCommandLine line.units = exe.units :: args.map WStr.units
          ↔ crtLexicon.NameRoundTrips exe.units
            ∧ ∀ a ∈ static ++ [escSki, serial, escPath], crtLexicon.ArgumentRoundTrips a.units)) := by
  obtain ⟨body, reported, hactions, hreported, hbody⟩ := exit.notifyCall_cases call files
  rw [hactions] at hmem
  have hmem := (List.mem_append.mp hmem).resolve_right fun h => (hreported _ h).2 text created rfl
  rcases hbody with rfl | ⟨cert, hreaches, rfl⟩
  · cases hmem
  obtain ⟨hidentifier, hserial⟩ := exit.strings_of_readIssuedCertificate hreaches.2.2
    hholding.identifier hholding.serialNumber
  obtain ⟨-, hinit, -⟩ := exit.processor_of_readIssuedCertificate hreaches.2.2
  obtain ⟨static, hloaded⟩ := loaded_of_init hholding.values hinit not_failed_S_OK
  have hexe : cert.objEventProcessor.objConfig.getExePath = .str (storedExePath pathValue) :=
    ((exePathTerminated_iff _ _ _ _ hinit not_failed_S_OK hholding.exePath).mpr
      hholding.terminated).stored
  rw [hidentifier, hserial] at hmem
  obtain ⟨path, bufArgs, filesBefore, hpath, hlaunch, hcreate⟩ :=
    (notifyCertIssued_run _ _ _ _ _ _).createProcess_mem hmem
  rw [hlaunch.eq_map_str hloaded.getArguments, hexe] at hcreate
  obtain ⟨-, -, -, rfl⟩ := (createProcess_mem_create_iff _ _ _ _ _ _).mp ⟨created, hcreate⟩
  refine ⟨cert, static, path, _, hreaches, hloaded, hpath, rfl, rfl, ?_⟩
  intro hfits hquote hquotes
  rw [truncatedCommandLine_of_fits hfits]
  exact splitCommandLine_processArguments_iff hquote hquotes

theorem notify_hands_over_arguments_example :
    ∃ cert static path line,
      (⟨⟨true⟩⟩ : CPMICertExit).Reaches (issuedCall ordinaryCA readableRegistry acceptingEvents) cert
      ∧ Loaded readableValues cert.objEventProcessor.objConfig static
      ∧ TempPath (succeedingProcessor [1, 2]) (fun _ => none) path
      ∧ LPCWSTR.str (.ofLiteral ("c -f certissued -subjectkeyidentifier '0a' -serialnumber 61 "
        ++ "-rawcertpath 'C:\\T\\PMI1.tmp'")) = .str line ∧
      let exe := storedExePath terminatedPath
      let escSki := cert.objEventProcessor.escaped (.ofLiteral "0a")
      let escPath := cert.objEventProcessor.escaped path
      let args := processArguments static escSki (.ofLiteral "61") escPath
      line = truncatedCommandLine exe args g_cchMaxCommandLine ∧
      ((rendering exe args).length < g_cchMaxCommandLine → QUOTE ∉ exe.units →
        (∀ a ∈ static ++ [escSki, .ofLiteral "61", escPath], QUOTE ∉ a.units) →
        (crtLexicon.splitCommandLine line.units = exe.units :: args.map WStr.units
          ↔ crtLexicon.NameRoundTrips exe.units
            ∧ ∀ a ∈ static ++ [escSki, .ofLiteral "61", escPath],
              crtLexicon.ArgumentRoundTrips a.units)) := by
  apply notify_hands_over_arguments ⟨⟨true⟩⟩ (issuedCall ordinaryCA readableRegistry acceptingEvents)
    (fun _ => none) terminatedPath readableValues (.ofLiteral "0a") (.ofLiteral "61")
    ⟨rfl, by decide, readableRegistry_reads, ⟨rfl, _, rfl, by decide⟩, rfl, _, rfl, by decide⟩ _ true
  decide +kernel

end CPMICertExit

end PmiExitModule
