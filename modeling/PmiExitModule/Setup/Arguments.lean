import PmiExitModule.Win32.Types

/-!
# `CArguments`

The command line of the setup tool that registers the message DLL. One cursor walks over `argv`: the
argument in front may be an option, and the argument the cursor then stands at is taken for the path.
-/

namespace PmiExitModule

inductive Operation where
  | INSTALL
  | UINSTALL
  deriving DecidableEq, Repr

def SLASH : WCHAR := 0x2F

def wszEmpty : WStr := .ofLiteral ""
def wszInstallOption : WStr := .ofLiteral "/i"
def wszUninstallOption : WStr := .ofLiteral "/u"

structure CArguments where
  eOperation : Operation := .INSTALL
  strPath : WStr := wszEmpty
  deriving DecidableEq

namespace CArguments

/-- `pArg[0] && pArg[0] == L'/'`. -/
def startsWithSlash (pArg : WStr) : Prop := pArg.units.head? = some SLASH

instance (pArg : WStr) : Decidable (startsWithSlash pArg) :=
  inferInstanceAs (Decidable (_ = _))

/-- The first part of `TryParse`, with the cursor it leaves behind: `none` is its `return false`. The
cursor moves on whether or not the argument was an option. -/
def readOption (args : CArguments) (argv : List WStr) : Option (CArguments × Nat) :=
  match argv[1]? with
  | none => some (args, 1)
  | some pArg =>
      if startsWithSlash pArg then
        if pArg = wszInstallOption then some ({ args with eOperation := .INSTALL }, 2)
        else if pArg = wszUninstallOption then some ({ args with eOperation := .UINSTALL }, 2)
        else none
      else some (args, 2)

/-- The rest of `TryParse`: the path, and the test for extra arguments. -/
def readPath (args : CArguments) (argv : List WStr) (i : Nat) : Bool × CArguments :=
  match argv[i]? with
  | none => (decide (i = argv.length), args)
  | some path =>
      let args := { args with strPath := path }
      if args.eOperation ≠ .INSTALL then (false, args)
      else (decide (i + 1 = argv.length), args)

/-- `CArguments::TryParse(argc, argv)`; `argv` holds `argc` strings, the program name first. -/
def tryParse (args : CArguments) (argv : List WStr) : Bool × CArguments :=
  match args.readOption argv with
  | none => (false, args)
  | some (args, i) => args.readPath argv i

end CArguments

end PmiExitModule
