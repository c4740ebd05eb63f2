import GameFixes.Installer.Draft
import GameFixes.Operation

/-!
# Known operations

The operations that can be compiled, and what each of them changes in a document. Some operations
mean something to the host runtime only, and some cannot be said in a document; they change nothing.
-/

namespace GameFixes.Installer

/-- The operations whose names are known. -/
inductive Known
  | protontricks
  | appendArgument
  | winedllOverride
  | setEnvironment
  | replaceCommand
  | installEacRuntime
  | installBattleyeRuntime
  | disableEsync
  | disableFsync
  | setCpuTopologyLimit
  | setIniOptions
  | regeditAdd
  | disableProtonAudioConverter
  | additionalFixes
  | useSeccomp
  | makeSyswow64
  | createDosboxConf
  | setCpuTopologyNosmt
  | setXmlOptions
  | disableUplayOverlay
  | disableNvapi
  deriving DecidableEq, Repr

/-- Every known operation, in the order in which they are listed. -/
def Known.all : List Known :=
  [.protontricks, .appendArgument, .winedllOverride, .setEnvironment, .replaceCommand,
    .installEacRuntime, .installBattleyeRuntime, .disableEsync, .disableFsync,
    .setCpuTopologyLimit, .setIniOptions, .regeditAdd, .disableProtonAudioConverter,
    .additionalFixes, .useSeccomp, .makeSyswow64, .createDosboxConf, .setCpuTopologyNosmt,
    .setXmlOptions, .disableUplayOverlay, .disableNvapi]

/-- The name of a known operation in scripts. -/
def Known.name : Known → String
  | .protontricks => "protontricks"
  | .appendArgument => "append_argument"
  | .winedllOverride => "winedll_override"
  | .setEnvironment => "set_environment"
  | .replaceCommand => "replace_command"
  | .installEacRuntime => "install_eac_runtime"
  | .installBattleyeRuntime => "install_battleye_runtime"
  | .disableEsync => "disable_esync"
  | .disableFsync => "disable_fsync"
  | .setCpuTopologyLimit => "set_cpu_topology_limit"
  | .setIniOptions => "set_ini_options"
  | .regeditAdd => "regedit_add"
  | .disableProtonAudioConverter => "disable_protonaudioconverter"
  | .additionalFixes => "additional_fixes"
  | .useSeccomp => "use_seccomp"
  | .makeSyswow64 => "_mk_syswow64"
  | .createDosboxConf => "create_dosbox_conf"
  | .setCpuTopologyNosmt => "set_cpu_topology_nosmt"
  | .setXmlOptions => "set_xml_options"
  | .disableUplayOverlay => "disable_uplay_overlay"
  | .disableNvapi => "disable_nvapi"

/-- The known operation of a name. -/
def Known.ofName? (name : String) : Option Known := Known.all.find? (·.name = name)

@[simp] theorem Known.ofName?_name (k : Known) : Known.ofName? k.name = some k := by
  cases k <;> decide

/-- What is wrong with the argument of an operation. -/
inductive Fault
  /-- There is no argument, or only blanks. -/
  | missingArgument
  /-- The argument is not labelled, has no `=`, or nothing before the first one. -/
  | expectedKeyValue
  deriving DecidableEq, Repr

/-- The wording of a fault. -/
def Fault.message : Fault → String
  | .missingArgument => "missing argument"
  | .expectedKeyValue => "expected key=value argument"

/-- What a known operation does. -/
inductive Rule
  /-- It changes a document, in a way that its argument says. -/
  | apply (change : Operation → Except Fault Change)
  /-- It means something to the host runtime only. -/
  | hostOnly
  /-- It cannot be said in a document. -/
  | deferred

/-- The argument of an operation without the blanks around it, which must not be all there is. -/
def requiredText (o : Operation) : Except Fault String :=
  match (o.argumentText.map trimmed).filter (· ≠ "") with
  | some text => .ok text
  | none => .error .missingArgument

/-- The parts of a labelled argument around its first `=`, of which the first must not be empty. -/
def requiredPair (o : Operation) : Except Fault (String × String) :=
  match o.keyValue.filter (·.1 ≠ "") with
  | some pair => .ok pair
  | none => .error .expectedKeyValue

/-- The executable that replaces another one: what follows the first `=` of a labelled argument, or
else the whole argument. -/
def replacement (o : Operation) : Except Fault String :=
  match o.keyValue.filter (·.2 ≠ "") with
  | some (_, exe) => .ok exe
  | none => requiredText o

/-- What each known operation does. -/
def Known.rule : Known → Rule
  | .protontricks => .apply fun o => .addStep <$> requiredText o
  | .appendArgument => .apply fun o => .setArgs <$> requiredText o
  | .winedllOverride => .apply fun o => (fun p => .overrideDll p.1 p.2) <$> requiredPair o
  | .setEnvironment => .apply fun o => (fun p => .setVariable p.1 p.2) <$> requiredPair o
  | .replaceCommand => .apply fun o => .setExe <$> replacement o
  | .installEacRuntime => .apply fun _ => .ok .enableEac
  | .installBattleyeRuntime => .apply fun _ => .ok .enableBattleye
  | .disableEsync => .apply fun _ => .ok .disableEsync
  | .disableFsync => .apply fun _ => .ok .disableFsync
  | .setCpuTopologyLimit => .apply fun o => .limitCpus <$> requiredText o
  | .setIniOptions | .regeditAdd => .deferred
  | .disableProtonAudioConverter | .additionalFixes | .useSeccomp | .makeSyswow64
  | .createDosboxConf | .setCpuTopologyNosmt | .setXmlOptions | .disableUplayOverlay
  | .disableNvapi => .hostOnly

end GameFixes.Installer
