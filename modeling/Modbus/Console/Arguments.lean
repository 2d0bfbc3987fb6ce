import Modbus.Console.Command
import Modbus.Console.Help

/-!
# Arguments of the tool

The forms of all commands of the tool, and what a command line asks for.  The
options of the tool itself may also stand behind a command; they then take
precedence.
-/

namespace Modbus.Console

/-- What the tool is asked to do. -/
inductive Action where
  | send (command : Command)
  | serve (arguments : ServeArguments)
  /-- Write the settings out. -/
  | config
  deriving DecidableEq, Repr, Inhabited

/-- What a command line asks for. -/
structure Invocation where
  /-- The path of a file with settings. -/
  config : Option String
  logLevel : Option String
  target : Option String
  unit : Option UInt8
  action : Action
  deriving DecidableEq, Repr, Inhabited

/-- Why a command line asks for nothing, and what is written then. -/
inductive Refusal where
  | usage
  /-- Text that was asked for. -/
  | text (output : String)
  deriving DecidableEq, Repr, Inhabited

namespace Invocation

/-! ## Forms -/

def toolName : String := "modctl"

def toolVersion : String := "0.1.0"

/-- The options of the tool itself. -/
def commonOptions : List OptionForm :=
  [⟨some 'c', "config", some (.path, "CONFIG"), "YAML configuration file", none, 4⟩,
   ⟨some 'l', "log-level", some (.text, "LOG_LEVEL"),
     "Log level: trace, debug, info, warn or error", none, 5⟩,
   ⟨some 't', "target", some (.text, "TARGET"),
     "Connection target: tcp:<host>[:<port>], udp:<host>[:<port>] or device:<port>", none, 6⟩,
   ⟨some 'u', "unit", some (.unit, "UNIT_ID"),
     "Unit ID addressed by master commands and served by \x60serve\x60", none, 7⟩]

def serveOptions : List OptionForm :=
  [⟨some 'r', "registers", some (.size, "REGISTERS"), "Zeroed holding registers to expose",
     some "10", 0⟩,
   ⟨none, "coils", some (.size, "COILS"), "Cleared coils to expose", some "0", 1⟩,
   ⟨some 'p', "port", some (.port, "PORT"), "Listen port, overrides the configuration", none, 2⟩,
   ⟨none, "udp", none, "Listen on UDP instead of TCP", none, 3⟩]

/-- A word that has to be given. -/
def operand (name : String) : OperandForm := ⟨name, .word, "", none, false, false⟩

/-- A count, which is one if it is not given. -/
def count : OperandForm := ⟨"COUNT", .word, "", some "1", false, true⟩

def values : OperandForm := ⟨"VALUES", .word, "", none, true, false⟩

/-- The form of a command of the tool. -/
def form (name about : String) (options : List OptionForm) (operands : List OperandForm) :
    String × Form :=
  (name, ⟨toolName ++ " " ++ name, about, options ++ commonOptions, operands, [], none, none, true⟩)

/-- The commands of the tool by name. -/
def forms : List (String × Form) :=
  [form "read-holding" "Read holding registers (FC 03)" [] [operand "REFERENCE", count],
   form "read-input" "Read input registers (FC 04)" [] [operand "REFERENCE", count],
   form "read-coils" "Read coils (FC 01)" [] [operand "REFERENCE", count],
   form "write-register" "Write a single holding register (FC 06)" []
     [operand "REFERENCE", operand "VALUE"],
   form "write-registers" "Write consecutive holding registers (FC 16)" []
     [operand "REFERENCE", values],
   form "write-coil" "Write a single coil (FC 05)" []
     [operand "REFERENCE", ⟨"STATE", .coil, "on/off", none, false, false⟩],
   form "read-write" "Write then read holding registers in one request (FC 23)" []
     [operand "READ_REFERENCE", operand "READ_COUNT", operand "WRITE_REFERENCE", values],
   form "serve" "Run a slave with zeroed registers until Ctrl+C" serveOptions [],
   form "config" "Print the effective configuration as YAML" [] []]

/-- What the tool is for. -/
def about : String := "Modbus master and test slave over TCP, UDP and serial"

/-- What the tool is for, with examples. -/
def details : String := about ++ "

Examples:
  modctl -t tcp:192.168.1.10 read-holding 0 10     # 10 holding registers of unit 1
  modctl -t udp:10.0.0.7 -u 3 write-register 4 0x00FF
  modctl -t device:/dev/ttyUSB0 read-coils 0 16
  modctl serve --registers 100 --port 1502          # test slave until Ctrl+C

Settings not given on the command line come from --config and MODCTL_*
environment variables (e.g. MODCTL_MASTER__TIMEOUT_MS=1000)."

/-- What the command for help does. -/
def helpAbout : String := "Print this message or the help of the given subcommand(s)"

def helpForm : Form :=
  ⟨toolName ++ " help", helpAbout, [],
    [⟨"COMMAND", .text, "Print help for the subcommand(s)", none, true, true⟩], [], none, none,
    false⟩

def toolForm : Form where
  name := toolName
  about := about
  options := commonOptions
  operands := []
  commands := (forms.map fun (name, form) => (name, form.about))
    ++ [("help", helpAbout)]
  details := some details
  version := some toolVersion
  explains := true

/-! ## Reading -/

/-- The words among the operands. -/
def words? (texts : List String) : Option (List UInt16) :=
  texts.mapM fun text => (parseWord text).toOption

def serveArguments (found : Found) : ServeArguments where
  registers := ((found.options.lookup "registers").bind ValueKind.size?).getD
    ServeArguments.default.registers
  coils := ((found.options.lookup "coils").bind ValueKind.size?).getD
    ServeArguments.default.coils
  port := (found.options.lookup "port").bind ValueKind.port?
  udp := found.has "udp"

/-- The action of a command with the given operands. -/
def action? (name : String) (operands : List String) (found : Found) : Option Action :=
  match name, operands with
  | "config", _ => some .config
  | "serve", _ => some (.serve (serveArguments found))
  | "write-coil", [reference, state] => do
    let reference ← (parseWord reference).toOption
    let state ← (parseCoil state).toOption
    some (.send (.writeCoil reference state))
  | name, operands => do
    let command ←
      match name, ← words? operands with
      | "read-holding", [reference, count] => some (Command.readHolding reference count)
      | "read-input", [reference, count] => some (.readInput reference count)
      | "read-coils", [reference, count] => some (.readCoils reference count)
      | "write-register", [reference, value] => some (.writeRegister reference value)
      | "write-registers", reference :: values => some (.writeRegisters reference values)
      | "read-write", readReference :: readCount :: writeReference :: values =>
        some (.readWrite readReference readCount writeReference values)
      | _, _ => none
    some (.send command)

/-- What is written when a command line is stopped. -/
def refusal (form : Form) : Stop → Refusal
  | .usage => .usage
  | .help full => .text (form.help full)
  | .version => .text (form.name ++ " " ++ form.version.getD "" ++ "\n")

def helpOf : List String → Refusal
  | [] => .text (toolForm.help true)
  | ["help"] => .text (helpForm.help true)
  | [name] =>
    match forms.lookup name with
    | some form => .text (form.help true)
    | none => .usage
  | _ => .usage

/-- Reads the part of a command line that a command stands in front of. -/
def ofCommand (name : String) (common : Found) (rest : List String) :
    Except Refusal Invocation := do
  match forms.lookup name with
  | none => throw .usage
  | some form =>
    let reading := do
      let (found, _) ← form.takeApart rest none false .nothing
      let found ← found.settled
      let operands ← form.complete found
      pure (found, operands)
    let (found, operands) ← reading.mapError (refusal form)
    let common ← common.settled.mapError (refusal toolForm)
    let option (word : String) : Option String :=
      (found.options ++ common.options).lookup word
    match action? name operands found with
    | none => throw .usage
    | some action =>
      pure ⟨option "config", option "log-level", option "target",
        (option "unit").bind ValueKind.unit?, action⟩

/-- Reads a command line without the name of the tool. -/
def parse (tokens : List String) : Except Refusal Invocation := do
  let (common, rest) ←
    (toolForm.takeApart tokens none false .nothing).mapError (refusal toolForm)
  match rest with
  | [] => throw .usage
  | "help" :: rest => throw (helpOf rest)
  | name :: rest => ofCommand name common rest

end Invocation

end Modbus.Console
