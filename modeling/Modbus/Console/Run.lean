import Modbus.Connection.Bus
import Modbus.Console.Arguments
import Modbus.Console.Log
import Modbus.Console.Settings
import Modbus.Text.Blank

/-!
# Running the tool

A run reads the command line, puts the settings together and does what it is
asked for.  What comes of it is a number and text for the one who called.
-/

namespace Modbus.Console

/-- What the tool finds around it. -/
structure Surroundings where
  host : Host
  /-- The content of a file, if there is one at the path. -/
  file : String → Option String
  /-- The variables of the environment, in order. -/
  environment : List (String × String)

/-- What came of a run. -/
structure Outcome where
  /-- Zero for success, one for a failure, two for a usage error, 101 for a breakdown. -/
  code : Nat
  output : String
  /-- What is said about a failure. -/
  error : Option String
  deriving DecidableEq, Repr, Inhabited

namespace Outcome

/-- A run that did what it was asked for. -/
def success (output : String) : Outcome := ⟨0, output, none⟩

def failure (message : String) : Outcome := ⟨1, "", some ("Error: " ++ message)⟩

/-- A run that was called in a wrong way. -/
def misuse : Outcome := ⟨2, "", none⟩

/-- A run that broke down. -/
def breakdown : Outcome := ⟨101, "", none⟩

/-- The first line of what is said about a failure; it is empty without one. -/
def headline (outcome : Outcome) : String :=
  String.ofList ((outcome.error.getD "").toList.takeWhile (· != '\n'))

end Outcome

/-- What stands at a path, as far as settings are concerned. -/
def Surroundings.state (around : Surroundings) (path : String) : FileState :=
  match around.file path, around.host.look path with
  | some content, _ => .content content
  | none, .ok _ => .special
  | none, .error _ => .missing

def nobody : FarEnd Unit := ⟨id, fun _ far => (.silence, far)⟩

/-- Puts the settings together and lets the command line win. -/
def effectiveSettings (invocation : Invocation) (around : Surroundings) :
    Except SettingsFault Settings := do
  let file := invocation.config.map fun path => ⟨path, around.state path⟩
  let settings ← Settings.load file around.environment
  let master := settings.master
  pure { settings with
    logLevel := invocation.logLevel.getD settings.logLevel
    master := { master with
      target := invocation.target.getD master.target
      unitId := invocation.unit.getD master.unitId } }

/-- The filter for what is logged. -/
def logFilter (level : String) (environment : List (String × String)) : String :=
  match environment.lookup "RUST_LOG" with
  | some filter =>
    if filter.toList.all Text.isBlank then Log.directive level else filter
  | none => Log.directive level

def sendOn {σ : Type} (settings : MasterSettings) (command : Command)
    (connection : Connection σ) (state : σ) : Outcome :=
  let master : Master σ := ⟨settings.policy, connection, state, .startingAt 0⟩
  match (command.run settings.unitId master).1 with
  | .ok text => .success (text ++ "\n")
  | .error error => .failure error.message

def send (settings : MasterSettings) (command : Command) (host : Host) : Outcome :=
  let timeout := settings.timeout * millisecond
  match settings.medium with
  | .error error => .failure error.message
  | .ok (.serial serial) =>
    sendOn settings command (Bus.connection nobody 0) (.idle host serial timeout ())
  | .ok medium => sendOn settings command (Link.connection nobody) (.closed host medium timeout ())

/-- Does what the tool is asked to do. -/
def perform (action : Action) (settings : Settings) (host : Host) : Outcome :=
  match action with
  | .send command => send settings.master command host
  | .serve arguments =>
    match (serve .empty settings.slave settings.master.unitId arguments host).1 with
    | .ok _ => .success ""
    | .error (.failed _) => .failure "failed to start Modbus slave"
    | .error (.breakdown _) => .breakdown
  | .config => .success settings.toText

/-- Runs the tool. -/
def run (around : Surroundings) (tokens : List String) : Outcome :=
  match Invocation.parse tokens with
  | .error .usage => .misuse
  | .error (.text output) => .success output
  | .ok invocation =>
    match effectiveSettings invocation around with
    | .error fault => .failure fault.message
    | .ok settings =>
      let filter := logFilter settings.logLevel around.environment
      match Log.check filter with
      | .error fault =>
        match fault.message? with
        | some message => .failure ("invalid log filter '" ++ filter ++ "': " ++ message)
        | none => .breakdown
      | .ok _ => perform invocation.action settings around.host

end Modbus.Console
