import Modbus.Document.Environment
import Modbus.Document.Yaml.Printer
import Modbus.Document.Yaml.Reader
import Modbus.Settings.Master
import Modbus.Settings.Slave

/-!
# Settings of the command line tool

The settings come from three layers: defaults, a file if one is named, and the
environment.  An upper layer replaces single fields of the one below.
-/

namespace Modbus.Console

/-- Settings of the tool. -/
structure Settings where
  /-- For the commands of a master. -/
  master : MasterSettings
  /-- For serving. -/
  slave : SlaveSettings
  logLevel : String
  deriving DecidableEq, Repr

/-- Where a value of the settings comes from. -/
inductive Origin where
  | defaults
  | file (path : String)
  /-- Variables whose names have a common beginning. -/
  | environment (start : String)
  deriving DecidableEq, Repr, Inhabited

/-- What a path into the settings is called where it comes from, and the origin in words. -/
def Origin.describe (origin : Origin) (path : List String) : String × String :=
  match origin with
  | defaults => (".".intercalate ("default" :: path), "")
  | file name => (".".intercalate ("default" :: path), " in " ++ name ++ " YAML file")
  | environment start =>
    (".".intercalate (path.map fun part => part.map Char.toUpper),
      " in \x60" ++ start ++ "\x60 environment variable(s)")

/-- Why there are no settings. -/
inductive SettingsFault where
  | notFound (path : String)
  /-- The file is not written as settings are. -/
  | unreadable (path : String)
  | invalid (fault : Document.Fault) (origin : Origin)
  deriving Repr, Inhabited

/-- A fault in words. -/
def SettingsFault.message : SettingsFault → String
  | notFound path => "config file not found: " ++ path
  | unreadable path => "invalid configuration: no mapping in " ++ path ++ " YAML file"
  | invalid fault origin =>
    let (key, place) := origin.describe fault.path
    let named := if fault.path.isEmpty then "" else " for key " ++ Text.Quoted.encode key
    "invalid configuration: " ++ fault.mismatch.message ++ named ++ place

/-- What stands at the path of a file. -/
inductive FileState where
  | missing
  /-- Something that is no file, such as a folder; it is as good as an empty file. -/
  | special
  | content (text : String)
  deriving DecidableEq, Repr, Inhabited

/-- A file that settings may be read from. -/
structure SettingsFile where
  path : String
  state : FileState
  deriving DecidableEq, Repr, Inhabited

namespace Settings

/-- The settings without a file and an environment. -/
def default : Settings := ⟨.default, .default, "info"⟩

instance : Inhabited Settings := ⟨default⟩

def fields : List (Document.Field Settings) :=
  [Document.field "master" (MasterSettings.read false) fun settings master =>
     { settings with master := master },
   Document.field "slave" (SlaveSettings.read false) fun settings slave =>
     { settings with slave := slave },
   Document.field "log_level" Document.asText fun settings logLevel =>
     { settings with logLevel := logLevel }]

def read : Document.Reader Settings :=
  Document.asStructure false "struct ModctlConfig" fields default

def toDocument (settings : Settings) : Document :=
  .ofFields
    [("master", settings.master.toDocument),
     ("slave", settings.slave.toDocument),
     ("log_level", .text settings.logLevel)]

/-- What the names of the variables begin with that hold settings. -/
def variablePrefix : String := "MODCTL_"

/-- A document with settings, and where it comes from. -/
structure Layer where
  origin : Origin
  document : Document
  deriving Repr, Inhabited

/-- The origin of what stands at a path: the last layer that has something there. -/
def originOf (layers : List Layer) (path : List String) : Origin :=
  ((layers.reverse.find? fun layer => (layer.document.at? path).isSome).map Layer.origin).getD
    .defaults

/-- Puts the layers together, each over those in front of it. -/
def ofLayers (layers : List Layer) : Except SettingsFault Settings :=
  let laid := layers.foldl (fun below layer => below.overlay layer.document) default.toDocument
  (read laid.sorted).mapError fun fault => .invalid fault (originOf layers fault.path)

def ofFile (file : SettingsFile) : Except SettingsFault Layer :=
  match file.state with
  | .missing => .error (.notFound file.path)
  | .special => .ok ⟨.file file.path, .record []⟩
  | .content text =>
    match Document.Yaml.parse text with
    | some document => .ok ⟨.file file.path, document⟩
    | none => .error (.unreadable file.path)

/-- Loads settings from a file, if one is named, and the variables of the environment. -/
def load (file : Option SettingsFile) (environment : List (String × String)) :
    Except SettingsFault Settings := do
  let below ← file.toList.mapM ofFile
  let above := Document.Environment.document variablePrefix environment
  ofLayers (below ++ [⟨.environment variablePrefix, above⟩])

/-- Settings as text, such as a file has them. -/
def toText (settings : Settings) : String := Document.Yaml.print settings.toDocument

end Settings

end Modbus.Console
