import NodeLookup.Settings
import NodeLookup.Text.Bytes
import NodeLookup.Yaml.Value

/-!
# Settings in files

A file of settings holds one mapping whose keys are names of settings, each at most once. It may also
be the list of all six settings in order. One wrong key rejects the whole file.
-/

namespace NodeLookup

namespace SettingKey

/-- The key of a setting in a file. -/
def name : SettingKey → String
  | providerName => "provider-name"
  | endpoint => "endpoint"
  | region => "region"
  | projectId => "project-id"
  | authToken => "auth-token"
  | requestTimeout => "request-timeout"

/-- The setting of a key. -/
def ofName? (name : String) : Option SettingKey := all.find? (·.name == name)

end SettingKey

namespace PartialSettings

/-- A text, or nothing for a null. -/
def textOf? (node : Yaml.Node) : Option (Option String) :=
  match node.present? with
  | none => none
  | some none => some none
  | some (some node) => node.text?.map some

/-- A number, or nothing for a null. -/
def naturalOf? (node : Yaml.Node) : Option (Option Nat) :=
  match node.present? with
  | none => none
  | some none => some none
  | some (some node) => node.natural?.map some

/-- Sets a setting to what a node stands for. -/
def put (settings : PartialSettings) (key : SettingKey) (node : Yaml.Node) : Option PartialSettings :=
  match key with
  | .providerName => (textOf? node).map fun value => { settings with providerName := value }
  | .endpoint => (textOf? node).map fun value => { settings with endpoint := value }
  | .region => (textOf? node).map fun value => { settings with region := value }
  | .projectId => (textOf? node).map fun value => { settings with projectId := value }
  | .authToken => (textOf? node).map fun value => { settings with authToken := value }
  | .requestTimeout => (naturalOf? node).map fun value => { settings with requestTimeout := value }

/-- Sets the settings of entries, on top of those set before under the keys `seen`. -/
def putEntries (seen : List SettingKey) (settings : PartialSettings) :
    List (Yaml.Node × Yaml.Node) → Option PartialSettings
  | [] => some settings
  | (key, value) :: entries =>
    match key.text?.bind SettingKey.ofName? with
    | none => none
    | some key =>
      if seen.contains key then none
      else (settings.put key value).bind fun settings => putEntries (key :: seen) settings entries

/-- Sets settings in order, one to each node. -/
def putInOrder (settings : PartialSettings) :
    List SettingKey → List Yaml.Node → Option PartialSettings
  | [], [] => some settings
  | key :: keys, node :: nodes =>
    (settings.put key node).bind fun settings => putInOrder settings keys nodes
  | _, _ => none

/-- The settings that a node holds. -/
def ofNode? : Yaml.Node → Option PartialSettings
  | .mapping entries => putEntries [] {} entries
  | .sequence nodes => putInOrder {} SettingKey.all nodes
  | _ => none

/-- The settings that a text holds, which must be a single document. -/
def ofText? (text : List Char) : Option PartialSettings :=
  match Yaml.Node.ofText? text with
  | some [node] => ofNode? node
  | _ => none

/-- The settings that bytes hold, which must be text. -/
def ofBytes? (bytes : List UInt8) : Option PartialSettings := (Text.decode? bytes).bind ofText?

end PartialSettings

/-- What is at the path of a file of settings. -/
inductive FileState where
  | missing
  /-- Something that can be opened but holds no bytes, such as a directory. -/
  | unreadable
  | bytes (bytes : List UInt8)
deriving DecidableEq, Repr, Inhabited

/-- The settings in the file of a path. -/
def PartialSettings.ofFile (path : String) : FileState → Except SettingsError PartialSettings
  | .missing => .error (.unopened path)
  | .unreadable => .error (.unparsed path)
  | .bytes bytes =>
    match ofBytes? bytes with
    | some settings => .ok settings
    | none => .error (.unparsed path)

/-! ## Options

A file that is named has to be there and has to be readable, even if nothing of it is needed. -/

/-- What a command line says about the cloud. -/
structure Options where
  configFile : Option String := none
  flags : PartialSettings := {}
deriving DecidableEq, Repr, Inhabited

namespace Options

/-- The settings that the file gives, none if no file is named. -/
def fromFile (options : Options) (fileAt : String → FileState) : Except SettingsError PartialSettings :=
  match options.configFile with
  | none => .ok {}
  | some path => PartialSettings.ofFile path (fileAt path)

/-- The settings that the options make, by what is at each path. -/
def settings (options : Options) (fileAt : String → FileState) : Except SettingsError Settings :=
  (options.fromFile fileAt).bind (Settings.resolve options.flags)

end Options

end NodeLookup
