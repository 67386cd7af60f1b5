import GradeRelay.Document
import GradeRelay.Text.Blank
import GradeRelay.Toml.Parser
/-!
# Settings

The settings come from three layers: built-in values, over them the keys of a settings file, over
both two environment variables, each as far as it says something. What comes out is checked at the
end.
-/

namespace GradeRelay

/-- What the bridge can be told. -/
structure Settings where
  /-- The base address of the records service. -/
  baseUrl : String := "http://localhost:8080/api/"
  /-- The token sent with each delivery; none when empty. -/
  apiToken : String := ""
  /-- The seconds a delivery may take. -/
  timeout : Nat := 30
  /-- The seconds a connection may take. -/
  connectTimeout : Nat := 10
  /-- The file that holds the store. -/
  databasePath : String := "gradesync.db"
  /-- The role that marks a grader. -/
  graderRole : Int := 11
  deriving DecidableEq, Repr, Inhabited

/-- The keys of a settings file, as far as they are there. -/
structure SettingsFile where
  baseUrl : Option String := none
  apiToken : Option String := none
  timeout : Option Nat := none
  connectTimeout : Option Nat := none
  databasePath : Option String := none
  graderRole : Option Int := none
  deriving DecidableEq, Repr, Inhabited

namespace SettingsFile

/-- A string under a key, if there is anything. -/
def stringAt (t : Toml.Table) (key : String) : Except Fault (Option String) :=
  match t.get? key with
  | none => .ok none
  | some (.string s) => .ok (some s)
  | some _ => .error .toml

/-- An integer under a key, if there is anything. -/
def integerAt (t : Toml.Table) (key : String) : Except Fault (Option Int) :=
  match t.get? key with
  | none => .ok none
  | some (.integer n) => .ok (some n)
  | some _ => .error .toml

/-- An integer under a key that is not negative, if there is anything. -/
def naturalAt (t : Toml.Table) (key : String) : Except Fault (Option Nat) := do
  match ← integerAt t key with
  | none => return none
  | some n => if 0 ≤ n then return some n.toNat else throw .toml

/-- The keys that a table has; all others are free. -/
def ofTable (t : Toml.Table) : Except Fault SettingsFile := do
  let baseUrl ← stringAt t "base_url"
  let apiToken ← stringAt t "api_token"
  let timeout ← naturalAt t "timeout_secs"
  let connectTimeout ← naturalAt t "connect_timeout_secs"
  let databasePath ← stringAt t "database_path"
  let graderRole ← integerAt t "grader_role_id"
  return { baseUrl, apiToken, timeout, connectTimeout, databasePath, graderRole }

/-- The keys that a text has. -/
def ofText (text : String) : Except Fault SettingsFile :=
  match Toml.read text with
  | none => .error .toml
  | some t => ofTable t

end SettingsFile

namespace Settings

/-- The default file of settings. -/
def defaultFile : String := "gradesync.toml"

/-- The keys of a file over the built-in values. -/
def ofFile (f : SettingsFile) : Settings :=
  let d : Settings := {}
  { baseUrl := f.baseUrl.getD d.baseUrl
    apiToken := f.apiToken.getD d.apiToken
    timeout := f.timeout.getD d.timeout
    connectTimeout := f.connectTimeout.getD d.connectTimeout
    databasePath := f.databasePath.getD d.databasePath
    graderRole := f.graderRole.getD d.graderRole }

/-- The environment variable over the token. -/
def tokenVariable : String := "GRADESYNC_API_TOKEN"

/-- The environment variable over the base address. -/
def baseUrlVariable : String := "GRADESYNC_BASE_URL"

/-- A variable that is set to something. -/
def override? (environment : String → Option String) (name : String) : Option String :=
  (environment name).filter fun v => !v.isEmpty

/-- The environment over what the file gave. -/
def withEnvironment (c : Settings) (environment : String → Option String) : Settings :=
  { c with
    apiToken := (override? environment tokenVariable).getD c.apiToken
    baseUrl := (override? environment baseUrlVariable).getD c.baseUrl }

/-- What is wrong with the settings, the time limit looked at first. -/
def fault? (c : Settings) : Option SettingsFault :=
  if c.timeout = 0 then some .zeroTimeout
  else if Text.isBlankText c.baseUrl then some .blankBaseUrl
  else none

/-- Settings without a fault. -/
def check (c : Settings) : Except Fault Settings :=
  match c.fault? with
  | some f => .error (.settings f)
  | none => .ok c

/-- The settings from what a file holds and the environment. -/
def layered (file : SettingsFile) (environment : String → Option String) : Except Fault Settings :=
  ((ofFile file).withEnvironment environment).check

/-- The settings from a document, which may be absent, and the environment. -/
def load (file : Document) (environment : String → Option String) : Except Fault Settings :=
  match file with
  | .absent => layered {} environment
  | .unreadable => .error .unreadable
  | .text t => do layered (← SettingsFile.ofText t) environment

end Settings

end GradeRelay
