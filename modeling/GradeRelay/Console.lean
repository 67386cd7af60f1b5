import GradeRelay.Arguments
import GradeRelay.Document
import GradeRelay.Listing
import GradeRelay.Settings
import GradeRelay.Sync.Handling
/-!
# The console

One run of the program: arguments, settings, store, command. The run is written over a `Host`,
which reads and keeps files and prints; what it does depends on nothing else.
-/

namespace GradeRelay

/-- A store while a run has it open. -/
structure OpenStore where
  store : Store
  readOnly : Bool := false
  deriving Inhabited

/-- What a run needs from the machine it runs on. -/
structure Host (m : Type → Type) where
  /-- What is found at a path. -/
  document : String → m Document
  /-- What comes in on standard input. -/
  input : m Document
  /-- The value of an environment variable. -/
  environment : String → m (Option String)
  /-- Opens the store at a path, a new one if nothing is there; none if that fails. -/
  openStore : String → m (Option OpenStore)
  /-- Keeps the store at a path. -/
  keepStore : String → Store → m Unit
  /-- The time. -/
  now : m Timestamp
  /-- Prints a text and ends the line. -/
  print : String → m Unit
  /-- Prints a remark on what went wrong. -/
  remark : String → m Unit

/-- The exit code of a run that went well. -/
def exitOk : UInt32 := 0

/-- The exit code of a run that ended in a fault. -/
def exitFault : UInt32 := 1

/-- The exit code of a run whose arguments are not understood. -/
def exitUsage : UInt32 := 2

/-- The exit code of a run that ran out of ordinals. -/
def exitOverflow : UInt32 := 101

/-- The exit code that a fault leads to. -/
def Fault.exitCode : Fault → UInt32
  | .overflow => exitOverflow
  | _ => exitFault

/-- What is said about a fault. -/
def Fault.remark : Fault → String
  | .unreadable => "Error: cannot read the file as text"
  | .json => "Error: the event is no JSON value"
  | .toml => "Error: the settings are not well-formed"
  | .unopened => "Error: cannot open the store"
  | f => "Error: " ++ f.message?.getD ""

/-- The environment variable that asks for colors. -/
def colorVariable : String := "CLICOLOR_FORCE"

/-- Colors are asked for by any word but a zero. -/
def asksForColors (word : Option String) : Bool := word.any (· != "0")

/-- The name of the program and its version. -/
def versionText : String := "gradesync 0.1.0"

/-- How the program is called. -/
def usageText : String :=
  "Usage: gradesync [--config <CONFIG>] [--db <DB>] [-v] <COMMAND>\n\n"
    ++ "Commands:\n"
    ++ "  init                            Creates the tables of the store\n"
    ++ "  ingest <EVENT> [--actor <ID>]   Processes one event, - for standard input\n"
    ++ "  queue                           Lists the assessor queue\n"
    ++ "  outbox                          Lists the pending deliveries"

/-- The transport of the console: a notice that no request can be built for fails at once, and so
does one for which no connection can be made. -/
def consoleTransport (settings : Settings) : Transport := fun _ notice =>
  let url := notice.resource.url settings.baseUrl
  some ((requestFault? url settings.apiToken).getD
    (.network ("error sending request for url (" ++ url ++ ")")))

namespace Console

variable {m : Type → Type} [Monad m] (host : Host m)

/-- Ends a run with a remark on its fault. -/
def fail (f : Fault) : m UInt32 := do
  host.remark f.remark
  return f.exitCode

/-- Handles one event and keeps the store, whatever comes of it. A store that may be read only
fails the first write. -/
def handleEvent (settings : Settings) (colored : Bool) (path : String) (o : OpenStore)
    (event : String) (actor : Option UserId) : m UInt32 := do
  let document ← if event = "-" then host.input else host.document event
  match document.event with
  | .error f => fail host f
  | .ok raw =>
    let now ← host.now
    let p := o.store.handle (consoleTransport settings) settings.graderRole raw actor now
    if !o.readOnly then host.keepStore path p.store
    match p.result with
    | .error f => fail host f
    | .ok report =>
      if o.readOnly && report.writes then fail host (.store .readOnly)
      else
        host.print (report.text colored)
        return exitOk

/-- Carries out a command on an open store. -/
def command (settings : Settings) (colored : Bool) (path : String) (o : OpenStore) :
    Command → m UInt32
  | .init => do
    host.print ("Schema ready at " ++ path)
    return exitOk
  | .ingest event actor => handleEvent host settings colored path o event actor
  | .queue =>
    match o.store.allReviews with
    | .error f => fail host (.store f)
    | .ok reviews => do
      host.print (listQueue colored reviews)
      return exitOk
  | .outbox =>
    match o.store.pendingRetries with
    | .error f => fail host (.store f)
    | .ok retries => do
      host.print (listOutbox colored retries)
      return exitOk

/-- Answers arguments that name no command to carry out. -/
def answerUsage : UsageFault → m UInt32
  | .help => do
    host.print usageText
    return exitOk
  | .version => do
    host.print versionText
    return exitOk
  | _ => do
    host.remark usageText
    return exitUsage

/-- Runs the program: its settings are layered, then the command is carried out. -/
def run (args : List String) : m UInt32 := do
  match Arguments.parse args with
  | .error f => answerUsage host f
  | .ok call =>
    let file ← host.document (call.config.getD Settings.defaultFile)
    let token ← host.environment Settings.tokenVariable
    let baseUrl ← host.environment Settings.baseUrlVariable
    let environment := fun name =>
      if name = Settings.tokenVariable then token
      else if name = Settings.baseUrlVariable then baseUrl
      else none
    match Settings.load file environment with
    | .error f => fail host f
    | .ok settings =>
      let path := call.db.getD settings.databasePath
      match ← host.openStore path with
      | none => fail host .unopened
      | some o =>
        let colored := asksForColors (← host.environment colorVariable)
        command host settings colored path o call.command

end Console

end GradeRelay
