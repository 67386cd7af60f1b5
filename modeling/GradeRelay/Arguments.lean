import GradeRelay.Identifier
/-!
# Command line arguments

The arguments after the program's name: options, one command, and the command's own options and
values. The options of the whole program may stand before and after the command, and the later
place wins. A value given to an option is looked at only when the next option, value or the end of
its level is reached; what stands after the command is looked at before the options in front of it
are completed.
-/

namespace GradeRelay

/-- What the program is asked to do. -/
inductive Command where
  | init
  | ingest (event : String) (actor : Option UserId)
  | queue
  | outbox
  deriving DecidableEq, Repr, Inhabited

/-- A command with the options of the whole program. -/
structure Invocation where
  command : Command
  config : Option String := none
  db : Option String := none
  verbose : Bool := false
  deriving DecidableEq, Repr, Inhabited

/-- Why the arguments do not name a command to carry out. -/
inductive UsageFault where
  | help
  | version
  /-- There are no arguments at all. -/
  | nothingGiven
  | missingCommand
  | unknownCommand
  | missingArgument
  | unknownArgument
  /-- An option without its value, or with an empty path. -/
  | emptyValue
  /-- A value that is no number. -/
  | malformedValue
  /-- An option given twice at one level. -/
  | repeatedOption
  /-- A value for an option that takes none. -/
  | unexpectedValue
  deriving DecidableEq, Repr, Inhabited

namespace Arguments

/-- The options that take a value. -/
inductive ValueOption where
  | config
  | db
  | actor
  deriving DecidableEq, Repr, Inhabited

/-- The options that take none. -/
inductive Switch where
  | verbose
  | help
  | version
  deriving DecidableEq, Repr, Inhabited

/-- Where arguments stand: before the command or after it. -/
inductive Level where
  | top
  | init
  | ingest
  | queue
  | outbox
  deriving DecidableEq, Repr, Inhabited

/-- The level that a command's name opens. -/
def Level.ofCommand? (name : String) : Option Level :=
  if name = "init" then some .init
  else if name = "ingest" then some .ingest
  else if name = "queue" then some .queue
  else if name = "outbox" then some .outbox
  else none

/-- A name that may stand where a command is expected. -/
def isCommandName (name : String) : Bool := name = "help" || (Level.ofCommand? name).isSome

/-- The option of a long name that takes a value. -/
def valueOption? (level : Level) (name : String) : Option ValueOption :=
  if name = "config" then some .config
  else if name = "db" then some .db
  else if name = "actor" && level = .ingest then some .actor
  else none

/-- The switch of a long name. -/
def switch? (level : Level) (name : String) : Option Switch :=
  if name = "verbose" then some .verbose
  else if name = "help" then some .help
  else if name = "version" && level = .top then some .version
  else none

/-- The switch of a letter. -/
def shortSwitch? (level : Level) (c : Char) : Option Switch :=
  if c = 'v' then some .verbose
  else if c = 'h' then some .help
  else if c = 'V' && level = .top then some .version
  else none

/-- What a level has found so far. -/
structure Found where
  config : Option String := none
  db : Option String := none
  actor : Option UserId := none
  verbose : Bool := false
  event : Option String := none
  /-- The option seen last, while its value is missing or not looked at yet. -/
  waiting : Option (ValueOption × Option String) := none
  deriving DecidableEq, Repr, Inhabited

namespace Found

/-- The option was found. -/
def has (f : Found) : ValueOption → Bool
  | .config => f.config.isSome
  | .db => f.db.isSome
  | .actor => f.actor.isSome

/-- Something was found that is no command. -/
def hasAny (f : Found) : Bool := f.config.isSome || f.db.isSome || f.verbose

/-- Gives an option its value. No option is given twice, and no path is empty. -/
def assign (f : Found) (o : ValueOption) (value : String) : Except UsageFault Found :=
  if f.has o then .error .repeatedOption
  else
    match o with
    | .config => if value.isEmpty then .error .emptyValue else .ok { f with config := some value }
    | .db => if value.isEmpty then .error .emptyValue else .ok { f with db := some value }
    | .actor =>
      match Identifier.ofText? value.toList with
      | none => .error .malformedValue
      | some n => .ok { f with actor := some n }

/-- Looks at the value of the option seen last. -/
def settle (f : Found) : Except UsageFault Found :=
  match f.waiting with
  | none => .ok f
  | some (_, none) => .error .emptyValue
  | some (o, some value) => { f with waiting := none }.assign o value

/-- The option seen last still lacks its value. -/
def awaitsValue (f : Found) : Bool :=
  match f.waiting with
  | some (_, none) => true
  | _ => false

/-- Takes in a switch. Help and version end the search. -/
def flip (f : Found) (s : Switch) : Except UsageFault Found := do
  let f ← f.settle
  match s with
  | .help => throw .help
  | .version => throw .version
  | .verbose => if f.verbose then throw .repeatedOption else return { f with verbose := true }

/-- Takes in an argument with a long name, and its value where it comes with one. -/
def takeLong (f : Found) (level : Level) (name : String) (value : Option String) :
    Except UsageFault Found :=
  match valueOption? level name, switch? level name, value with
  | some o, _, some value => do (← f.settle).assign o value
  | some o, _, none => do return { ← f.settle with waiting := some (o, none) }
  | none, some _, some _ => .error .unexpectedValue
  | none, some s, none => f.flip s
  | none, none, _ => .error .unknownArgument

/-- Takes in the letters of one argument, each of them a switch. -/
def takeShort (f : Found) (level : Level) : List Char → Except UsageFault Found
  | [] => .ok f
  | c :: rest =>
    match shortSwitch? level c with
    | none => .error .unknownArgument
    | some s => do (← f.flip s).takeShort level rest

/-- Takes a value that belongs to no option. -/
def takeValue (f : Found) (level : Level) (trailing : Bool) (value : String) :
    Except UsageFault Found :=
  match level with
  | .ingest => do
    if f.event.isSome then throw .unknownArgument
    else return { ← f.settle with event := some value }
  | .top =>
    if trailing && isCommandName value then .error .unknownArgument else .error .unknownCommand
  | _ => .error .unknownArgument

end Found

/-- An argument that names options: a long one with the value attached to it, or letters. -/
inductive OptionWord where
  | long (name : String) (value : Option String)
  | short (letters : List Char)
  deriving DecidableEq, Repr, Inhabited

/-- The options that an argument names, if it names any. -/
def optionWord? (arg : String) : Option OptionWord :=
  match arg.toList with
  | '-' :: '-' :: [] => none
  | '-' :: '-' :: cs =>
    let name := String.ofList (cs.takeWhile (· != '='))
    match cs.dropWhile (· != '=') with
    | [] => some (.long name none)
    | _ :: value => some (.long name (some (String.ofList value)))
  | '-' :: c :: cs => some (.short (c :: cs))
  | _ => none

/-- What the arguments of one level come to: its findings, and the command that follows with its
arguments. -/
abbrev LevelResult := Found × Option (Level × List String)

/-- What follows the name of the command that explains the others. -/
def explain : List String → UsageFault
  | [] => .help
  | [name] => if isCommandName name then .help else .unknownCommand
  | _ => .unknownCommand

/-- Goes through the arguments of one level. -/
def scan (level : Level) (f : Found) (trailing : Bool) : List String → Except UsageFault LevelResult
  | [] => .ok (f, none)
  | arg :: rest =>
    if trailing then do scan level (← f.takeValue level true arg) true rest
    else if level = .top && !f.awaitsValue && arg = "help" then .error (explain rest)
    else
      match if level = .top && !f.awaitsValue then Level.ofCommand? arg else none with
      | some command => .ok (f, some (command, rest))
      | none =>
        if arg = "--" then scan level f true rest
        else
          match optionWord? arg with
          | some (.long name value) => do scan level (← f.takeLong level name value) false rest
          | some (.short letters) => do scan level (← f.takeShort level letters) false rest
          | none =>
            match f.waiting with
            | some (o, none) => scan level { f with waiting := some (o, some arg) } false rest
            | _ => do scan level (← f.takeValue level false arg) false rest

/-- The command of a level from its findings. -/
def commandOf (level : Level) (f : Found) : Except UsageFault Command :=
  match level, f.event with
  | .ingest, some event => .ok (.ingest event f.actor)
  | .ingest, none => .error .missingArgument
  | .queue, _ => .ok .queue
  | .outbox, _ => .ok .outbox
  | _, _ => .ok .init

/-- The call that the arguments make: what is found before the command is joined with what
is found after it. -/
def parse (args : List String) : Except UsageFault Invocation := do
  let (before, next) ← scan .top {} false args
  match next with
  | none =>
    let before ← before.settle
    throw (if before.hasAny then .missingCommand else .nothingGiven)
  | some (level, rest) =>
    let (after, _) ← scan level {} false rest
    let after ← after.settle
    let command ← commandOf level after
    let before ← before.settle
    return {
      command
      config := after.config.or before.config
      db := after.db.or before.db
      verbose := before.verbose || after.verbose }

end Arguments

end GradeRelay
