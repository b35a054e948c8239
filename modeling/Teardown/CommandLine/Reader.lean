/-
# Reading a command line

The arguments are read from left to right.  A value that stands apart from its option is looked at
only when the next option of the same command comes, or when the command is at its end; and a
command is at its end after all that stands behind it.  So of several faults, one in an inner
command counts more than an unfit value before it.

Where a command inherits an option, each command keeps what it was given itself; `chosen` puts
that together.

The state of the reading is the command at which it is (`Level`), with at most one option still to
be looked at.  Each argument changes the state or ends the reading, and an inner command begins a
state of its own.  At the end of the line the states are closed from the innermost outwards.

* §1  options as they are given, and levels.
* §2  the values of options, from the line and from the environment.
* §3  the arguments, by their form: two dashes, one dash, or the name of a command.
* §4  whole lines.
-/
import Teardown.CommandLine.Grammar
import Teardown.Settings

namespace Teardown.CommandLine

/-! ## 1. What is given -/

/-- An option that is given, by the line or by the environment. -/
structure Given where
  option : String
  values : List String
  isFromLine : Bool
deriving DecidableEq, Inhabited

/-- A command while its arguments are read: the options that it inherits, what it was given, and an
option that came last and is still to be looked at, with its value if that has come. -/
structure Level where
  command : Command
  inherited : List Opt
  given : List Given
  pending : Option (Opt × Option String)

namespace Level

def scope (l : Level) : List Opt := l.command.options ++ l.inherited

/-- A command inside, with nothing given yet. -/
def inner (l : Level) (command : Command) : Level :=
  ⟨command, l.scope.filter Opt.isInherited, [], none⟩

def find? (l : Level) (option : Opt) : Option Given :=
  l.given.find? fun given => given.option = option.name

/-- Whether the value of an option has to come next. -/
def awaitsValue (l : Level) : Bool := l.pending.any fun pending => pending.2.isNone

/-! ## 2. Values -/

/-- The values in the value of an option. -/
def readValue (form : Form) (value : String) : Except Usage (List String) :=
  match form with
  | .switch => .ok []
  | .path => if value.isEmpty then .error .valueMissing else .ok [value]
  | .format =>
    match LogFormat.parse value with
    | .ok _ => .ok [value]
    | .error _ => .error .valueUnfit
  | .names => .ok (Text.split ',' value)

/-- The command with an option that is given by the line. -/
def take (l : Level) (option : Opt) (value : String) : Except Usage Level :=
  match l.find? option with
  | some earlier =>
    if option.form ≠ .names then .error .repeated
    else do
      let values ← readValue option.form value
      let others := l.given.filter fun given => given.option ≠ option.name
      .ok { l with given := others ++ [⟨option.name, earlier.values ++ values, true⟩] }
  | none => do
    let values ← readValue option.form value
    .ok { l with given := l.given ++ [⟨option.name, values, true⟩] }

/-- The command with its pending option looked at. -/
def settle (l : Level) : Except Usage Level :=
  match l.pending with
  | none => .ok l
  | some (_, none) => .error .valueMissing
  | some (option, some value) => { l with pending := none }.take option value

/-- The command with an option that the environment gives, unless the line does. -/
def takeVariable (environment : Environment) (l : Level) (option : Opt) : Except Usage Level :=
  match option.variableName.bind environment.get?, l.find? option with
  | some value, none => do
    let values ← readValue option.form value
    .ok { l with given := l.given ++ [⟨option.name, values, false⟩] }
  | _, _ => .ok l

/-- What a command was given in all.  One that has commands needs one of them. -/
def close (environment : Environment) (l : Level) (hasCommand : Bool) :
    Except Usage (String × List Given) := do
  let l ← l.settle
  let l ← l.scope.foldlM (takeVariable environment) l
  if hasCommand || l.command.commands.isEmpty then .ok (l.command.name, l.given)
  else if l.given.isEmpty then .error .nothingGiven
  else .error .commandMissing

/-! ## 3. Arguments -/

/-- The command with an option, whose value may be attached to it. -/
def readOption (l : Level) (option : Opt) (attached : Option String) : Except Usage Level :=
  match option.form, attached with
  | .switch, some _ => .error .valueNeedless
  | .switch, none => do (← l.settle).take option ""
  | _, some value => do (← l.settle).take option value
  | _, none => do .ok { (← l.settle) with pending := some (option, none) }

/-- A question about the command, which is answered unless something before it is wrong. -/
def question (l : Level) (usage : Usage) : Except Usage Level := do
  let _ ← l.settle
  .error usage

/-- The command with an argument that begins with two dashes, from what stands behind them. -/
def readLong (l : Level) (body : List Char) : Except Usage Level :=
  let (name, attached) :=
    match Text.splitOnceChars? ['='] body with
    | some (name, value) => (String.ofList name, some (String.ofList value))
    | none => (String.ofList body, none)
  let ask (usage : Usage) : Except Usage Level :=
    if attached.isSome then .error .valueNeedless else l.question usage
  match l.scope.find? fun option => option.name = name with
  | some option => l.readOption option attached
  | none =>
    if name = "help" then ask .help
    else if name = "version" && l.command.hasVersion then ask .version
    else .error .unknownArgument

/-- The command with an argument that begins with one dash, from what stands behind it.  What follows
the letter of an option with a value is that value. -/
def readShort (l : Level) : List Char → Except Usage Level
  | [] => .ok l
  | letter :: rest =>
    match l.scope.find? fun option => option.letter = some letter with
    | some option =>
      if option.form = .switch then do (← l.readOption option none).readShort rest
      else
        let attached :=
          match rest with
          | [] => none
          | '=' :: value => some (String.ofList value)
          | value => some (String.ofList value)
        l.readOption option attached
    | none =>
      if letter = 'h' then l.question .help
      else if letter = 'V' && l.command.hasVersion then l.question .version
      else .error .unknownArgument

/-- What is wrong with an argument that has no place. -/
def misplaced (l : Level) (isTrailing : Bool) (argument : String) : Usage :=
  let isCommand := (CommandLine.find? l.command.commands argument).isSome || argument = "help"
  if l.command.commands.isEmpty || (isTrailing && isCommand) then .unknownArgument
  else .unknownCommand

end Level

/-- What the command for help answers about the commands that it is asked for.  It can be asked about
itself, but not about itself inside itself. -/
def helpOn (commands : List Command) (hasHelp : Bool) : List String → Usage
  | [] => .help
  | name :: rest =>
    if name = "help" && hasHelp && !commands.isEmpty then helpOn commands false rest
    else
      match find? commands name with
      | some command => helpOn command.commands hasHelp rest
      | none => .unknownCommand

/-! ## 4. Lines -/

/-- What each command of a line was given, the outermost first. -/
def readFrom (environment : Environment) (isTrailing : Bool) (l : Level) :
    List String → Except Usage (List (String × List Given))
  | [] => do .ok [← l.close environment false]
  | argument :: rest =>
    let command? :=
      if isTrailing || l.awaitsValue then none else find? l.command.commands argument
    let onwards (next : Except Usage Level) : Except Usage (List (String × List Given)) := do
      readFrom environment false (← next) rest
    match command? with
    | some command => do
      let inner ← readFrom environment false (l.inner command) rest
      .ok ((← l.close environment true) :: inner)
    | none =>
      if isTrailing then .error (l.misplaced true argument)
      else if argument = "help" && !l.awaitsValue && !l.command.commands.isEmpty then
        .error (helpOn l.command.commands true rest)
      else
        match argument.toList, l.pending with
        | ['-', '-'], _ => readFrom environment true l rest
        | '-' :: '-' :: body, _ => onwards (l.readLong body)
        | '-' :: letter :: letters, _ => onwards (l.readShort (letter :: letters))
        | _, some (option, none) => onwards (.ok { l with pending := some (option, some argument) })
        | _, _ => .error (l.misplaced false argument)

def read (environment : Environment) (arguments : List String) :
    Except Usage (List (String × List Given)) :=
  readFrom environment false ⟨program, [], [], none⟩ arguments

/-- What counts of an option that several commands were given: what the line gives counts more than what
the environment gives, and of two such the inner. -/
def chosen (levels : List (String × List Given)) (option : String) : Option Given :=
  levels.foldl (fun best level =>
    match level.2.find? fun given => given.option = option with
    | none => best
    | some given =>
      if best.any fun other => other.isFromLine && !given.isFromLine then best else some given) none

/-! ## Worked examples -/

/-- What an inner command is given counts. -/
example : (read ⟨[]⟩ ["-ca", "plan", "-c", "b", "delete-oidc"]).toOption.bind (fun levels =>
    (chosen levels "config").map Given.values) = some ["b"] := by decide +kernel

example : read ⟨[]⟩ ["plan"] = .error .nothingGiven := by rfl

end Teardown.CommandLine
