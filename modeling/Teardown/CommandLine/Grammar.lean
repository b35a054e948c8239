/-
# The grammar of a command line

A command line is a command with options, perhaps followed by one of its own commands with options
of that, and so on.  An option is a switch or has a value; it may be inherited by the commands
inside, and an environment variable may give its value where the line does not.

Every command can be asked for help, and one with commands of its own has a command for that, too.

The grammar is data, and the reader knows nothing else of this program.  What can go wrong is an
enumeration (`Usage`), of which help and the version are two: they end the reading just as a fault
does.

* §1  options and commands.  A command holds its own commands, so a grammar is a tree.
* §2  the ways of going wrong, with their wordings.
* §3  the command line of this program: one command for each operation that can be planned.
* §4  overviews of a grammar, which are printed where help is asked for.
-/

namespace Teardown.CommandLine

/-! ## 1. Options and commands -/

/-- What an option takes: nothing, a path, the format of the log, or names with commas between them.
Only names may be given more than once. -/
inductive Form
  | switch
  | path
  | format
  | names
deriving DecidableEq

/-- An option. -/
structure Opt where
  name : String
  letter : Option Char
  form : Form
  variableName : Option String
  isInherited : Bool
deriving DecidableEq

/-- A command. -/
inductive Command
  | command (name : String) (options : List Opt) (commands : List Command) (hasVersion : Bool)

namespace Command

def name : Command → String
  | .command name _ _ _ => name

def options : Command → List Opt
  | .command _ options _ _ => options

def commands : Command → List Command
  | .command _ _ commands _ => commands

/-- Whether a command can be asked for its version. -/
def hasVersion : Command → Bool
  | .command _ _ _ hasVersion => hasVersion

end Command

def find? (commands : List Command) (name : String) : Option Command :=
  commands.find? fun command => command.name = name

/-! ## 2. Ways of going wrong -/

/-- Why a command line is not carried out.  To be asked for help or for the version is one of the
reasons. -/
inductive Usage
  | help
  | version
  | nothingGiven
  | commandMissing
  | unknownCommand
  | unknownArgument
  | valueMissing
  | valueUnfit
  | valueNeedless
  | repeated
deriving DecidableEq, Inhabited

/-- The wording for a command line that is not carried out. -/
def Usage.message : Usage → String
  | .help => "help was asked for"
  | .version => "the version was asked for"
  | .nothingGiven => "nothing was given"
  | .commandMissing => "a command is missing"
  | .unknownCommand => "there is no such command"
  | .unknownArgument => "there is no such argument"
  | .valueMissing => "the value of an option is missing"
  | .valueUnfit => "the value of an option is not one that it may have"
  | .valueNeedless => "a value is given to an option that takes none"
  | .repeated => "an option is given twice"

/-! ## 3. The command line of this program -/

def switch (name : String) : Opt := ⟨name, none, .switch, none, false⟩

/-- The names that an operation is meant for. -/
def only : Opt := ⟨"only", none, .names, none, false⟩

/-- The command that plans an operation. -/
def planCommand : Command :=
  .command "plan" [⟨"inventory", some 'i', .path, some "STRATA_INVENTORY", true⟩]
    [.command "delete-cluster" [switch "wait", switch "with-cleanup"] [] false,
     .command "delete-nodegroups" [only, switch "wait"] [] false,
     .command "delete-serviceaccounts" [only, switch "wait"] [] false,
     .command "delete-oidc" [] [] false] false

/-- The program. -/
def program : Command :=
  .command "strata"
    [⟨"config", some 'c', .path, some "STRATA_CONFIG", true⟩,
     ⟨"log-format", none, .format, none, true⟩]
    [planCommand] true

/-! ## 4. Overviews -/

/-- An option as it is written. -/
def Opt.text (option : Opt) : String :=
  "--" ++ option.name ++
    match option.form with
    | .switch => ""
    | .path => " <path>"
    | .format => " <text or json>"
    | .names => " <names>"

mutual

/-- The lines about a command, further in than those about the command that it belongs to. -/
def outline (indent : String) : Command → List String
  | .command name options commands _ =>
    (indent ++ " ".intercalate (name :: options.map fun option => "[" ++ option.text ++ "]")) ::
      outlines (indent ++ "  ") commands

def outlines (indent : String) : List Command → List String
  | [] => []
  | command :: commands => outline indent command ++ outlines indent commands

end

/-- What there is to say about a command with its commands. -/
def overview (command : Command) : String := "\n".intercalate (outline "" command)

end Teardown.CommandLine
