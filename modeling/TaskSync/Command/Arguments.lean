import TaskSync.Text.Similarity

/-!
# Arguments of the command line

What the command line asks for, and the complaints about one that asks for nothing sensible. The
option for the configuration file stands in front of the command.
-/

namespace TaskSync.Command

/-- What can be asked for. -/
inductive Request where
  | init (force : Bool)
  | validate
  | tasks
  | events (task : String)
  deriving DecidableEq

def defaultConfigFile : String := "syncd.toml"

/-- Why a command line is refused. -/
inductive UsageFault where
  | unexpected (argument : String)
  | unknownCommand (name : String)
  | commandMissing
  | valueMissing (option : String)
  | nameMissing
  | repeated (option : String)
  deriving DecidableEq

/-- A refused command line: what may have been meant, and how the command is used. -/
structure Refusal where
  fault : UsageFault
  tips : List String
  usage : Option String
  deriving DecidableEq

/-- What a command line comes to. -/
inductive Parsed where
  | run (config : String) (request : Request)
  | help
  | version
  | refused (r : Refusal)
  deriving DecidableEq

def mainUsage : String := "syncd [OPTIONS] <COMMAND>"

def configOption : String := "--config <CONFIG>"

def commands : List String := ["init", "validate", "tasks", "events", "help"]

/-- How a command is used when one of its options is meant, by the name of the option. -/
abbrev Options := List (String × String)

def mainOptions : Options :=
  [("config", "syncd " ++ configOption ++ " <COMMAND>"), ("help", mainUsage),
   ("version", mainUsage)]

def initUsage : String := "syncd init [OPTIONS]"

def initOptions : Options := [("force", "syncd init --force"), ("help", initUsage)]

def eventsUsage : String := "syncd events <NAME>"

def isOption (s : String) : Bool := s.startsWith "-" && s != "-"

def isHelp (s : String) : Bool := s == "--help" || s == "-h"

/-- An option without its value; of several letters only the first one. -/
def optionName (arg : String) : String :=
  if arg.startsWith "--" then (arg.splitOn "=").headD "" else String.ofList (arg.toList.take 2)

/-- The name of a long option. -/
def longName? (arg : String) : Option String :=
  if arg.startsWith "--" then some (String.ofList ((optionName arg).toList.drop 2)) else none

def similarTip (noun : String) (words : List String) : List String :=
  match words with
  | [] => []
  | [x] => ["a similar " ++ noun ++ " exists: '" ++ x ++ "'"]
  | xs => ["some similar " ++ noun ++ "s exist: "
      ++ ", ".intercalate (xs.map fun x => "'" ++ x ++ "'")]

/-- Refuses an argument that a command does not know. An option that is like one of its own is
taken for that, or else for one of `init` if that comes later; where names are taken, it can be
meant as a name. -/
def refuse (arg usage : String) (options : Options) (takesNames : Bool) (rest : List String) :
    Parsed :=
  let name := if isOption arg then optionName arg else arg
  let asName :=
    if takesNames && isOption arg then
      ["to pass '" ++ name ++ "' as a value, use '-- " ++ name ++ "'"]
    else []
  let meant (options : Options) : Option (String × String) := do
    let word ← (Text.alike (← longName? arg) (options.map (·.1))).getLast?
    some ("--" ++ word, (options.lookup word).getD usage)
  match meant options with
  | some (option, usage) =>
    .refused ⟨.unexpected name, similarTip "argument" [option] ++ asName, some usage⟩
  | none =>
    let elsewhere := if rest.contains "init" then meant initOptions else none
    let tips := elsewhere.toList.map fun o => "'init " ++ o.1 ++ "' exists"
    .refused ⟨.unexpected name, asName ++ tips, some usage⟩

/-- The arguments of `init`. -/
def parseInit (config : String) (force : Bool) : List String → Parsed
  | [] => .run config (.init force)
  | arg :: rest =>
    if arg = "--force" then
      if force then .refused ⟨.repeated "--force", [], some initUsage⟩
      else parseInit config true rest
    else if isHelp arg then .help
    else refuse arg initUsage initOptions false []

/-- The arguments of a command that takes none. -/
def parseNone (config : String) (request : Request) (usage : String) : List String → Parsed
  | [] => .run config request
  | arg :: _ => if isHelp arg then .help else refuse arg usage [("help", usage)] false []

/-- The arguments of `events`; behind two hyphens everything is a name. -/
def parseEvents (config : String) (name : Option String) (plain : Bool) : List String → Parsed
  | [] =>
    match name with
    | some n => .run config (.events n)
    | none => .refused ⟨.nameMissing, [], some eventsUsage⟩
  | arg :: rest =>
    if !plain && arg == "--" then parseEvents config name true rest
    else if !plain && isHelp arg then .help
    else if !plain && isOption arg then refuse arg eventsUsage [("help", eventsUsage)] true []
    else if name.isSome then refuse arg eventsUsage [] false []
    else parseEvents config (some arg) plain rest

/-- Help is asked for in general or for one command. -/
def parseHelp : List String → Parsed
  | [] => .help
  | name :: _ =>
    if commands.contains name then .help else .refused ⟨.unknownCommand name, [], some mainUsage⟩

def parseCommand (config : String) (name : String) (args : List String) : Parsed :=
  match name with
  | "init" => parseInit config false args
  | "validate" => parseNone config .validate "syncd validate" args
  | "tasks" => parseNone config .tasks "syncd tasks" args
  | "events" => parseEvents config none false args
  | "help" => parseHelp args
  | _ =>
    .refused ⟨.unknownCommand name, similarTip "subcommand" (Text.alike name commands),
      some mainUsage⟩

/-- The value that is written into the same argument as the option. -/
def attachedValue? (arg : String) : Option String :=
  if arg.startsWith "--config=" then some (String.ofList (arg.toList.drop 9))
  else if arg.startsWith "-c=" then some (String.ofList (arg.toList.drop 3))
  else if arg.startsWith "-c" && arg != "-c" then some (String.ofList (arg.toList.drop 2))
  else none

def noValue : Parsed := .refused ⟨.valueMissing configOption, [], none⟩

/-- The option is given at most once and has a value. -/
def withConfig (config : Option String) (value : String) (rest : Option String → Parsed) :
    Parsed :=
  if config.isSome then .refused ⟨.repeated configOption, [], some mainUsage⟩
  else if value = "" then noValue
  else rest (some value)

/-- The arguments in front of the command, and then its own. -/
def parseFrom (config : Option String) : List String → Parsed
  | [] => .refused ⟨.commandMissing, [], some mainUsage⟩
  | arg :: rest =>
    if isHelp arg then .help
    else if arg = "--version" ∨ arg = "-V" then .version
    else if arg = "--config" ∨ arg = "-c" then
      match rest with
      | value :: rest =>
        if isOption value then noValue else withConfig config value fun c => parseFrom c rest
      | [] => noValue
    else
      match attachedValue? arg with
      | some value => withConfig config value fun c => parseFrom c rest
      | none =>
        if isOption arg then refuse arg mainUsage mainOptions false rest
        else parseCommand (config.getD defaultConfigFile) arg rest

/-- Reads a command line. -/
def parse (args : List String) : Parsed := if args.isEmpty then .help else parseFrom none args

def UsageFault.message : UsageFault → String
  | unexpected arg => "unexpected argument '" ++ arg ++ "' found"
  | unknownCommand name => "unrecognized subcommand '" ++ name ++ "'"
  | commandMissing => "'syncd' requires a subcommand but one was not provided\n"
      ++ "  [subcommands: " ++ ", ".intercalate commands ++ "]"
  | valueMissing option => "a value is required for '" ++ option ++ "' but none was supplied"
  | nameMissing => "the following required arguments were not provided:\n  <NAME>"
  | repeated option => "the argument '" ++ option ++ "' cannot be used multiple times"

def Refusal.text (r : Refusal) : String :=
  "error: " ++ r.fault.message ++ "\n\n"
    ++ (if r.tips.isEmpty then "" else
      String.join (r.tips.map fun t => "  tip: " ++ t ++ "\n") ++ "\n")
    ++ ((r.usage.map fun u => "Usage: " ++ u ++ "\n\n").getD "")
    ++ "For more information, try '--help'.\n"

def versionText : String := "syncd 0.1.0\n"

def helpText : String :=
  "Keeps infrastructure in sync with service discovery\n\nUsage: " ++ mainUsage ++ "\n\n"
    ++ "Commands:\n"
    ++ "  init      Write a starter config and create the task store\n"
    ++ "  validate  Check the config and every task in it\n"
    ++ "  tasks     List stored tasks\n"
    ++ "  events    Show recent runs of a task, newest first\n"
    ++ "  help      Print this message or the help of the given subcommand(s)\n\n"
    ++ "Options:\n"
    ++ "  -c, --config <CONFIG>  [default: syncd.toml]\n"
    ++ "  -h, --help             Print help\n"
    ++ "  -V, --version          Print version\n"

end TaskSync.Command
