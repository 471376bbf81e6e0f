import TaskSync.Command.Arguments
import TaskSync.Command.Folder
import TaskSync.Config.Basic
import TaskSync.Store.Location
import TaskSync.Task
import TaskSync.Toml.Reader
import TaskSync.Toml.Writer

/-!
# Commands

What the commands do in a folder and what they print.
-/

namespace TaskSync.Command

/-- What a command has printed, and whether it has failed. -/
structure Output where
  code : Nat
  stdout : String
  stderr : String

/-- A failure in words: what was to be done, and why it could not be, the nearest cause first. -/
structure Complaint where
  message : String
  causes : List String

namespace Complaint

/-- A text whose further lines are indented. -/
def indented (indent : String) (s : String) : String :=
  ("\n" ++ indent).intercalate (s.splitOn "\n")

/-- Several causes are numbered. -/
def causeLines (causes : List String) : String :=
  match causes with
  | [cause] => "    " ++ indented "    " cause ++ "\n"
  | causes => String.join (causes.zipIdx.map fun (cause, i) =>
      (if i < 10 then "    " else "   ") ++ toString i ++ ": " ++ indented "       " cause ++ "\n")

def text (c : Complaint) : String :=
  "Error: " ++ c.message ++ "\n"
    ++ (if c.causes.isEmpty then "" else "\nCaused by:\n" ++ causeLines c.causes)

def ofStore (message : String) (e : StoreError) : Complaint :=
  ⟨message, e.message :: e.sources⟩

def bare (e : StoreError) : Complaint := ⟨e.message, e.sources⟩

end Complaint

/-- A command prints, unless it fails, and may leave the folder changed in any case. -/
abbrev Outcome := Except Complaint String × Folder

/-! ### Configurations -/

/-- The configuration that a new project begins with. -/
def starterConfig : Config :=
  Config.default.withTask
    (((TaskConfig.named "example_task").withModule "org/example/module").withServices ["api"])

/-- The configuration in a file, with its open parts filled. -/
def loadConfig (path : String) (f : Folder) : Except Complaint Config :=
  match f.readText path with
  | .error e => .error ⟨"Failed to read config " ++ path, [e.message]⟩
  | .ok content =>
    match (Toml.read? content).map (Config.shape.read .toml) with
    | some (.ok c) => .ok c.finalize
    | _ => .error ⟨"Failed to parse config " ++ path, []⟩

/-! ### The store -/

/-- A database that is only read cannot take any tasks. -/
def openReadOnly (c : Config) (d : Database) : Except StoreError TableStore :=
  if c.tasks.isEmpty then .ok (.openOn c d) else .error Folder.readOnly

/-- Opens the database of a configuration and puts the configured tasks in it. -/
def openStore (c : Config) (f : Folder) : Except StoreError TableStore × Folder :=
  match Location.read c.databaseUrl with
  | .error e => (.error e, f)
  | .ok .memory => (.ok (.openOn c .empty), f)
  | .ok (.file path false) =>
    match f.readDatabase path with
    | .error e => (.error e, f)
    | .ok d =>
      let store := TableStore.openOn c d
      (.ok store, f.writeDatabase path store.database)
  | .ok (.file path true) => (f.readOnlyDatabase path >>= openReadOnly c, f)

/-! ### The commands -/

def initialized (path : String) (c : Config) : String :=
  "\nInitialized syncd\n\nCreated:\n  " ++ path ++ "\n  " ++ c.workingDir.text ++ "/\n  "
    ++ c.databaseUrl ++ "\n\nNext steps:\n  1. Edit " ++ path
    ++ " to describe your tasks\n  2. Run 'syncd validate'\n"

/-- Writes the starter configuration and makes what it needs. A file that is there already is
kept, unless it is to be replaced. -/
def init (path : String) (force : Bool) (f : Folder) : Outcome :=
  if f.contains path && !force then
    (.ok ("Config already exists at " ++ path ++ "\n"), f)
  else
    match f.writeText path (Toml.write starterConfig.toValue) with
    | .error e => (.error ⟨"Failed to write " ++ path, [e.message]⟩, f)
    | .ok f =>
      let config := starterConfig.finalize
      match f.makeDirectories config.workingDir.text with
      | .error e => (.error ⟨"Failed to create working directory", [e.message]⟩, f)
      | .ok f =>
        match openStore config f with
        | (.error e, f) => (.error (.ofStore "Failed to initialize task store" e), f)
        | (.ok _, f) => (.ok (initialized path config), f)

def validTaskLine (t : Task) : String := "  ✓ " ++ t.name ++ " (" ++ t.kind.word ++ ")\n"

/-- Checks a configuration and all its tasks. -/
def validate (c : Config) : Except Complaint String := do
  c.validate.mapError fun e => ⟨"Invalid config", [e.message]⟩
  let lines ← c.tasks.mapM fun t =>
    ((Task.ofConfig t).map validTaskLine).mapError fun e =>
      ⟨"Invalid task " ++ t.nameOrEmpty, [e.message]⟩
  return String.join lines ++ "\n" ++ toString c.tasks.length ++ " task(s) valid\n"

def taskLine (c : TaskConfig) : String :=
  "  [" ++ (if c.enabled.getD true then "enabled" else "disabled") ++ "] " ++ c.nameOrEmpty ++ " "
    ++ (if c.isScheduled then "scheduled" else "dynamic") ++ " " ++ c.moduleName.getD "-" ++ "\n"

def taskLines (cs : List TaskConfig) : String :=
  if cs.isEmpty then "\nNo tasks yet.\n"
  else "\nTasks (" ++ toString cs.length ++ "):\n" ++ String.join (cs.map taskLine) ++ "\n"

/-- Lists the stored tasks. -/
def tasks (c : Config) (f : Folder) : Outcome :=
  match openStore c f with
  | (.error e, f) => (.error (.ofStore "Failed to open task store" e), f)
  | (.ok store, f) => ((store.allTasks.map taskLines).mapError .bare, f)

def recordLine (r : RunRecord) : String :=
  "  ● " ++ ((r.startTime.map (·.offsetText)).getD "-") ++ " "
    ++ ((r.millis?.map fun n => toString n ++ "ms").getD "-")
    ++ ((r.error.map (" " ++ ·)).getD "") ++ "\n"

def recordLines (task : String) (rs : List RunRecord) : String :=
  if rs.isEmpty then "\nNo runs recorded for " ++ task ++ ".\n"
  else "\nRuns of " ++ task ++ " (" ++ toString rs.length ++ "):\n"
    ++ String.join (rs.map recordLine) ++ "\n"

def storedRecords (task : String) (store : TableStore) : Except Complaint String := do
  match ← (store.getTask task).mapError Complaint.bare with
  | none => throw ⟨"Task not found: " ++ task, []⟩
  | some _ => return recordLines task (← (store.recordsOf task).mapError Complaint.bare)

/-- Shows the last runs of a task, the newest first. -/
def events (c : Config) (task : String) (f : Folder) : Outcome :=
  match openStore c f with
  | (.error e, f) => (.error (.ofStore "Failed to open task store" e), f)
  | (.ok store, f) => (storedRecords task store, f)

/-- Does what is asked for. -/
def outcomeOf (config : String) (r : Request) (f : Folder) : Outcome :=
  match r with
  | .init force => init config force f
  | .validate => (loadConfig config f >>= validate, f)
  | .tasks =>
    match loadConfig config f with
    | .error e => (.error e, f)
    | .ok c => tasks c f
  | .events task =>
    match loadConfig config f with
    | .error e => (.error e, f)
    | .ok c => events c task f

/-- The paths below the folder at which a command line looks, as far as can be told from the
configuration that is there. -/
def paths (args : List String) (f : Folder) : List String :=
  match parse args with
  | .run config _ =>
    let c := (loadConfig config f).toOption.getD starterConfig
    let database := match Location.read c.databaseUrl with
      | .ok (.file path _) => [path]
      | _ => []
    [config, starterConfig.workingDir.text] ++ database
  | _ => []

/-- Runs a command line in a folder. -/
def run (args : List String) (f : Folder) : Output × Folder :=
  match parse args with
  | .help => (if args.isEmpty then ⟨2, "", helpText⟩ else ⟨0, helpText, ""⟩, f)
  | .version => (⟨0, versionText, ""⟩, f)
  | .refused r => (⟨2, "", r.text⟩, f)
  | .run config request =>
    match outcomeOf config request f with
    | (.ok printed, f) => (⟨0, printed, ""⟩, f)
    | (.error e, f) => (⟨1, "", e.text⟩, f)

end TaskSync.Command
