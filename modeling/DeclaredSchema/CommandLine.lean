import DeclaredSchema.Command

/-!
# Command line

Arguments have two levels: options of the program up to the name of a command, then what belongs to
that command. The program's options are welcome on both levels, and the later level wins. An argument
is an option, with its value after an equals sign or in the argument that follows, or an operand;
after `--` there are only operands.
-/

namespace DeclaredSchema

/-! ## Options -/

inductive CommandName where
  | scan
  | plan
  | create
  | update
  deriving DecidableEq, Repr

namespace CommandName

def all : List CommandName := [scan, plan, create, update]

def spelling : CommandName → String
  | scan => "scan"
  | plan => "plan"
  | create => "create"
  | update => "update"

def ofSpelling? (word : String) : Option CommandName := all.find? (·.spelling == word)

theorem ofSpelling?_spelling (c : CommandName) : ofSpelling? c.spelling = some c := by
  cases c <;> rfl

end CommandName

inductive CommandOption where
  | config
  | progress
  | json
  | update
  | snapshot
  | dryRun
  deriving DecidableEq, Repr

namespace CommandOption

def all : List CommandOption := [config, progress, json, update, snapshot, dryRun]

def spelling : CommandOption → String
  | config => "config"
  | progress => "progress"
  | json => "json"
  | update => "update"
  | snapshot => "snapshot"
  | dryRun => "dry-run"

def takesValue : CommandOption → Bool
  | config | progress | snapshot => true
  | json | update | dryRun => false

/-- Whether an option may stand before the name of a command, or after it. -/
def isKnownTo : CommandOption → Option CommandName → Bool
  | config, _ | progress, _ => true
  | json, c => c == some .scan
  | update, c | snapshot, c => c == some .plan
  | dryRun, c => c == some .create || c == some .update

def accepts : CommandOption → String → Bool
  | progress, value => (ProgressMode.ofName? value).isSome
  | config, value | snapshot, value => !value.isEmpty
  | _, _ => true

def ofSpelling? (level : Option CommandName) (word : String) : Option CommandOption :=
  all.find? fun o => o.spelling == word && o.isKnownTo level

end CommandOption

/-! ## Arguments -/

inductive CommandArgument where
  | operand (text : String)
  /-- Two dashes, a name and possibly an equals sign with a value. -/
  | long (name : String) (value : Option String)
  /-- One dash and letters. -/
  | short (first : Char)
  | endOfOptions
  deriving DecidableEq, Repr

/-- A single dash is an operand. -/
def CommandArgument.ofText (text : String) : CommandArgument :=
  match text.toList with
  | ['-', '-'] => .endOfOptions
  | '-' :: '-' :: rest =>
    .long (String.ofList (rest.takeWhile (· != '='))) <|
      match rest.dropWhile (· != '=') with
      | _ :: value => some (String.ofList value)
      | [] => none
  | '-' :: first :: _ => .short first
  | _ => .operand text

/-- What arguments lead to other than a run. -/
inductive NoRun where
  | misuse
  | help
  | version
  deriving DecidableEq, Repr

/-- The arguments of a level. -/
structure LevelArguments where
  options : List (CommandOption × String) := []
  operand : Option String := none
  deriving DecidableEq, Repr

namespace LevelArguments

/-- No option is given twice. -/
def addOption (l : LevelArguments) (o : CommandOption) (value : String) :
    Except NoRun LevelArguments :=
  if (l.options.lookup o).isSome || !o.accepts value then .error .misuse
  else .ok { l with options := l.options ++ [(o, value)] }

/-- No level has two operands. -/
def addOperand (l : LevelArguments) (text : String) : Except NoRun LevelArguments :=
  if l.operand.isSome || text.isEmpty then .error .misuse else .ok { l with operand := some text }

def addOperands (l : LevelArguments) (texts : List String) : Except NoRun LevelArguments :=
  texts.foldlM addOperand l

def has (l : LevelArguments) (o : CommandOption) : Bool := (l.options.lookup o).isSome

end LevelArguments

/-- What is asked for by a name that is not an option of a command. -/
def generalRequest? (level : Option CommandName) (name : String) : Option NoRun :=
  if name = "help" then some .help
  else if name = "version" && level.isNone then some .version
  else none

def shortRequest (level : Option CommandName) (letter : Char) : NoRun :=
  if letter = 'h' then .help
  else if letter = 'V' && level.isNone then .version
  else .misuse

/-- Reads a level, and what comes after it. The first operand ends the level of the program. -/
def readLevel (level : Option CommandName) (l : LevelArguments) :
    List String → Except NoRun (LevelArguments × List String)
  | [] => .ok (l, [])
  | arg :: rest => match CommandArgument.ofText arg with
    | .operand text => (l.addOperand text).bind fun l =>
      if level.isNone then .ok (l, rest) else readLevel level l rest
    | .endOfOptions =>
      if level.isNone then .error .misuse else (l.addOperands rest).map fun l => (l, [])
    | .short letter => .error (shortRequest level letter)
    | .long name value => match generalRequest? level name, CommandOption.ofSpelling? level name with
      | some request, _ => .error (if value.isNone then request else .misuse)
      | none, none => .error .misuse
      | none, some o => match o.takesValue, value, rest with
        | true, some value, rest => (l.addOption o value).bind fun l => readLevel level l rest
        | true, none, value :: rest => match CommandArgument.ofText value with
          | .operand value => (l.addOption o value).bind fun l => readLevel level l rest
          | _ => .error .misuse
        | false, none, rest => (l.addOption o "").bind fun l => readLevel level l rest
        | _, _, _ => .error .misuse

/-! ## Invocations -/

/-- A command with all that it needs. -/
structure Invocation where
  command : Command
  root : String
  configPath : String
  /-- Stated only if an option states it. -/
  progress : Option ProgressMode
  deriving DecidableEq, Repr

def defaultConfigPath : String := "./config/schemasync.toml"

def CommandName.toCommand (l : LevelArguments) : CommandName → Command
  | scan => .scan (l.has .json)
  | plan => .plan (l.has .update) (l.options.lookup .snapshot)
  | create => .create (l.has .dryRun)
  | update => .update (l.has .dryRun)

/-- What the word `help` with more words asks for. -/
def helpRequest : List String → NoRun
  | [] => .help
  | [word] => if word = "help" || (CommandName.ofSpelling? word).isSome then .help else .misuse
  | _ => .misuse

def Invocation.ofArguments (args : List String) : Except NoRun Invocation := do
  let (general, rest) ← readLevel none {} args
  let some word := general.operand | .error .misuse
  if word = "help" then .error (helpRequest rest)
  let some name := CommandName.ofSpelling? word | .error .misuse
  let (own, _) ← readLevel (some name) {} rest
  let some root := own.operand | .error .misuse
  let value? := fun o => (own.options.lookup o).or (general.options.lookup o)
  .ok {
    command := name.toCommand own
    root
    configPath := (value? .config).getD defaultConfigPath
    progress := (value? .progress).bind ProgressMode.ofName? }

/-! ## The program -/

/-- What the program meets when it is started. -/
structure Surroundings (σ : Type) where
  files : FileTree
  environment : Config.Environment
  /-- Whether a person reads the error channel. -/
  watched : Bool
  server : HttpServer σ
  /-- The ids that are proposed for new collections. -/
  ids : Nat → String
  clock : Clock

structure ProgramRun where
  printed : Transcript
  code : Nat
  deriving DecidableEq, Repr

def usageText : String :=
  "Usage: schemasync [--config PATH] [--progress off|human|json] COMMAND\n" ++
  "\n" ++
  "  scan PATH [--json]\n" ++
  "  plan PATH [--update] [--snapshot FILE]\n" ++
  "  create PATH [--dry-run]\n" ++
  "  update PATH [--dry-run]\n"

/-- What is printed in place of a run. A misuse is told on the error channel. -/
def NoRun.run : NoRun → ProgramRun
  | misuse => ⟨{ err := usageText }, 2⟩
  | help => ⟨{ out := usageText }, 0⟩
  | version => ⟨.line "schemasync 0.1.0", 0⟩

/-- A failure with its cause, which is set apart and indented. -/
def failureNote (headline : String) (cause : Option String) : Transcript :=
  .note <| "Error: " ++ headline ++ match cause with
    | some c => "\n\nCaused by:\n" ++ "\n".intercalate ((c.splitOn "\n").map ("    " ++ ·))
    | none => ""

def Invocation.run {σ : Type} (i : Invocation) (around : Surroundings σ) (server : σ) :
    ProgramRun :=
  match Config.load around.files i.configPath around.environment with
  | .error e => ⟨failureNote e.headline e.cause?, 1⟩
  | .ok config =>
    let w : Workspace σ := {
      files := around.files
      config
      progress := i.progress.getD (if around.watched then .human else .off)
      server := around.server
      ids := around.ids
      clock := around.clock }
    let r := w.run i.command i.root { server }
    match r.fault with
    | none => ⟨r.printed, 0⟩
    | some e => ⟨r.printed ++ failureNote e.headline e.cause?, 1⟩

/-- Runs the program on its arguments. -/
def runProgram {σ : Type} (around : Surroundings σ) (server : σ) (args : List String) : ProgramRun :=
  match Invocation.ofArguments args with
  | .ok i => i.run around server
  | .error request => request.run

end DeclaredSchema
