import DeclaredSchema.Command.Report
import DeclaredSchema.Config
import DeclaredSchema.Store.Memory
import DeclaredSchema.Store.Rest

/-!
# Commands

`scan` shows what a root declares, `plan` what would be done to the store, `create` and `update` do
it. A dry run carries the plan out on a copy of the store in memory. A command that fails has printed
what it knew until then.
-/

namespace DeclaredSchema

inductive Command where
  | scan (json : Bool)
  /-- Plans against the store, or against a file with a list of its collections. -/
  | plan (update : Bool) (snapshotFile : Option String)
  | create (dryRun : Bool)
  | update (dryRun : Bool)
  deriving DecidableEq, Repr

inductive SnapshotFileCause where
  | unreadable (fault : FileFault)
  | notJson
  deriving DecidableEq, Repr

/-- Why a command failed. -/
inductive CommandFault where
  | root (fault : RootFault)
  | settings (missing : MissingSettings)
  | snapshotFile (path : String) (cause : SnapshotFileCause)
  | badSnapshot (fault : SnapshotFault)
  | fetch (fault : RestStore.Fault)
  | operations (failed : Nat)
  deriving DecidableEq, Repr

namespace CommandFault

def headline : CommandFault → String
  | root f => f.message
  | settings m => m.message
  | snapshotFile path (.unreadable _) => "Failed to read snapshot file: " ++ path
  | snapshotFile path .notJson => "Failed to parse snapshot file: " ++ path
  | badSnapshot f => f.message
  | fetch f => snapshotFaultMessage f.message
  | operations failed => toString failed ++ " operation(s) failed"

def cause? : CommandFault → Option String
  | snapshotFile _ (.unreadable f) => some f.message
  | _ => none

end CommandFault

/-- Headline and cause on one line. -/
def faultText (headline : String) (cause : Option String) : String :=
  headline ++ match cause with
    | some c => ": " ++ c
    | none => ""

/-- What a command did. -/
structure CommandRun (σ : Type) where
  printed : Transcript
  fault : Option CommandFault
  /-- The conversation with the server. -/
  conversation : RestStore.State σ

/-- What every command works with. -/
structure Workspace (σ : Type) where
  files : FileTree
  config : Config
  progress : ProgressMode
  server : HttpServer σ
  /-- The ids that are proposed for new collections. -/
  ids : Nat → String
  clock : Clock

namespace Workspace

variable {σ : Type}

def prepare (w : Workspace σ) (root : String) : Except RootFault Prepared :=
  DeclaredSchema.prepare w.files w.config.scan .never root

def told (w : Workspace σ) (events : List ProgressEvent) : Transcript :=
  Report.progress w.progress events

/-- The store that the settings lead to, if none is missing. -/
def store (w : Workspace σ) :
    Except MissingSettings (SchemaStore (RestStore.State σ) RestStore.Fault) :=
  w.config.store.credentials.map (RestStore.store w.server w.ids)

/-- Fetches what the store holds. -/
def fetch (w : Workspace σ) (s : RestStore.State σ) :
    Except CommandFault Snapshot × RestStore.State σ :=
  match w.store with
  | .error m => (.error (.settings m), s)
  | .ok store => match store.list s with
    | (.ok snapshot, s) => (.ok snapshot, s)
    | (.error e, s) => (.error (.fetch e), s)

/-- Reads a list of collections from a file. -/
def readSnapshot (w : Workspace σ) (path : String) : Except CommandFault Snapshot := do
  let text ← (w.files.readText path).mapError fun e => .snapshotFile path (.unreadable e)
  match Json.ofText? text with
  | some j => (Snapshot.ofJson j).mapError .badSnapshot
  | none => .error (.snapshotFile path .notJson)

def runScan (w : Workspace σ) (json : Bool) (root : String) (s : RestStore.State σ) :
    CommandRun σ :=
  match w.prepare root with
  | .error e => ⟨{}, some (.root e), s⟩
  | .ok p =>
    ⟨w.told p.events ++ if json then Report.scanAsJson p else Report.scan root p, none, s⟩

def runPlan (w : Workspace σ) (mode : PlanMode) (snapshotFile : Option String) (root : String)
    (s : RestStore.State σ) : CommandRun σ :=
  match w.prepare root with
  | .error e => ⟨{}, some (.root e), s⟩
  | .ok p =>
    let (snapshot, s) := match snapshotFile with
      | some path => (w.readSnapshot path, s)
      | none => w.fetch s
    match snapshot with
    | .error e => ⟨w.told p.events, some e, s⟩
    | .ok snapshot =>
      ⟨w.told p.events ++ Report.plan root mode p (plan p.collections snapshot mode), none, s⟩

/-- What is said of a plan that has been carried out, and whether the command has failed. -/
def carriedOut {τ ε : Type} (w : Workspace σ) (header : Transcript) (p : Prepared) (pl : Plan)
    (message : ε → String) (run : Apply.State τ ε) : Transcript × Option CommandFault :=
  let printed := w.told p.events ++ header ++ w.told run.announced ++ Report.scanned p ++
    Report.applied message pl run.report
  if run.report.isClean then (printed ++ Report.done, none)
  else (printed, some (.operations run.report.failures.length))

def runApply (w : Workspace σ) (mode : PlanMode) (dryRun : Bool) (root : String)
    (s : RestStore.State σ) : CommandRun σ :=
  match w.prepare root with
  | .error e => ⟨{}, some (.root e), s⟩
  | .ok p => match w.store with
    | .error m => ⟨w.told p.events, some (.settings m), s⟩
    | .ok store => match store.list s with
      | (.error e, s) => ⟨w.told p.events, some (.fetch e), s⟩
      | (.ok snapshot, s) =>
        let pl := plan p.collections snapshot mode
        let header := Report.applyHeader root mode dryRun
        if dryRun then
          let run := apply MemoryStore.store pl.operations w.clock (.ofSnapshot snapshot)
          let (printed, fault) := w.carriedOut header p pl MemoryStore.Fault.message run
          ⟨printed, fault, s⟩
        else
          let run := apply store pl.operations w.clock s
          let (printed, fault) := w.carriedOut header p pl RestStore.Fault.message run
          ⟨printed, fault, run.store⟩

/-- Runs a command on a root. -/
def run (w : Workspace σ) (command : Command) (root : String) (s : RestStore.State σ) :
    CommandRun σ :=
  match command with
  | .scan json => w.runScan json root s
  | .plan update snapshotFile => w.runPlan (if update then .update else .createOnly) snapshotFile root s
  | .create dryRun => w.runApply .createOnly dryRun root s
  | .update dryRun =>
    let r := w.runApply .update dryRun root s
    { r with printed := Report.updateNote ++ r.printed }

end Workspace

end DeclaredSchema
