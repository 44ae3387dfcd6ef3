import DeclaredSchema.Apply
import DeclaredSchema.Declaration.Build
import DeclaredSchema.Declaration.Files
import DeclaredSchema.Plan.Diff

/-!
# Bringing a store up to date

Scan, build, fetch what the store holds, plan, carry out. What is wrong with a file or a declaration
is reported and left out; a root that cannot be scanned and a store that cannot be listed stop
everything before the first change.
-/

namespace DeclaredSchema

/-- The collections that a root declares, with everything that was left out. -/
structure Prepared where
  collections : List Collection
  filesScanned : Nat
  faults : List SourceFault
  warnings : List BuildWarning
  cancelled : Bool
  events : List ProgressEvent
  deriving Repr

def prepare (t : FileTree) (settings : ScanSettings) (c : Cancellation) (root : String) :
    Except RootFault Prepared := do
  let scanned ← scanTree t settings c root
  let built := buildCollections scanned.classes
  .ok {
    collections := built.collections
    filesScanned := scanned.filesScanned
    faults := scanned.faults
    warnings := built.warnings
    cancelled := scanned.cancelled
    events := scanned.events }

/-- Why nothing could be brought up to date. -/
inductive SyncFault (ε : Type) where
  | root (fault : RootFault)
  | snapshot (error : ε)
  deriving Repr

def snapshotFaultMessage (message : String) : String :=
  "failed to fetch schema snapshot: " ++ message

def SyncFault.message {ε : Type} (text : ε → String) : SyncFault ε → String
  | root f => f.message
  | snapshot e => snapshotFaultMessage (text e)

structure SyncReport (σ ε : Type) where
  prepared : Prepared
  plan : Plan
  run : Apply.State σ ε

/-- Brings a store up to date with what a root declares. -/
def sync {σ ε : Type} (t : FileTree) (settings : ScanSettings) (root : String)
    (store : SchemaStore σ ε) (mode : PlanMode) (clock : Clock) (s : σ) :
    Except (SyncFault ε) (SyncReport σ ε) × σ :=
  match prepare t settings .never root with
  | .error e => (.error (.root e), s)
  | .ok prepared => match store.list s with
    | (.error e, s) => (.error (.snapshot e), s)
    | (.ok snapshot, s) =>
      let p := plan prepared.collections snapshot mode
      let run := apply store p.operations clock s
      (.ok ⟨prepared, p, run⟩, run.store)

end DeclaredSchema
