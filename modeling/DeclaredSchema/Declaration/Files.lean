import DeclaredSchema.Declaration.Scan
import DeclaredSchema.FileTree.Walk
import DeclaredSchema.Glob
import DeclaredSchema.Progress

/-!
# Declarations in files

A scan starts from a file or a directory. Of a directory it takes the files that match a pattern to
include and none to exclude, in the order of their paths. Each file gives its classes or one fault
and stands for itself. A scan can be called off between two files.
-/

namespace DeclaredSchema

/-- Which files below a directory are scanned. -/
structure ScanSettings where
  includeGlobs : List String := ["**/*.py"]
  excludeGlobs : List String := []
  followLinks : Bool := false
  deriving DecidableEq, Repr

namespace ScanSettings

/-- Directories that are never scanned. -/
def standardExcludes : List String :=
  ["**/.git/**", "**/target/**", "**/node_modules/**", "**/__pycache__/**", "**/.venv/**",
    "**/venv/**"]

end ScanSettings

/-! ## The files of a scan -/

inductive RootCause where
  | unreadable (fault : FileFault)
  | badGlob (fault : GlobFault)
  deriving DecidableEq, Repr

/-- A scan that cannot start. -/
structure RootFault where
  root : String
  cause : RootCause
  deriving DecidableEq, Repr

def RootCause.message : RootCause → String
  | unreadable f => f.message
  | badGlob f => f.message

def RootFault.message (f : RootFault) : String :=
  "cannot read scan root " ++ f.root ++ ": " ++ f.cause.message

/-- The paths of the files below a place that the settings ask for, in order. -/
def selectFiles (t : FileTree) (settings : ScanSettings) (root : String) (place : FilePlace) :
    Except GlobFault (List String) := do
  let included ← readGlobs settings.includeGlobs
  let excluded ← readGlobs (ScanSettings.standardExcludes ++ settings.excludeGlobs)
  let selected := (t.filesBelow settings.followLinks place).filter fun names =>
    let path := "/".intercalate names
    !matchesAny excluded path && matchesAny included path
  .ok ((selected.mergeSort FileTree.namesLe).map (FileTree.joinNames root))

/-- The files of a scan. A root that is a file is scanned whatever its name. -/
def filesOfRoot (t : FileTree) (settings : ScanSettings) (root : String) :
    Except RootFault (List String) :=
  match t.resolve root with
  | .error e => .error ⟨root, .unreadable e⟩
  | .ok (_, .file _) => .ok [root]
  | .ok (place, _) => (selectFiles t settings root place).mapError fun e => ⟨root, .badGlob e⟩

/-! ## Scanning the files -/

inductive SourceCause where
  | unreadable (fault : FileFault)
  | badSyntax (error : Source.SyntaxError)
  deriving DecidableEq, Repr

/-- A file that gives no classes because it cannot be read as source. -/
structure SourceFault where
  path : String
  cause : SourceCause
  deriving DecidableEq, Repr

def SourceCause.message : SourceCause → String
  | unreadable f => f.message
  | badSyntax e => e.text

def SourceFault.message (f : SourceFault) : String :=
  "failed to parse " ++ f.path ++ ": " ++ f.cause.message

def scanFile (t : FileTree) (path : String) : Except SourceFault (List ClassDeclaration) :=
  match t.readText path with
  | .error e => .error ⟨path, .unreadable e⟩
  | .ok text => (scanSource path text).mapError fun e => ⟨path, .badSyntax e⟩

/-- When a scan is called off: before it starts, or while a file of some number is announced. -/
structure Cancellation where
  beforeStart : Bool
  whileAnnouncing : Nat → Bool

namespace Cancellation

def never : Cancellation := ⟨false, fun _ => false⟩

/-- Called off while the `n`-th file is announced, or before the scan if `n` is zero. -/
def atFile (n : Nat) : Cancellation := ⟨n == 0, (· == n)⟩

end Cancellation

structure ScanOutcome where
  classes : List ClassDeclaration := []
  faults : List SourceFault := []
  filesScanned : Nat := 0
  cancelled : Bool := false
  /-- The files that were announced. -/
  events : List ProgressEvent := []
  deriving Repr

namespace ScanOutcome

/-- Puts a file before what the files after it came to. -/
def addFile (event : ProgressEvent) (result : Except SourceFault (List ClassDeclaration))
    (after : ScanOutcome) : ScanOutcome :=
  let counted := { after with
    filesScanned := after.filesScanned + 1
    events := event :: after.events }
  match result with
  | .ok classes => { counted with classes := classes ++ after.classes }
  | .error fault => { counted with faults := fault :: after.faults }

end ScanOutcome

/-- Scans files, the next one being the `number`-th of `total`, unless `stop` has been called. -/
def scanFrom (t : FileTree) (c : Cancellation) (total : Nat) :
    Bool → Nat → List String → ScanOutcome
  | _, _, [] => {}
  | true, _, _ :: _ => { cancelled := true }
  | false, number, path :: rest =>
    (scanFrom t c total (c.whileAnnouncing number) (number + 1) rest).addFile
      (.scanning path number total) (scanFile t path)

def scanFiles (t : FileTree) (c : Cancellation) (files : List String) : ScanOutcome :=
  scanFrom t c files.length c.beforeStart 1 files

def scanTree (t : FileTree) (settings : ScanSettings) (c : Cancellation) (root : String) :
    Except RootFault ScanOutcome := do
  let files ← filesOfRoot t settings root
  .ok (scanFiles t c files)

end DeclaredSchema
