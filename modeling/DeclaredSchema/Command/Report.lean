import DeclaredSchema.Schema.Description
import DeclaredSchema.Sync
import DeclaredSchema.Transcript

/-!
# Reports of commands

What the commands print about a scan, a plan and a run.
-/

namespace DeclaredSchema.Report

def progress (mode : ProgressMode) (events : List ProgressEvent) : Transcript :=
  { err := String.join (events.map (·.text mode)) }

/-- How much a scan found, with what it left out on the error channel. -/
def scanned (p : Prepared) : Transcript :=
  .lines ["  files scanned: " ++ toString p.filesScanned,
    "  classes found: " ++ toString p.collections.length,
    "  attributes found: " ++ toString (p.collections.flatMap (·.attributes)).length] ++
  .lines (if p.faults.isEmpty then [] else ["  files skipped: " ++ toString p.faults.length]) ++
  .notes ((p.faults.map (·.message) ++ p.warnings.map (·.message)).map ("  warning: " ++ ·))

/-- What an attribute is, besides its kind. -/
def attributeFlags (a : Attribute) : List String :=
  (if a.required then ["required"] else []) ++ (if a.optional then ["optional"] else []) ++
    a.constraints.toList.map fun (c, l) => c.name ++ "=" ++ l.display

def attributeLine (a : Attribute) : String :=
  let flags := attributeFlags a
  "    " ++ a.key ++ ": " ++ a.kind.name ++
    if flags.isEmpty then "" else " [" ++ ", ".intercalate flags ++ "]"

def collectionLines (c : Collection) : List String :=
  ("  " ++ c.name ++ " (" ++ c.source ++ ")") :: c.attributes.map attributeLine

def done : Transcript := .line "ok"

def scan (root : String) (p : Prepared) : Transcript :=
  .line ("scan " ++ root) ++ scanned p ++ .lines (p.collections.flatMap collectionLines) ++ done

def scanAsJson (p : Prepared) : Transcript :=
  .line (Json.arr (p.collections.map Collection.toJson)).pretty

def operationLine (op : Operation) : String :=
  "  " ++ (if op.updatesAttribute then "~" else "+") ++ " " ++ op.text

def plan (root : String) (mode : PlanMode) (p : Prepared) (pl : Plan) : Transcript :=
  .line ("plan " ++ root ++ " (" ++ mode.label ++ ")") ++ scanned p ++
  .lines (pl.operations.map operationLine ++ pl.skipped.map ("  - skip " ++ ·.text) ++
    ["  collections to create: " ++ toString pl.collectionsToCreate,
      "  attributes to create: " ++ toString pl.attributesToCreate,
      "  attributes to update: " ++ toString pl.attributesToUpdate]) ++
  done

/-- The name of the command that carries plans out. -/
def commandName : PlanMode → String
  | .createOnly => "create"
  | .update => "update"

def applyHeader (root : String) (mode : PlanMode) (dryRun : Bool) : Transcript :=
  .line (commandName mode ++ " " ++ root ++ if dryRun then " (dry-run)" else "")

/-- What carrying out a plan came to. -/
def applied {ε : Type} (message : ε → String) (pl : Plan) (r : ApplyReport ε) : Transcript :=
  .lines ["  collections created: " ++ toString r.collectionsCreated,
    "  attributes created: " ++ toString r.attributesCreated,
    "  attributes updated: " ++ toString r.attributesUpdated,
    "  skipped: " ++ toString (pl.skipped.length + r.skipped.length)] ++
  .notes ((pl.skipped.map (·.text) ++ r.skipped.map ApplyReport.skippedText).map ("  skip " ++ ·)) ++
  .notes (r.failures.map fun f => "  error: " ++ ApplyReport.failureText message f)

/-- What is said before an update. -/
def updateNote : Transcript :=
  .note "note: update merges field by field; settings you omit keep their current remote value"

end DeclaredSchema.Report
