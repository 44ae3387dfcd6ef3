import DeclaredSchema.Declaration.Files
import DeclaredSchema.Store.Settings
import DeclaredSchema.Toml.Reader

/-!
# Configuration

Settings come from a TOML file, which may be missing, and from environment variables, which win over
the file unless they are empty. Settings that nobody knows are passed over; a setting of the wrong
type makes the file unreadable.
-/

namespace DeclaredSchema

structure Config where
  store : StoreSettings := {}
  scan : ScanSettings := {}
  deriving DecidableEq, Repr

inductive ConfigFault where
  | unreadable (path : String) (fault : FileFault)
  | malformed
  | zeroTimeout
  | noIncludeGlobs
  | badGlob (setting : String) (fault : GlobFault)
  deriving DecidableEq, Repr

namespace ConfigFault

def headline : ConfigFault → String
  | unreadable path _ => "Failed to read config file: " ++ path
  | malformed => "Failed to parse config file"
  | zeroTimeout => "store.timeout_secs must be > 0"
  | noIncludeGlobs => "scan.include_globs must not be empty"
  | badGlob setting f => "invalid glob in " ++ setting ++ ": " ++ f.pattern

def cause? : ConfigFault → Option String
  | unreadable _ f => some f.message
  | badGlob _ f => some f.message
  | _ => none

end ConfigFault

namespace Config

/-! ## Settings from a document -/

/-- The settings of a section. They can also be listed in their order, without names, and a date is
a section without settings. -/
def sectionFields? (order : List String) : Toml → Option (List (String × Toml))
  | .table _ fields => some fields
  | .arr items => some (order.zip items)
  | .tables items => some (order.zip items)
  | .dateTime => some []
  | _ => none

/-- The fields of a section that may be missing. -/
def sectionOf? (root : List (String × Toml)) (name : String) (order : List String) :
    Option (List (String × Toml)) :=
  match root.lookup name with
  | some v => sectionFields? order v
  | none => some []

/-- A setting that may be missing. -/
def setting? {α : Type} (fields : List (String × Toml)) (name : String) (read : Toml → Option α)
    (whenMissing : α) : Option α :=
  match fields.lookup name with
  | some v => read v
  | none => some whenMissing

def text? : Toml → Option (Option String)
  | .str s => some (some s)
  | _ => none

def flag? : Toml → Option Bool
  | .bool b => some b
  | _ => none

def count? : Toml → Option Nat
  | .int n => if 0 ≤ n then some n.toNat else none
  | _ => none

def texts? : Toml → Option (List String)
  | .arr items => items.mapM fun v => match v with
    | .str s => some s
    | _ => none
  | _ => none

def storeOrder : List String := ["endpoint", "project_id", "database_id", "api_key", "timeout_secs"]

def storeOf? (fields : List (String × Toml)) : Option StoreSettings := do
  some {
    endpoint := ← setting? fields "endpoint" text? none
    projectId := ← setting? fields "project_id" text? none
    databaseId := ← setting? fields "database_id" text? none
    apiKey := ← setting? fields "api_key" text? none
    timeoutSecs := ← setting? fields "timeout_secs" count? ({} : StoreSettings).timeoutSecs }

def scanOrder : List String := ["include_globs", "exclude_globs", "follow_symlinks"]

def scanOf? (fields : List (String × Toml)) : Option ScanSettings := do
  some {
    includeGlobs := ← setting? fields "include_globs" texts? ({} : ScanSettings).includeGlobs
    excludeGlobs := ← setting? fields "exclude_globs" texts? []
    followLinks := ← setting? fields "follow_symlinks" flag? false }

def ofToml? : Toml → Option Config
  | .table _ root => do
    some {
      store := ← storeOf? (← sectionOf? root "store" storeOrder)
      scan := ← scanOf? (← sectionOf? root "scan" scanOrder) }
  | _ => none

/-! ## Loading -/

/-- The environment: the value of a variable that is set. -/
abbrev Environment := String → Option String

/-- The value of a variable that is set and not empty. -/
def stated? (env : Environment) (name : String) : Option String :=
  (env name).filter (!·.isEmpty)

def applyEnvironment (env : Environment) (s : StoreSettings) : StoreSettings :=
  { s with
    endpoint := (stated? env "API_ENDPOINT").or s.endpoint
    projectId := (stated? env "PROJECT_ID").or s.projectId
    databaseId := (stated? env "DATABASE_ID").or s.databaseId
    apiKey := (stated? env "API_KEY").or s.apiKey }

def checkGlobs (setting : String) (patterns : List String) : Except ConfigFault Unit := do
  let _ ← (readGlobs patterns).mapError (.badGlob setting)

/-- Turns down settings that no run could use. -/
def check (c : Config) : Except ConfigFault Unit := do
  if c.store.timeoutSecs = 0 then .error .zeroTimeout
  if c.scan.includeGlobs.isEmpty then .error .noIncludeGlobs
  checkGlobs "scan.include_globs" c.scan.includeGlobs
  checkGlobs "scan.exclude_globs" c.scan.excludeGlobs

/-- The configuration that a file states; the standard one if there is no such file. -/
def read (t : FileTree) (path : String) : Except ConfigFault Config := do
  if t.pathExists path then
    let text ← (t.readText path).mapError (.unreadable path)
    match (Toml.ofText? text).bind ofToml? with
    | some c => .ok c
    | none => .error .malformed
  else .ok {}

def load (t : FileTree) (path : String) (env : Environment) : Except ConfigFault Config := do
  let c ← read t path
  let c := { c with store := applyEnvironment env c.store }
  check c
  .ok c

end Config

end DeclaredSchema
