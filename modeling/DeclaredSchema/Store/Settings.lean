/-!
# Settings of a store

What is needed to reach a store. Any setting may be missing until the store is really used.
-/

namespace DeclaredSchema

/-- How to reach the store. -/
structure StoreSettings where
  endpoint : Option String := none
  projectId : Option String := none
  databaseId : Option String := none
  apiKey : Option String := none
  timeoutSecs : Nat := 30
  deriving DecidableEq, Repr

/-- Store settings with nothing missing. -/
structure Credentials where
  endpoint : String
  projectId : String
  databaseId : String
  apiKey : String
  timeoutSecs : Nat
  deriving DecidableEq, Repr

/-- The settings that are missing, each with the variable that can state it. -/
structure MissingSettings where
  settings : List (String × String)
  deriving DecidableEq, Repr

def MissingSettings.message (m : MissingSettings) : String :=
  "missing store settings: " ++
    ", ".intercalate (m.settings.map fun (setting, name) => setting ++ " (or $" ++ name ++ ")")

namespace StoreSettings

/-- Whether a setting is missing; an empty text counts for nothing. -/
def isMissing (value : Option String) : Bool := (value.getD "").isEmpty

def missing (s : StoreSettings) : List (String × String) :=
  ([("store.endpoint", "API_ENDPOINT", s.endpoint), ("store.project_id", "PROJECT_ID", s.projectId),
    ("store.database_id", "DATABASE_ID", s.databaseId), ("store.api_key", "API_KEY", s.apiKey)].filter
      fun (_, _, value) => isMissing value).map fun (setting, name, _) => (setting, name)

def credentials (s : StoreSettings) : Except MissingSettings Credentials :=
  match s.missing with
  | [] => .ok {
      endpoint := s.endpoint.getD ""
      projectId := s.projectId.getD ""
      databaseId := s.databaseId.getD ""
      apiKey := s.apiKey.getD ""
      timeoutSecs := s.timeoutSecs }
  | missing => .error ⟨missing⟩

end StoreSettings

end DeclaredSchema
