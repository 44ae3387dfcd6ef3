import DeclaredSchema.CommandLine

/-!
# The program

Files are read before the run: the ones that the arguments name, and those whose paths standard input
lists, one a line, for a root that is a directory. No server is reached from here.
-/

namespace DeclaredSchema

/-- A server that never answers. -/
def silentServer : HttpServer Unit where
  answer _ _ := (none, ())

/-- A number in 32 hexadecimal digits. -/
def countedId (n : Nat) : String :=
  let digits := Nat.toDigits 16 n
  String.ofList (List.replicate (32 - digits.length) '0' ++ digits)

/-- The paths that an invocation names. -/
def Invocation.paths (i : Invocation) : List String :=
  i.configPath :: i.root :: match i.command with
    | .plan _ (some file) => [file]
    | _ => []

def environmentNames : List String := ["API_ENDPOINT", "PROJECT_ID", "DATABASE_ID", "API_KEY"]

/-- Adds a file with what it holds, if it can be read. -/
def addFile (t : FileTree) (path : String) : IO FileTree := do
  try
    return t.writeFile path (← IO.FS.readBinFile path)
  catch _ =>
    return t

partial def readLines (input : IO.FS.Stream) (lines : List String) : IO (List String) := do
  let line ← input.getLine
  if line.isEmpty then return lines.reverse
  readLines input ((line.dropEndWhile (· == '\n')).toString :: lines)

def readFiles (i : Invocation) : IO FileTree := do
  let input ← IO.getStdin
  let listed ← if ← input.isTty then pure [] else readLines input []
  let working := (((← IO.getEnv "PWD").getD "").splitOn "/").filter (!·.isEmpty)
  (i.paths ++ listed).foldlM addFile (.ofWorkingDirectory working)

def surroundings (files : FileTree) : IO (Surroundings Unit) := do
  let values ← environmentNames.mapM fun name => do return (name, ← IO.getEnv name)
  return {
    files
    environment := fun name => (values.lookup name).join
    watched := ← (← IO.getStderr).isTty
    server := silentServer
    ids := countedId
    clock := .ticking ⟨0, 0⟩ 0 }

def runFromShell (args : List String) : IO ProgramRun := do
  match Invocation.ofArguments args with
  | .ok i => return i.run (← surroundings (← readFiles i)) ()
  | .error request => return request.run

end DeclaredSchema

def main (args : List String) : IO UInt32 := do
  let r ← DeclaredSchema.runFromShell args
  IO.print r.printed.out
  IO.eprint r.printed.err
  return r.code.toUInt32
