/-!
# File trees

The files that a run can see, as a value: what is at each place, where a place is the list of names
that leads to it from the top. A path is a text; it is followed from the working directory through
symbolic links.
-/

namespace DeclaredSchema

inductive FileEntry where
  | file (bytes : ByteArray)
  | directory
  | link (target : String)

/-- Why a path leads to nothing that can be read. -/
inductive FileFault where
  | missing
  | notDirectory
  | isDirectory
  | nameTooLong
  | tooManyLinks
  | nulByte
  /-- The bytes are not UTF-8. -/
  | notText
  deriving DecidableEq, Repr

def FileFault.message : FileFault → String
  | missing => "No such file or directory (os error 2)"
  | notDirectory => "Not a directory (os error 20)"
  | isDirectory => "Is a directory (os error 21)"
  | nameTooLong => "File name too long (os error 36)"
  | tooManyLinks => "Too many levels of symbolic links (os error 40)"
  | nulByte => "file name contained an unexpected NUL byte"
  | notText => "stream did not contain valid UTF-8"

/-- A place in a tree: the names from the top. -/
abbrev FilePlace := List String

structure FileTree where
  workingDirectory : FilePlace
  entries : List (FilePlace × FileEntry)

namespace FileTree

/-- A tree with nothing in its working directory. -/
def ofWorkingDirectory (place : FilePlace) : FileTree where
  workingDirectory := place
  entries := (List.range place.length).map fun n => (place.take (n + 1), .directory)

/-- What is at a place. The top is a directory. -/
def entry? (t : FileTree) (place : FilePlace) : Option FileEntry :=
  if place.isEmpty then some .directory else t.entries.lookup place

/-- The names in a directory with what is there. -/
def children (t : FileTree) (place : FilePlace) : List (String × FileEntry) :=
  t.entries.filterMap fun (p, e) =>
    if p.dropLast = place then p.getLast?.map fun name => (name, e) else none

/-! ## Following paths -/

/-- The names in a path, with an empty one before each slash that follows another or comes first. -/
def names (path : String) : List String := path.splitOn "/"

def isAbsolute (path : String) : Bool := path.startsWith "/"

/-- Where the names of a path are followed from, if a relative path starts at `place`. -/
def origin (place : FilePlace) (path : String) : FilePlace := if isAbsolute path then [] else place

/-- How long a name can be in bytes. -/
def maxNameLength : Nat := 255

/-- How many links one path may lead through. -/
def maxLinks : Nat := 40

/-- Follows names from a directory through at most `links` links: the place reached, and the names
that are left where nothing is there any more. -/
def follow (t : FileTree) (links : Nat) (place : FilePlace) :
    List String → Except FileFault (FilePlace × List String)
  | [] => .ok (place, [])
  | name :: rest =>
    if name = "" || name = "." then t.follow links place rest
    else if name = ".." then t.follow links place.dropLast rest
    else if name.utf8ByteSize > maxNameLength then .error .nameTooLong
    else match t.entry? (place ++ [name]) with
      | none => .ok (place, name :: rest)
      | some .directory => t.follow links (place ++ [name]) rest
      | some (.file _) => if rest.isEmpty then .ok (place ++ [name], []) else .error .notDirectory
      | some (.link target) => match links with
        | 0 => .error .tooManyLinks
        | links + 1 => t.follow links (origin place target) (names target ++ rest)
  termination_by names => (links, names.length)

/-- The place of a path, and the names beyond it that are not there. -/
def reach (t : FileTree) (path : String) : Except FileFault (FilePlace × List String) :=
  if path.contains '\x00' then .error .nulByte
  else if path.isEmpty then .error .missing
  else t.follow maxLinks (origin t.workingDirectory path) (names path)

/-- The place that a path leads to, with what is there. -/
def resolve (t : FileTree) (path : String) : Except FileFault (FilePlace × FileEntry) := do
  let (place, beyond) ← t.reach path
  if beyond.isEmpty then
    match t.entry? place with
    | some e => .ok (place, e)
    | none => .error .missing
  else .error .missing

/-- Whether a path leads to anything. -/
def pathExists (t : FileTree) (path : String) : Bool :=
  match t.resolve path with
  | .ok _ => true
  | .error _ => false

def readBytes (t : FileTree) (path : String) : Except FileFault ByteArray := do
  match (← t.resolve path).2 with
  | .file bytes => .ok bytes
  | .directory => .error .isDirectory
  | .link _ => .error .missing

def readText (t : FileTree) (path : String) : Except FileFault String := do
  match String.fromUTF8? (← t.readBytes path) with
  | some text => .ok text
  | none => .error .notText

/-! ## Changing a tree -/

/-- Puts an entry at a place, in place of what is there. -/
def setEntry (t : FileTree) (place : FilePlace) (e : FileEntry) : FileTree :=
  { t with entries := t.entries.filter (·.1 ≠ place) ++ [(place, e)] }

/-- Makes directories of the names, one in the other, unless they are there. -/
def makeDirectories (t : FileTree) (place : FilePlace) : List String → FileTree
  | [] => t
  | name :: rest =>
    let inner := place ++ [name]
    let t := if (t.entry? inner).isSome then t else t.setEntry inner .directory
    t.makeDirectories inner rest

/-- Puts an entry where the names lead from a place, with the directories before it. -/
def setBeyond (t : FileTree) (place : FilePlace) (beyond : List String) (e : FileEntry) : FileTree :=
  (t.makeDirectories place beyond.dropLast).setEntry (place ++ beyond) e

/-- Splits a path before its last name. -/
def splitLast (path : String) : String × String :=
  match (names path).reverse with
  | last :: before => ("/".intercalate before.reverse, last)
  | [] => ("", path)

/-- The directory that the last name of a path stands in, with the names to it that are missing. -/
def reachParent (t : FileTree) (path : String) : Except FileFault (FilePlace × List String) :=
  let parent := (splitLast path).1
  if parent.isEmpty then .ok (origin t.workingDirectory path, []) else t.reach parent

/-- Writes a file, through links, and makes the directories to it. Nothing changes if the path
cannot be followed. -/
def writeFile (t : FileTree) (path : String) (bytes : ByteArray) : FileTree :=
  match t.reach path with
  | .ok (place, beyond) => t.setBeyond place beyond (.file bytes)
  | .error _ => t

def makeDirectory (t : FileTree) (path : String) : FileTree :=
  match t.reach path with
  | .ok (place, beyond) => t.makeDirectories place beyond
  | .error _ => t

/-- Makes a link, and the directories to it. -/
def makeLink (t : FileTree) (path target : String) : FileTree :=
  match t.reachParent path with
  | .ok (place, beyond) => t.setBeyond place (beyond ++ [(splitLast path).2]) (.link target)
  | .error _ => t

/-- Removes what the last name of a path stands for, a link and not what it leads to. -/
def remove (t : FileTree) (path : String) : FileTree :=
  match t.reachParent path with
  | .ok (place, []) => { t with entries := t.entries.filter (·.1 ≠ place ++ [(splitLast path).2]) }
  | _ => t

end FileTree

end DeclaredSchema
