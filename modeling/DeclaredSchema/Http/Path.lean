import DeclaredSchema.Http.Percent

/-!
# Paths of URLs

A path is made of segments between slashes. Segments of one or two dots are resolved, and what may
not stand in a path is percent-encoded. In paths of files a letter with a colon is a drive, and a
drive is never left.
-/

namespace DeclaredSchema.UrlPath

/-- A backslash is a slash, except under schemes without rules of their own. -/
def isSlash (isSpecial : Bool) (c : Char) : Bool := c = '/' || (isSpecial && c = '\\')

/-- A segment with its encoded dots written out. -/
def plainDots : List Char → List Char
  | '%' :: '2' :: e :: rest =>
    if e = 'e' || e = 'E' then '.' :: plainDots rest else '%' :: '2' :: plainDots (e :: rest)
  | c :: rest => c :: plainDots rest
  | [] => []

/-- A letter and a colon, or a bar in its place. -/
def isDrive : List Char → Bool
  | [c, d] => Text.isAsciiLetter c && (d = ':' || d = '|')
  | _ => false

/-- The segments without the last one, unless that is a drive. The latest comes first. -/
def dropLatest : List (List Char) → List (List Char)
  | [] => []
  | s :: rest => if isDrive s then s :: rest else rest

/-- Resolves dot segments. `done` is what stands before, latest first. -/
def resolveDots (done : List (List Char)) : List (List Char) → List (List Char)
  | [] => done.reverse
  | s :: rest =>
    let close := fun done => if rest.isEmpty then [] :: done else done
    if plainDots s = ['.', '.'] then resolveDots (close (dropLatest done)) rest
    else if plainDots s = ['.'] then resolveDots (close done) rest
    else resolveDots (s :: done) rest

def ofSegments (segments : List (List Char)) : List Char :=
  segments.flatMap fun s => '/' :: Percent.encode Percent.keptInPath s

/-- A path from its text, with or without the slash in front. -/
def ofText (isSpecial : Bool) (cs : List Char) : List Char :=
  let inner := match cs with
    | c :: rest => if isSlash isSpecial c then rest else cs
    | [] => []
  ofSegments (resolveDots [] (inner.splitOnP (isSlash isSpecial)))

/-! ## Files -/

/-- A drive with its colon. -/
def plainDrive (s : List Char) : List Char := if isDrive s then s.take 1 ++ [':'] else s

/-- Empty segments in front do not count, unless there is nothing else. -/
def dropEmpty : List (List Char) → List (List Char)
  | [] :: s :: rest => dropEmpty (s :: rest)
  | segments => segments

def fileSegments (cs : List Char) : List (List Char) := cs.splitOnP (isSlash true)

def ofFile (cs : List Char) : List Char :=
  ofSegments (dropEmpty (resolveDots [] ((fileSegments cs).map plainDrive)))

def hasDrive (cs : List Char) : Bool := (fileSegments cs).any isDrive

end DeclaredSchema.UrlPath
