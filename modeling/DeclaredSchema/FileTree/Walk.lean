import DeclaredSchema.FileTree

/-!
# Files below a directory

A walk finds every file below a directory. Symbolic links are passed over, or else followed unless
they lead to nothing or back to a directory that the walk is in.
-/

namespace DeclaredSchema

namespace FileTree

/-- The files below a place, each as the names that lead to it, at most `depth` directories deep.
`above` are the places of the directories that the walk is in. -/
def filesWithin (t : FileTree) (followLinks : Bool) :
    Nat → List FilePlace → FilePlace → List (List String)
  | 0, _, _ => []
  | depth + 1, above, place =>
    (t.children place).flatMap fun (name, e) =>
      let inside := fun p => (t.filesWithin followLinks depth (p :: above) p).map (name :: ·)
      match e with
      | .file _ => [[name]]
      | .directory => inside (place ++ [name])
      | .link target =>
        if followLinks then match t.follow (maxLinks - 1) (origin place target) (names target) with
          | .ok (p, []) => match t.entry? p with
            | some (.file _) => [[name]]
            | some .directory => if above.contains p then [] else inside p
            | _ => []
          | _ => []
        else []

/-- How deep a walk can go: between two followed links it stays within the depth of the tree, and
no directory is entered through a link twice on one way down. -/
def walkDepth (t : FileTree) : Nat := (t.entries.length + 2) * (t.entries.length + 2)

/-- The files below a directory. -/
def filesBelow (t : FileTree) (followLinks : Bool) (place : FilePlace) : List (List String) :=
  t.filesWithin followLinks t.walkDepth [place] place

/-- A path with names put behind it. -/
def joinNames (path : String) (names : List String) : String :=
  names.foldl (fun p name => if p.endsWith "/" then p ++ name else p ++ "/" ++ name) path

/-- Names in order, the names of a directory before what is longer. -/
def namesLe : List String → List String → Bool
  | [], _ => true
  | _ :: _, [] => false
  | a :: as, b :: bs => if a = b then namesLe as bs else a < b

end FileTree

end DeclaredSchema
