/-!
# OpStack.FileTree

Files and directories below a working directory, and what the text of a path stands
for there.  Nothing is known of other directories but that those above exist.
-/

namespace OpStack

/-- The names in the text of a path, between slashes. -/
def pathNames (path : String) : List String :=
  go path.toList
where
  /-- The names in the characters. -/
  go : List Char → List String
    | [] => [""]
    | '/' :: cs => "" :: go cs
    | c :: cs =>
      match go cs with
      | [] => [String.singleton c]
      | name :: names => (String.singleton c ++ name) :: names

/-- What a path can stand for. -/
inductive FileNode where
  | file (content : List UInt8)
  | directory
  deriving DecidableEq, Repr

/-- Files and directories by the names on the way to them; the directories on the way
are there as well. -/
abbrev FileTree := List (List String × FileNode)

namespace FileTree

/-- Puts something at the place that a path leads down to. -/
def put (t : FileTree) (path : String) (node : FileNode) : FileTree :=
  t ++ [((pathNames path).filter fun name => name ≠ "" && name ≠ ".", node)]

/-- What stands at the place that the names lead to. -/
def at? (t : FileTree) (names : List String) : Option FileNode :=
  match t.lookup names with
  | some node => some node
  | none =>
    if names = [] || t.any fun e => names.isPrefixOf e.1 then some .directory else none

/-- Where one is while following a path. -/
inductive Place where
  /-- At the place that the names, last first, lead to from the working directory. -/
  | below (names : List String)
  /-- In a directory above. -/
  | above
  deriving DecidableEq, Repr

/-- Follows one name of a path.  Only from a directory one can go on, be it to where
one is already. -/
def follow (t : FileTree) (p : Place) (name : String) : Option Place :=
  match p with
  | .above => if name = "" || name = "." || name = ".." then some .above else none
  | .below names =>
    match t.at? names.reverse with
    | some .directory =>
      if name = "" || name = "." then some p
      else if name = ".." then
        match names with
        | [] => some .above
        | _ :: names => some (.below names)
      else if (t.at? (name :: names).reverse).isSome then some (.below (name :: names))
      else none
    | _ => none

/-- What the text of a path stands for. -/
def find? (t : FileTree) (path : String) : Option FileNode :=
  if path = "" then none
  else do
    let start := if path.toList.head? = some '/' then .above else .below []
    match ← (pathNames path).foldlM t.follow start with
    | .above => some .directory
    | .below names => t.at? names.reverse

/-- The part of a file's name behind the last dot, if something is in front of that. -/
def extension? (path : String) : Option String :=
  let name := (path.toList.reverse.takeWhile (· ≠ '/')).reverse
  let after := (name.reverse.takeWhile (· ≠ '.')).reverse
  if after.length + 1 < name.length then some (String.ofList after) else none

end FileTree

end OpStack
