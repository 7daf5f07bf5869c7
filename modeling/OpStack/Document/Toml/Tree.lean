import OpStack.Document.Draft

/-!
# OpStack.Document.Toml.Tree

The tables of a TOML document while it is read.  A table is made by its header, or
on the way to a deeper one; by a header it can be made only once, and dotted names
reach no table that a header made.
-/

namespace OpStack.Document.Toml

/-- What a name stands for. -/
inductive Item where
  | value (d : Draft)
  /-- A table; `implicit` if no header made it, `dotted` if dotted names did. -/
  | table (implicit dotted : Bool) (entries : List (String × Item))
  /-- A list of tables, each made by a header of its own. -/
  | tables (rows : List (List (String × Item)))

/-- The names of a table with what they stand for. -/
abbrev Entries := List (String × Item)

namespace Entries

/-- Puts the item in the place of the one with the name. -/
def replace (es : Entries) (name : String) (i : Item) : Entries :=
  es.map fun e => if e.1 = name then (name, i) else e

/-- The entries without the name. -/
def erase (es : Entries) (name : String) : Entries := es.filter (·.1 ≠ name)

/-- Changes the table at the end of a path; `f` gets to know whether dotted names made
it.  Tables on the way are made as needed, for dotted names if `dotted`; in a list of
tables the last one is meant. -/
def update {α : Type} (dotted : Bool) (f : Bool → Entries → Option (α × Entries))
    (own : Bool) (es : Entries) : List String → Option (α × Entries)
  | [] => f own es
  | name :: path =>
    match es.lookup name with
    | none =>
      (update dotted f dotted [] path).map fun r =>
        (r.1, es ++ [(name, .table true dotted r.2)])
    | some (.value _) => none
    | some (.table implicit own es') =>
      if dotted && !implicit then none
      else (update dotted f own es' path).map fun r =>
        (r.1, es.replace name (.table implicit own r.2))
    | some (.tables rows) =>
      (update dotted f false (rows.getLastD []) path).map fun r =>
        (r.1, es.replace name (.tables (rows.dropLast ++ [r.2])))

/-- Gives a new name, dotted in front, a value. -/
def put (es : Entries) (path : List String) (name : String) (d : Draft) : Option Entries :=
  let f (own : Bool) (es : Entries) : Option (Unit × Entries) :=
    if own = path.isEmpty || (es.lookup name).isSome then none
    else some ((), es ++ [(name, .value d)])
  (update true f false es path).map (·.2)

/-- Takes the table that a header is about out of its place, empty if there is none.
Only a table that was made on the way can be there. -/
def openTable (es : Entries) (path : List String) (name : String) : Option (Entries × Entries) :=
  let f (_ : Bool) (es : Entries) : Option (Entries × Entries) :=
    match es.lookup name with
    | none => some ([], es)
    | some (.table true false inside) => some (inside, es.erase name)
    | _ => none
  update false f false es path

/-- Makes sure that a list of tables has its place. -/
def openRow (es : Entries) (path : List String) (name : String) : Option Entries :=
  let f (_ : Bool) (es : Entries) : Option (Unit × Entries) :=
    match es.lookup name with
    | none => some ((), es ++ [(name, .tables [])])
    | some (.tables _) => some ((), es)
    | _ => none
  (update false f false es path).map (·.2)

/-- Puts a finished table into its place. -/
def closeTable (es : Entries) (path : List String) (name : String) (inside : Entries) :
    Option Entries :=
  let f (_ : Bool) (es : Entries) : Option (Unit × Entries) :=
    some ((), es ++ [(name, .table false false inside)])
  (update false f false es path).map (·.2)

/-- Puts a finished table at the end of its list. -/
def closeRow (es : Entries) (path : List String) (name : String) (inside : Entries) :
    Option Entries :=
  let f (_ : Bool) (es : Entries) : Option (Unit × Entries) :=
    match es.lookup name with
    | some (.tables rows) => some ((), es.replace name (.tables (rows ++ [inside])))
    | _ => none
  (update false f false es path).map (·.2)

end Entries

mutual

/-- The item as a value. -/
def Item.draft : Item → Draft
  | .value d => d
  | .table _ _ entries => .table (Entries.members entries)
  | .tables rows => .list (rowDrafts rows)

/-- The entries as members of a table. -/
def Entries.members : List (String × Item) → List (Draft × Draft)
  | [] => []
  | (name, i) :: rest => (.text name, i.draft) :: Entries.members rest

/-- The tables of a list as values. -/
def rowDrafts : List (List (String × Item)) → List Draft
  | [] => []
  | row :: rest => .table (Entries.members row) :: rowDrafts rest

end

/-- What a header says: the table it is about, and whether that is one more of a list. -/
structure Header where
  path : List String
  name : String
  isRow : Bool

/-- A document while it is read: the tables so far, and the one that names go to, which
is out of its place.  Before the first header names go to the document itself. -/
structure Tree where
  root : Entries := []
  header : Option Header := none
  current : Entries := []

namespace Tree

/-- Puts the current table into its place. -/
def close (t : Tree) : Option Entries :=
  match t.header with
  | none => some t.current
  | some h =>
    if h.isRow then t.root.closeRow h.path h.name t.current
    else t.root.closeTable h.path h.name t.current

/-- Goes on to the table of a header. -/
def goTo (t : Tree) (h : Header) : Option Tree := do
  let root ← t.close
  if h.isRow then
    return ⟨← root.openRow h.path h.name, some h, []⟩
  else
    let (inside, root) ← root.openTable h.path h.name
    return ⟨root, some h, inside⟩

/-- Gives a name of the current table a value. -/
def put (t : Tree) (path : List String) (name : String) (d : Draft) : Option Tree := do
  return { t with current := ← t.current.put path name d }

/-- The whole document. -/
def draft? (t : Tree) : Option Draft := t.close.map fun es => .table (Entries.members es)

end Tree

end OpStack.Document.Toml
