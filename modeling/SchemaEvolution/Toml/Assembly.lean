import SchemaEvolution.Toml.Value

/-! # Tables out of statements

A TOML document is a list of statements: headers, which open a table or one more table of a list,
and assignments.  A table is written down once: a header may not open a table that a header or an
assignment made, an assignment may not reach into a table that a header made, and no key is
assigned twice.
-/

namespace SchemaEvolution.Toml

/-- How a table came about. -/
inductive Origin
  /-- Opened by a header of its own. -/
  | header
  /-- On the way to the table of a header. -/
  | passed
  /-- On the way to the key of an assignment. -/
  | dotted
deriving Repr, DecidableEq

/-- A table that is being put together. -/
inductive Node
  | value (value : Toml)
  | table (origin : Origin) (entries : List (String × Node))
  /-- A list of tables; the last one is open. -/
  | tables (done : List Toml) (last : List (String × Node))

/-- A line of a document. -/
inductive Statement
  | openTable (path : List String)
  | openItem (path : List String)
  | assign (path : List String) (value : Toml)

abbrev Nodes := List (String × Node)

mutual

/-- The value that a node has come to. -/
def Node.finish : Node → Toml
  | .value v => v
  | .table _ entries => .table (Node.finishAll entries)
  | .tables done last => .array (done ++ [.table (Node.finishAll last)])

/-- The values that nodes have come to. -/
def Node.finishAll : List (String × Node) → Entries
  | [] => []
  | (k, node) :: rest => (k, node.finish) :: Node.finishAll rest

end

namespace Nodes

/-- Change the table at a path.  Tables on the way that are missing are made with the given
    origin.  An assignment may not pass a table that a header opened. -/
def within (made : Origin) (change : Origin → Nodes → Option Nodes) :
    List String → Origin → Nodes → Option Nodes
  | [], origin, nodes => change origin nodes
  | k :: path, _, nodes =>
    match List.lookup k nodes with
    | none => (within made change path made []).map fun inner => put k (.table made inner) nodes
    | some (.value _) => none
    | some (.table origin inner) =>
      if made = .dotted && origin = .header then none
      else (within made change path origin inner).map fun inner =>
        put k (.table origin inner) nodes
    | some (.tables done last) =>
      (within made change path .header last).map fun last => put k (.tables done last) nodes

def assignKey (reached : Bool) (k : String) (value : Toml) (origin : Origin) (nodes : Nodes) :
    Option Nodes :=
  if (reached && origin ≠ .dotted) || (List.lookup k nodes).isSome then none
  else some (put k (.value value) nodes)

/-- Assign the key at the end of a path, from an open table on. -/
def assign (path : List String) (value : Toml) (nodes : Nodes) : Option Nodes :=
  match path.reverse with
  | [] => none
  | k :: front => within .dotted (assignKey (!front.isEmpty) k value) front.reverse .header nodes

/-- Open the table of a header.  A table that was only passed so far moves behind the others. -/
def openTable (k : String) (nodes : Nodes) : Option Nodes :=
  match List.lookup k nodes with
  | none => some (put k (.table .header []) nodes)
  | some (.table .passed inner) =>
    some (nodes.filter (fun entry => entry.1 != k) ++ [(k, .table .header inner)])
  | some _ => none

/-- Open one more table of a list. -/
def openItem (k : String) (nodes : Nodes) : Option Nodes :=
  match List.lookup k nodes with
  | none => some (put k (.tables [] []) nodes)
  | some (.tables done last) =>
    some (put k (.tables (done ++ [.table (Node.finishAll last)]) []) nodes)
  | some _ => none

/-- Open something at the end of a path. -/
def openAt (opening : String → Nodes → Option Nodes) (path : List String) (nodes : Nodes) :
    Option Nodes :=
  match path.reverse with
  | [] => none
  | k :: front => within .passed (fun _ nodes => opening k nodes) front.reverse .header nodes

/-- Carry out statements from the table at `current` on. -/
def run (current : List String) (nodes : Nodes) : List Statement → Option Nodes
  | [] => some nodes
  | .openTable path :: rest => (openAt openTable path nodes).bind (run path · rest)
  | .openItem path :: rest => (openAt openItem path nodes).bind (run path · rest)
  | .assign path value :: rest =>
    (within .passed (fun _ nodes => assign path value nodes) current .header nodes).bind
      (run current · rest)

end Nodes

def ofStatements? (statements : List Statement) : Option Entries :=
  (Nodes.run [] [] statements).map Node.finishAll

end SchemaEvolution.Toml
