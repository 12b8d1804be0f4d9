import Outbound.Json.Basic

/-!
# TOML: the tree of tables

A document is a tree whose inner nodes are tables. A table may be opened by a header, be made on the
way to another one, or come from the parts of a key, and how it came about decides who may add to
it. A list of tables is open at its last element.

## Main definitions

* `Toml.Node`: a value, a table, or a list of tables
* `Node.alter`: a change at the end of a path
* `Node.assign`, `Node.openTable`, `Node.openElement`: what statements do to the tree
-/

namespace Outbound.Toml

/-- How a table came about. -/
inductive Origin
  /-- By a header of its own. -/
  | header
  /-- On the way to the table of another header. -/
  | passed
  /-- By a key of several parts. -/
  | dotted
deriving DecidableEq, Repr

/-- **A node of the tree.** -/
inductive Node
  | value (value : Json)
  | table (origin : Origin) (entries : List (String × Node))
  /-- A list of tables, of which the last one is open. -/
  | tables (elements : List Node)

namespace Node

/-- The entry of a key changed, or made. -/
def alterEntry (key : String) (f : Option Node → Option Node) :
    List (String × Node) → Option (List (String × Node))
  | [] => (f none).map fun node => [(key, node)]
  | (k, node) :: rest =>
    if k = key then (f (some node)).map fun node => (k, node) :: rest
    else (alterEntry key f rest).map ((k, node) :: ·)

/-- The last element of a list changed. -/
def alterLast (f : Node → Option Node) : List Node → Option (List Node)
  | [] => none
  | [node] => (f node).map ([·])
  | node :: rest => (alterLast f rest).map (node :: ·)

/-- **A change at the end of a path.** Tables that are missing on the way are made, with the given
origin; the parts of a key do not lead through a table that has its own header. -/
def alter (way : Origin) (f : Node → Option Node) : List String → Node → Option Node
  | [], node => f node
  | key :: path, .table origin entries =>
    (alterEntry key (fun
      | none => alter way f path (.table way [])
      | some (.table .header inner) =>
        if way = .dotted then none else alter way f path (.table .header inner)
      | some (.table origin inner) => alter way f path (.table origin inner)
      | some (.tables elements) => (alterLast (alter way f path) elements).map .tables
      | some (.value _) => none) entries).map (.table origin)
  | _ :: _, _ => none

/-- An entry that is not there yet. -/
def add (node : Node) : Option Node → Option Node
  | none => some node
  | some _ => none

/-- **A key of several parts is given a value.** Only tables that come from such keys take part. -/
def assign (path : List String) (key : String) (v : Json) : Node → Option Node :=
  alter .dotted (fun
    | .table origin entries =>
      if (origin = .dotted) = (path = []) then none
      else (alterEntry key (add (.value v)) entries).map (.table origin)
    | _ => none) path

/-- The entry of a key in the table at the end of a path changed, for a header. -/
def open? (path : List String) (key : String) (f : Option Node → Option Node) :
    Node → Option Node :=
  alter .passed (fun
    | .table origin entries => (alterEntry key f entries).map (.table origin)
    | _ => none) path

/-- **A header opens a table** that is new, or was only passed on the way to others. -/
def openTable (path : List String) (key : String) : Node → Option Node :=
  open? path key fun
    | none => some (.table .header [])
    | some (.table .passed entries) => some (.table .header entries)
    | _ => none

/-- **A header adds an element** to a list of tables, which may be new. -/
def openElement (path : List String) (key : String) : Node → Option Node :=
  open? path key fun
    | none => some (.tables [.table .header []])
    | some (.tables elements) => some (.tables (elements ++ [.table .header []]))
    | _ => none

mutual

/-- The value of a tree: tables are objects, lists of tables are arrays. -/
def toJson : Node → Json
  | .value v => v
  | .table _ entries => .object (entriesToJson entries)
  | .tables elements => .array (elementsToJson elements)

/-- The values of the entries of a table. -/
def entriesToJson : List (String × Node) → List (String × Json)
  | [] => []
  | (key, node) :: rest => (key, node.toJson) :: entriesToJson rest

/-- The values of the elements of a list of tables. -/
def elementsToJson : List Node → List Json
  | [] => []
  | node :: rest => node.toJson :: elementsToJson rest

end

end Node

end Outbound.Toml
