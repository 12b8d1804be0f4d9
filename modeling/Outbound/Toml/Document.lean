import Outbound.Toml.Value

/-!
# TOML documents

A text is a list of statements, one a line: headers and keys with values. They are carried out one
after the other on a tree of tables, each key in the table of the last header.

## Main definitions

* `Toml.Statement`: a header or a key with its value
* `Toml.statements?`: the statements of a text
* `Toml.parse?`: the value of a text, none when it is ill-formed
-/

namespace Outbound.Toml

/-- **A statement.** -/
inductive Statement
  /-- The header of a table. -/
  | table (path : List String) (key : String)
  /-- The header of an element of a list of tables. -/
  | element (path : List String) (key : String)
  | assign (path : List String) (key : String) (value : Json)

/-- The key of a header behind its opening brackets, and what follows its closing ones. -/
def header? (close : List Char → Option (List Char)) (cs : List Char) :
    Option ((List String × String) × List Char) := do
  let (key, rest) ← keyPath? depthLimit cs
  some (key, ← close rest)

/-- A statement, up to the end of its line. -/
def statement? : List Char → Option (Statement × List Char)
  | '[' :: '[' :: rest => do
    let ((path, key), rest) ← header? (fun cs => past? ']' cs >>= past? ']') rest
    some (.element path key, rest)
  | '[' :: rest => do
    let ((path, key), rest) ← header? (past? ']') rest
    some (.table path key, rest)
  | cs => do
    let ((path, key), v, rest) ← pair? (value? depthLimit) cs
    some (.assign path key v, rest)

/-- **The statements of a text,** of which there are at most so many lines. -/
def statements? : Nat → List Char → Option (List Statement)
  | 0, _ => none
  | lines + 1, cs =>
    match skipBlanks cs with
    | [] => some []
    | cs =>
      match lineEnd? cs with
      | some rest => statements? lines rest
      | none => do
        let (s, rest) ← statement? cs
        return s :: (← statements? lines (← lineEnd? rest))

/-- A tree, and the path to the table of the last header. -/
structure Draft where
  /-- The tree so far. -/
  root : Node
  /-- The path to the table of the last header. -/
  here : List String

namespace Draft

/-- The empty document. -/
def empty : Draft := ⟨.table .header [], []⟩

/-- A statement is carried out. -/
def apply (d : Draft) : Statement → Option Draft
  | .table path key => (d.root.openTable path key).map (⟨·, path ++ [key]⟩)
  | .element path key => (d.root.openElement path key).map (⟨·, path ++ [key]⟩)
  | .assign path key v =>
    (d.root.alter .passed (Node.assign path key v) d.here).map (⟨·, d.here⟩)

end Draft

/-- A text without the mark of its byte order. -/
def dropMark : List Char → List Char
  | c :: rest => if c.toNat = 0xFEFF then rest else c :: rest
  | [] => []

/-- **The value of a text,** none when the text is ill-formed. -/
def parse? (s : String) : Option Json := do
  let cs := dropMark s.toList
  let statements ← statements? (cs.length + 1) cs
  let d ← statements.foldlM Draft.apply .empty
  some d.root.toJson

end Outbound.Toml
