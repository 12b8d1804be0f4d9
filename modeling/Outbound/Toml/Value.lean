import Outbound.Toml.Scalar
import Outbound.Toml.Text
import Outbound.Toml.Tree

/-!
# TOML: keys and values

A key of several parts leads to an entry of an inner table. Arrays may span lines and end in a
comma; tables between braces stand on one line and are closed for all that follows. Neither kind may
be nested too deeply, and no key may have too many parts.

## Main definitions

* `Toml.keyPath?`: a key, with the parts that lead to it
* `Toml.value?`: any value
-/

namespace Outbound.Toml

/-- A key of one part. -/
def key? (cs : List Char) : Option (String × List Char) :=
  match shortText? cs with
  | some found => some found
  | none => bareKey? cs

/-- **A key of at most so many parts:** those that lead to it, and the last one. Blanks may stand
around every part. -/
def keyPath? : Nat → List Char → Option ((List String × String) × List Char)
  | 0, _ => none
  | parts + 1, cs => do
    let (key, rest) ← key? (skipBlanks cs)
    match skipBlanks rest with
    | '.' :: rest =>
      let ((path, last), rest) ← keyPath? parts rest
      some ((key :: path, last), rest)
    | rest => some (([], key), rest)

/-- The parts that a key may have, and the levels to which values may be nested. -/
def depthLimit : Nat := 79

/-- A key with its value, behind an equals sign. -/
def pair? (value? : List Char → Option (Json × List Char)) (cs : List Char) :
    Option ((List String × String) × Json × List Char) := do
  let (key, rest) ← keyPath? depthLimit cs
  let (v, rest) ← value? (skipBlanks (← past? '=' rest))
  some (key, v, rest)

/-- The items of an array up to its end, in so many steps at most; those so far come newest first.
-/
def items? (value? : List Char → Option (Json × List Char)) :
    Nat → List Json → List Char → Option (Json × List Char)
  | 0, _, _ => none
  | fuel + 1, acc, cs =>
    match skipFill cs.length cs with
    | ']' :: rest => some (.array acc.reverse, rest)
    | cs => do
      let (v, rest) ← value? cs
      match skipFill rest.length rest with
      | ',' :: rest => items? value? fuel (v :: acc) rest
      | ']' :: rest => some (.array (v :: acc).reverse, rest)
      | _ => none

/-- The pairs of a table between braces up to its end, in so many steps at most. -/
def pairs? (value? : List Char → Option (Json × List Char)) :
    Nat → Node → List Char → Option (Json × List Char)
  | 0, _, _ => none
  | fuel + 1, table, cs => do
    let ((path, key), v, rest) ← pair? value? cs
    let table ← table.assign path key v
    match skipBlanks rest with
    | ',' :: rest => pairs? value? fuel table rest
    | '}' :: rest => some (table.toJson, rest)
    | _ => none

/-- **A value,** with arrays and tables nested to so many levels at most. -/
def value? : Nat → List Char → Option (Json × List Char)
  | 0, '[' :: _ => none
  | 0, '{' :: _ => none
  | levels + 1, '[' :: rest => items? (value? levels) (rest.length + 1) [] rest
  | levels + 1, '{' :: rest =>
    match skipBlanks rest with
    | '}' :: rest => some (.object [], rest)
    | rest => pairs? (value? levels) (rest.length + 1) (.table .header []) rest
  | _, cs => match text? cs with
    | some (s, rest) => some (.text s, rest)
    | none => scalar? cs

end Outbound.Toml
