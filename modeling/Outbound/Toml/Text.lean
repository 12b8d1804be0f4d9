import Outbound.Json.Token
import Outbound.Toml.Lexical

/-!
# TOML: texts

Texts in double quotes have escapes, those in single quotes have none; either kind may span lines
between triple quotes. A line feed at the very beginning of a text that spans lines does not count,
and every other one reads as a single line feed.

## Main definitions

* `Toml.escape?`: an escape behind its backslash
* `Toml.text?`: any of the four kinds of text
-/

namespace Outbound.Toml

/-- The character of a hexadecimal number. -/
def codePoint? (digits : List Char) : Option Char := do
  let ds ← digits.mapM Json.Lexer.hexDigit?
  let n := ds.foldl (fun n d => 16 * n + d) 0
  if n.isValidChar then some (Char.ofNat n) else none

/-- The character that a letter after a backslash stands for. -/
def shortEscape? (c : Char) : Option Char :=
  if c = 'b' then some (Char.ofNat 8)
  else if c = 't' then some '\t'
  else if c = 'n' then some '\n'
  else if c = 'f' then some (Char.ofNat 12)
  else if c = 'r' then some '\r'
  else if c = '"' || c = '\\' then some c
  else none

/-- A text in double quotes, behind the first of them; the characters so far come newest first. -/
def basic? (acc : List Char) : List Char → Option (String × List Char)
  | [] => none
  | '"' :: rest => some (String.ofList acc.reverse, rest)
  | '\\' :: 'u' :: a :: b :: c :: d :: rest => do
    basic? ((← codePoint? [a, b, c, d]) :: acc) rest
  | '\\' :: 'U' :: a :: b :: c :: d :: e :: f :: g :: h :: rest => do
    basic? ((← codePoint? [a, b, c, d, e, f, g, h]) :: acc) rest
  | '\\' :: c :: rest => do basic? ((← shortEscape? c) :: acc) rest
  | c :: rest => if isPlain c then basic? (c :: acc) rest else none

/-- A text in single quotes, behind the first of them. -/
def literal? (acc : List Char) : List Char → Option (String × List Char)
  | [] => none
  | '\'' :: rest => some (String.ofList acc.reverse, rest)
  | c :: rest => if isPlain c then literal? (c :: acc) rest else none

/-- Where a text of several lines stands with respect to a line that is joined to the next one. -/
inductive Joining
  | no
  /-- Behind a backslash that ends its line. -/
  | lineEnds
  /-- Before the first character of the next line that is no blank. -/
  | lineBegins

/-- A text of several lines in double quotes, behind the first three of them. -/
def longBasic? : Joining → List Char → List Char → Option (String × List Char)
  | .lineEnds, acc, ' ' :: rest => longBasic? .lineEnds acc rest
  | .lineEnds, acc, '\t' :: rest => longBasic? .lineEnds acc rest
  | .lineEnds, acc, '\n' :: rest => longBasic? .lineBegins acc rest
  | .lineEnds, acc, '\r' :: '\n' :: rest => longBasic? .lineBegins acc rest
  | .lineEnds, _, _ => none
  | .lineBegins, acc, ' ' :: rest => longBasic? .lineBegins acc rest
  | .lineBegins, acc, '\t' :: rest => longBasic? .lineBegins acc rest
  | .lineBegins, acc, '\n' :: rest => longBasic? .lineBegins acc rest
  | .lineBegins, acc, '\r' :: '\n' :: rest => longBasic? .lineBegins acc rest
  | _, acc, '"' :: '"' :: '"' :: '"' :: '"' :: rest =>
    some (String.ofList ('"' :: '"' :: acc).reverse, rest)
  | _, acc, '"' :: '"' :: '"' :: '"' :: rest => some (String.ofList ('"' :: acc).reverse, rest)
  | _, acc, '"' :: '"' :: '"' :: rest => some (String.ofList acc.reverse, rest)
  | _, acc, '\\' :: 'u' :: a :: b :: c :: d :: rest => do
    longBasic? .no ((← codePoint? [a, b, c, d]) :: acc) rest
  | _, acc, '\\' :: 'U' :: a :: b :: c :: d :: e :: f :: g :: h :: rest => do
    longBasic? .no ((← codePoint? [a, b, c, d, e, f, g, h]) :: acc) rest
  | _, acc, '\\' :: c :: rest =>
    if isBlank c || c == '\n' || c == '\r' then longBasic? .lineEnds acc (c :: rest)
    else do longBasic? .no ((← shortEscape? c) :: acc) rest
  | _, acc, '\r' :: '\n' :: rest => longBasic? .no ('\n' :: acc) rest
  | _, _, [] => none
  | _, acc, c :: rest =>
    if c == '\n' || isPlain c then longBasic? .no (c :: acc) rest else none

/-- A text of several lines in single quotes, behind the first three of them. -/
def longLiteral? (acc : List Char) : List Char → Option (String × List Char)
  | '\'' :: '\'' :: '\'' :: '\'' :: '\'' :: rest =>
    some (String.ofList ('\'' :: '\'' :: acc).reverse, rest)
  | '\'' :: '\'' :: '\'' :: '\'' :: rest => some (String.ofList ('\'' :: acc).reverse, rest)
  | '\'' :: '\'' :: '\'' :: rest => some (String.ofList acc.reverse, rest)
  | '\r' :: '\n' :: rest => longLiteral? ('\n' :: acc) rest
  | [] => none
  | c :: rest => if c == '\n' || isPlain c then longLiteral? (c :: acc) rest else none

/-- The line feed at the very beginning of a text that spans lines. -/
def dropNewline (cs : List Char) : List Char := (newline? cs).getD cs

/-- A text of one line. -/
def shortText? : List Char → Option (String × List Char)
  | '"' :: rest => basic? [] rest
  | '\'' :: rest => literal? [] rest
  | _ => none

/-- **Any of the four kinds of text.** -/
def text? : List Char → Option (String × List Char)
  | '"' :: '"' :: '"' :: rest => longBasic? .no [] (dropNewline rest)
  | '\'' :: '\'' :: '\'' :: rest => longLiteral? [] (dropNewline rest)
  | cs => shortText? cs

end Outbound.Toml
