import Outbound.Json.Basic
import Outbound.Json.Token
import Outbound.Toml.Lexical

/-!
# TOML: numbers, times and truth values

Whole numbers fit into 64 bits with a sign; underscores may stand between digits. Dates and times
are checked for their ranges and kept as their texts.

## Main definitions

* `Toml.number?`: a whole number in one of four bases, or a real one
* `Toml.dateTime?`: a date, a time, or both, at will with an offset
* `Toml.scalar?`: any value that is no text and has no parts
-/

namespace Outbound.Toml

/-- Digits with single underscores between them, and what follows. The underscores are left out. -/
def digitRun (isDigit : Char → Bool) (acc : List Char) : List Char → List Char × List Char
  | '_' :: c :: rest =>
    if !acc.isEmpty && isDigit c then digitRun isDigit (c :: acc) rest
    else (acc.reverse, '_' :: c :: rest)
  | c :: rest =>
    if isDigit c then digitRun isDigit (c :: acc) rest else (acc.reverse, c :: rest)
  | [] => (acc.reverse, [])

def sign : List Char → List Char × List Char
  | '+' :: rest => ([], rest)
  | '-' :: rest => (['-'], rest)
  | cs => ([], cs)

/-- A whole number in decimal digits with its sign, without a zero before another digit. -/
def wholePart? (cs : List Char) : Option (List Char × List Char) :=
  let (s, rest) := sign cs
  match rest with
  | '0' :: rest => some (s ++ ['0'], rest)
  | rest =>
    let (ds, rest) := digitRun Char.isDigit [] rest
    if ds.isEmpty then none else some (s ++ ds, rest)

/-- Digits that follow a point or the mark of an exponent. -/
def digits? (cs : List Char) : Option (List Char × List Char) :=
  let (ds, rest) := digitRun Char.isDigit [] cs
  if ds.isEmpty then none else some (ds, rest)

def exponent? : List Char → Option (List Char × List Char)
  | c :: rest =>
    if c = 'e' || c = 'E' then
      let (s, rest) := sign rest
      (digits? rest).map fun (ds, rest) => ('e' :: (s ++ ds), rest)
    else none
  | [] => none

/-- A point with digits. -/
def fraction? : List Char → Option (List Char × List Char)
  | '.' :: rest => (digits? rest).map fun (ds, rest) => ('.' :: ds, rest)
  | _ => none

/-- A real number of digits; one that rounds to the positive infinity is refused. -/
def decimal? (cs : List Char) : Option (Binary64 × List Char) := do
  let (whole, rest) ← wholePart? cs
  let (tail, rest) ← match exponent? rest with
    | some found => some found
    | none => do
      let (places, rest) ← fraction? rest
      match exponent? rest with
      | some (e, rest) => some (places ++ e, rest)
      | none => some (places, rest)
  let x ← Binary64.parse? (String.ofList (whole ++ tail))
  if x = .infinite false then none else some (x, rest)

/-- An infinity, or what is no number. -/
def special? (cs : List Char) : Option (Binary64 × List Char) :=
  let (s, rest) := sign cs
  match rest with
  | 'i' :: 'n' :: 'f' :: rest => some (.infinite !s.isEmpty, rest)
  | 'n' :: 'a' :: 'n' :: rest => some (.nan, rest)
  | _ => none

/-- Whether a whole number fits into 64 bits with a sign. -/
def fits (n : Int) : Bool := -9223372036854775808 ≤ n && n ≤ 9223372036854775807

/-- A whole number in a base that is a power of two, behind its mark. -/
def based? (base : Nat) (cs : List Char) : Option (Int × List Char) := do
  let isDigit (c : Char) : Bool := (Json.Lexer.hexDigit? c).any (· < base)
  let (ds, rest) := digitRun isDigit [] cs
  if ds.isEmpty then none
  else
    let n := ds.foldl (fun n c => base * n + (Json.Lexer.hexDigit? c).getD 0) 0
    if fits n then some (n, rest) else none

/-- A whole number. -/
def integer? : List Char → Option (Int × List Char)
  | '0' :: 'x' :: rest => based? 16 rest
  | '0' :: 'o' :: rest => based? 8 rest
  | '0' :: 'b' :: rest => based? 2 rest
  | cs => do
    let (ds, rest) ← wholePart? cs
    let n : Int := match ds with
      | '-' :: ds => -(Binary64.digitsValue ds : Int)
      | ds => Binary64.digitsValue ds
    if fits n then some (n, rest) else none

/-- **A number.** -/
def number? (cs : List Char) : Option (Json.Number × List Char) :=
  match decimal? cs with
  | some (x, rest) => some (.real x, rest)
  | none => match special? cs with
    | some (x, rest) => some (.real x, rest)
    | none => (integer? cs).map fun (n, rest) => (.integer n, rest)

/-- A number of so many digits within bounds. -/
def field? (width lo hi : Nat) (cs : List Char) : Option (Nat × List Char) :=
  let ds := cs.take width
  if ds.length = width && ds.all Char.isDigit then
    let n := Binary64.digitsValue ds
    if lo ≤ n && n ≤ hi then some (n, cs.drop width) else none
  else none

/-- Past a character. -/
def past? (c : Char) : List Char → Option (List Char)
  | c' :: rest => if c' = c then some rest else none
  | [] => none

def daysOf (year month : Nat) : Nat :=
  if month = 2 then
    if year % 4 = 0 && (year % 100 != 0 || year % 400 = 0) then 29 else 28
  else if month = 4 || month = 6 || month = 9 || month = 11 then 30 else 31

/-- Past a date. -/
def date? (cs : List Char) : Option (List Char) := do
  let (year, rest) ← field? 4 0 9999 cs
  let (month, rest) ← field? 2 1 12 (← past? '-' rest)
  let (_, rest) ← field? 2 1 (daysOf year month) (← past? '-' rest)
  some rest

/-- Past a time of the day. -/
def time? (cs : List Char) : Option (List Char) := do
  let (_, rest) ← field? 2 0 23 cs
  let (_, rest) ← field? 2 0 59 (← past? ':' rest)
  let (_, rest) ← field? 2 0 60 (← past? ':' rest)
  match rest with
  | '.' :: tail =>
    if (tail.takeWhile Char.isDigit).isEmpty then some rest
    else some (tail.dropWhile Char.isDigit)
  | rest => some rest

/-- Past an offset from the time of the meridian, if there is one. -/
def skipOffset : List Char → List Char
  | 'Z' :: rest => rest
  | 'z' :: rest => rest
  | c :: rest =>
    if c = '+' || c = '-' then
      ((field? 2 0 23 rest).bind fun (_, rest) => (past? ':' rest).bind fun rest =>
        (field? 2 0 59 rest).map Prod.snd).getD (c :: rest)
    else c :: rest
  | [] => []

/-- Past the time behind a date, if there is one. -/
def skipTime : List Char → List Char
  | c :: rest =>
    if c = 'T' || c = 't' || c = ' ' then ((time? rest).map skipOffset).getD (c :: rest)
    else c :: rest
  | [] => []

/-- **A date, a time, or both,** as its text. -/
def dateTime? (cs : List Char) : Option (String × List Char) := do
  let rest ← match date? cs with
    | some rest => some (skipTime rest)
    | none => time? cs
  some (String.ofList (cs.take (cs.length - rest.length)), rest)

/-- The name of the one field of a date or time that is read as an object. -/
def dateTimeField : String := "$__toml_private_datetime"

/-- **Any value that is no text and has no parts.** -/
def scalar? : List Char → Option (Json × List Char)
  | 't' :: 'r' :: 'u' :: 'e' :: rest => some (.bool true, rest)
  | 'f' :: 'a' :: 'l' :: 's' :: 'e' :: rest => some (.bool false, rest)
  | cs => match dateTime? cs with
    | some (s, rest) => some (.object [(dateTimeField, .text s)], rest)
    | none => (number? cs).map fun (n, rest) => (.number n, rest)

end Outbound.Toml
