import Outbound.Net.Url.Basic

/-!
# Paths of locations

A path is read segment by segment behind the text that stands before it. A single point stands for
the segment where it is, two points for the one above. The letter of a drive is never left: it is
a segment of one letter with a colon, for which a bar will do where a path of a file begins.

A path that grows is given by its characters, the last one first.

## Main definitions

* `Url.pop`: a path up to its last slash
* `Url.addSegment`: a path with one more segment
* `Url.readPath`: the path of a text
-/

namespace Outbound.Url

/-- Whether a character is a slash, also of the other kind. -/
def isSlash (c : Char) : Bool := c == '/' || c == '\\'

/-- Whether a character ends a segment or a host. -/
def endsHost (special : Bool) (c : Char) : Bool :=
  c == '/' || c == '?' || c == '#' || (special && c == '\\')

/-- Whether a segment is the letter of a drive, with a colon or a bar. -/
def isDrive (segment : List Char) : Bool :=
  match segment with
  | [c, mark] => c.isAlpha && (mark == ':' || mark == '|')
  | _ => false

/-- Whether a segment is the letter of a drive with a colon. -/
def isPlainDrive (segment : List Char) : Bool :=
  isDrive segment && segment.getLast? = some ':'

/-- Whether a text begins with the letter of a drive as a whole segment. -/
def startsWithDrive (cs : List Char) : Bool :=
  isDrive (cs.take 2) && (cs.drop 2).head?.all (endsHost true)

/-- Whether a segment stands for the one where it is. -/
def isHere (segment : List Char) : Bool :=
  [".", "%2e"].contains (String.ofList (segment.map Char.toLower))

/-- Whether a segment stands for the one above. -/
def isAbove (segment : List Char) : Bool :=
  ["..", ".%2e", "%2e.", "%2e%2e"].contains (String.ofList (segment.map Char.toLower))

/-- **A path that grows.** -/
structure Trail where
  /-- The characters, the last one first. -/
  chars : List Char
  /-- Whether the path of a file has been found to begin with the letter of a drive. -/
  drive : Bool
deriving DecidableEq, Repr, Inhabited

namespace Trail

/-- The path of a text. -/
def ofText (s : String) : Trail := ⟨s.toList.reverse, false⟩

/-- The text of a path. -/
def text (t : Trail) : String := String.ofList t.chars.reverse

/-- Whether a path ends in a slash. -/
def endsInSlash (t : Trail) : Bool := t.chars.head? = some '/'

/-- The characters behind the last slash. -/
def lastSegment (t : Trail) : List Char := (t.chars.takeWhile (· != '/')).reverse

/-- Whether a path is the letter of a drive behind a slash. -/
def isDriveOnly (t : Trail) : Bool :=
  match t.chars with
  | [mark, letter, '/'] => isPlainDrive [letter, mark]
  | _ => false

/-- A path up to its last slash; the letter of a drive is not left. -/
def pop (isFile : Bool) (t : Trail) : Trail :=
  if isFile && isPlainDrive t.lastSegment then t
  else { t with chars := t.chars.dropWhile (· != '/') }

/-- A path that ends in a slash. -/
def slashed (t : Trail) : Trail :=
  if t.endsInSlash then t else { t with chars := '/' :: t.chars }

theorem endsInSlash_slashed (t : Trail) : t.slashed.endsInSlash = true := by
  unfold slashed
  split
  · assumption
  · rfl

/-- A path without the slash at its end, unless it is the only one or stands behind the letter of a
drive. -/
def unslashed (t : Trail) : Trail :=
  match t.chars with
  | '/' :: rest =>
    let last := { t with chars := rest }.lastSegment
    if rest.contains '/' && !startsWithDrive (last ++ ['/']) then { t with chars := rest } else t
  | _ => t

/-- **A path with one more segment,** that ends in a slash or ends the path. -/
def add (isFile slash : Bool) (t : Trail) (segment : List Char) : Trail :=
  let t := if isFile && t.isDriveOnly && !segment.isEmpty then t.slashed else t
  let written := Percent.encode Percent.path segment
  let close (t : Trail) : Trail := if slash then { t with chars := '/' :: t.chars } else t
  if isAbove written then
    let above := t.unslashed.pop isFile
    if slash then above.slashed else above
  else if isHere written then t.slashed
  else if isFile && t.chars = ['/'] && isDrive written then
    close ⟨':' :: written.headD 'a' :: t.chars, true⟩
  else close { t with chars := written.reverse ++ t.chars }

end Trail

/-- The segments of a text. -/
def segments (special : Bool) (cs : List Char) : List (List Char) :=
  cs.foldr (fun c acc => match acc with
    | [] => [[c]]
    | segment :: rest =>
      if c = '/' || (special && c = '\\') then [] :: segment :: rest
      else (c :: segment) :: rest) [[]]

/-- Whether a character ends a path. -/
def endsPath (c : Char) : Bool := c == '?' || c == '#'

/-- **The path of a text behind another one,** whether it begins with the letter of a drive, and
what follows it. The path of a file begins with one slash. -/
def readPath (scheme before : String) (cs : List Char) : String × Bool × List Char :=
  let isFile := scheme = fileScheme
  let list := segments (isSpecial scheme) (cs.takeWhile fun c => !endsPath c)
  let start := list.dropLast.foldl (Trail.add isFile true) (.ofText before)
  let t := start.add isFile false (list.getLastD [])
  let t := if isFile then { t with chars := ('/' :: t.chars.reverse.dropWhile (· == '/')).reverse }
    else t
  (t.text, t.drive, cs.dropWhile fun c => !endsPath c)

end Outbound.Url
