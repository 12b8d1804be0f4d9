import Outbound.Binary64.Decimal
import Outbound.Pattern.Reader

/-!
# Filters of log events

A filter is a list of directives with commas between them. A directive is a level, or the origin of
the events that it is about, at will with a span and its fields in brackets, at will with a level
behind an equals sign.

A directive is read without the blanks at its ends, but what it names is cut out of its whole text,
at the distances at which it has been found. Such a cut may fall inside a character.

## Main definitions

* `Filter.isLevel`: whether a text is a level
* `Filter.checkDirective`: what is wrong with a directive
* `Filter.fault?`: what is wrong with a filter
-/

namespace Outbound.Filter

/-- **What is wrong with a filter.** -/
inductive Fault
  /-- It has not the form of a filter. -/
  | malformed
  /-- What it names begins or ends inside a character. -/
  | splitCharacter
deriving DecidableEq, Repr, Inhabited

/-- The names of levels, in any case. -/
def levelNames : List String := ["error", "warn", "info", "debug", "trace", "off"]

/-- **Whether a text is a level:** a name, a number up to five, or nothing. -/
def isLevel (cs : List Char) : Bool :=
  let digits := match cs with
    | '+' :: rest => rest
    | cs => cs
  cs.isEmpty || levelNames.contains (String.ofList (cs.map Char.toLower))
    || (!digits.isEmpty && digits.all Char.isDigit && Binary64.digitsValue digits ≤ 5)

/-- Whether a text is a field: a name, at will with a value behind an equals sign, which is a number
or a pattern. What follows a second equals sign does not matter. -/
def isField (cs : List Char) : Bool :=
  !cs.isEmpty && match cs.dropWhile (· != '=') with
    | [] => true
    | _ :: rest =>
      let value := rest.takeWhile (· != '=')
      (Binary64.parse? (String.ofList value)).isSome || Pattern.isUsable value

/-- Where the reading of a directive stands, with the distance in bytes at which what it is reading
begins. -/
inductive State
  | start
  | origin
  | span (first : Nat)
  | field (first : Nat)
  | fieldEnd
  | spanEnd
  | level (first : Nat)
deriving DecidableEq, Repr

/-- What follows so many bytes, none when they end inside a character. -/
def behind? : Nat → List Char → Option (List Char)
  | 0, cs => some cs
  | _, [] => none
  | n, c :: rest => if c.utf8Size ≤ n then behind? (n - c.utf8Size) rest else none

/-- The first so many bytes, none when they end inside a character. -/
def upTo? (n : Nat) (cs : List Char) : Option (List Char) :=
  (behind? n cs).map fun rest => cs.take (cs.length - rest.length)

/-- The part of a text between two distances. -/
def cut (text : List Char) (first last : Nat) : Except Fault (List Char) :=
  match (behind? first text).bind (upTo? (last - first)) with
  | some part => .ok part
  | none => .error .splitCharacter

/-- What follows when a part that need not have any form is cut out. -/
def passed (text : List Char) (first last : Nat) (s : State) : Except Fault State :=
  (cut text first last).map fun _ => s

/-- One more character of a directive, that begins at a distance. -/
def step (text : List Char) (at_ : Nat) (c : Char) : State → Except Fault State
  | .start =>
    if c = '[' then .ok (.span (at_ + 1))
    else if ['-', ':', '_'].contains c || Text.isAlphanumeric c then .ok .origin
    else .error .malformed
  | .origin =>
    if c = '=' then passed text 0 at_ (.level (at_ + 1))
    else if c = '[' then passed text 0 at_ (.span (at_ + 1))
    else .ok .origin
  | .span first =>
    if c = ']' then passed text first at_ .spanEnd
    else if c = '\x7b' then passed text first at_ (.field (at_ + 1))
    else .ok (.span first)
  | .field first =>
    if c = '\x7d' then do
      if isField (← cut text first at_) then return .fieldEnd else throw .malformed
    else .ok (.field first)
  | .fieldEnd => if c = ']' then .ok .spanEnd else .error .malformed
  | .spanEnd => if c = '=' then .ok (.level (at_ + 1)) else .error .malformed
  | .level first => .ok (.level first)

/-- The state after characters, the first of which begins at a distance. -/
def run (text : List Char) : Nat → State → List Char → Except Fault State
  | _, s, [] => .ok s
  | at_, s, c :: rest => (step text at_ c s).bind (run text (at_ + c.utf8Size) · rest)

/-- **What is wrong with a directive,** if anything is. -/
def checkDirective (text : List Char) : Except Fault Unit := do
  match ← run text 0 .start (Text.trimmed text) with
  | .origin | .spanEnd => return
  | .level first => match behind? first text with
    | none => throw .splitCharacter
    | some level => if isLevel level then return else throw .malformed
  | _ => throw .malformed

/-- The parts of a text between commas. -/
def parts (cs : List Char) : List (List Char) :=
  cs.foldr (fun c acc => match c, acc with
    | ',', acc => [] :: acc
    | c, part :: acc => (c :: part) :: acc
    | c, [] => [[c]]) [[]]

/-- **What is wrong with a filter:** the first fault of a part that is not empty. -/
def fault? (s : String) : Option Fault :=
  match ((parts s.toList).filter fun p => !p.isEmpty).forM checkDirective with
  | .ok () => none
  | .error f => some f

/-- Whether a filter has a form that it should not have. -/
def isMalformed (s : String) : Bool := fault? s = some .malformed

/-- Whether a filter names something that begins or ends inside a character. -/
def splitsCharacter (s : String) : Bool := fault? s = some .splitCharacter

end Outbound.Filter
