import Outbound.Pattern.Basic

/-!
# Patterns with a meaning

A well-formed pattern may still ask for what is not there: properties of characters of all scripts,
the small letters of all scripts, and bytes that are no text.

## Main definitions

* `CharSet.isMeaningful`: whether a set of characters has a meaning
* `Pattern.modesAfter?`: the modes behind a pattern, none when it has no meaning
-/

namespace Outbound

namespace CharSet

mutual

/-- Whether a set has a member at all, or looks as if it had. -/
def hasMember : CharSet → Bool
  | empty => false
  | bracketed _ s => s.hasMember
  | union parts => anyMember parts
  | combined l r => l.hasMember || r.hasMember
  | _ => true

/-- Whether one of some sets has a member. -/
def anyMember : List CharSet → Bool
  | [] => false
  | s :: rest => s.hasMember || anyMember rest

end

mutual

/-- Whether a set asks for the characters of words in all scripts. -/
def asksForWords : CharSet → Bool
  | words _ => true
  | bracketed _ s => s.asksForWords
  | union parts => anyAsksForWords parts
  | combined l r => l.asksForWords || r.asksForWords
  | _ => false

/-- Whether one of some sets asks for the characters of words in all scripts. -/
def anyAsksForWords : List CharSet → Bool
  | [] => false
  | s :: rest => s.asksForWords || anyAsksForWords rest

end

mutual

/-- Whether a set holds the first 128 characters alone. -/
def isAscii : CharSet → Bool
  | empty => true
  | literal l => l.char.toNat < 128
  | range first last => first.char.toNat < 128 && last.char.toNat < 128
  | named negated => !negated
  | words negated => !negated
  | bracketed negated s => !negated && s.isAscii
  | union parts => allAscii parts
  | combined l r => l.isAscii && r.isAscii

/-- Whether some sets hold the first 128 characters alone. -/
def allAscii : List CharSet → Bool
  | [] => true
  | s :: rest => s.isAscii && allAscii rest

end

/-- **Whether a set has a meaning.** Of all scripts, neither the characters of words are known nor
which letters belong together; sets of bytes must hold the first 128 characters alone. -/
def isMeaningful (m : Modes) (negated : Bool) (s : CharSet) : Bool :=
  if m.unicode then !(if m.caseless then s.hasMember else s.asksForWords)
  else !negated && s.isAscii

end CharSet

namespace Pattern

mutual

/-- **The modes behind a pattern,** none when it has no meaning. -/
def modesAfter? (m : Modes) : Pattern → Option Modes
  | empty | edge => some m
  | switch switches => some (switches.modes m)
  | literal l => if if m.unicode then m.caseless else l.isHighByte then none else some m
  | any => if m.unicode then some m else none
  | wordEdge => if m.unicode then none else some m
  | words negated => if m.unicode || negated then none else some m
  | set negated s => if s.isMeaningful m negated then some m else none
  | repetition p => p.modesAfter? m
  | group switches p => (p.modesAfter? (switches.modes m)).map fun _ => m
  | either branches => modesAfterAll? m branches
  | sequence parts => modesAfterAll? m parts

/-- The modes behind some patterns, one after the other. -/
def modesAfterAll? (m : Modes) : List Pattern → Option Modes
  | [] => some m
  | p :: rest => (p.modesAfter? m).bind fun m => modesAfterAll? m rest

end

end Pattern

end Outbound
