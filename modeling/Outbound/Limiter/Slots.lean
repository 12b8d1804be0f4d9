/-!
# Slots

A cap on the callers that are under way at the same time. Callers that wait for a slot queue up,
and a slot given back is handed to the first of them; it counts as taken again only when that
caller picks it up.

## Main definitions

* `Slots`: the free slots, the taken ones, and the queue
* `Slots.tryTake`, `Slots.giveBack`: taking and giving back a slot
* `Slots.enter`, `Slots.pickUp`, `Slots.leave`: waiting in the queue
-/

namespace Outbound

/-- A place in the queue. -/
abbrev Ticket := Nat

/-- **A cap on the callers under way.** -/
@[ext]
structure Slots where
  /-- The number of slots. -/
  cap : Nat
  /-- The slots that are free. -/
  free : Nat
  /-- The slots that are taken. -/
  inFlight : Nat
  /-- The callers that wait, the first one first. -/
  queue : List Ticket
  /-- The callers to which a slot has been handed that they have not picked up. -/
  handed : List Ticket
  nextTicket : Ticket
deriving DecidableEq, Repr

namespace Slots

/-- So many slots, all free. -/
def ofCap (cap : Nat) : Slots := ⟨cap, cap, 0, [], [], 0⟩

/-- Take a free slot, if there is one. -/
def tryTake (s : Slots) : Bool × Slots :=
  if s.free = 0 then (false, s)
  else (true, { s with free := s.free - 1, inFlight := s.inFlight + 1 })

/-- A slot that is no longer taken goes to the first caller that waits, else it is free. -/
def passOn (s : Slots) : Slots :=
  match s.queue with
  | [] => { s with free := s.free + 1 }
  -- It is neither free nor taken until that caller picks it up.
  | t :: rest => { s with queue := rest, handed := s.handed ++ [t] }

/-- Give back a slot; with none taken this does nothing. -/
def giveBack (s : Slots) : Bool × Slots :=
  if s.inFlight = 0 then (false, s)
  else (true, { s with inFlight := s.inFlight - 1 }.passOn)

/-- Queue up. -/
def enter (s : Slots) : Ticket × Slots :=
  (s.nextTicket, { s with queue := s.queue ++ [s.nextTicket], nextTicket := s.nextTicket + 1 })

/-- Pick up the slot that has been handed over, if one has been. -/
def pickUp (t : Ticket) (s : Slots) : Bool × Slots :=
  if s.handed.contains t then
    (true, { s with handed := s.handed.erase t, inFlight := s.inFlight + 1 })
  else (false, s)

/-- Leave the queue; a slot that has been handed over is passed on. -/
def leave (t : Ticket) (s : Slots) : Slots :=
  if s.handed.contains t then { s with handed := s.handed.erase t }.passOn
  else { s with queue := s.queue.erase t }

end Slots

end Outbound
