import FileServer.Message.Headers

/-!
How many connections are served at once. A connection is counted as it arrives and only then looked
at; where as many as allowed were there before it, it is counted out again and refused. Connections
that are served end at any time, also while another one stands at the entrance.
-/

namespace FileServer

/-- What becomes of a connection that has arrived. -/
inductive Verdict where
  | admitted
  | refused (before : Int) (limit : Nat)
  deriving Repr, DecidableEq

/-- Judges a connection by the count before it arrived. -/
def Verdict.of (limit : Option Nat) (before : Int) : Verdict :=
  match limit with
  | none => admitted
  | some limit => if (limit : Int) ≤ before then refused before limit else admitted

/-- What stands at the entrance: nothing, a connection that has been counted, with the count before
it, or one that has been judged. -/
inductive Entrance where
  | empty
  | taken (before : Int)
  | judged (verdict : Verdict)
  deriving Repr, DecidableEq

/-- The connections of a server. The count is a whole number of either sign, so that a connection
counted out too often would show. -/
structure Hall where
  count : Int := 0
  live : Nat := 0
  entrance : Entrance := .empty
  deriving Repr, DecidableEq

namespace Hall

/-- A connection arrives and is counted. -/
def arrive (h : Hall) : Hall := { h with count := h.count + 1, entrance := .taken h.count }

/-- The connection at the entrance is served. -/
def letIn (h : Hall) : Hall := { h with live := h.live + 1, entrance := .empty }

/-- The connection at the entrance is counted out again. -/
def refuse (h : Hall) : Hall := { h with count := h.count - 1, entrance := .empty }

/-- A connection that was served has ended. -/
def leave (h : Hall) : Hall := { h with count := h.count - 1, live := h.live - 1 }

/-- Judges the connection at the entrance. -/
def judge (limit : Option Nat) (h : Hall) : Hall :=
  match h.entrance with
  | .taken before => { h with entrance := .judged (.of limit before) }
  | _ => h

/-- Does with the connection at the entrance as it was judged. -/
def settle (h : Hall) : Option Verdict × Hall :=
  match h.entrance with
  | .judged .admitted => (some .admitted, h.letIn)
  | .judged verdict => (some verdict, h.refuse)
  | _ => (none, h)

/-- What happens in a hall. -/
inductive Event where
  | arrived
  | judged
  | settled (verdict : Verdict)
  | left
  deriving Repr, DecidableEq

/-- The steps of a hall: one connection at a time passes the entrance, and those that are served end
in between. -/
inductive Step (limit : Option Nat) : Hall → Event → Hall → Prop where
  | arrive {h : Hall} (free : h.entrance = .empty) : Step limit h .arrived h.arrive
  | judge {h : Hall} {before : Int} (taken : h.entrance = .taken before) :
      Step limit h .judged (h.judge limit)
  | settle {h : Hall} {verdict : Verdict} {next : Hall}
      (settled : h.settle = (some verdict, next)) : Step limit h (.settled verdict) next
  | leave {h : Hall} (occupied : 0 < h.live) : Step limit h .left h.leave

/-- What can happen from an empty hall on, the last event first. -/
inductive Run (limit : Option Nat) : List Event → Hall → Prop where
  | start : Run limit [] {}
  | step {events : List Event} {h next : Hall} {e : Event} (run : Run limit events h)
      (last : Step limit h e next) : Run limit (e :: events) next

end Hall

end FileServer
