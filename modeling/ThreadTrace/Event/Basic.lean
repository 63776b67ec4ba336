import ThreadTrace.Double.Basic
import ThreadTrace.Mode

namespace ThreadTrace

inductive EventKind
  | call
  | returnTo
  | exit
  | scheduledIn
  | scheduledOut
  | send
deriving DecidableEq, Inhabited

namespace EventKind

def members : List EventKind := [call, returnTo, exit, scheduledIn, scheduledOut, send]

def text : EventKind → String
  | call => "call"
  | returnTo => "return_to"
  | exit => "exit"
  | scheduledIn => "in"
  | scheduledOut => "out"
  | send => "send"

def memberName : EventKind → String
  | call => "CALL"
  | returnTo => "RETURN_TO"
  | exit => "EXIT"
  | scheduledIn => "IN"
  | scheduledOut => "OUT"
  | send => "SEND"

def ofText? (s : String) : Option EventKind := members.find? (·.text = s)

def isProfiled : EventKind → Bool
  | send => false
  | _ => true

theorem ofText?_text (k : EventKind) : ofText? k.text = some k := by cases k <;> decide

end EventKind

structure Event where
  kind : EventKind
  carrier : Int
  unit : Option String := none
  function : Option String := none
  arity : Option Int := none
  args : Option (List String) := none
  caller : Option String := none
  timestamp : Option Double := none
  dump : Option String := none
  mode : Mode := .trace
deriving DecidableEq, Inhabited

namespace Event

def signature (e : Event) : String :=
  match e.function with
  | none => match e.unit with
    | some "" | none => "?"
    | some u => u
  | some f =>
    e.unit.getD "None" ++ ":" ++ f ++ (match e.arity with
      | some n => "/" ++ toString n
      | none => "")

/-- Whether two events say the same; times are compared as numbers. -/
def same (e d : Event) : Bool :=
  { e with timestamp := none } == { d with timestamp := none } &&
    match e.timestamp, d.timestamp with
    | none, none => true
    | some x, some y => x.same y
    | _, _ => false

end Event

end ThreadTrace
