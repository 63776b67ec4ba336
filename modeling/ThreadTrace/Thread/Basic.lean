import ThreadTrace.Value.Basic

namespace ThreadTrace

/-- The frame of one running function; `localNames` starts with its parameters. The frame that
starts a thread is told apart from all others. -/
structure Frame where
  unit : Option String
  function : String
  positional : Nat := 0
  keywordOnly : Nat := 0
  localNames : List String := []
  locals : List (String × Value) := []
  file : String := "<gt>"
  line : Int := 1
  startsThread : Bool := false
deriving Inhabited

namespace Frame

def arity (f : Frame) : Nat := f.positional + f.keywordOnly

def local? (f : Frame) (name : String) : Option Value :=
  (f.locals.find? (·.1 == name)).map (·.2)

def start (self : Value) : Frame where
  unit := some "threading"
  function := "start"
  positional := 1
  localNames := ["self"]
  locals := [("self", self)]
  file := "<threading>"
  startsThread := true

def withStores (contents : String → List Event) (f : Frame) : Frame :=
  { f with locals := f.locals.map fun (name, v) => (name, v.withStores contents) }

end Frame

/-- A thread that was never started has no ident yet; one in limbo is listed without an ident; a
finished one keeps its ident and is listed no more. -/
inductive ThreadState
  | unstarted
  | limbo
  | alive
  | finished
deriving DecidableEq, Inhabited

/-- `assigned` is the ident that the thread gets when it starts. -/
structure Thread where
  name : String
  assigned : Nat
  state : ThreadState := .unstarted
  isSink : Bool := false
  hooked : Bool := false
  stack : List Frame := []
deriving Inhabited

namespace Thread

def ident? (t : Thread) : Option Nat :=
  match t.state with
  | .alive | .finished => some t.assigned
  | _ => none

def isAlive (t : Thread) : Bool := t.state == .alive

def isListed (t : Thread) : Bool := t.state == .alive || t.state == .limbo

end Thread

/-- All threads in the order of their declaration, the one that runs, the hook that threads will
start with, and whether hooks can be put on threads that run already. -/
structure Threads where
  all : List Thread
  current : String := "main"
  startHooked : Bool := false
  reachesRunning : Bool := false
deriving Inhabited

namespace Threads

def find? (ts : Threads) (name : String) : Option Thread := ts.all.find? (·.name == name)

def listed (ts : Threads) : List Thread := ts.all.filter (·.isListed)

def running? (ts : Threads) : Option Thread := ts.find? ts.current

def isSink (ts : Threads) (name : String) : Bool := (ts.find? name).any (·.isSink)

def update (ts : Threads) (name : String) (f : Thread → Thread) : Threads :=
  { ts with all := ts.all.map fun t => if t.name == name then f t else t }

def hookCurrent (ts : Threads) (on : Bool) : Threads :=
  ts.update ts.current fun t => { t with hooked := on }

def hookStarted (ts : Threads) (on : Bool) : Threads := { ts with startHooked := on }

def hookAll (ts : Threads) (on : Bool) : Threads :=
  { ts with
    all := ts.all.map fun t => if t.isListed then { t with hooked := on } else t
    startHooked := on }

def start (ts : Threads) (name : String) (ident : Option Nat) : Threads :=
  ts.update name fun t =>
    { t with state := .alive, assigned := ident.getD t.assigned, hooked := ts.startHooked }

def finish (ts : Threads) (name : String) : Threads :=
  ts.update name fun t => { t with state := .finished, hooked := false }

def push (ts : Threads) (f : Frame) : Threads :=
  ts.update ts.current fun t => { t with stack := f :: t.stack }

def pop (ts : Threads) : Threads :=
  ts.update ts.current fun t => { t with stack := t.stack.tail }

def withStores (contents : String → List Event) (ts : Threads) : Threads :=
  { ts with all := ts.all.map fun t => { t with stack := t.stack.map (·.withStores contents) } }

end Threads

end ThreadTrace
