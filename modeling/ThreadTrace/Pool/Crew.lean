import ThreadTrace.Pool.Wait
import ThreadTrace.Pool.Worker
import ThreadTrace.Sink.Recipe

namespace ThreadTrace

structure Crew where
  workers : List Worker := []
  outlets : Outlets := {}
  gateOpen : Bool := false
  notices : List Notice := []
deriving Inhabited

/-- The workers of a pool in the order of their indices. -/
structure Pool where
  id : Value
  workers : List Nat
deriving Inhabited

def Pool.size (p : Pool) : Nat := p.workers.length

namespace Crew

def worker? (c : Crew) (k : Nat) : Option Worker := c.workers[k]?

def putWorker (c : Crew) (k : Nat) (w : Worker) : Crew :=
  { c with workers := c.workers.set k w }

def note (c : Crew) (n : Notice) : Crew := { c with notices := c.notices ++ [n] }

def settle (c : Crew) (k : Nat) : Crew :=
  match c.worker? k with
  | none => c
  | some w =>
    let (w, outlets, notices) := w.drain c.gateOpen w.queue.length c.outlets
    { c with workers := c.workers.set k w, outlets, notices := c.notices ++ notices }

def send (c : Crew) (k : Nat) (e : Event) : Bool × Crew :=
  match c.worker? k with
  | none => (false, c)
  | some w =>
    let (taken, w) := w.send e
    (taken, (c.putWorker k w).settle k)

def start (k : Nat) : Act Crew Unit := do
  let c ← get
  match c.worker? k with
  | none => return
  | some w =>
    let (r, w) := w.start
    set ((c.putWorker k w).settle k)
    Act.result r

/-- Waits for a worker's thread, which takes its steps meanwhile. A wait that is over at once sees
none of them, and a thread that has ended needs no wait. -/
def join (wait : Wait) (k : Nat) : Act Crew Unit := do
  let c ← get
  match c.worker? k with
  | none => return
  | some w =>
    if w.life ≠ .finished then Act.result wait.checkStart
    if !wait.isOver then set (c.settle k)

def noteSlow (c : Crew) (wait : Wait) (k : Nat) : Crew :=
  match c.worker? k with
  | none => c
  | some w => if w.life == .alive then c.note (.workerSlow w.shown wait.text) else c

/-- Stops a worker: its queue gets the stop marker, then its thread is waited for. What the thread
does about the marker are steps of its own, so that the sink is still open if no wait can begin. -/
def stop (timeout : Value) (k : Nat) : Act Crew Unit := do
  let c ← get
  match c.worker? k with
  | none => return
  | some w =>
    if !w.running then return
    set (c.putWorker k w.stop)
    let wait ← Act.result (Wait.ofValue timeout)
    join wait k
    modify fun c => (c.noteSlow wait k).settle k

def stopAll (timeout : Value) : List Nat → Act Crew Unit
  | [] => return
  | k :: r => do
    stop timeout k
    stopAll timeout r

def release (c : Crew) : Crew :=
  let held := (List.range c.workers.length).filter fun k =>
    (c.worker? k).any (·.isHeld c.gateOpen)
  held.foldl settle { c with gateOpen := true }

def inOutlets (act : Act Outlets α) : Act Crew α :=
  Act.within Crew.outlets (fun c outlets => { c with outlets }) act

def addWorker (poolText : String) (index : Value) (indexText : String) (sink : Sink) :
    Act Crew Nat := do
  let c ← get
  let w : Worker := { pool := poolText, index, indexText, sink }
  set { c with workers := c.workers ++ [w] }
  return c.workers.length

def closeSinks : List Sink → Act Outlets Unit
  | [] => return
  | s :: r => do
    let (result, _, o) := s.close (← get)
    set o
    Act.result result
    closeSinks r

/-- Builds the sinks with these indices after the given ones. If one fails, all that were built are
closed, unless the fault is a request to end the program. -/
def buildSinks (make : Nat → Act Outlets Sink) (built : List Sink) :
    List Nat → Act Outlets (List Sink)
  | [] => return built
  | k :: r => do
    match ← (make k).attempt with
    | .ok s => buildSinks make (built ++ [s]) r
    | .error f =>
      if f.isOrdinary then closeSinks built
      throw f

def checkSize (size : Value) : Except Fault Unit :=
  match size with
  | .float x => if x.isPositive then .ok () else do .error (.poolSize (← size.plain))
  | .nan _ => .ok ()
  | size =>
    match size.asInt? with
    | some n => if 0 < n then .ok () else do .error (.poolSize (← size.plain))
    | none => .error (.notOrdered size.typeName)

def countOf (size : Value) : Except Fault Nat :=
  match size.asInt? with
  | some n => .ok n.toNat
  | none => .error (.notCount size.typeName)

def addWorkers (id : Value) (index : Nat) : List Sink → Act Crew (List Nat)
  | [] => return []
  | s :: r => do
    let pool ← Act.result id.plain
    let k ← addWorker pool (.int index) (toString index) s
    return k :: (← addWorkers id (index + 1) r)

def prepare (settings : Settings) (owner : Nat → String) (size kind options : Value) :
    Act Crew (Nat × (Nat → Act Outlets Sink)) := do
  Act.result (checkSize size)
  let kind ← Act.result (SinkKind.ofValue kind)
  let count ← Act.result (countOf size)
  let recipe ← inOutlets (Recipe.ofOptions (owner 0 ++ "/memory[0]") kind options)
  return (count, fun k => recipe.build settings (owner k) (.int k))

def assemble (id : Value) (make : Nat → Act Outlets Sink) (count : Nat) : Act Crew Pool := do
  let sinks ← inOutlets (buildSinks make [] (List.range count))
  return { id, workers := ← addWorkers id 0 sinks }

def createPool (settings : Settings) (owner : Nat → String) (id size kind options : Value) :
    Act Crew Pool := do
  let (count, make) ← prepare settings owner size kind options
  assemble id make count

def startAll : List Nat → Act Crew Unit
  | [] => return
  | k :: r => do
    start k
    startAll r

end Crew

end ThreadTrace
