import ThreadTrace.Event.Reader
import ThreadTrace.Profile.Hook
import ThreadTrace.Session.Observer
import ThreadTrace.Trace

namespace ThreadTrace

structure Session where
  settings : Settings
  tracer : Tracer Observer
  ticks : Nat := 0
  targets : Table String Target := []
  targetNames : Table Nat String := []
  workers : Table String Nat := []
  pools : Table String Pool := []
  seen : List Nat := []
  steps : Nat := 0
deriving Inhabited

inductive WorkerRef
  | named (name : String)
  | pooled (pool index : Value)
deriving Inhabited

/-- What the sinks of a named target are: those of a pool, named workers under keys, or none. -/
inductive TargetSource
  | pool (id : Value)
  | workers (named : List (String × String))
  | nothing
deriving Inhabited

inductive Step
  | trace (request kind sinkOptions options : Value)
  | stop (id : Value)
  | plan (request : Value)
  | startPool (id size kind options : Value)
  | stopPool (id timeout : Value)
  | stopAll
  | getPool (id : Value)
  | race (id size kind : Value) (count : Nat)
  | pool (name : String) (id size kind options : Value) (start : Bool)
  | poolStart (name : String)
  | poolStop (name : String) (timeout : Value)
  | worker (name : String) (id index kind options : Value)
  | workerInfo (w : WorkerRef)
  | workerStart (w : WorkerRef)
  | workerStop (w : WorkerRef) (timeout : Value)
  | workerSend (w : WorkerRef) (event : Value)
  | release
  | sinks
  | memoryClosed
  | files
  | console (name : String)
  | target (name : String) (mode : Option Value) (source : TargetSource)
  | route (target : String) (carrier : Value)
  | same (a b : String)
  | attach (carrier : Value) (flags : Flags) (target : String)
  | filter (unit : Value) (spec : MatchSpec) (localOnly : Bool)
  | lookup (units : List (Option String))
  | forget (target : String)
  | clear
  | declare (t : Thread)
  | start (thread : String) (ident : Option Nat)
  | finish (thread : String)
  | push (f : Frame)
  | call (f : Frame)
  | ret
  | signal (s : Hook.Signal)
deriving Inhabited

inductive Reply
  | done
  | bool (b : Bool)
  | count (n : Nat)
  | entries (plan : List Value)
  | pool (p : Option (Value × List Worker))
  | worker (w : Worker)
  | outcomes (rs : List (Except Fault Nat))
  | closings (cs : List (String × Bool))
  | files (fs : List (String × String))
  | text (s : String)
  | target (mode : Mode) (sinks : List (Int × Value))
  | route (index : Option Value)
  | same (equal : Bool) (size : Nat)
  | specs (ms : List (Option MatchSpec))
  | hooked (fired : Bool)
deriving Inhabited

/-- Everything that a step shows: its outcome, what was delivered and reported since the step
before, and what the host was asked for if it records. -/
structure Report where
  outcome : Except Fault Reply
  deliveries : List (String × Delivery)
  notices : List Notice
  calls : List Registration
deriving Inhabited

namespace Session

def crew (s : Session) : Crew := s.tracer.supervisor.crew

def contents (s : Session) (name : String) : List Event := s.crew.outlets.contents name

def threads (s : Session) : Threads := s.tracer.host.threads

def targetName (s : Session) (t : Target) : String := (s.targetNames.get? t.id).getD ""

def inTracer (act : Act (Tracer Observer) α) : Act Session α :=
  Act.within Session.tracer (fun s tracer => { s with tracer }) act

def inSupervisor (act : Act Supervisor α) : Act Session α := inTracer (Tracer.inSupervisor act)

def inCrew (act : Act Crew α) : Act Session α := inSupervisor (Supervisor.inCrew act)

def changeCrew (f : Crew → Crew) : Act Session Unit := inCrew (modify f)

def changeThreads (f : Threads → Threads) : Act Session Unit :=
  inTracer (modify fun t => { t with host := t.host.changeThreads f })

def onStage (act : Act (Stage Observer) α) : Act Session α := inTracer (Tracer.onStage act)

def resolve (ref : WorkerRef) : Act Session Nat := do
  match ref with
  | .named name =>
    match (← get).workers.get? name with
    | some k => return k
    | none => throw .noWorker
  | .pooled id index =>
    let pool ← inSupervisor (Supervisor.get? id)
    match pool, index.asInt? with
    | some p, some n =>
      match if 0 ≤ n then p.workers[n.toNat]? else none with
      | some k => return k
      | none => throw .noWorker
    | _, _ => throw .noWorker

def worker (k : Nat) : Act Session Worker := do
  match (← get).crew.worker? k with
  | some w => return w
  | none => throw .noWorker

def target (name : String) : Act Session Target := do
  match (← get).targets.get? name with
  | some t => return t
  | none => throw .noTarget

def nameTarget (name : String) (t : Target) : Act Session Unit :=
  modify fun s => { s with
    targets := s.targets.put name t
    targetNames := s.targetNames.put t.id name }

/-- What the hook of a session talks to: the crew, and a clock that ticks in half seconds from 1000.
-/
structure Outside where
  crew : Crew
  ticks : Nat
deriving Inhabited

def hookEnv : HookEnv Outside where
  offer k e o :=
    let (taken, crew) := o.crew.send k e
    (taken, { o with crew })
  tick o := (Double.ofRatio false (2000 + o.ticks) 2, { o with ticks := o.ticks + 1 })
  dropped _ o := { o with crew := o.crew.note .targetDropped }

def runHook (act : Act (HookState Outside) Unit) : Act Session Unit := Act.of fun s =>
  match s.tracer.host with
  | .recording .. => (.ok (), s)
  | .profile o =>
    let supervisor := s.tracer.supervisor
    let (r, after) := act.on ⟨o.host, ⟨supervisor.crew, s.ticks⟩⟩
    let crew := after.outside.crew
    (r, { s with
      ticks := after.outside.ticks
      tracer := { s.tracer with
        host := .profile { o with host := after.host }
        supervisor := { supervisor with crew := { crew with notices := [] } }
        world := { s.tracer.world with notices := s.tracer.world.notices ++ crew.notices } } })

def fire (signal : Hook.Signal) (f : Frame) (below : List Frame) : Act Session Reply := do
  let ts := (← get).threads
  match ts.running? with
  | none => return .hooked false
  | some t =>
    if !t.hooked then return .hooked false
    if let some ident := t.ident? then
      runHook (Hook.fire hookEnv ts.isSink ⟨ident, t.name, t.isSink⟩ signal f below)
    return .hooked true

def stack (s : Session) : List Frame := (s.threads.running?.map (·.stack)).getD []

end Session

end ThreadTrace
