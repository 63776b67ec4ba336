import ThreadTrace.Session.Basic

namespace ThreadTrace.Session

def trace (request kind sinkOptions options : Value) : Act Session Reply := do
  let s ← get
  set { s with targetNames :=
    s.targetNames.put s.tracer.nextTarget ("step" ++ toString s.steps) }
  let _ ← inTracer (Tracer.trace s.settings request kind sinkOptions options)
  return .done

def startPool (id size kind options : Value) : Act Session Reply := do
  let settings := (← get).settings
  let pool ← inSupervisor (Supervisor.startPool settings id size kind options)
  return .count pool.size

/-- Starts one pool several times at once: at most one start succeeds. -/
def race (id size kind : Value) : Nat → Act Session (List (Except Fault Nat))
  | 0 => return []
  | n + 1 => do
    let settings := (← get).settings
    let r ← (inSupervisor (Supervisor.startPool settings id size kind .null)).attempt
    return r.map Pool.size :: (← race id size kind n)

def failuresFirst (rs : List (Except Fault Nat)) : List (Except Fault Nat) :=
  rs.filter (!·.isOk) ++ rs.filter (·.isOk)

def getPool (id : Value) : Act Session Reply := do
  match ← inSupervisor (Supervisor.get? id) with
  | none => return .pool none
  | some p =>
    let crew := (← get).crew
    return .pool (some (p.id, p.workers.filterMap crew.worker?))

def pool (name : String) (id size kind options : Value) (start : Bool) : Act Session Reply := do
  let settings := (← get).settings
  let member (k : Nat) : String := name ++ "." ++ toString k
  let p ← inCrew (Crew.createPool settings member id size kind options)
  modify fun s => { s with
    pools := s.pools.put name p
    workers := p.workers.zipIdx.foldl (fun ws x => ws.put (member x.2) x.1) s.workers }
  if start then inCrew (Crew.startAll p.workers)
  return .count p.size

def namedPool (name : String) : Act Session Pool := do
  match (← get).pools.get? name with
  | some p => return p
  | none => throw .noWorker

def makeWorker (name : String) (id index kind options : Value) : Act Session Reply := do
  let settings := (← get).settings
  let k ← inCrew do
    let kind ← Act.result (SinkKind.ofValue kind)
    let tag := Supervisor.labelOf index
    let recipe ← Crew.inOutlets (Recipe.ofOptions (name ++ "/memory[" ++ tag ++ "]") kind options)
    let sink ← Crew.inOutlets (recipe.build settings name index)
    Crew.addWorker (← Act.result id.plain) index (← Act.result index.plain) sink
  modify fun s => { s with workers := s.workers.put name k }
  return .worker (← worker k)

def keyed : List (String × String) → Act Session (List (String × Nat))
  | [] => return []
  | (key, name) :: r => do
    let k ← resolve (.named name)
    return (key, k) :: (← keyed r)

def readKeys (named : List (String × Nat)) : List Problem × List (Int × Nat) :=
  named.foldl (fun (problems, sinks) (key, k) =>
    match Field.int (.text key) with
    | .ok n => (problems, Table.put sinks n k)
    | .error c => (problems ++ [⟨["sinks", key, "[key]"], c⟩], sinks)) ([], [])

def sourceSinks : TargetSource → Act Session (List Problem × List (Int × Nat))
  | .nothing => return ([], [])
  | .workers named => do return readKeys (← keyed named)
  | .pool id => do
    match ← inSupervisor (Supervisor.get? id) with
    | some p => return ([], (Target.ofWorkers 0 .trace p.workers).sinks)
    | none => throw (.noMethod "NoneType" "sink_map")

def indexOf (k : Nat) : Act Session Value := do return (← worker k).index

def indices : List (Int × Nat) → Act Session (List (Int × Value))
  | [] => return []
  | (key, k) :: r => do return (key, ← indexOf k) :: (← indices r)

def makeTarget (name : String) (mode : Option Value) (source : TargetSource) :
    Act Session Reply := do
  let (problems, sinks) ← sourceSinks source
  let mode := (mode.map Field.mode).getD (.ok .trace)
  let problems := Field.problem "mode" mode ++ problems
  if !problems.isEmpty then throw (.invalid "TracerTarget" problems)
  let mode := mode.toOption.getD .trace
  let base ← inTracer (Tracer.newTarget mode [])
  let t : Target := { base with sinks }
  nameTarget name t
  return .target mode (← indices sinks)

def route (name : String) (carrier : Value) : Act Session Reply := do
  let t ← target name
  match ← Act.result (t.route carrier) with
  | some k => return .route (some (← indexOf k))
  | none => return .route none

def observing (name : String) (act : Observed → Act Session Reply) : Act Session Reply := do
  match (← get).tracer.host with
  | .recording .. => throw (.noMethod "RecordingHost" name)
  | .profile o => act o

def changeHost (f : Observer → Observer) : Act Session Unit :=
  inTracer (modify fun t => { t with host := f t.host })

def memorySinks (crew : Crew) (ks : List Nat) : List (String × Bool) :=
  ks.filterMap fun k => match crew.worker? k with
    | some ⟨_, _, _, ⟨name, .memory _, closed⟩, _, _, _⟩ => some (name, closed)
    | _ => none

def perform : Step → Act Session Reply
  | .trace request kind sinkOptions options => trace request kind sinkOptions options
  | .stop id => do
    inTracer (Tracer.stop (← get).settings id)
    return .done
  | .plan request => do return .entries (← inTracer (Tracer.inWorld (Plan.normalize request)))
  | .startPool id size kind options => startPool id size kind options
  | .stopPool id timeout => do
    inSupervisor (Supervisor.stopPool (← get).settings id timeout)
    return .done
  | .stopAll => do
    inSupervisor (Supervisor.stopAll (← get).settings)
    return .done
  | .getPool id => getPool id
  | .race id size kind count => do
    return .outcomes (failuresFirst (← race id size kind count))
  | .pool name id size kind options start => pool name id size kind options start
  | .poolStart name => do
    inCrew (Crew.startAll (← namedPool name).workers)
    return .done
  | .poolStop name timeout => do
    inCrew (Crew.stopAll timeout (← namedPool name).workers)
    return .done
  | .worker name id index kind options => makeWorker name id index kind options
  | .workerInfo w => do return .worker (← worker (← resolve w))
  | .workerStart w => do
    inCrew (Crew.start (← resolve w))
    return .done
  | .workerStop w timeout => do
    inCrew (Crew.stop timeout (← resolve w))
    return .done
  | .workerSend w event => do
    let k ← resolve w
    let e ← Act.result (Event.ofValue event)
    let (taken, crew) := (← get).crew.send k e
    changeCrew fun _ => crew
    return .bool taken
  | .release => do
    changeCrew Crew.release
    return .done
  | .sinks => do
    return .closings ((← get).crew.outlets.made.map fun m => (m.name, m.closed))
  | .memoryClosed => do
    let s ← get
    return .closings (memorySinks s.crew s.seen)
  | .files => do return .files (← get).crew.outlets.files.listing
  | .console name => do return .text (((← get).crew.outlets.screens.get? name).getD "")
  | .target name mode source => makeTarget name mode source
  | .route name carrier => route name carrier
  | .same a b => do
    let equal := (← target a).id == (← target b).id
    return .same equal (if equal then 1 else 2)
  | .attach carrier flags name => do
    let t ← target name
    onStage (Dispatch.register fun h => TraceHost.attach h carrier flags t)
    return .done
  | .filter unit spec localOnly => do
    onStage (Dispatch.register fun h => TraceHost.install h unit spec localOnly)
    return .done
  | .lookup units => observing "_match" fun o => return .specs (units.map o.host.matchUnit)
  | .forget name => do
    let t ← target name
    observing "forget" fun o => do
      changeHost fun _ => .profile (o.forget t)
      changeCrew (·.note .targetDropped)
      return .done
  | .clear => do
    changeHost Observer.clear
    return .done
  | .declare t => do
    changeThreads fun ts => { ts with all := ts.all ++ [t] }
    return .done
  | .start thread ident => do
    changeThreads (·.start thread ident)
    return .done
  | .finish thread => do
    changeThreads (·.finish thread)
    return .done
  | .push f => do
    changeThreads (·.push f)
    return .done
  | .call f => do
    let below := (← get).stack
    changeThreads (·.push f)
    fire .call f below
  | .ret => do
    match (← get).stack with
    | [] => throw (.raised "IndexError" "pop from empty list")
    | f :: below =>
      changeThreads Threads.pop
      fire .ret f below
  | .signal s => do
    match (← get).stack with
    | [] => throw (.raised "IndexError" "list index out of range")
    | f :: below => fire s f below

def see (s : Session) : Session :=
  let registered := s.tracer.supervisor.pools.flatMap (·.workers)
  let add (seen : List Nat) (k : Nat) : List Nat := if seen.contains k then seen else seen ++ [k]
  { s with seen := registered.foldl add s.seen }

def collect (s : Session) (outcome : Except Fault Reply) : Report × Session :=
  let t := s.tracer
  let (deliveries, outlets) := s.crew.outlets.takeFresh
  let (calls, host) := match t.host with
    | .recording r ts => (r.calls, Observer.recording ⟨[]⟩ ts)
    | host => ([], host)
  ({ outcome, deliveries, notices := t.world.notices, calls },
    { s with tracer := { t with
        host
        world := { t.world with notices := [] }
        supervisor := { t.supervisor with crew := { t.supervisor.crew with outlets } } } })

def step (s : Session) (thread : String) (action : Except Fault Step) : Report × Session :=
  let t := s.tracer
  let s := { s with tracer := { t with
    host := t.host.changeThreads fun ts => { ts.withStores s.contents with current := thread } } }
  let (r, s) := match action with
    | .ok a => (perform a).on s
    | .error f => (.error f, s)
  let (report, s) := s.see.collect r
  (report, { s with steps := s.steps + 1 })

end ThreadTrace.Session
