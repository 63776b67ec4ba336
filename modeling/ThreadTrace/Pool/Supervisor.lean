import ThreadTrace.Pool.Crew

namespace ThreadTrace

structure Supervisor where
  crew : Crew := {}
  pools : List Pool := []
deriving Inhabited

namespace Supervisor

def inCrew (act : Act Crew α) : Act Supervisor α :=
  Act.within Supervisor.crew (fun s crew => { s with crew }) act

def find? (s : Supervisor) (id : Value) : Option Pool := s.pools.find? (·.id.same id)

def checkKey (id : Value) : Except Fault Unit :=
  match id.unhashable? with
  | some t => .error (.unhashable t)
  | none => .ok ()

def get? (id : Value) : Act Supervisor (Option Pool) := do
  Act.result (checkKey id)
  return (← get).find? id

def note (n : Notice) : Act Supervisor Unit :=
  modify fun s => { s with crew := s.crew.note n }

def labelOf (id : Value) : String := (id.plain.toOption).getD ""

def startPool (settings : Settings) (id size kind options : Value) : Act Supervisor Pool := do
  if (← get? id).isSome then throw (.alreadyRunning (← Act.result id.shown))
  let pool ← inCrew do
    let pool ← Crew.createPool settings (fun _ => labelOf id) id size kind options
    Crew.startAll pool.workers
    return pool
  modify fun s => { s with pools := s.pools ++ [pool] }
  note (.poolStarted (← Act.result id.shown) pool.size)
  return pool

/-- Takes a pool out of the registry. Asking an empty registry does not look at the id. -/
def takePool (id : Value) : Act Supervisor (Option Pool) := do
  let s ← get
  if s.pools.isEmpty then return none
  Act.result (checkKey id)
  set { s with pools := s.pools.filter fun p => !p.id.same id }
  return s.find? id

/-- Stops the workers of a pool and frees its id. Where no limit is given to the wait for them, the
configured one holds. -/
def stopPool (settings : Settings) (id timeout : Value) : Act Supervisor Unit := do
  match ← takePool id with
  | none => throw (.notRunning (← Act.result id.shown))
  | some pool =>
    let limit := match timeout with
      | .null => settings.joinTimeout
      | t => t
    inCrew (Crew.stopAll limit pool.workers)
    note (.poolStopped (← Act.result id.shown))

def running (s : Supervisor) : List Value :=
  (s.pools.map (·.id)).mergeSort fun a b => labelOf a ≤ labelOf b

def stopEach (settings : Settings) : List Value → Act Supervisor Unit
  | [] => return
  | id :: r => do
    match ← (stopPool settings id .null).attempt with
    | .ok () | .error (.notRunning _) => stopEach settings r
    | .error f => throw f

def stopAll (settings : Settings) : Act Supervisor Unit := do
  stopEach settings (← get).running

end Supervisor

end ThreadTrace
