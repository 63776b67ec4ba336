import ThreadTrace.Trace

namespace ThreadTrace

structure Output where
  rows : List (List String) := []
  printed : String := ""
  code : Nat := 0
deriving DecidableEq, Inhabited

structure Launch where
  script : Path
  arguments : List String
deriving DecidableEq, Inhabited

structure Job where
  launch : Launch
  request : List Value
  sink : Value
  sinkOptions : Value
  poolId : Value
  options : Value
deriving Inhabited

namespace Job

/-- Faults that say that there is nothing to clean up. -/
def refusals : List String :=
  ["ValidationError", "PoolAlreadyStartedError", "UnknownSinkKindError"]

def cannotStart (f : Fault) : Output :=
  { printed := Screen.message "Cannot start tracing:" f.headline, code := 1 }

variable {H : Type} [TraceHost H]

def clearHost : Act (Tracer H) Unit :=
  modify fun t => { t with host := TraceHost.clear t.host }

def abandon (settings : Settings) (job : Job) : Act (Tracer H) Unit := do
  clearHost
  if (← Tracer.inSupervisor (Supervisor.get? job.poolId)).isSome then
    Tracer.stop settings job.poolId

def execute (settings : Settings) (script : Launch → Act (Tracer H) Unit) (job : Job) :
    Act (Tracer H) Output := do
  let outcome ← (script job.launch).attempt
  clearHost
  Tracer.stop settings job.poolId
  Act.result outcome
  return {}

def start (settings : Settings) (job : Job) : Act (Tracer H) Target :=
  Tracer.trace settings (.list job.request) job.sink job.sinkOptions job.options

/-- Runs a job. A request to end the program while tracing starts is passed on at once. -/
def run (settings : Settings) (script : Launch → Act (Tracer H) Unit) (job : Job) :
    Act (Tracer H) Output := do
  match ← (start settings job).attempt with
  | .ok _ => execute settings script job
  | .error f =>
    if !f.isOrdinary then throw f
    if !refusals.contains f.kind then abandon settings job
    return cannotStart f

end Job

end ThreadTrace
