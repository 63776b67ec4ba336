import ThreadTrace.Dispatch
import ThreadTrace.Pool.Supervisor

namespace ThreadTrace

/-- Everything that tracing acts on. `nextTarget` is the identity of the next target. -/
structure Tracer (H : Type) where
  world : World
  supervisor : Supervisor
  host : H
  nextTarget : Nat := 0
deriving Inhabited

namespace Tracer

variable {H : Type}

def inSupervisor (act : Act Supervisor α) : Act (Tracer H) α :=
  Act.within Tracer.supervisor (fun t supervisor =>
    { t with
      supervisor := { supervisor with crew := { supervisor.crew with notices := [] } }
      world := { t.world with notices := t.world.notices ++ supervisor.crew.notices } }) act

def onStage (act : Act (Stage H) α) : Act (Tracer H) α :=
  Act.within (fun t => ⟨t.world, t.host⟩)
    (fun t s => { t with world := s.world, host := s.host }) act

def inWorld (act : Act World α) : Act (Tracer H) α :=
  Act.within Tracer.world (fun t world => { t with world }) act

def newTarget (mode : Mode) (workers : List Nat) : Act (Tracer H) Target := do
  let t ← get
  set { t with nextTarget := t.nextTarget + 1 }
  return Target.ofWorkers t.nextTarget mode workers

def orDefault (v fallback : Value) : Value := if v.isTruthy then v else fallback

def trace [TraceHost H] (settings : Settings) (request kind sinkOptions options : Value) :
    Act (Tracer H) Target := do
  let options ← Act.result (Options.coerce settings options)
  let pool ← inSupervisor (Supervisor.startPool settings options.poolId
    (options.resolvedSize settings) (orDefault kind settings.defaultSink) sinkOptions)
  let target ← newTarget options.mode pool.workers
  let plan ← inWorld (Plan.normalize request)
  onStage (Dispatch.apply options target plan)
  return target

def stop (settings : Settings) (id : Value) : Act (Tracer H) Unit :=
  let id := match id with
    | .null => settings.defaultPoolId
    | id => id
  inSupervisor (Supervisor.stopPool settings id .null)

end Tracer

end ThreadTrace
