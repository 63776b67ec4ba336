import ThreadTrace.Proofs.World.Deaf
import ThreadTrace.Trace

namespace ThreadTrace

namespace Tracer

variable {H : Type}

def settle (t : Tracer H) (s : Supervisor) : Tracer H :=
  { t with
    supervisor := { s with crew := { s.crew with notices := [] } }
    world := { t.world with notices := t.world.notices ++ s.crew.notices } }

theorem inSupervisor_on {α : Type} (act : Act Supervisor α) (t : Tracer H) :
    (inSupervisor act).on t = ((act.on t.supervisor).1, t.settle (act.on t.supervisor).2) := rfl

/-- What the crew reports in between is nothing to the plan. -/
theorem normalize_settle {request : Value} {t : Tracer H} {s : Supervisor}
    {r : Except Fault (List Value)} {w : World}
    (h : (Plan.normalize request).on (t.settle s).world = (r, w)) :
    ((Plan.normalize request).on t.world).1 = r ∧
      w = t.world.interject s.crew.notices ((Plan.normalize request).on t.world).2 ∧
      w.modules = t.world.modules := by
  obtain ⟨hout, rfl⟩ :=
    Prod.mk.inj (((Plan.normalize_deaf request).interject t.world s.crew.notices).symm.trans h)
  exact ⟨hout, rfl, (Plan.normalize_mild request t.world).later.modules⟩

theorem stop_eq {settings : Settings} {p : Value} (hnull : p = .null → settings.defaultPoolId = .null) :
    (stop settings p : Act (Tracer H) Unit) =
      inSupervisor (Supervisor.stopPool settings p .null) := by
  cases p with
  | null =>
    exact congrArg (fun id => inSupervisor (Supervisor.stopPool settings id .null)) (hnull rfl)
  | _ => rfl

variable [TraceHost H] {settings : Settings} {request kind sinkOptions options : Value}

def requestPool (settings : Settings) (kind sinkOptions : Value) (o : Options) :
    Act Supervisor Pool :=
  Supervisor.startPool settings o.poolId (o.resolvedSize settings)
    (orDefault kind settings.defaultSink) sinkOptions

def targetOf (t : Tracer H) (o : Options) (pool : Pool) : Target :=
  Target.ofWorkers t.nextTarget o.mode pool.workers

inductive Traced (settings : Settings) (request kind sinkOptions options : Value) (t : Tracer H) :
    Except Fault Target × Tracer H → Prop
  | uncoerced (f : Fault) (hc : Options.coerce settings options = .error f) :
      Traced settings request kind sinkOptions options t (.error f, t)
  | unstarted (o : Options) (f : Fault) (s : Supervisor)
      (hc : Options.coerce settings options = .ok o)
      (hs : (requestPool settings kind sinkOptions o).on t.supervisor = (.error f, s)) :
      Traced settings request kind sinkOptions options t (.error f, t.settle s)
  | unplanned (o : Options) (pool : Pool) (s : Supervisor) (f : Fault) (w : World)
      (hc : Options.coerce settings options = .ok o)
      (hs : (requestPool settings kind sinkOptions o).on t.supervisor = (.ok pool, s))
      (hp : (Plan.normalize request).on (t.settle s).world = (.error f, w)) :
      Traced settings request kind sinkOptions options t
        (.error f, { t.settle s with world := w, nextTarget := t.nextTarget + 1 })
  | applied (o : Options) (pool : Pool) (s : Supervisor) (plan : List Value) (w : World)
      (r : Except Fault Unit) (stage : Stage H)
      (hc : Options.coerce settings options = .ok o)
      (hs : (requestPool settings kind sinkOptions o).on t.supervisor = (.ok pool, s))
      (hp : (Plan.normalize request).on (t.settle s).world = (.ok plan, w))
      (ha : (Dispatch.apply o (t.targetOf o pool) plan).on ⟨w, t.host⟩ = (r, stage)) :
      Traced settings request kind sinkOptions options t (r.map fun _ => t.targetOf o pool,
        { t.settle s with
          world := stage.world
          host := stage.host
          nextTarget := t.nextTarget + 1 })

theorem trace_traced (settings : Settings) (request kind sinkOptions options : Value)
    (t : Tracer H) : Traced settings request kind sinkOptions options t
      ((trace settings request kind sinkOptions options).on t) := by
  rw [trace]
  simp only [Act.on_bind, Act.on_result]
  cases hc : Options.coerce settings options with
  | error f => exact .uncoerced f hc
  | ok o =>
    simp only [inSupervisor_on]
    cases hs : (requestPool settings kind sinkOptions o).on t.supervisor with
    | mk r s =>
      rw [requestPool] at hs
      rw [hs]
      cases r with
      | error f => exact .unstarted o f s hc hs
      | ok pool =>
        simp only [newTarget, inWorld, onStage, Act.within, Act.on_bind, Act.on_get, Act.on_set,
          Act.on_pure, Act.on_of]
        cases hp : (Plan.normalize request).on (t.settle s).world with
        | mk r w =>
          cases r with
          | error f => exact .unplanned o pool s f w hc hs hp
          | ok plan =>
            cases ha : (Dispatch.apply o (t.targetOf o pool) plan).on ⟨w, t.host⟩ with
            | mk r stage =>
              have h := Traced.applied o pool s plan w r stage hc hs hp ha
              have hn : (t.settle s).nextTarget = t.nextTarget := rfl
              have hh : (t.settle s).host = t.host := rfl
              rw [targetOf] at ha
              simp only [hn, hh, ha]
              cases r <;> exact h

end Tracer

end ThreadTrace
