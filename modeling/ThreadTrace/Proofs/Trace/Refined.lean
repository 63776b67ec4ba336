import ThreadTrace.Proofs.Host.Granting
import ThreadTrace.Proofs.Pool.Registry
import ThreadTrace.Proofs.Trace.Traced

namespace ThreadTrace

namespace Supervisor

/-- A pool has joined the registry, and nothing else has changed there. Its workers are new, stand in
the order of their indices, and run. -/
structure Joined (id size : Value) (pool : Pool) (s s' : Supervisor) : Prop where
  pools : s'.pools = s.pools ++ [pool]
  named : pool.id = id
  sized : size.asInt? = some (pool.workers.length : Int)
  workers : ∀ i k : Nat, pool.workers[i]? = some k → s.crew.workers.length ≤ k ∧
    ∃ w, s'.crew.worker? k = some w ∧ w.index = .int i ∧ w.running = true
  others : ∀ k < s.crew.workers.length, s'.crew.worker? k = s.crew.worker? k

theorem startPool_joined {settings : Settings} {id size kind options : Value} {s s' : Supervisor}
    {pool : Pool} (h : (startPool settings id size kind options).on s = (.ok pool, s')) :
    Joined id size pool s s' := by
  obtain ⟨text, shown, sinks, o, rfl, rfl, -, -, -, hsize, -⟩ := startPool_ok h
  refine ⟨rfl, rfl, by rw [hsize, nextPool, List.length_range'], ?_, ?_⟩
  · intro i k hk
    obtain ⟨hi, rfl⟩ := List.getElem?_eq_some_iff.1 hk
    rw [nextPool, List.length_range'] at hi
    simp only [nextPool, List.getElem_range', Nat.one_mul]
    exact ⟨by omega, enroll_new id text shown sinks o hi⟩
  · intro k hk
    exact enroll_old id text shown sinks o hk

end Supervisor

namespace Tracer

/-- What a trace comes to. The reports of the crew stand in front of those of the plan, and after the
plan nothing happens in the world but that the units are imported that it gets to. -/
def Refined (settings : Settings) (request kind sinkOptions options : Value) (t : Tracer Recording)
    (r : Except Fault Target) (t' : Tracer Recording) : Prop :=
  match Options.coerce settings options with
  | .error f => r = .error f ∧ t' = t
  | .ok o =>
    match ((requestPool settings kind sinkOptions o).on t.supervisor).1 with
    | .error f => r = .error f ∧ t'.host = t.host ∧ t'.supervisor.pools = t.supervisor.pools ∧
        t'.supervisor.crew.workers = t.supervisor.crew.workers ∧
        t'.world = t.world.relog (t.world.notices ++ t.supervisor.crew.notices)
    | .ok pool =>
      Supervisor.Joined o.poolId (o.resolvedSize settings) pool t.supervisor t'.supervisor ∧
      ∃ shown, o.poolId.shown = .ok shown ∧
      let told := t.supervisor.crew.notices ++ [.poolStarted shown pool.workers.length]
      match (Plan.normalize request).on t.world with
      | (.error f, w) => r = .error f ∧ t'.host = t.host ∧ t'.world = t.world.interject told w
      | (.ok plan, w) => ∃ target flags spec done out, o.Selects flags spec ∧ target.mode = o.mode ∧
          target.sinks = pool.workers.zipIdx.map (fun x => ((x.2 : Int), x.1)) ∧
          Granted (plan.flatMap (Dispatch.demands flags spec target)) done out ∧
          r = out.map (fun _ => target) ∧ t'.host.calls = t.host.calls ++ done ∧
          (Dispatch.loadAll (Dispatch.reached (Dispatch.demands flags spec target) plan)).on
            (t.world.interject told w) = (.ok (), t'.world) ∧
          t'.world.calls = w.calls

variable {settings : Settings} {request kind sinkOptions options : Value} {t : Tracer Recording}

theorem requestPool_joined {o : Options} {pool : Pool} {s : Supervisor}
    (h : (requestPool settings kind sinkOptions o).on t.supervisor = (.ok pool, s)) :
    Supervisor.Joined o.poolId (o.resolvedSize settings) pool t.supervisor
      (t.settle s).supervisor := by
  obtain ⟨hpools, hnamed, hsized, hworkers, hothers⟩ := Supervisor.startPool_joined h
  exact ⟨hpools, hnamed, hsized, hworkers, hothers⟩

/-- The plan is what it would be without the pool, whose start is reported in front of it. -/
theorem normalize_told {o : Options} {pool : Pool} {s : Supervisor}
    {r : Except Fault (List Value)} {w : World}
    (hs : (requestPool settings kind sinkOptions o).on t.supervisor = (.ok pool, s))
    (hp : (Plan.normalize request).on (t.settle s).world = (r, w)) :
    ∃ shown v, o.poolId.shown = .ok shown ∧ (Plan.normalize request).on t.world = (r, v) ∧
      w = t.world.interject
        (t.supervisor.crew.notices ++ [.poolStarted shown pool.workers.length]) v := by
  obtain ⟨text, shown, sinks, outlets, rfl, rfl, -, -, hshown, -, -⟩ := Supervisor.startPool_ok hs
  obtain ⟨hplan, hw, -⟩ := normalize_settle hp
  refine ⟨shown, _, hshown, Prod.ext hplan rfl, ?_⟩
  rw [hw, Supervisor.nextPool, List.length_range', Supervisor.enroll]

/-- Whatever the request asks for, a trace is its plan applied to the host, with the new pool for a
target, or it ends with the fault of the first part that fails. -/
theorem trace_refined (settings : Settings) (request kind sinkOptions options : Value)
    (hw : OrdinaryBodies t.world.modules) :
    Refined settings request kind sinkOptions options t
      ((trace settings request kind sinkOptions options).on t).1
      ((trace settings request kind sinkOptions options).on t).2 := by
  have hm := trace_traced settings request kind sinkOptions options t
  generalize (trace settings request kind sinkOptions options).on t = result at hm ⊢
  rw [Refined]
  cases hm with
  | uncoerced f hc =>
    rw [hc]
    exact ⟨rfl, rfl⟩
  | unstarted o f s hc hs =>
    simp only [hc]
    rw [hs]
    obtain ⟨outlets, rfl⟩ := Supervisor.startPool_error hs
    exact ⟨rfl, rfl, rfl, rfl, rfl⟩
  | unplanned o pool s f w hc hs hp =>
    obtain ⟨shown, v, hshown, hplan, hw'⟩ := normalize_told hs hp
    simp only [hc]
    rw [hs]
    refine ⟨requestPool_joined hs, shown, hshown, ?_⟩
    rw [hplan]
    exact ⟨rfl, rfl, hw'⟩
  | applied o pool s plan w r stage hc hs hp ha =>
    obtain ⟨shown, v, hshown, hplan, hw'⟩ := normalize_told hs hp
    obtain ⟨-, -, hmodules⟩ := normalize_settle hp
    simp only [hc]
    rw [hs]
    refine ⟨requestPool_joined hs, shown, hshown, ?_⟩
    rw [hplan]
    have hbodies : OrdinaryBodies w.modules := hmodules ▸ hw
    obtain ⟨done, out, w', hon, hgranted, -⟩ :=
      Dispatch.apply_grants Recording.record_takes o (t.targetOf o pool) plan ⟨w, t.host⟩ hbodies
    have hworld := Dispatch.apply_world Dispatch.recording_silent o (t.targetOf o pool)
      Recording.record_takes plan (s := ⟨w, t.host⟩) hbodies
    obtain ⟨u, hu, hcalls⟩ := Dispatch.loadAll_on (Dispatch.reached
      (Dispatch.demands o.flags o.matchSpec (t.targetOf o pool)) plan) hbodies
    obtain rfl := (Prod.mk.inj (hworld.symm.trans hu)).2
    rw [ha] at hworld hcalls
    obtain ⟨rfl, rfl⟩ := Prod.mk.inj (ha.symm.trans hon)
    subst hw'
    exact ⟨t.targetOf o pool, o.flags, o.matchSpec, done, r, o.flags_selects, rfl, rfl, hgranted,
      rfl, congrArg Recording.calls (Recording.record_all done t.host), hworld, hcalls⟩

def faulty : Tracer Recording where
  world := {
    modules := [⟨"m", false, some (.raised "ValueError" "boom"), []⟩]
    bundles := .declared [] }
  supervisor := {}
  host := {}

/-- A unit that cannot be imported gets its filter, and a carrier that is none ends the trace. -/
theorem trace_refined_rejected :
    ∃ target, ((trace {} (.list [.text "m", .scope [.selector .processes, .text "x"]]) .null .null
        (.dict [(.text "running", .bool true)])).on faulty).1 = .error (.badCarrier "'x'") ∧
      ((trace {} (.list [.text "m", .scope [.selector .processes, .text "x"]]) .null .null
        (.dict [(.text "running", .bool true)])).on faulty).2.host.calls =
        [.filter "m" .passThrough true,
          .attach (.selector .processes) { Flags.base with running := true } target] ∧
      ((trace {} (.list [.text "m", .scope [.selector .processes, .text "x"]]) .null .null
        (.dict [(.text "running", .bool true)])).on faulty).2.world.imports = ["m"] := by
  have hw : OrdinaryBodies faulty.world.modules := by
    intro m hm f hf
    obtain rfl := List.mem_singleton.1 hm
    obtain rfl := Option.some.inj hf
    rfl
  obtain ⟨-, shown, -, target, flags, spec, done, out, hselects, -, -, hgranted, hr, hcalls, hworld,
    -⟩ := trace_refined {} (.list [.text "m", .scope [.selector .processes, .text "x"]]) .null .null
      (.dict [(.text "running", .bool true)]) hw
  obtain ⟨rfl, rfl⟩ := hgranted.unique (.next _ (.next _ (.refused _ _)))
  obtain ⟨rfl, rfl⟩ := hselects.unique (Options.flags_selects _)
  exact ⟨target, hr, hcalls, (congrArg World.imports (Prod.mk.inj hworld).2).symm⟩

end Tracer

end ThreadTrace
