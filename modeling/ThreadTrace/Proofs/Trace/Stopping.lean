import ThreadTrace.Host.Recording
import ThreadTrace.Proofs.Pool.Registry
import ThreadTrace.Proofs.Trace.Traced

namespace ThreadTrace

theorem Options.coerce_poolId (settings : Settings) {p : Value} (hp : p.unhashable? = none) :
    coerce settings (.dict [(.text "pool_id", p)]) = .ok { poolId := p } := by
  have hclaim : Field.hashable p = .ok p := by
    cases p <;> first | rfl | cases hp
  have hfind : ∀ name : String, Field.find? name [(.text "pool_id", p)] =
      if "pool_id" = name then some p else none := by
    intro name
    by_cases hn : "pool_id" = name <;> simp [Field.find?, Value.asText?, hn]
  simp [coerce, ofValue, ofFields, given, hfind, hclaim]

theorem Target.ofWorkers_places (id : Nat) (mode : Mode) (ws : List Nat) :
    (ofWorkers id mode ws).sinks.map (·.2) = ws := by
  simp [ofWorkers, Function.comp_def]

namespace Tracer

variable {H : Type} [TraceHost H] {settings : Settings} {t t₁ : Tracer H} {p : Value}
  {request kind sinkOptions options : Value} {target : Target}

theorem started {o : Options} (hc : Options.coerce settings options = .ok o)
    (h : (trace settings request kind sinkOptions options).on t = (.ok target, t₁)) :
    ∃ text shown sinks out s, target = t.targetOf o (t.supervisor.nextPool o.poolId sinks.length) ∧
      o.poolId.unhashable? = none ∧ t.supervisor.find? o.poolId = none ∧
      o.poolId.shown = .ok shown ∧ sinks ≠ [] ∧
      s = t.supervisor.enroll o.poolId text shown sinks out ∧
      t₁.supervisor = { s with crew := { s.crew with notices := [] } } := by
  have hm := trace_traced settings request kind sinkOptions options t
  rw [h] at hm
  generalize hr : (Except.ok target, t₁) = result at hm
  cases hm with
  | uncoerced f hc' => cases hr
  | unstarted o' f s hc' hs => cases hr
  | unplanned o' pool s f w hc' hs hp => cases hr
  | applied o' pool s plan w r stage hc' hs hp ha =>
    obtain rfl : o = o' := Except.ok.inj (hc.symm.trans hc')
    obtain ⟨htarget, rfl⟩ := Prod.mk.inj hr
    cases r with
    | error f => cases htarget
    | ok u =>
      obtain rfl := Except.ok.inj htarget
      obtain ⟨text, shown, sinks, out, rfl, rfl, hu, hn, hshown, -, hne⟩ :=
        Supervisor.startPool_ok hs
      exact ⟨text, shown, sinks, out, _, rfl, hu, hn, hshown, hne, rfl, rfl⟩

/-- What a trace has started under an id, a stop of this id stops, next to whatever else runs: it takes
out the pool of the trace and no other, its workers stop, and the workers that were there before are
not touched. The id is free again. -/
theorem stop_traced (hself : p.equal p = true) (hkey : p.unhashable? = none)
    (hnull : p = .null → settings.defaultPoolId = .null) (hw : settings.joinTimeout.Waitable)
    (h : (trace settings request kind sinkOptions (.dict [(.text "pool_id", p)])).on t =
      (.ok target, t₁)) :
    ∃ t₂, (stop settings p).on t₁ = (.ok (), t₂) ∧
      t₁.supervisor.pools = t.supervisor.pools ++ [⟨p, target.sinks.map (·.2)⟩] ∧
      t₂.supervisor.pools = t.supervisor.pools ∧ t₂.supervisor.find? p = none ∧
      (∀ k ∈ target.sinks.map (·.2), t₁.supervisor.crew.Runs k ∧ ¬ t₂.supervisor.crew.Runs k) ∧
      ∀ k < t.supervisor.crew.workers.length,
        t₂.supervisor.crew.worker? k = t.supervisor.crew.worker? k := by
  obtain ⟨text, shown, sinks, out, s, htarget, hu, hn, hs, hne, hse, ht₁⟩ :=
    started (Options.coerce_poolId settings hkey) h
  have hplaces : target.sinks.map (·.2) = (t.supervisor.nextPool p sinks.length).workers := by
    rw [htarget]
    exact Target.ofWorkers_places ..
  have hsame : p.same p = true := by simp [Value.same, hself]
  have hpools : t₁.supervisor.pools = t.supervisor.pools ++ [t.supervisor.nextPool p sinks.length] := by
    rw [ht₁, hse]
    rfl
  have hfound := Supervisor.without_enroll text shown sinks out hn hsame
  rw [← hse] at hfound
  have hfind : t₁.supervisor.find? p = some (t.supervisor.nextPool p sinks.length) := by
    rw [ht₁]
    exact hfound.1
  have hwithout : Supervisor.without t₁.supervisor.pools p = t.supervisor.pools := by
    rw [ht₁]
    exact hfound.2
  obtain ⟨s₂, hon, hpools₂, hstopped, hothers⟩ :=
    Supervisor.stopPool_on .null hw hkey (by rw [hs]; rfl) hfind
  have hruns : ∀ k, t₁.supervisor.crew.Runs k ↔ s.crew.Runs k := by
    intro k
    rw [ht₁]
    exact Iff.rfl
  refine ⟨t₁.settle s₂, ?_, ?_, hpools₂.trans hwithout, ?_, ?_, ?_⟩
  · rw [stop_eq hnull, inSupervisor_on, hon]
  · rw [hpools, hplaces]
    rfl
  · rw [← hn]
    exact congrArg (List.find? (·.id.same p)) (hpools₂.trans hwithout)
  · rw [hplaces]
    intro k hk
    refine ⟨?_, hstopped k hk⟩
    rw [hruns, hse, Supervisor.enroll_runs]
    exact .inr hk
  · intro k hk
    have hnot : k ∉ (t.supervisor.nextPool p sinks.length).workers := by
      rw [Supervisor.nextPool, List.mem_range'_1]
      omega
    have hold := Supervisor.enroll_old p text shown sinks out hk
    refine (hothers k hnot).trans ?_
    rw [ht₁, ← hold, hse]
    rfl

def idle : Tracer Recording where
  world := { modules := [], bundles := .declared [] }
  supervisor := {}
  host := {}

theorem stop_traced_number :
    ∃ target t₁ t₂, (trace {} (.text "_") (.text "memory") .null
        (.dict [(.text "pool_id", .int 0)])).on idle = (.ok target, t₁) ∧
      target.sinks.map (·.2) = [0, 1] ∧ (stop {} (.int 0)).on t₁ = (.ok (), t₂) ∧
      t₂.supervisor.pools = [] := by
  have h : (trace {} (.text "_") (.text "memory") .null
    (.dict [(.text "pool_id", .int 0)])).on idle = (.ok _, _) := rfl
  obtain ⟨t₂, hstop, -, hpools, -⟩ := stop_traced rfl rfl (by rintro ⟨⟩) ⟨_, rfl, rfl⟩ h
  exact ⟨_, _, t₂, h, rfl, hstop, hpools⟩

/-- Under the null id a trace starts, and no stop of the null id reaches it. -/
theorem stop_null_misses (hd : settings.defaultPoolId.unhashable? = none)
    (hne : Value.null.same settings.defaultPoolId = false)
    (h : (trace settings request kind sinkOptions (.dict [(.text "pool_id", .null)])).on t =
      (.ok target, t₁)) :
    ∃ p ∈ ((stop settings .null).on t₁).2.supervisor.pools, p.id = .null := by
  obtain ⟨text, shown, sinks, out, s, -, -, -, -, -, hse, ht₁⟩ :=
    started (Options.coerce_poolId settings (p := .null) rfl) h
  have hpools := Supervisor.stopPool_pools settings .null hd t₁.supervisor
  refine ⟨t.supervisor.nextPool .null sinks.length, ?_, rfl⟩
  change _ ∈ ((Supervisor.stopPool settings settings.defaultPoolId .null).on t₁.supervisor).2.pools
  rw [hpools, Supervisor.without, List.mem_filter]
  refine ⟨?_, by rw [Supervisor.nextPool, hne]; rfl⟩
  rw [ht₁, hse]
  exact List.mem_append_right _ List.mem_cons_self

/-- Nothing else runs, and what was just started cannot be stopped. -/
theorem stop_null_unknown :
    ∃ target t₁, (trace {} (.text "_") (.text "memory") .null
        (.dict [(.text "pool_id", .null)])).on idle = (.ok target, t₁) ∧
      ((stop {} .null).on t₁).1 = .error (.notRunning "'default'") ∧
      ((stop {} .null).on t₁).2.supervisor.pools.map (·.id.shown) = [.ok "None"] ∧
      ∀ k ∈ target.sinks.map (·.2), ((stop {} .null).on t₁).2.supervisor.crew.Runs k := by
  refine ⟨_, _, rfl, rfl, rfl, ?_⟩
  change ∀ k ∈ [0, 1], _
  simp only [List.forall_mem_cons]
  exact ⟨⟨_, rfl, rfl⟩, ⟨_, rfl, rfl⟩, by simp⟩

end Tracer

end ThreadTrace
