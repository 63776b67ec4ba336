import ThreadTrace.Command.Basic
import ThreadTrace.Proofs.Command.Asking
import ThreadTrace.Proofs.Host.Granting
import ThreadTrace.Proofs.Pool.Registry
import ThreadTrace.Proofs.Trace.Traced

namespace ThreadTrace

structure ProfileHost.Blank (h : ProfileHost) : Prop where
  traced : h.traced = []
  pending : h.pending = []
  arrivals : h.arrivals = none
  filters : h.filters = []
  localOnly : h.localOnly = []
  active : h.active = false
  installed : h.installed = false

theorem Observed.clear_blank (o : Observed) : o.clear.host.Blank := by
  rw [clear, uninstallHook]
  cases hi : o.host.installed with
  | false => exact ⟨rfl, rfl, rfl, rfl, rfl, rfl, hi⟩
  | true => exact ⟨rfl, rfl, rfl, rfl, rfl, rfl, rfl⟩

namespace Job

open Supervisor (without)

variable {settings : Settings} {job : Job} {script : Launch → Act (Tracer Observed) Unit}
  {t t₁ : Tracer Observed} {f : Fault}

/-- The host was cleared and the pool with an id stopped, if there was one. -/
structure Withdrawn (settings : Settings) (id : Value) (t t' : Tracer Observed) : Prop where
  host : t'.host.host.Blank
  pools : t'.supervisor.pools = without t.supervisor.pools id
  workers : settings.joinTimeout.Waitable → ∀ p, t.supervisor.find? id = some p →
    ∀ k ∈ p.workers, ¬ t'.supervisor.crew.Runs k

def cleared (t : Tracer Observed) : Tracer Observed := { t with host := t.host.clear }

theorem clearHost_on (t : Tracer Observed) :
    (clearHost : Act (Tracer Observed) Unit).on t = (.ok (), cleared t) := rfl

theorem stop_withdraws {id : Value} (hu : id.unhashable? = none)
    (hnull : id = .null → settings.defaultPoolId = .null) (t : Tracer Observed) :
    Withdrawn settings id t ((Tracer.stop settings id).on (cleared t)).2 := by
  rw [Tracer.stop_eq hnull, Tracer.inSupervisor_on]
  refine ⟨t.host.clear_blank, Supervisor.stopPool_pools settings .null hu t.supervisor, ?_⟩
  intro hw p hp
  exact Supervisor.stopPool_stops .null hw hu hp

theorem get?_on {id : Value} (hu : id.unhashable? = none) (s : Supervisor) :
    (Supervisor.get? id).on s = (.ok (s.find? id), s) := by
  simp [Supervisor.get?, Supervisor.checkKey, hu]

section Id

variable (h : job.Asked settings) (hu : job.poolId.unhashable? = none)
include h hu

theorem abandon_withdraws (t : Tracer Observed) :
    Withdrawn settings job.poolId t ((abandon settings job).on t).2 := by
  rw [abandon, Act.on_bind, clearHost_on]
  simp only [Act.on_bind, Tracer.inSupervisor_on, get?_on hu]
  have hfind : (cleared t).supervisor.find? job.poolId = t.supervisor.find? job.poolId := rfl
  cases hp : t.supervisor.find? job.poolId with
  | none =>
    rw [hfind, hp]
    refine ⟨t.host.clear_blank, (Supervisor.without_of_find?_none hp).symm, ?_⟩
    intro _ p hp'
    rw [hp] at hp'
    cases hp'
  | some p =>
    rw [hfind, hp]
    -- the look at the registry has passed on the crew's reports
    have hstop := stop_withdraws hu h.null (t.settle t.supervisor)
    exact ⟨hstop.host, hstop.pools, hstop.workers⟩

theorem execute_withdraws (t : Tracer Observed) :
    Withdrawn settings job.poolId ((script job.launch).on t).2
      ((execute settings script job).on t).2 := by
  have hstop := stop_withdraws hu h.null ((script job.launch).on t).2
  rw [execute, Act.on_bind, Act.attempt, Act.on_of]
  simp only [Act.on_bind, clearHost_on]
  cases hs : (Tracer.stop settings job.poolId).on (cleared ((script job.launch).on t).2) with
  | mk r t' =>
    rw [hs] at hstop
    cases r with
    | error f => exact hstop
    | ok u => cases hr : ((script job.launch).on t).1 <;> exact hstop

end Id

theorem run_started {target : Target} (h : (start settings job).on t = (.ok target, t₁)) :
    (job.run settings script).on t = (execute settings script job).on t₁ := by
  rw [run, Act.on_bind, Act.attempt, Act.on_of, h]

theorem run_failed (h : (start settings job).on t = (.error f, t₁)) :
    ((job.run settings script).on t).2 =
      if f.isOrdinary && !refusals.contains f.kind then ((abandon settings job).on t₁).2
      else t₁ := by
  rw [run, Act.on_bind, Act.attempt, Act.on_of, h]
  cases ho : f.isOrdinary <;> cases hr : refusals.contains f.kind <;>
    simp only [ho, hr, Bool.not_true, Bool.not_false, Bool.false_eq_true, if_false, if_true,
      Bool.and_true, Bool.and_false, Act.on_bind]
  case true.false =>
    cases (abandon settings job).on t₁ with
    | mk r t' => cases r <;> rfl
  all_goals rfl

/-- A script that does not stop the pool with an id. To others it does nothing that lasts. -/
structure Spares (id : Value) (act : Act (Tracer Observed) Unit) : Prop where
  found : ∀ u, (act.on u).2.supervisor.find? id = u.supervisor.find? id
  others : ∀ u, without (act.on u).2.supervisor.pools id = without u.supervisor.pools id

def Opens (settings : Settings) (job : Job) (t : Tracer Observed) (pool : Pool) : Prop :=
  ∃ o s, Options.coerce settings job.options = .ok o ∧
    (Tracer.requestPool settings job.sink job.sinkOptions o).on t.supervisor = (.ok pool, s)

/-- The pool of a job starts, and then its plan fails with a fault of a sort by which a start is
refused. -/
def Strands (settings : Settings) (job : Job) (t : Tracer Observed) (pool : Pool) : Prop :=
  Opens settings job t pool ∧ ∃ f, ((Plan.normalize (.list job.request)).on t.world).1 = .error f ∧
    refusals.contains f.kind = true

/-- What a job leaves behind. -/
structure Undone (settings : Settings) (job : Job) (t t' : Tracer Observed) : Prop where
  host : t'.host.host.Blank
  stranded : ∀ pool, Strands settings job t pool →
    t'.supervisor.pools = t.supervisor.pools ++ [pool] ∧
      ∀ k ∈ pool.workers, t'.supervisor.crew.Runs k
  restored : (∀ pool, ¬ Strands settings job t pool) →
    t'.supervisor.pools = t.supervisor.pools ∧
      (settings.joinTimeout.Waitable → ∀ pool, Opens settings job t pool →
        ∀ k ∈ pool.workers, ¬ t'.supervisor.crew.Runs k)

theorem Opens.unique {p q : Pool} (hp : Opens settings job t p) (hq : Opens settings job t q) :
    p = q := by
  obtain ⟨o, s, hc, hs⟩ := hp
  obtain ⟨o', s', hc', hs'⟩ := hq
  obtain rfl := Except.ok.inj (hc.symm.trans hc')
  exact Except.ok.inj (Prod.mk.inj (hs.symm.trans hs')).1

theorem Undone.unopened {t' : Tracer Observed} (hn : ∀ pool, ¬ Opens settings job t pool)
    (hblank : t'.host.host.Blank) (hpools : t'.supervisor.pools = t.supervisor.pools) :
    Undone settings job t t' :=
  ⟨hblank, fun pool h => absurd h.1 (hn pool), fun _ => ⟨hpools, fun _ pool h => absurd h (hn pool)⟩⟩

theorem Undone.withdrawn {pool : Pool} {u t' : Tracer Observed}
    (ho : Opens settings job t pool) (hn : ¬ Strands settings job t pool)
    (hw : Withdrawn settings job.poolId u t') (hfind : u.supervisor.find? job.poolId = some pool)
    (hothers : without u.supervisor.pools job.poolId = t.supervisor.pools) :
    Undone settings job t t' := by
  refine ⟨hw.host, ?_, fun _ => ⟨hw.pools.trans hothers, ?_⟩⟩
  · intro p hp
    obtain rfl := ho.unique hp.1
    exact absurd hp hn
  · intro hwait p hp
    obtain rfl := ho.unique hp
    exact hw.workers hwait _ hfind

theorem rejection_mended (h : Dispatch.Rejection f) :
    f.isOrdinary = true ∧ refusals.contains f.kind = false := by
  cases h with
  | carrier | pattern => exact ⟨rfl, rfl⟩
  | textless _ hf => cases f <;> first | exact ⟨rfl, rfl⟩ | cases hf

theorem refused_free {id size kind options : Value} {s s' : Supervisor} (hid : id.IsKey)
    (hpools : ∀ p ∈ s.pools, p.id.IsKey ∧ p.id.shown.isOk = true)
    (hs : (Supervisor.startPool settings id size kind options).on s = (.error f, s'))
    (hf : refusals.contains f.kind = false) : s.find? id = none := by
  have hm := Supervisor.startPool_opened settings id size kind options s
  rw [hs] at hm
  generalize hr : (Except.error f, s') = r at hm
  cases hm with
  | unhashable type hu =>
    rw [Value.unhashable?_of_isKey hid] at hu
    cases hu
  | refused f o hu hn ho => exact hn
  | opened text shown sinks o hu hn hp hs hsize hne => cases hr
  | occupied p hu hp =>
    obtain ⟨shown, hshown⟩ := Supervisor.shown_of_find? hpools hid hp
    obtain ⟨hout, -⟩ := Prod.mk.inj hr
    rw [hshown] at hout
    obtain rfl := Except.error.inj hout
    cases hf

theorem uncoerced_undone (hblank : t.host.host.Blank)
    (hc : Options.coerce settings job.options = .error f)
    (hstart : (start settings job).on t = (.error f, t)) :
    Undone settings job t ((job.run settings script).on t).2 := by
  have hnone : ∀ pool, ¬ Opens settings job t pool := by
    rintro pool ⟨o, s, hc', -⟩
    rw [hc] at hc'
    cases hc'
  obtain ⟨problems, rfl⟩ := Options.coerce_refused hc
  rw [run_failed hstart]
  exact .unopened hnone hblank rfl

section Run

variable (h : job.Asked settings) (hd : settings.defaultPoolId.IsKey)
include h hd

theorem opened {o : Options} {pool : Pool} {s : Supervisor}
    (hc : Options.coerce settings job.options = .ok o)
    (hs : (Tracer.requestPool settings job.sink job.sinkOptions o).on t.supervisor =
      (.ok pool, s)) :
    s.pools = t.supervisor.pools ++ [pool] ∧ (∀ k ∈ pool.workers, s.crew.Runs k) ∧
      s.find? job.poolId = some pool ∧ without s.pools job.poolId = t.supervisor.pools := by
  rw [Tracer.requestPool, h.coerce_poolId hc] at hs
  obtain ⟨text, shown, sinks, out, rfl, rfl, -, hn, -⟩ := Supervisor.startPool_ok hs
  obtain ⟨hfind, hwithout⟩ :=
    Supervisor.without_enroll text shown sinks out hn (Value.same_self (h.isKey hd))
  refine ⟨rfl, ?_, hfind, hwithout⟩
  intro k hk
  rw [Supervisor.enroll_runs]
  exact .inr hk

theorem applied_undone {o : Options} {pool : Pool} {s : Supervisor} {plan : List Value}
    {stage : Stage Observed} {target : Target} {r : Except Fault Unit}
    (hscript : Spares job.poolId (script job.launch))
    (hc : Options.coerce settings job.options = .ok o)
    (hs : (Tracer.requestPool settings job.sink job.sinkOptions o).on t.supervisor = (.ok pool, s))
    (hp : ((Plan.normalize (.list job.request)).on t.world).1 = .ok plan)
    (hr : Blames Dispatch.Rejection r)
    (hstart : (start settings job).on t = (r.map fun _ => target,
      { t.settle s with
        world := stage.world
        host := stage.host
        nextTarget := t.nextTarget + 1 })) :
    Undone settings job t ((job.run settings script).on t).2 := by
  obtain ⟨-, -, hfind, hothers⟩ := opened h hd hc hs
  have hopens : Opens settings job t pool := ⟨o, s, hc, hs⟩
  have hu := Value.unhashable?_of_isKey (h.isKey hd)
  have hn : ¬ Strands settings job t pool := by
    rintro ⟨-, g, hg, -⟩
    rw [hp] at hg
    cases hg
  cases r with
  | error f =>
    obtain ⟨hord, hrefused⟩ := rejection_mended (hr f rfl)
    rw [run_failed hstart, hord, hrefused]
    exact .withdrawn hopens hn (abandon_withdraws h hu _) hfind hothers
  | ok u =>
    rw [run_started hstart]
    exact .withdrawn hopens hn (execute_withdraws h hu _) ((hscript.found _).trans hfind)
      ((hscript.others _).trans hothers)

variable (hblank : t.host.host.Blank)
include hblank

theorem unstarted_undone {o : Options} {s : Supervisor}
    (hpools : ∀ p ∈ t.supervisor.pools, p.id.IsKey ∧ p.id.shown.isOk = true)
    (hc : Options.coerce settings job.options = .ok o)
    (hs : (Tracer.requestPool settings job.sink job.sinkOptions o).on t.supervisor = (.error f, s))
    (hstart : (start settings job).on t = (.error f, t.settle s)) :
    Undone settings job t ((job.run settings script).on t).2 := by
  have hnone : ∀ pool, ¬ Opens settings job t pool := by
    rintro pool ⟨o', s', hc', hs'⟩
    obtain rfl := Except.ok.inj (hc.symm.trans hc')
    rw [hs] at hs'
    cases hs'
  have hkey := h.isKey hd
  have hsame : (t.settle s).supervisor.pools = t.supervisor.pools := by
    obtain ⟨outlets, rfl⟩ := Supervisor.startPool_error hs
    rfl
  rw [run_failed hstart]
  split
  · rename_i hf
    have hr : refusals.contains f.kind = false := by simpa using (Bool.and_eq_true_iff.1 hf).2
    have hw := abandon_withdraws h (Value.unhashable?_of_isKey hkey) (t.settle s)
    rw [Tracer.requestPool, h.coerce_poolId hc] at hs
    refine .unopened hnone hw.host (hw.pools.trans ?_)
    rw [hsame]
    exact Supervisor.without_of_find?_none (refused_free hkey hpools hs hr)
  · exact .unopened hnone hblank hsame

theorem unplanned_undone {o : Options} {pool : Pool} {s : Supervisor} {w : World}
    (hc : Options.coerce settings job.options = .ok o)
    (hs : (Tracer.requestPool settings job.sink job.sinkOptions o).on t.supervisor = (.ok pool, s))
    (hf : ((Plan.normalize (.list job.request)).on t.world).1 = .error f) (hord : f.Ordinary)
    (hstart : (start settings job).on t =
      (.error f, { t.settle s with world := w, nextTarget := t.nextTarget + 1 })) :
    Undone settings job t ((job.run settings script).on t).2 := by
  obtain ⟨hpools, hruns, hfind, hothers⟩ := opened h hd hc hs
  have hopens : Opens settings job t pool := ⟨o, s, hc, hs⟩
  have hord' : f.isOrdinary = true := hord
  rw [run_failed hstart, hord']
  cases hr : refusals.contains f.kind with
  | true =>
    refine ⟨hblank, ?_, fun hn => absurd ⟨hopens, f, hf, hr⟩ (hn pool)⟩
    rintro p ⟨hp, -⟩
    obtain rfl := hopens.unique hp
    exact ⟨hpools, hruns⟩
  | false =>
    have hn : ¬ Strands settings job t pool := by
      rintro ⟨-, g, hg, hgr⟩
      obtain rfl := Except.error.inj (hf.symm.trans hg)
      rw [hr] at hgr
      cases hgr
    exact .withdrawn hopens hn
      (abandon_withdraws h (Value.unhashable?_of_isKey (h.isKey hd)) _) hfind hothers

end Run

/-- Whatever becomes of a job, its host is empty in the end, and the registry is as it was, with no
worker of the job's own pool running, unless its plan fails by a fault of a sort by which starts are
refused: then the pool is left running. Other pools may run from the start, under ids that are keys
and can be shown, as the ids of all pools that were ever started. -/
theorem run_undone {isScript : String → Bool} {args : List String}
    (hread : Command.read settings isScript args = .ok (.run job))
    (hd : settings.defaultPoolId.IsKey)
    (hpools : ∀ p ∈ t.supervisor.pools, p.id.IsKey ∧ p.id.shown.isOk = true)
    (hw : OrdinaryModules t.world.modules) (hhost : t.host.host = {})
    (hscript : Spares job.poolId (script job.launch)) :
    Undone settings job t (((Command.run job).perform settings script).on t).2 := by
  have h := Command.read_asked hread
  have hblank : t.host.host.Blank := by
    rw [hhost]
    exact ⟨rfl, rfl, rfl, rfl, rfl, rfl, rfl⟩
  have hm := Tracer.trace_traced settings (.list job.request) job.sink job.sinkOptions job.options t
  change Undone settings job t ((job.run settings script).on t).2
  generalize hstart : (Tracer.trace settings (.list job.request) job.sink job.sinkOptions
    job.options).on t = result at hm
  cases hm with
  | uncoerced f hc => exact uncoerced_undone hblank hc hstart
  | unstarted o f s hc hs => exact unstarted_undone h hd hblank hpools hc hs hstart
  | unplanned o pool s f w hc hs hp =>
    obtain ⟨hf, -⟩ := Tracer.normalize_settle hp
    have hord := (Plan.normalize_mild (.list job.request) t.world).faults hw f hf
    exact unplanned_undone h hd hblank hc hs hf hord hstart
  | applied o pool s plan w r stage hc hs hp ha =>
    obtain ⟨hplan, -, hmodules⟩ := Tracer.normalize_settle hp
    have hr := Dispatch.apply_blames Observed.enter_takes o (t.targetOf o pool) plan
      (s := ⟨w, t.host⟩) (hmodules ▸ hw.1 : OrdinaryBodies w.modules)
    rw [ha] at hr
    exact applied_undone h hd hscript hc hs hplan hr hstart

def calling (outcome : Except Fault Value) : Tracer Observed where
  world := {
    modules := [⟨"m", false, none, [("app", .function outcome)]⟩]
    bundles := .declared [] }
  supervisor := {}
  host := { threads := default }

theorem run_undone_raised :
    ∃ job, Command.read {} (fun _ => true) ["run", "script.py", "-c", "m:app"] = .ok (.run job) ∧
      let t' := (((Command.run job).perform {} fun _ => pure ()).on
        (calling (.error (.raised "ValueError" "boom")))).2
      t'.host.host.Blank ∧ t'.supervisor.pools = [] := by
  have hread : Command.read {} (fun _ => true) ["run", "script.py", "-c", "m:app"] =
    .ok (.run _) := rfl
  have hmodules : OrdinaryModules
      (calling (.error (.raised "ValueError" "boom"))).world.modules := by
    constructor
    · intro m hm f hf
      obtain rfl := List.mem_singleton.1 hm
      cases hf
    · intro m hm name f hf
      obtain rfl := List.mem_singleton.1 hm
      cases List.mem_singleton.1 hf
      rfl
  have hundone : Undone {} _ (calling (.error (.raised "ValueError" "boom")))
      (((Command.run _).perform {} fun _ => pure ()).on _).2 :=
    run_undone hread trivial (by rintro p ⟨⟩) hmodules rfl ⟨fun _ => rfl, fun _ => rfl⟩
  refine ⟨_, hread, hundone.host, (hundone.restored ?_).1⟩
  rintro pool ⟨-, f, hf, hr⟩
  obtain rfl := Except.error.inj hf
  cases hr

/-- A callback builds an entry that is refused. The command ends, and the pool goes on. -/
theorem run_strands :
    ∃ job, Command.read {} (fun _ => true) ["run", "script.py", "-c", "m:app"] = .ok (.run job) ∧
      let t' := (((Command.run job).perform {} fun _ => pure ()).on
        (calling (Entry.app (.int 5)))).2
      t'.supervisor.pools.map (·.id.shown) = [.ok "'default'"] ∧
        ∀ k ∈ [0, 1], t'.supervisor.crew.Runs k := by
  refine ⟨_, rfl, rfl, ?_⟩
  simp only [List.forall_mem_cons]
  exact ⟨⟨_, rfl, rfl⟩, ⟨_, rfl, rfl⟩, by simp⟩

end Job

end ThreadTrace
