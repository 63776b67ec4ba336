import ThreadTrace.Proofs.Pool.Shared

namespace ThreadTrace

namespace SharedSupervisor

variable {settings : Settings}

theorem run_append (o : SharedSupervisor) (ts us : List Turn) :
    o.run settings (ts ++ us) = (o.run settings ts).run settings us := List.foldl_append ..

theorem run_takes (o : SharedSupervisor) (k m : Nat) :
    o.run settings (List.replicate m (.take k)) =
      { o with supervisor.crew :=
        (o.supervisor.crew.traffic default (List.replicate m (.take k))).1 } := by
  induction m generalizing o with
  | zero => rfl
  | succ m ih =>
    rw [List.replicate_succ, List.replicate_succ, Crew.traffic_cons]
    exact ih _

/-- A single stop, undisturbed, has got on: it stands where the given one stands, and the supervisor
stands as the given one. -/
structure Reached (o : SharedSupervisor) (e : PendingStop) (s : Supervisor) : Prop where
  pendingStops : o.pendingStops = [e]
  pools : o.supervisor.pools = s.pools
  crew : o.supervisor.crew.Alike s.crew

theorem run_proceed (settings : Settings) {o : SharedSupervisor} {e : PendingStop}
    (he : o.pendingStops = [e]) :
    o.run settings [.proceed 0] = ⟨(e.next o.supervisor).2.1, [(e.next o.supervisor).1],
      o.log ++ (e.next o.supervisor).2.2⟩ := by
  simp [run, turn, he]

namespace Reached

variable {o : SharedSupervisor} {e : PendingStop} {s : Supervisor}

theorem worker? (h : Reached o e s) (k : Nat) : o.supervisor.crew.worker? k = s.crew.worker? k := by
  rw [Crew.worker?, h.crew.workers]
  rfl

theorem next_marks (h : Reached o e s) (ho : e.outcome = none) (ha : e.awaited = none) {k : Nat}
    {left : List Nat} (hl : e.left = k :: left) {w : Worker} (hw : s.crew.worker? k = some w) :
    e.next o.supervisor =
      ({ e with left, awaited := if w.running then some k else none },
        { o.supervisor with crew := o.supervisor.crew.putWorker k w.stop }, []) := by
  simp [PendingStop.next, ho, ha, hl, h.worker? k, hw]

/-- A worker that runs is marked, then its thread takes steps while it is waited for. -/
theorem stop_running (settings : Settings) (h : Reached o e s) (ho : e.outcome = none)
    (ha : e.awaited = none) {k : Nat} {left : List Nat} (hl : e.left = k :: left) {w : Worker}
    (hw : s.crew.worker? k = some w) (hr : w.running = true) :
    ∃ ts, match (Crew.stop e.limit k).on s.crew with
      | (.ok _, c) => Reached (o.run settings ts) { e with left } { s with crew := c }
      | (.error f, c) => ∃ e', e'.outcome = some (.error f) ∧
        Reached (o.run settings ts) e' { s with crew := c } := by
  have hnext := h.next_marks ho ha hl hw
  obtain ⟨m, hm⟩ := Crew.stop_traffic default e.limit hw
  have hout := Crew.stop_outcome e.limit hw hr
  have hput : (o.supervisor.crew.putWorker k w.stop).Alike (s.crew.putWorker k w.stop) :=
    ⟨by rw [Crew.putWorker, Crew.putWorker, h.crew.workers], h.crew.outlets⟩
  have hled := hput.traffic default (List.replicate m (.take k))
  have hcrew : ((o.supervisor.crew.putWorker k w.stop).traffic default
      (List.replicate m (.take k))).1.Alike ((Crew.stop e.limit k).on s.crew).2 :=
    ⟨hled.workers.trans hm.workers.symm, hled.outlets.trans hm.outlets.symm⟩
  have hawait : w.stop.await e.limit = w.await e.limit := by simp [Worker.stop, hr, Worker.await]
  have hstop := Crew.putWorker_worker? ((h.worker? k).trans hw) w.stop
  rw [hr, if_pos rfl] at hnext
  -- the first turn puts the marker, the second begins the wait
  refine ⟨[.proceed 0] ++ ([.proceed 0] ++ List.replicate m (.take k)), ?_⟩
  rw [run_append, run_proceed settings h.pendingStops, hnext, run_append, run_proceed settings rfl,
    run_takes]
  cases hs : (Crew.stop e.limit k).on s.crew with
  | mk r c =>
    rw [hs] at hout hcrew
    obtain rfl : r = w.await e.limit := hout
    cases haw : w.await e.limit with
    | ok u =>
      simp only [PendingStop.next, ho, hstop, Option.map_some, hawait, haw]
      refine ⟨?_, h.pools, hcrew⟩
      rw [← ha]
    | error f =>
      simp only [PendingStop.next, ho, hstop, Option.map_some, hawait, haw]
      exact ⟨_, rfl, rfl, h.pools, hcrew⟩

theorem stop (settings : Settings) (h : Reached o e s) (ho : e.outcome = none)
    (ha : e.awaited = none) {k : Nat} {left : List Nat} (hl : e.left = k :: left) :
    ∃ ts, match (Crew.stop e.limit k).on s.crew with
      | (.ok _, c) => Reached (o.run settings ts) { e with left } { s with crew := c }
      | (.error f, c) => ∃ e', e'.outcome = some (.error f) ∧
        Reached (o.run settings ts) e' { s with crew := c } := by
  have hmark := run_proceed settings h.pendingStops
  cases hw : s.crew.worker? k with
  | none =>
    have hs : (Crew.stop e.limit k).on s.crew = (.ok (), s.crew) := by simp [Crew.stop, hw]
    have hnext : e.next o.supervisor = ({ e with left }, o.supervisor, []) := by
      simp [PendingStop.next, ho, ha, hl, h.worker? k, hw]
    refine ⟨[.proceed 0], ?_⟩
    rw [hs, hmark, hnext]
    exact ⟨rfl, h.pools, h.crew⟩
  | some w =>
    cases hr : w.running with
    | false =>
      have hs : (Crew.stop e.limit k).on s.crew = (.ok (), s.crew) := by simp [Crew.stop, hw, hr]
      have hput : o.supervisor.crew.putWorker k w.stop = o.supervisor.crew := by
        simp [Worker.stop, hr, Crew.putWorker, Crew.set_worker ((h.worker? k).trans hw)]
      have he : ({ e with left, awaited := if false = true then some k else none } : PendingStop) =
          { e with left } := by simp [ha]
      refine ⟨[.proceed 0], ?_⟩
      rw [hs, hmark, h.next_marks ho ha hl hw, hput, hr, he]
      exact ⟨rfl, h.pools, h.crew⟩
    | true => exact h.stop_running settings ho ha hl hw hr

theorem stopAll (settings : Settings) {ws : List Nat} (h : Reached o e s)
    (ho : e.outcome = none) (ha : e.awaited = none) (hl : e.left = ws) :
    ∃ ts, match (Crew.stopAll e.limit ws).on s.crew with
      | (.ok _, c) => Reached (o.run settings ts) { e with left := [] } { s with crew := c }
      | (.error f, c) => ∃ e', e'.outcome = some (.error f) ∧
        Reached (o.run settings ts) e' { s with crew := c } := by
  induction ws generalizing o e s with
  | nil =>
    refine ⟨[], ?_⟩
    have he : ({ e with left := [] } : PendingStop) = e := by rw [← hl]
    rw [he]
    exact h
  | cons k ws ih =>
    obtain ⟨ts, hts⟩ := h.stop settings ho ha hl
    rw [Crew.stopAll, Act.on_bind]
    cases hs : (Crew.stop e.limit k).on s.crew with
    | mk r c =>
      rw [hs] at hts
      cases r with
      | error f => exact ⟨ts, hts⟩
      | ok u =>
        obtain ⟨us, hus⟩ := ih hts ho ha rfl
        exact ⟨ts ++ us, by rw [run_append]; exact hus⟩

end Reached

/-- A stop that is about to take out the next pool. -/
structure Ready (limit : Value) (lenient : Bool) (ids : List Value) (e : PendingStop) : Prop where
  outcome : e.outcome = none
  awaited : e.awaited = none
  left : e.left = []
  limit : e.limit = limit
  lenient : e.lenient = lenient
  ids : e.ids = ids

def fault? (lenient : Bool) : Except Fault Unit → Option Fault
  | .ok () => none
  | .error (.notRunning shown) => if lenient then none else some (.notRunning shown)
  | .error f => some f

theorem fault?_outside (lenient : Bool) {f : Fault} (hf : f.Outside) :
    fault? lenient (.error f) = some f := by
  cases f <;> first | rfl | cases hf

theorem Reached.stopPool {o : SharedSupervisor} {e : PendingStop} {s : Supervisor} {timeout id : Value}
    {ids : List Value} {lenient : Bool} {shown : String} (h : Reached o e s)
    (he : Ready (Supervisor.limitOf settings timeout) lenient (id :: ids) e)
    (hu : id.unhashable? = none) (hs : id.shown = .ok shown) :
    ∃ ts e', Reached (o.run settings ts) e' ((Supervisor.stopPool settings id timeout).on s).2 ∧
      match fault? lenient ((Supervisor.stopPool settings id timeout).on s).1 with
      | none => Ready (Supervisor.limitOf settings timeout) lenient ids e'
      | some f => e'.outcome = some (.error f) := by
  have hproceed := run_proceed settings h.pendingStops
  have hfind : o.supervisor.find? id = s.find? id := by rw [Supervisor.find?, h.pools]; rfl
  have htake := Supervisor.takePool_on hu o.supervisor
  have hnext : e.next o.supervisor = e.enter id ids o.supervisor := by
    simp [PendingStop.next, he.outcome, he.awaited, he.left, he.ids]
  rw [hfind] at htake
  cases hp : s.find? id with
  | none =>
    rw [hp, Supervisor.without_of_find?_none (hfind.trans hp)] at htake
    rw [Supervisor.stopPool_none settings timeout hu hp, hs]
    refine ⟨[.proceed 0], if lenient then { e with ids } else e.fail (.notRunning shown), ?_, ?_⟩
    · rw [hproceed, hnext, PendingStop.enter, htake]
      simp only [hs, he.lenient]
      exact ⟨rfl, h.pools, h.crew⟩
    · cases lenient with
      | false => rfl
      | true => exact ⟨he.outcome, he.awaited, he.left, he.limit, he.lenient, rfl⟩
  | some p =>
    obtain ⟨hpools, hcrew, hout⟩ := Supervisor.stopPool_some settings timeout hu hp
    have hentered : Reached (o.run settings [.proceed 0])
        { e with ids, pool := some p, left := p.workers }
        { s with pools := Supervisor.without s.pools id } := by
      rw [hproceed, hnext, PendingStop.enter, htake, hp]
      exact ⟨rfl, by rw [h.pools], h.crew⟩
    obtain ⟨ts, hts⟩ := hentered.stopAll settings he.outcome he.awaited rfl
    rw [hs] at hout
    simp only [he.limit] at hts
    refine ⟨[.proceed 0] ++ ts, ?_⟩
    rw [run_append]
    cases hr : (Crew.stopAll (Supervisor.limitOf settings timeout) p.workers).on s.crew with
    | mk r c =>
      rw [hr] at hts hcrew hout
      have landed : ∀ {o' : SharedSupervisor} {e' : PendingStop},
          Reached o' e' { s with pools := Supervisor.without s.pools id, crew := c } →
            Reached o' e' ((Supervisor.stopPool settings id timeout).on s).2 := by
        intro o' e' h'
        exact ⟨h'.pendingStops, h'.pools.trans hpools.symm, h'.crew.workers.trans hcrew.workers.symm,
          h'.crew.outlets.trans hcrew.outlets.symm⟩
      cases r with
      | ok u =>
        rw [hout]
        exact ⟨_, landed hts, he.outcome, he.awaited, rfl, rfl, he.lenient, rfl⟩
      | error f =>
        obtain ⟨e', hfail, hreached⟩ := hts
        rw [hout]
        refine ⟨e', landed hreached, ?_⟩
        have hf := Crew.stopAll_raises (Supervisor.limitOf settings timeout) p.workers s.crew f
          (by rw [hr])
        simpa [Except.bind, fault?_outside lenient hf] using hfail

theorem Reached.finish {o : SharedSupervisor} {e : PendingStop} {s : Supervisor} {limit : Value}
    {lenient : Bool} (settings : Settings) (h : Reached o e s) (he : Ready limit lenient [] e) :
    Reached (o.run settings [.proceed 0]) { e with outcome := some (.ok ()) } s := by
  have hnext : e.next o.supervisor = ({ e with outcome := some (.ok ()) }, o.supervisor, []) := by
    simp [PendingStop.next, he.outcome, he.awaited, he.left, he.ids]
  rw [run_proceed settings h.pendingStops, hnext]
  exact ⟨rfl, h.pools, h.crew⟩

/-- A stop that is left to itself does what stopping a pool does at once. -/
theorem stopPool_run (settings : Settings) {s : Supervisor} {id : Value} (timeout : Value)
    {shown : String} (hu : id.unhashable? = none) (hs : id.shown = .ok shown) :
    ∃ ts e, Reached (run settings ⟨s, [], []⟩ (.stop id timeout :: ts)) e
        ((Supervisor.stopPool settings id timeout).on s).2 ∧
      e.outcome = some ((Supervisor.stopPool settings id timeout).on s).1 := by
  have hstart : Reached (run settings ⟨s, [], []⟩ [.stop id timeout])
      ⟨Supervisor.limitOf settings timeout, [id], false, none, [], none, none⟩ s :=
    ⟨rfl, rfl, rfl, rfl⟩
  obtain ⟨ts, e, hreached, hout⟩ := hstart.stopPool ⟨rfl, rfl, rfl, rfl, rfl, rfl⟩ hu hs
  rw [← run_append] at hreached
  cases hr : ((Supervisor.stopPool settings id timeout).on s).1 with
  | error f =>
    have hf : fault? false (.error f) = some f := by cases f <;> rfl
    rw [hr, hf] at hout
    exact ⟨ts, e, hreached, hout⟩
  | ok u =>
    rw [hr] at hout
    refine ⟨ts ++ [.proceed 0], { e with outcome := some (.ok ()) }, ?_, rfl⟩
    have hlast := hreached.finish settings hout
    rw [← run_append] at hlast
    exact hlast

theorem stopEach_on (settings : Settings) (id : Value) (ids : List Value) (s : Supervisor) :
    (Supervisor.stopEach settings (id :: ids)).on s =
      match fault? true ((Supervisor.stopPool settings id .null).on s).1 with
      | none => (Supervisor.stopEach settings ids).on ((Supervisor.stopPool settings id .null).on s).2
      | some f => (.error f, ((Supervisor.stopPool settings id .null).on s).2) := by
  rw [Supervisor.stopEach, Act.on_bind, Act.attempt, Act.on_of]
  cases (Supervisor.stopPool settings id .null).on s with
  | mk r s' =>
    cases r with
    | ok u => rfl
    | error f => cases f <;> rfl

theorem Reached.stopEach {o : SharedSupervisor} {e : PendingStop} {s : Supervisor} {ids : List Value}
    (settings : Settings) (h : Reached o e s) (he : Ready settings.joinTimeout true ids e)
    (hids : ∀ id ∈ ids, id.unhashable? = none ∧ id.shown.isOk = true) :
    ∃ ts e', Reached (o.run settings ts) e' ((Supervisor.stopEach settings ids).on s).2 ∧
      e'.outcome = some ((Supervisor.stopEach settings ids).on s).1 := by
  induction ids generalizing o e s with
  | nil => exact ⟨[.proceed 0], _, h.finish settings he, rfl⟩
  | cons id ids ih =>
    obtain ⟨⟨hu, hs⟩, hrest⟩ := List.forall_mem_cons.1 hids
    cases hi : id.shown with
    | error f =>
      rw [hi] at hs
      cases hs
    | ok shown =>
      have hl : Supervisor.limitOf settings .null = settings.joinTimeout := rfl
      rw [← hl] at he
      obtain ⟨ts, e', hreached, hout⟩ := h.stopPool he hu hi
      rw [stopEach_on]
      cases hf : fault? true ((Supervisor.stopPool settings id .null).on s).1 with
      | some f =>
        rw [hf] at hout
        exact ⟨ts, e', hreached, hout⟩
      | none =>
        rw [hf] at hout
        obtain ⟨us, e'', hreached', hout'⟩ := ih hreached hout hrest
        exact ⟨ts ++ us, e'', by rw [run_append]; exact hreached', hout'⟩

theorem stopAll_run (settings : Settings) {s : Supervisor}
    (hids : ∀ id ∈ s.running, id.unhashable? = none ∧ id.shown.isOk = true) :
    ∃ ts e, Reached (run settings ⟨s, [], []⟩ (.stopAll :: ts)) e
        ((Supervisor.stopAll settings).on s).2 ∧
      e.outcome = some ((Supervisor.stopAll settings).on s).1 := by
  have hstart : Reached (run settings ⟨s, [], []⟩ [.stopAll])
      ⟨settings.joinTimeout, s.running, true, none, [], none, none⟩ s := ⟨rfl, rfl, rfl, rfl⟩
  exact hstart.stopEach settings ⟨rfl, rfl, rfl, rfl, rfl, rfl⟩ hids

end SharedSupervisor

end ThreadTrace
