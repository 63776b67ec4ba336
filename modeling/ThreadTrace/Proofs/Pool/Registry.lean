import ThreadTrace.Pool.Supervisor
import ThreadTrace.Proofs.Pool.Started
import ThreadTrace.Proofs.Value.Sameness

namespace ThreadTrace

def Value.Waitable (limit : Value) : Prop :=
  ∃ wait, Wait.ofValue limit = .ok wait ∧ wait.checkStart = .ok ()

namespace Wait

theorem ofValue_outside (v : Value) : Blames Fault.Outside (ofValue v) := by
  unfold ofValue
  split
  · exact Blames.ok _
  · exact Blames.ok _
  · exact Blames.ok _
  · split
    · exact Blames.ok _
    · exact Blames.error rfl

theorem checkStart_outside (w : Wait) : Blames Fault.Outside w.checkStart := by
  unfold checkStart
  split
  · exact Blames.ok _
  · exact Blames.error rfl
  · split
    · exact Blames.ok _
    · exact Blames.error rfl
  · dsimp only
    split
    · exact Blames.error rfl
    · exact Blames.ok _

end Wait

namespace Worker

def await (limit : Value) (w : Worker) : Except Fault Unit := do
  let wait ← Wait.ofValue limit
  if w.life ≠ .finished then wait.checkStart

theorem await_outside (limit : Value) (w : Worker) : Blames Fault.Outside (w.await limit) := by
  refine (Wait.ofValue_outside limit).bind fun wait => ?_
  split
  · exact wait.checkStart_outside
  · exact Blames.ok _

theorem await_of_ofValue {limit : Value} {wait : Wait} (h : Wait.ofValue limit = .ok wait)
    (w : Worker) : w.await limit = if w.life = .finished then .ok () else wait.checkStart := by
  rw [await, h]
  by_cases hf : w.life = .finished
  · simp only [hf]
    rfl
  · simp [hf, bind, Except.bind]

theorem await_ok {limit : Value} (h : limit.Waitable) (w : Worker) : w.await limit = .ok () := by
  obtain ⟨wait, hv, hs⟩ := h
  rw [await_of_ofValue hv, hs]
  split <;> rfl

def post (w : Worker) : Value × Bool := (w.index, w.running)

theorem stop_post (w : Worker) : w.stop.post = (w.index, false) := by
  cases hr : w.running <;> simp [stop, post, hr]

@[simp] theorem send_post (w : Worker) (e : Event) : (w.send e).2.post = w.post := by
  cases hr : w.running <;> simp [send, post, hr]

@[simp] theorem take_post (w : Worker) (o : Outlets) : (w.take o).1.post = w.post := by
  rw [take]
  split
  · rfl
  · split <;> rfl

end Worker

namespace Crew

variable {c : Crew}

def Runs (c : Crew) (k : Nat) : Prop := ∃ w, c.worker? k = some w ∧ w.running = true

def posts (c : Crew) : List (Value × Bool) := c.workers.map Worker.post

theorem posts_get (c : Crew) (k : Nat) : c.posts[k]? = (c.worker? k).map Worker.post :=
  List.getElem?_map ..

theorem runs_iff {k : Nat} : c.Runs k ↔ ∃ i, c.posts[k]? = some (i, true) := by
  rw [posts_get]
  cases hw : c.worker? k <;> simp [Runs, hw, Worker.post]

theorem posts_put (c : Crew) (k : Nat) (w : Worker) :
    (c.putWorker k w).posts = c.posts.set k w.post := List.map_set ..

theorem set_post {k : Nat} {w v : Worker} (hw : c.worker? k = some w) (hp : v.post = w.post) :
    (c.workers.set k v).map Worker.post = c.posts := by
  rw [List.map_set, hp, ← List.map_set, set_worker hw]
  rfl

theorem takeAt_posts {k : Nat} {w : Worker} (hw : c.worker? k = some w) :
    (c.takeAt k w).posts = c.posts := set_post hw (w.take_post c.outlets)

theorem act_posts {t : Target} {x : Action} (hx : ∀ k, x ≠ .stop k) :
    (c.act t x).1.posts = c.posts := by
  have ha := acted t c x
  generalize c.act t x = y at ha ⊢
  cases ha with
  | idle => rfl
  | send e k w hr hw => exact set_post hw (w.send_post e)
  | take k w hw => exact takeAt_posts hw
  | stop k w hw => exact absurd rfl (hx k)

theorem takes_posts (t : Target) (k m : Nat) (c : Crew) :
    (c.traffic t (List.replicate m (.take k))).1.posts = c.posts := by
  induction m generalizing c with
  | zero => rfl
  | succ m ih =>
    rw [List.replicate_succ, traffic_cons]
    exact (ih _).trans (act_posts (by simp))

theorem takes_others (t : Target) {k j : Nat} (hj : j ≠ k) (m : Nat) (c : Crew) :
    (c.traffic t (List.replicate m (.take k))).1.worker? j = c.worker? j := by
  induction m generalizing c with
  | zero => rfl
  | succ m ih =>
    rw [List.replicate_succ, traffic_cons]
    rw [ih]
    cases hw : c.worker? k with
    | none => simp [act, hw]
    | some w =>
      simp only [act, hw]
      exact List.getElem?_set_ne (Ne.symm hj)

theorem runs_set {k j : Nat} {i : Value} :
    (∃ i', (c.posts.set k (i, false))[j]? = some (i', true)) ↔ j ≠ k ∧ c.Runs j := by
  rw [runs_iff]
  by_cases hj : j = k
  · subst hj
    by_cases hl : j < c.posts.length <;> simp [hl]
  · simp [List.getElem?_set_ne (Ne.symm hj), hj]

theorem join_on (wait : Wait) {k : Nat} {w : Worker} (hw : c.worker? k = some w) :
    (join wait k).on c = match if w.life = .finished then .ok () else wait.checkStart with
      | .ok () => (.ok (), if wait.isOver then c else c.settle k)
      | .error f => (.error f, c) := by
  rw [join]
  simp only [Act.on_bind, Act.on_get, hw]
  by_cases ho : wait.isOver = true <;> by_cases hf : w.life = .finished
  · simp [ho, hf]
  · cases wait.checkStart <;> simp [ho, hf]
  · simp [ho, hf]
  · cases wait.checkStart <;> simp [ho, hf]

/-- A stop fails exactly if the wait cannot begin, and then the worker's thread has not gone on. -/
theorem stop_running (t : Target) (limit : Value) {k : Nat} {w : Worker}
    (hw : c.worker? k = some w) (hr : w.running = true) :
    (∃ f, w.await limit = .error f ∧ (stop limit k).on c = (.error f, c.putWorker k w.stop)) ∨
      w.await limit = .ok () ∧ ((stop limit k).on c).1 = .ok () ∧
        Led t k (c.putWorker k w.stop) ((stop limit k).on c).2 := by
  have hput := putWorker_worker? hw w.stop
  have hlife : w.stop.life = w.life := by rw [Worker.stop, hr]; rfl
  rw [stop]
  simp only [Act.on_bind, Act.on_get, hw, hr, Bool.not_true, Bool.false_eq_true, if_false,
    Act.on_set, Act.on_result, Act.on_modify]
  cases hv : Wait.ofValue limit with
  | error f =>
    refine .inl ⟨f, ?_, rfl⟩
    rw [Worker.await, hv]
    rfl
  | ok wait =>
    rw [w.await_of_ofValue hv]
    simp only [join_on wait hput, hlife]
    cases (if w.life = .finished then .ok () else wait.checkStart : Except Fault Unit) with
    | error f => exact .inl ⟨f, rfl, rfl⟩
    | ok u =>
      refine .inr ⟨rfl, rfl, ?_⟩
      have hwaited : Led t k (c.putWorker k w.stop)
          (if wait.isOver then c.putWorker k w.stop else (c.putWorker k w.stop).settle k) := by
        split
        · exact .of_alike ⟨rfl, rfl⟩
        · exact .settle t _ k
      exact (hwaited.trans (.of_alike (noteSlow_alike _ wait k))).trans (.settle t _ k)

/-- Stopping a worker is traffic: its stop, and then steps of its thread. -/
theorem stop_traffic (t : Target) (limit : Value) {k : Nat} {w : Worker}
    (hw : c.worker? k = some w) :
    Led t k (c.putWorker k w.stop) ((stop limit k).on c).2 := by
  cases hr : w.running with
  | false =>
    have hs : c.putWorker k w.stop = c := by
      simp [Worker.stop, hr, putWorker, set_worker hw]
    have hstop : (stop limit k).on c = (.ok (), c) := by simp [stop, hw, hr]
    rw [hs, hstop]
    exact .of_alike ⟨rfl, rfl⟩
  | true =>
    obtain ⟨f, -, hstop⟩ | ⟨-, -, hled⟩ := stop_running t limit hw hr
    · rw [hstop]
      exact .of_alike ⟨rfl, rfl⟩
    · exact hled

theorem stop_on (limit : Value) (k : Nat) (c : Crew) :
    ¬ ((stop limit k).on c).2.Runs k ∧
      ∀ j, j ≠ k → ((stop limit k).on c).2.worker? j = c.worker? j := by
  cases hw : c.worker? k with
  | none =>
    have hs : (stop limit k).on c = (.ok (), c) := by simp [stop, hw]
    rw [hs]
    refine ⟨?_, fun _ _ => rfl⟩
    rintro ⟨w, hw', -⟩
    rw [hw] at hw'
    cases hw'
  | some w =>
    obtain ⟨m, hws, -⟩ := stop_traffic default limit hw
    have hposts : ((stop limit k).on c).2.posts = c.posts.set k (w.index, false) := by
      have hmap := congrArg (List.map Worker.post) hws
      exact hmap.trans ((takes_posts default k m _).trans (by rw [posts_put, w.stop_post]))
    constructor
    · rw [runs_iff, hposts, runs_set]
      exact fun h => h.1 rfl
    · intro j hj
      rw [worker?, hws]
      exact (takes_others default hj m _).trans (List.getElem?_set_ne (Ne.symm hj))

theorem stop_outcome (limit : Value) {k : Nat} {w : Worker} (hw : c.worker? k = some w)
    (hr : w.running = true) : ((stop limit k).on c).1 = w.await limit := by
  obtain ⟨f, ha, hs⟩ | ⟨ha, hs, -⟩ := stop_running default limit hw hr
  · rw [hs, ha]
  · rw [hs, ha]

theorem stop_cases (limit : Value) (k : Nat) (c : Crew) :
    ((stop limit k).on c).1 = .ok () ∨ ∃ w : Worker, ((stop limit k).on c).1 = w.await limit := by
  cases hw : c.worker? k with
  | none => exact .inl (by simp [stop, hw])
  | some w =>
    cases hr : w.running with
    | false => exact .inl (by simp [stop, hw, hr])
    | true => exact .inr ⟨w, stop_outcome limit hw hr⟩

theorem stop_ok {limit : Value} (h : limit.Waitable) (k : Nat) (c : Crew) :
    ((stop limit k).on c).1 = .ok () := by
  obtain hok | ⟨w, hw⟩ := stop_cases limit k c
  · exact hok
  · rw [hw, w.await_ok h]

theorem stopAll_raises (limit : Value) (ws : List Nat) :
    Act.Raises Fault.Outside (stopAll limit ws) := by
  induction ws with
  | nil => exact .pure _
  | cons k ws ih =>
    refine Act.Raises.bind (fun c => ?_) fun _ => ih
    obtain hok | ⟨w, hw⟩ := stop_cases limit k c
    · rw [hok]
      exact Blames.ok _
    · rw [hw]
      exact w.await_outside limit

theorem stopAll_others {limit : Value} {ws : List Nat} {j : Nat} (hj : j ∉ ws) (c : Crew) :
    ((stopAll limit ws).on c).2.worker? j = c.worker? j := by
  induction ws generalizing c with
  | nil => rfl
  | cons k ws ih =>
    obtain ⟨hne, hj⟩ := not_or.1 (mt List.mem_cons.2 hj)
    have hk := (stop_on limit k c).2 j hne
    rw [stopAll, Act.on_bind]
    cases hs : (stop limit k).on c with
    | mk r c₁ =>
      rw [hs] at hk
      cases r with
      | error f => exact hk
      | ok u => exact (ih hj c₁).trans hk

theorem stopAll_ok {limit : Value} (h : limit.Waitable) (ws : List Nat) (c : Crew) :
    ((stopAll limit ws).on c).1 = .ok () ∧ ∀ k ∈ ws, ¬ ((stopAll limit ws).on c).2.Runs k := by
  induction ws generalizing c with
  | nil => exact ⟨rfl, by simp⟩
  | cons k ws ih =>
    have hok := stop_ok h k c
    have hk := (stop_on limit k c).1
    rw [stopAll, Act.on_bind]
    cases hs : (stop limit k).on c with
    | mk r c₁ =>
      rw [hs] at hok hk
      obtain rfl : r = .ok () := hok
      obtain ⟨hr, hrest⟩ := ih c₁
      refine ⟨hr, ?_⟩
      intro j hj
      by_cases hjw : j ∈ ws
      · exact hrest j hjw
      · obtain rfl := (List.mem_cons.1 hj).resolve_right hjw
        rintro ⟨w, hw, hrun⟩
        rw [stopAll_others hjw] at hw
        exact hk ⟨w, hw, hrun⟩

end Crew

namespace Supervisor

variable {s : Supervisor} {id : Value}

theorem inCrew_on (act : Act Crew α) (s : Supervisor) :
    (inCrew act).on s = ((act.on s.crew).1, { s with crew := (act.on s.crew).2 }) := rfl

def nextPool (s : Supervisor) (id : Value) (size : Nat) : Pool :=
  ⟨id, List.range' s.crew.workers.length size⟩

/-- The supervisor once a pool with these sinks has been started. -/
def enroll (s : Supervisor) (id : Value) (text shown : String) (sinks : List Sink) (o : Outlets) :
    Supervisor where
  crew := { s.crew with
    workers := s.crew.workers ++ (Crew.staff text 0 sinks).map Worker.launched
    outlets := o
    notices := s.crew.notices ++ [.poolStarted shown sinks.length] }
  pools := s.pools ++ [s.nextPool id sinks.length]

section Enroll

variable (id : Value) (text shown : String) (sinks : List Sink) (o : Outlets)

theorem enroll_old {k : Nat} (hk : k < s.crew.workers.length) :
    (s.enroll id text shown sinks o).crew.worker? k = s.crew.worker? k :=
  List.getElem?_append_left hk

theorem enroll_new {i : Nat} (hi : i < sinks.length) :
    ∃ w, (s.enroll id text shown sinks o).crew.worker? (s.crew.workers.length + i) = some w ∧
      w.index = .int i ∧ w.running = true := by
  have hl : i < (Crew.staff text 0 sinks).length := by rwa [Crew.staff_length]
  have hget : (Crew.staff text 0 sinks)[i]? = some (Crew.staff text 0 sinks)[i] :=
    List.getElem?_eq_getElem hl
  have hindex := Crew.staff_index hget
  rw [Nat.zero_add] at hindex
  refine ⟨(Crew.staff text 0 sinks)[i].launched, ?_, hindex, rfl⟩
  rw [Crew.worker?, enroll, List.getElem?_append_right (by omega), Nat.add_sub_cancel_left,
    List.getElem?_map, hget]
  rfl

theorem enroll_runs {k : Nat} :
    (s.enroll id text shown sinks o).crew.Runs k ↔
      s.crew.Runs k ∨ k ∈ (s.nextPool id sinks.length).workers := by
  rw [nextPool]
  by_cases hk : k < s.crew.workers.length
  · have hold := enroll_old id text shown sinks o hk
    have hnew : k ∉ List.range' s.crew.workers.length sinks.length := by
      rw [List.mem_range'_1]
      omega
    simp only [Crew.Runs, hold, hnew, or_false]
  · have hold : ¬ s.crew.Runs k := by
      rintro ⟨w, hw, -⟩
      exact hk (List.getElem?_eq_some_iff.1 hw).1
    rw [List.mem_range'_1]
    constructor
    · rintro ⟨w, hw, -⟩
      have hlen := (List.getElem?_eq_some_iff.1 hw).1
      simp only [enroll, List.length_append, List.length_map, Crew.staff_length] at hlen
      exact .inr (by omega)
    · rintro (hr | hin)
      · exact absurd hr hold
      · obtain ⟨w, hw, -, hr⟩ := enroll_new (s := s) id text shown sinks o
          (i := k - s.crew.workers.length) (by omega)
        rw [Nat.add_sub_cancel' (by omega)] at hw
        exact ⟨w, hw, hr⟩

end Enroll

/-- What becomes of a request to start a pool. -/
inductive Opened (id size : Value) (s : Supervisor) : Except Fault Pool × Supervisor → Prop
  | unhashable (type : String) (hu : id.unhashable? = some type) :
      Opened id size s (.error (.unhashable type), s)
  | occupied (p : Pool) (hu : id.unhashable? = none) (hp : s.find? id = some p) :
      Opened id size s (id.shown.bind fun shown => .error (.alreadyRunning shown), s)
  | refused (f : Fault) (o : Outlets) (hu : id.unhashable? = none) (hn : s.find? id = none)
      (hf : f.Outside) :
      Opened id size s (.error f, { s with crew := { s.crew with outlets := o } })
  | opened (text shown : String) (sinks : List Sink) (o : Outlets) (hu : id.unhashable? = none)
      (hn : s.find? id = none) (hp : id.plain = .ok text) (hs : id.shown = .ok shown)
      (hsize : size.asInt? = some (sinks.length : Int)) (hne : sinks ≠ []) :
      Opened id size s (.ok (s.nextPool id sinks.length), s.enroll id text shown sinks o)

theorem shown_of_plain {text : String} (h : id.plain = .ok text) :
    ∃ shown, id.shown = .ok shown := by
  have hk := Value.isOk_plain id
  rw [h] at hk
  cases hs : id.shown with
  | ok shown => exact ⟨shown, rfl⟩
  | error f => rw [hs] at hk; cases hk

theorem shown_of_find? {p : Pool} (hs : ∀ p ∈ s.pools, p.id.IsKey ∧ p.id.shown.isOk = true)
    (hid : id.IsKey) (hp : s.find? id = some p) : ∃ shown, id.shown = .ok shown := by
  obtain ⟨hk, hshown⟩ := hs p (List.mem_of_find?_eq_some hp)
  have hsame : p.id.same id = true := by simpa using List.find?_some hp
  rw [Value.isOk_shown_of_same hk hid hsame] at hshown
  cases hi : id.shown with
  | ok shown => exact ⟨shown, rfl⟩
  | error f => rw [hi] at hshown; cases hshown

theorem startPool_opened (settings : Settings) (id size kind options : Value) (s : Supervisor) :
    Opened id size s ((startPool settings id size kind options).on s) := by
  rw [startPool]
  simp only [get?, checkKey, Act.on_bind]
  cases hu : id.unhashable? with
  | some type => exact .unhashable type hu
  | none =>
    simp only [Act.on_result, Act.on_get, Act.on_pure]
    cases hn : s.find? id with
    | some p =>
      have h : Opened id size s (_, s) := .occupied p hu hn
      cases hs : id.shown <;> simpa [hs, Except.bind] using h
    | none =>
      have hm := Crew.createPool_created settings (fun _ => labelOf id) id size kind options s.crew
      simp only [inCrew_on, Act.on_bind, Option.isSome_none, Bool.false_eq_true, if_false,
        Act.on_pure]
      cases hr : (Crew.createPool settings (fun _ => labelOf id) id size kind options).on s.crew with
      | mk r c =>
        rw [hr] at hm
        cases hm with
        | refused f o hf => exact .refused f o hu hn hf
        | built text sinks o hp hsize hne =>
          have hstart := Crew.startAll_last Crew.staff_idle
            (rfl : ({ s.crew with
              workers := s.crew.workers ++ Crew.staff text 0 sinks, outlets := o } :
                Crew).workers = s.crew.workers ++ Crew.staff text 0 sinks)
          rw [Crew.staff_length] at hstart
          obtain ⟨shown, hs⟩ := shown_of_plain hp
          have h := Opened.opened text shown sinks o hu hn hp hs hsize hne
          simpa [hstart, hs, note, Crew.note, enroll, nextPool, Pool.size] using h

theorem startPool_ok {settings : Settings} {id size kind options : Value} {s s' : Supervisor}
    {pool : Pool} (h : (startPool settings id size kind options).on s = (.ok pool, s')) :
    ∃ text shown sinks o, pool = s.nextPool id sinks.length ∧ s' = s.enroll id text shown sinks o ∧
      id.unhashable? = none ∧ s.find? id = none ∧ id.shown = .ok shown ∧
      size.asInt? = some (sinks.length : Int) ∧ sinks ≠ [] := by
  have hm := startPool_opened settings id size kind options s
  rw [h] at hm
  generalize hr : (Except.ok pool, s') = r at hm
  cases hm with
  | unhashable type hu => cases hr
  | refused f o hu hn hf => cases hr
  | occupied p hu hp =>
    obtain ⟨hout, -⟩ := Prod.mk.inj hr
    cases hs : id.shown <;> rw [hs] at hout <;> cases hout
  | opened text shown sinks o hu hn hp hs hsize hne =>
    obtain ⟨hpool, rfl⟩ := Prod.mk.inj hr
    obtain rfl := Except.ok.inj hpool
    exact ⟨text, shown, sinks, o, rfl, rfl, hu, hn, hs, hsize, hne⟩

theorem startPool_error {settings : Settings} {id size kind options : Value} {s s' : Supervisor}
    {f : Fault} (h : (startPool settings id size kind options).on s = (.error f, s')) :
    ∃ o, s' = { s with crew := { s.crew with outlets := o } } := by
  have hm := startPool_opened settings id size kind options s
  rw [h] at hm
  generalize hr : (Except.error f, s') = r at hm
  cases hm with
  | unhashable type hu => exact ⟨s.crew.outlets, (Prod.mk.inj hr).2⟩
  | occupied p hu hp => exact ⟨s.crew.outlets, (Prod.mk.inj hr).2⟩
  | refused f' o hu hn hf => exact ⟨o, (Prod.mk.inj hr).2⟩
  | opened text shown sinks o hu hn hp hs hsize hne => cases hr

def without (pools : List Pool) (id : Value) : List Pool := pools.filter fun p => !p.id.same id

theorem without_of_find?_none (h : s.find? id = none) : without s.pools id = s.pools := by
  apply List.filter_eq_self.2
  intro p hp
  have hn := List.find?_eq_none.1 h p hp
  simpa using hn

theorem without_enroll (text shown : String) (sinks : List Sink) (o : Outlets)
    (hn : s.find? id = none) (hself : id.same id = true) :
    (s.enroll id text shown sinks o).find? id = some (s.nextPool id sinks.length) ∧
      without (s.enroll id text shown sinks o).pools id = s.pools := by
  have hnext : (s.nextPool id sinks.length).id = id := rfl
  have hpools : (s.enroll id text shown sinks o).pools = s.pools ++ [s.nextPool id sinks.length] := rfl
  have hold := without_of_find?_none hn
  rw [find?] at hn
  rw [without] at hold
  constructor
  · rw [find?, hpools, List.find?_append, hn]
    simp [hnext, hself]
  · rw [hpools, without, List.filter_append, hold]
    simp [hnext, hself]

theorem takePool_on (hu : id.unhashable? = none) (s : Supervisor) :
    (takePool id).on s = (.ok (s.find? id), { s with pools := without s.pools id }) := by
  rw [takePool]
  cases hp : s.pools with
  | nil =>
    obtain ⟨crew, pools⟩ := s
    obtain rfl : pools = [] := hp
    rfl
  | cons p ps => simp [hp, checkKey, hu, without]

def limitOf (settings : Settings) : Value → Value
  | .null => settings.joinTimeout
  | timeout => timeout

theorem stopPool_eq (settings : Settings) (id timeout : Value) :
    stopPool settings id timeout = (do
      match ← takePool id with
      | none => throw (.notRunning (← Act.result id.shown))
      | some pool =>
        inCrew (Crew.stopAll (limitOf settings timeout) pool.workers)
        note (.poolStopped (← Act.result id.shown))) := by
  cases timeout <;> rfl

theorem stopPool_none (settings : Settings) (timeout : Value) (hu : id.unhashable? = none)
    (hn : s.find? id = none) :
    (stopPool settings id timeout).on s =
      (id.shown.bind fun shown => .error (.notRunning shown), s) := by
  rw [stopPool_eq, Act.on_bind, takePool_on hu, hn, without_of_find?_none hn]
  cases id.shown <;> rfl

theorem stopPool_some (settings : Settings) (timeout : Value) (hu : id.unhashable? = none)
    {p : Pool} (hp : s.find? id = some p) :
    ((stopPool settings id timeout).on s).2.pools = without s.pools id ∧
      ((stopPool settings id timeout).on s).2.crew.Alike
        ((Crew.stopAll (limitOf settings timeout) p.workers).on s.crew).2 ∧
      ((stopPool settings id timeout).on s).1 =
        ((Crew.stopAll (limitOf settings timeout) p.workers).on s.crew).1.bind fun _ =>
          id.shown.map fun _ => () := by
  rw [stopPool_eq, Act.on_bind, takePool_on hu, hp]
  simp only [Act.on_bind, inCrew_on]
  cases (Crew.stopAll (limitOf settings timeout) p.workers).on s.crew with
  | mk r c =>
    cases r with
    | error f => exact ⟨rfl, ⟨rfl, rfl⟩, rfl⟩
    | ok u => cases id.shown <;> exact ⟨rfl, ⟨rfl, rfl⟩, rfl⟩

theorem stopPool_pools (settings : Settings) (timeout : Value) (hu : id.unhashable? = none)
    (s : Supervisor) :
    ((stopPool settings id timeout).on s).2.pools = without s.pools id := by
  cases hp : s.find? id with
  | none => rw [stopPool_none settings timeout hu hp, without_of_find?_none hp]
  | some p => exact (stopPool_some settings timeout hu hp).1

theorem stopPool_stops {settings : Settings} (timeout : Value)
    (hw : (limitOf settings timeout).Waitable) (hu : id.unhashable? = none) {p : Pool}
    (hp : s.find? id = some p) :
    ∀ k ∈ p.workers, ¬ ((stopPool settings id timeout).on s).2.crew.Runs k := by
  obtain ⟨-, hworkers, -⟩ := stopPool_some settings timeout hu hp
  rintro k hk ⟨w, hget, hr⟩
  rw [Crew.worker?, hworkers.workers] at hget
  exact (Crew.stopAll_ok hw p.workers s.crew).2 k hk ⟨w, hget, hr⟩

/-- A pool whose workers can be waited for is stopped, and no other worker is touched. -/
theorem stopPool_on {settings : Settings} (timeout : Value)
    (hw : (limitOf settings timeout).Waitable) (hu : id.unhashable? = none)
    (hs : id.shown.isOk = true) {p : Pool} (hp : s.find? id = some p) :
    ∃ s', (stopPool settings id timeout).on s = (.ok (), s') ∧
      s'.pools = without s.pools id ∧
      (∀ k ∈ p.workers, ¬ s'.crew.Runs k) ∧
      ∀ j, j ∉ p.workers → s'.crew.worker? j = s.crew.worker? j := by
  obtain ⟨hpools, hworkers, hok⟩ := stopPool_some settings timeout hu hp
  refine ⟨_, Prod.ext ?_ rfl, hpools, stopPool_stops timeout hw hu hp, ?_⟩
  · rw [hok, (Crew.stopAll_ok hw p.workers s.crew).1]
    cases hi : id.shown with
    | ok shown => rfl
    | error f => rw [hi] at hs; cases hs
  · intro j hj
    rw [Crew.worker?, hworkers.workers]
    exact Crew.stopAll_others hj s.crew

theorem stopEach_ok {settings : Settings} (hw : settings.joinTimeout.Waitable) {ids : List Value}
    (hids : ∀ id ∈ ids, id.unhashable? = none ∧ id.shown.isOk = true) (s : Supervisor) :
    ((stopEach settings ids).on s).1 = .ok () ∧
      ∀ p ∈ ((stopEach settings ids).on s).2.pools, p ∈ s.pools ∧ ∀ id ∈ ids, ¬ p.id.same id := by
  induction ids generalizing s with
  | nil => exact ⟨rfl, fun p hp => ⟨hp, by simp⟩⟩
  | cons id ids ih =>
    obtain ⟨hu, hs⟩ := hids id List.mem_cons_self
    have hrest := ih fun x hx => hids x (List.mem_cons_of_mem _ hx)
    have hpools := stopPool_pools settings .null hu s
    have hout : (∃ shown, ((stopPool settings id .null).on s).1 = .error (.notRunning shown)) ∨
        ((stopPool settings id .null).on s).1 = .ok () := by
      cases hp : s.find? id with
      | none =>
        rw [stopPool_none settings .null hu hp]
        cases hi : id.shown with
        | ok shown => exact .inl ⟨shown, rfl⟩
        | error f => rw [hi] at hs; cases hs
      | some p =>
        obtain ⟨s', hon, -⟩ := stopPool_on .null hw hu hs hp
        exact .inr (by rw [hon])
    have hstep : (stopEach settings (id :: ids)).on s =
        (stopEach settings ids).on ((stopPool settings id .null).on s).2 := by
      rw [stopEach, Act.on_bind, Act.attempt, Act.on_of]
      obtain ⟨shown, ho⟩ | ho := hout <;> simp only [ho]
    rw [hstep]
    obtain ⟨hok, hmem⟩ := hrest ((stopPool settings id .null).on s).2
    refine ⟨hok, ?_⟩
    intro p hp
    obtain ⟨hin, hnone⟩ := hmem p hp
    rw [hpools] at hin
    obtain ⟨hold, hid⟩ := List.mem_filter.1 hin
    refine ⟨hold, ?_⟩
    intro x hx
    rcases List.mem_cons.1 hx with rfl | hx
    · simpa using hid
    · exact hnone x hx

theorem stopAll_on {settings : Settings} (hw : settings.joinTimeout.Waitable)
    (hids : ∀ p ∈ s.pools, p.id.IsKey ∧ p.id.shown.isOk = true) :
    ∃ s', (stopAll settings).on s = (.ok (), s') ∧ s'.pools = [] := by
  have hmem : ∀ id, id ∈ s.running ↔ ∃ p ∈ s.pools, p.id = id := by simp [running]
  have hgood : ∀ id ∈ s.running, id.unhashable? = none ∧ id.shown.isOk = true := by
    intro id hid
    obtain ⟨p, hp, rfl⟩ := (hmem id).1 hid
    obtain ⟨hk, hs⟩ := hids p hp
    exact ⟨Value.unhashable?_of_isKey hk, hs⟩
  obtain ⟨hok, hleft⟩ := stopEach_ok hw hgood s
  refine ⟨((stopEach settings s.running).on s).2, Prod.ext hok rfl, ?_⟩
  apply List.eq_nil_iff_forall_not_mem.2
  intro p hp
  obtain ⟨hold, hnone⟩ := hleft p hp
  exact hnone p.id ((hmem p.id).2 ⟨p, hold, rfl⟩) (Value.same_self (hids p hold).1)

end Supervisor

end ThreadTrace
