import ThreadTrace.Proofs.Pool.Ownership
import ThreadTrace.Proofs.Pool.Undisturbed

namespace ThreadTrace

open Supervisor (startPool stopPool stopAll)

namespace SharedSupervisor

variable {o : SharedSupervisor} {settings : Settings}

def subject? (o : SharedSupervisor) : Turn → Option Value
  | .start id .. => some id
  | .proceed n => o.pendingStops[n]?.bind PendingStop.subject
  | _ => none

def Turn.isRequest : Turn → Bool
  | .send .. | .take _ => false
  | _ => true

namespace Sound

variable {id : Value} {p : Pool}

theorem shown_of_find? (h : o.Sound) (hid : id.IsKey) (hp : o.supervisor.find? id = some p) :
    ∃ shown, id.shown = .ok shown :=
  Supervisor.shown_of_find? (fun q hq => h.keys q (h.known q hq)) hid hp

theorem start_occupied (h : o.Sound) (hid : id.IsKey) (size kind options : Value) :
    (∃ shown, ((startPool settings id size kind options).on o.supervisor).1 =
        .error (.alreadyRunning shown)) ↔ (o.supervisor.find? id).isSome := by
  have hm := Supervisor.startPool_opened settings id size kind options o.supervisor
  generalize (startPool settings id size kind options).on o.supervisor = r at hm ⊢
  cases hm with
  | unhashable type hu =>
    rw [Value.unhashable?_of_isKey hid] at hu
    cases hu
  | occupied p hu hp =>
    obtain ⟨shown, hs⟩ := h.shown_of_find? hid hp
    rw [hs, hp]
    exact iff_of_true ⟨shown, rfl⟩ rfl
  | refused f out hu hn hf =>
    rw [hn]
    refine iff_of_false ?_ (by simp)
    rintro ⟨shown, he⟩
    cases he
    cases hf
  | opened text shown sinks out hu hn hp hs hsize hne =>
    rw [hn]
    refine iff_of_false ?_ (by simp)
    rintro ⟨shown, he⟩
    cases he

end Sound

theorem start_refused {id size kind options : Value} {f : Fault} {s : Supervisor}
    (hf : ((startPool settings id size kind options).on s).1 = .error f) :
    ((startPool settings id size kind options).on s).2.pools = s.pools ∧
      ((startPool settings id size kind options).on s).2.crew.workers = s.crew.workers := by
  have hm := Supervisor.startPool_opened settings id size kind options s
  generalize (startPool settings id size kind options).on s = r at hm hf ⊢
  cases hm with
  | unhashable type hu => exact ⟨rfl, rfl⟩
  | occupied p hu hp => exact ⟨rfl, rfl⟩
  | refused g out hu hn hg => exact ⟨rfl, rfl⟩
  | opened text shown sinks out hu hn hp hs hsize hne => cases hf

namespace Sound

theorem stop_missing (h : o.Sound) {e : PendingStop} (he : e ∈ o.pendingStops) (ho : e.outcome = none)
    (hlen : e.lenient = false) :
    (∃ shown, (e.next o.supervisor).1.outcome = some (.error (.notRunning shown))) ↔
      e.awaited = none ∧ e.left = [] ∧ ∃ id ids, e.ids = id :: ids ∧ id.shown.isOk = true ∧
        o.supervisor.find? id = none := by
  rw [PendingStop.next]
  split
  · rename_i hsome
    rw [ho] at hsome
    cases hsome
  · rename_i k _ ha
    refine iff_of_false ?_ (by simp [ha])
    rintro ⟨shown, hout⟩
    dsimp only at hout
    split at hout
    · obtain ⟨w, -, haw⟩ := Option.map_eq_some_iff.1 ‹_›
      cases hout
      cases w.await_outside e.limit _ haw
    · rw [ho] at hout
      cases hout
  · rename_i k left _ _ hl
    refine iff_of_false ?_ (by simp [hl])
    rintro ⟨shown, hout⟩
    split at hout <;> rw [ho] at hout <;> cases hout
  · rename_i id ids _ ha hl hids
    have hkey : id.IsKey := (h.pendingStops e he).ids id (by rw [hids]; exact List.mem_cons_self)
    rw [PendingStop.enter, Supervisor.takePool_on (Value.unhashable?_of_isKey hkey)]
    cases hp : o.supervisor.find? id with
    | some p => simp [ho, hids, hp]
    | none =>
      cases hs : id.shown with
      | ok shown => simp [hlen, PendingStop.fail, ha, hl, hids, hp, hs]
      | error f =>
        have hf := Fault.outside_of_isTextless (id.shown_blames f hs)
        have hne : ∀ shown, f ≠ .notRunning shown := by
          rintro shown rfl
          cases hf
        simp [PendingStop.fail, ha, hl, hids, hp, hs, hne]
  · refine iff_of_false ?_ (by simp [*])
    rintro ⟨shown, hout⟩
    cases hout

/-- No request touches the pool of another id: neither whether it is registered nor its workers. -/
theorem frame (h : o.Sound) {t : Turn} (ht : t.Keyed) (hreq : t.isRequest = true)
    (hp : p ∈ o.opened) (hid : ∀ id, o.subject? t = some id → p.id.same id = false) :
    (p ∈ (o.turn settings t).pools ↔ p ∈ o.pools) ∧
      ∀ k ∈ p.workers, (o.turn settings t).crew.worker? k = o.crew.worker? k := by
  cases t with
  | send t e => cases hreq
  | take k => cases hreq
  | stop id timeout => exact ⟨Iff.rfl, fun _ _ => rfl⟩
  | stopAll => exact ⟨Iff.rfl, fun _ _ => rfl⟩
  | start id size kind options =>
    have hother := hid id rfl
    have hm := Supervisor.startPool_opened settings id size kind options o.supervisor
    rw [SharedSupervisor.turn]
    generalize (startPool settings id size kind options).on o.supervisor = r at hm ⊢
    cases hm with
    | unhashable type hu => exact ⟨Iff.rfl, fun _ _ => rfl⟩
    | occupied q hu hq => exact ⟨Iff.rfl, fun _ _ => rfl⟩
    | refused f out hu hn hf => exact ⟨Iff.rfl, fun _ _ => rfl⟩
    | opened text shown sinks out hu hn hplain hs hsize hne =>
      constructor
      · have hnew : p ≠ o.supervisor.nextPool id sinks.length := by
          rintro rfl
          have hself : id.same id = true := Value.same_self ht
          exact absurd (hself.symm.trans hother) (by simp)
        refine List.mem_append.trans ?_
        rw [List.mem_singleton]
        exact or_iff_left hnew
      · intro k hk
        exact Supervisor.enroll_old id text shown sinks out (h.place_lt hp hk)
  | proceed n =>
    rw [SharedSupervisor.turn]
    cases hn : o.pendingStops[n]? with
    | none => exact ⟨Iff.rfl, fun _ _ => rfl⟩
    | some e =>
      have he := h.pendingStops e (List.mem_of_getElem? hn)
      have hsub : ∀ id, e.subject = some id → p.id.same id = false := by
        intro id hs
        exact hid id (by simp [subject?, hn, hs])
      have hm := PendingStop.next_moved he (h.left_runs hn)
      dsimp only
      generalize e.next o.supervisor = r at hm ⊢
      cases hm with
      | changed e' hl he' => exact ⟨Iff.rfl, fun _ _ => rfl⟩
      | missed e' id hl he' => exact ⟨Iff.rfl, fun _ _ => rfl⟩
      | entered id ids q hids hl ha ho hq =>
        have hother := hsub id (by simp [PendingStop.subject, ha, hl, hids])
        exact ⟨Supervisor.mem_without.trans (and_iff_left hother), fun _ _ => rfl⟩
      | marked k left w a hl hw he' =>
        refine ⟨Iff.rfl, ?_⟩
        -- the worker is of the pool that the stop has taken out, and no worker is of two pools
        obtain ⟨q, hq, hpool, hown⟩ := he.owned (by simp [hl])
        have hother := hsub q.id (by simp [PendingStop.subject, hl, hpool])
        have hne : p ≠ q := by
          rintro rfl
          have hself := Value.same_self (h.keys p hp).1
          exact absurd (hself.symm.trans hother) (by simp)
        intro j hj
        have hjk : j ≠ k := by
          rintro rfl
          have hkq := hown j (by rw [hl]; exact List.mem_cons_self)
          exact h.owner_unique hp hq hne hj hkq
        exact List.getElem?_set_ne (Ne.symm hjk)

theorem staff_running (h : o.Sound) (hp : p ∈ o.pools) {i k : Nat} (hk : p.workers[i]? = some k) :
    ∃ w, o.crew.worker? k = some w ∧ w.index = .int i ∧ w.running = true := by
  obtain ⟨b, hb⟩ := h.staffed p (h.known p hp) i k hk
  have hruns : o.crew.Runs k := by
    refine (h.running k).2 (List.mem_append_left _ ?_)
    exact List.mem_flatMap.2 ⟨p, hp, List.mem_of_getElem? hk⟩
  obtain ⟨w, hw, hr⟩ := hruns
  rw [Crew.posts_get, hw] at hb
  obtain ⟨hindex, -⟩ := Prod.mk.inj (Option.some.inj hb)
  exact ⟨w, hw, hindex, hr⟩

theorem runs_iff (h : o.Sound) (k : Nat) :
    o.crew.Runs k ↔ (∃ p ∈ o.pools, k ∈ p.workers) ∨ ∃ e ∈ o.pendingStops, k ∈ e.left := by
  rw [h.running k, SharedSupervisor.held, List.mem_append, List.mem_flatMap, List.mem_flatMap]

end Sound

/-- How supervisor, workers and stops stand after any run of requests, and what the next request can
do. A stop that goes on by itself comes to where the supervisor's own stop comes. -/
structure Orderly (settings : Settings) (o : SharedSupervisor) : Prop where
  alternating : ∀ id, id.IsKey → (false :: o.switches id).IsChain (· ≠ ·) ∧
    (false :: o.switches id).getLast? = some (o.supervisor.find? id).isSome
  occupied : ∀ id size kind options, id.IsKey →
    ((∃ shown, ((startPool settings id size kind options).on o.supervisor).1 =
      .error (.alreadyRunning shown)) ↔ (o.supervisor.find? id).isSome)
  refused : ∀ id size kind options f,
    ((startPool settings id size kind options).on o.supervisor).1 = .error f →
      ((startPool settings id size kind options).on o.supervisor).2.pools = o.pools ∧
      ((startPool settings id size kind options).on o.supervisor).2.crew.workers = o.crew.workers
  missing : ∀ e ∈ o.pendingStops, e.outcome = none → e.lenient = false →
    ((∃ shown, (e.next o.supervisor).1.outcome = some (.error (.notRunning shown))) ↔
      e.awaited = none ∧ e.left = [] ∧ ∃ id ids, e.ids = id :: ids ∧ id.shown.isOk = true ∧
        o.supervisor.find? id = none)
  sized : ∀ p ∈ o.pools, ∃ size, .start p.id size (.ok p) ∈ o.log ∧
    size.asInt? = some (p.size : Int)
  staffed : ∀ p ∈ o.pools, ∀ i k : Nat, p.workers[i]? = some k →
    ∃ w, o.crew.worker? k = some w ∧ w.index = .int i ∧ w.running = true
  framed : ∀ t : Turn, t.Keyed → t.isRequest = true → ∀ p ∈ o.opened,
    (∀ id, o.subject? t = some id → p.id.same id = false) →
      (p ∈ (o.turn settings t).pools ↔ p ∈ o.pools) ∧
      ∀ k ∈ p.workers, (o.turn settings t).crew.worker? k = o.crew.worker? k
  running : ∀ k, o.crew.Runs k ↔
    (∃ p ∈ o.pools, k ∈ p.workers) ∨ ∃ e ∈ o.pendingStops, k ∈ e.left
  settled : (∀ e ∈ o.pendingStops, e.outcome.isSome = true ∧ e.limit.Waitable) →
    ∀ k, o.crew.Runs k ↔ ∃ p ∈ o.pools, k ∈ p.workers
  emptied : (∀ e ∈ o.pendingStops, e.outcome.isSome = true) → settings.joinTimeout.Waitable →
    ∃ s, (stopAll settings).on o.supervisor = (.ok (), s) ∧ s.pools = []
  single : ∀ id timeout, id.IsKey → id.shown.isOk = true → ∃ ts e,
    Reached (run settings ⟨o.supervisor, [], []⟩ (.stop id timeout :: ts)) e
        ((stopPool settings id timeout).on o.supervisor).2 ∧
      e.outcome = some ((stopPool settings id timeout).on o.supervisor).1
  whole : ∃ ts e,
    Reached (run settings ⟨o.supervisor, [], []⟩ (.stopAll :: ts)) e
        ((stopAll settings).on o.supervisor).2 ∧
      e.outcome = some ((stopAll settings).on o.supervisor).1

theorem Sound.orderly (h : o.Sound) : o.Orderly settings where
  alternating := h.switched
  occupied _ _ _ _ hid := h.start_occupied hid _ _ _
  refused _ _ _ _ _ hf := start_refused hf
  missing _ he ho hlen := h.stop_missing he ho hlen
  sized p hp := by
    obtain ⟨x, hx, hopen⟩ := List.mem_filterMap.1 (h.known p hp)
    cases x with
    | take id found => cases hopen
    | start id size outcome =>
      cases outcome with
      | error f => cases hopen
      | ok q =>
        obtain rfl : q = p := by simpa [Section.opened?] using hopen
        obtain ⟨rfl, hsize⟩ := h.sized id size q hx
        exact ⟨size, hx, hsize⟩
  staffed p hp i k hk := h.staff_running hp hk
  framed t ht hreq p hp hid := h.frame ht hreq hp hid
  running := h.runs_iff
  settled hover k := by
    rw [h.runs_iff k]
    refine or_iff_left ?_
    rintro ⟨e, he, hk⟩
    obtain ⟨hsome, hw⟩ := hover e he
    obtain hnone | hnot := (h.pendingStops e he).ending (List.ne_nil_of_mem hk)
    · rw [hnone] at hsome
      cases hsome
    · exact hnot hw
  emptied _ hw := Supervisor.stopAll_on hw fun p hp => h.keys p (h.known p hp)
  single id timeout hid hs := by
    cases hshown : id.shown with
    | ok shown => exact stopPool_run settings timeout (Value.unhashable?_of_isKey hid) hshown
    | error f => rw [hshown] at hs; cases hs
  whole := by
    refine stopAll_run settings fun id hid => ?_
    obtain ⟨p, hp, rfl⟩ : ∃ p ∈ o.pools, p.id = id := by simpa [Supervisor.running] using hid
    obtain ⟨hkey, hs⟩ := h.keys p (h.known p hp)
    exact ⟨Value.unhashable?_of_isKey hkey, hs⟩

/-- However requests to start and stop pools come in and stops go on side by side, starts and stops
alternate for each id, registered pools have the workers that were asked for, and all is told apart by
id. That a worker runs only if its pool is registered, once no stop is under way, and that all pools
can be stopped at once, takes limits that a wait can begin with. -/
theorem run_orderly {s : Supervisor} (hp : s.pools = []) (hr : ∀ k, ¬ s.crew.Runs k)
    {ts : List Turn} (hts : ∀ t ∈ ts, t.Keyed) :
    (run settings ⟨s, [], []⟩ ts).Orderly settings :=
  ((Sound.fresh hp hr).run hts).orderly

/-- A pool is stopped, and while its workers are still to be stopped, one is started under its id. -/
theorem run_orderly_restart :
    ∃ o : SharedSupervisor, o = run {} {} [.start (.text "p") (.int 2) (.text "memory") .null,
        .stop (.text "p") .null, .proceed 0, .start (.text "p") (.int 1) (.text "memory") .null,
        .proceed 0] ∧
      o.pools.map (·.workers) = [[2]] ∧ o.pendingStops.map (·.left) = [[1]] ∧ o.Orderly {} := by
  refine ⟨_, rfl, rfl, rfl, run_orderly rfl ?_ ?_⟩
  · rintro k ⟨w, hw, -⟩
    cases hw
  · intro t ht
    simp only [List.mem_cons, List.not_mem_nil, or_false] at ht
    obtain rfl | rfl | rfl | rfl | rfl := ht <;> trivial

def endless : Settings := { joinTimeout := .float (.infinite false) }

/-- Nothing is under way, and still not all pools can be stopped: the wait for the first worker cannot
begin, and the worker behind it goes on without its pool. -/
theorem stopAll_endless :
    ∃ o : SharedSupervisor, o = run endless {} [.start (.text "P") (.int 2) (.text "memory") .null] ∧
      o.pendingStops = [] ∧
      ((stopAll endless).on o.supervisor).1 = .error .waitRange ∧
      ((stopAll endless).on o.supervisor).2.pools = [] ∧
      ((stopAll endless).on o.supervisor).2.crew.Runs 1 := by
  refine ⟨_, rfl, rfl, ?_⟩
  rw [stopAll, Act.on_bind, Act.on_get]
  have hids : (run endless {} [.start (.text "P") (.int 2) (.text "memory")
      .null]).supervisor.running = [.text "P"] := List.mergeSort_singleton ..
  simp only [hids]
  exact ⟨rfl, rfl, _, rfl, rfl⟩

end SharedSupervisor

end ThreadTrace
