import ThreadTrace.Host.Target
import ThreadTrace.Pool.Crew

namespace ThreadTrace

namespace Crew

/-- Workers are named by their place; events find their worker through a target. -/
inductive Action
  | send (e : Event)
  | take (place : Nat)
  | stop (place : Nat)
deriving DecidableEq

inductive Record
  | sent (place : Nat) (e : Event) (taken : Bool)
  | stopped (place : Nat)
  | accepted (place : Nat) (e : Event) (outcome : Except Fault Unit)
  | closed (place : Nat) (outcome : Except Fault Unit)

def Record.place : Record → Nat
  | .sent k .. | .stopped k | .accepted k .. | .closed k _ => k

def processing (k : Nat) (w : Worker) (o : Outlets) : List Record :=
  if w.life ≠ .alive then []
  else match w.queue with
    | [] => []
    | .event e :: _ => [.accepted k e (w.sink.accept e o).1]
    | .stop :: _ => [.closed k (w.sink.close o).1]

def takeAt (c : Crew) (k : Nat) (w : Worker) : Crew :=
  let (w, outlets, notices) := w.take c.outlets
  { c with workers := c.workers.set k w, outlets, notices := c.notices ++ notices }

def act (t : Target) (c : Crew) : Action → Crew × List Record
  | .send e =>
    match t.route (.int e.carrier) with
    | .ok (some k) =>
      match c.worker? k with
      | some w => (c.putWorker k (w.send e).2, [.sent k e (w.send e).1])
      | none => (c, [])
    | _ => (c, [])
  | .take k =>
    match c.worker? k with
    | some w => (c.takeAt k w, processing k w c.outlets)
    | none => (c, [])
  | .stop k =>
    match c.worker? k with
    | some w => (c.putWorker k w.stop, [.stopped k])
    | none => (c, [])

def traffic (t : Target) (c : Crew) : List Action → Crew × List Record
  | [] => (c, [])
  | x :: xs =>
    let (c, r) := c.act t x
    let (c, rs) := c.traffic t xs
    (c, r ++ rs)

variable {t : Target} {c : Crew}

theorem traffic_cons (x : Action) (xs : List Action) :
    c.traffic t (x :: xs) = (((c.act t x).1.traffic t xs).1,
      (c.act t x).2 ++ ((c.act t x).1.traffic t xs).2) := rfl

theorem traffic_append (c : Crew) (xs ys : List Action) :
    (c.traffic t (xs ++ ys)).1 = ((c.traffic t xs).1.traffic t ys).1 := by
  induction xs generalizing c with
  | nil => rfl
  | cons x xs ih =>
    rw [List.cons_append, traffic_cons, traffic_cons]
    exact ih _

theorem putWorker_worker? {k : Nat} {w : Worker} (h : c.worker? k = some w) (v : Worker) :
    (c.putWorker k v).worker? k = some v :=
  List.getElem?_set_self (List.getElem?_eq_some_iff.1 h).1

theorem takeAt_worker? {k : Nat} {w : Worker} (h : c.worker? k = some w) :
    (c.takeAt k w).worker? k = some (w.take c.outlets).1 :=
  List.getElem?_set_self (List.getElem?_eq_some_iff.1 h).1

theorem set_worker {k : Nat} {w : Worker} (h : c.worker? k = some w) :
    c.workers.set k w = c.workers := by
  obtain ⟨hl, he⟩ := List.getElem?_eq_some_iff.1 h
  rw [← he]
  exact List.set_getElem_self hl

/-- What an action does: one step of one worker, or nothing where there is no such worker. -/
inductive Acted (t : Target) (c : Crew) : Action → Crew × List Record → Prop
  | idle (x : Action) (hx : ∀ k, x = .take k ∨ x = .stop k → c.worker? k = none) :
      Acted t c x (c, [])
  | send (e : Event) (k : Nat) (w : Worker) (hr : t.route (.int e.carrier) = .ok (some k))
      (hw : c.worker? k = some w) :
      Acted t c (.send e) (c.putWorker k (w.send e).2, [.sent k e (w.send e).1])
  | take (k : Nat) (w : Worker) (hw : c.worker? k = some w) :
      Acted t c (.take k) (c.takeAt k w, processing k w c.outlets)
  | stop (k : Nat) (w : Worker) (hw : c.worker? k = some w) :
      Acted t c (.stop k) (c.putWorker k w.stop, [.stopped k])

theorem acted (t : Target) (c : Crew) (x : Action) : Acted t c x (c.act t x) := by
  cases x with
  | send e =>
    rw [act]
    split
    · split
      · exact .send e _ _ ‹_› ‹_›
      · exact .idle _ (by simp)
    · exact .idle _ (by simp)
  | take k =>
    rw [act]
    split
    · exact .take k _ ‹_›
    · exact .idle _ (by simpa using ‹_›)
  | stop k =>
    rw [act]
    split
    · exact .stop k _ ‹_›
    · exact .idle _ (by simpa using ‹_›)

theorem processing_place (k : Nat) (w : Worker) (o : Outlets) :
    ∀ x ∈ processing k w o, x.place = k := by
  rw [processing]
  split
  · simp
  · split <;> simp [Record.place]

theorem act_length (x : Action) : (c.act t x).1.workers.length = c.workers.length := by
  have hx := acted t c x
  generalize c.act t x = y at hx ⊢
  cases hx <;> simp [putWorker, takeAt]

theorem settle_traffic (t : Target) (c : Crew) (k : Nat) :
    ∃ m, c.settle k = (c.traffic t (List.replicate m (.take k))).1 := by
  have drained : ∀ n (c : Crew) (w : Worker), c.worker? k = some w →
      ∃ m, { c with
        workers := c.workers.set k (w.drain c.gateOpen n c.outlets).1
        outlets := (w.drain c.gateOpen n c.outlets).2.1
        notices := c.notices ++ (w.drain c.gateOpen n c.outlets).2.2 } =
          (c.traffic t (List.replicate m (.take k))).1 := by
    intro n
    induction n with
    | zero =>
      intro c w hw
      exact ⟨0, by simp [Worker.drain, traffic, set_worker hw]⟩
    | succ n ih =>
      intro c w hw
      by_cases hh : w.isHeld c.gateOpen = true
      · exact ⟨0, by simp [Worker.drain, traffic, hh, set_worker hw]⟩
      · obtain ⟨m, hm⟩ := ih (c.takeAt k w) _ (takeAt_worker? hw)
        refine ⟨m + 1, ?_⟩
        rw [List.replicate_succ, traffic_cons]
        simp only [act, hw]
        rw [← hm]
        simp [Worker.drain, hh, takeAt, List.append_assoc]
  cases hw : c.worker? k with
  | none => exact ⟨0, by simp [settle, hw, traffic]⟩
  | some w =>
    obtain ⟨m, hm⟩ := drained w.queue.length c w hw
    exact ⟨m, by rw [← hm]; simp [settle, hw]⟩

/-- Crews that differ in their notices and their gate alone. -/
structure Alike (c d : Crew) : Prop where
  workers : c.workers = d.workers
  outlets : c.outlets = d.outlets

namespace Alike

variable {d e : Crew}

theorem trans (h : c.Alike d) (h' : d.Alike e) : c.Alike e :=
  ⟨h.workers.trans h'.workers, h.outlets.trans h'.outlets⟩

theorem act (h : c.Alike d) (t : Target) (x : Action) : (c.act t x).1.Alike (d.act t x).1 := by
  obtain ⟨hw, ho⟩ := h
  have hget : ∀ k, c.worker? k = d.worker? k := by
    intro k
    rw [worker?, hw]
    rfl
  cases x with
  | send e =>
    simp only [Crew.act, hget]
    split
    · split
      · exact ⟨by rw [putWorker, putWorker, hw], ho⟩
      · exact ⟨hw, ho⟩
    · exact ⟨hw, ho⟩
  | take k =>
    simp only [Crew.act, hget]
    split
    · exact ⟨by simp only [takeAt, hw, ho], by simp only [takeAt, ho]⟩
    · exact ⟨hw, ho⟩
  | stop k =>
    simp only [Crew.act, hget]
    split
    · exact ⟨by rw [putWorker, putWorker, hw], ho⟩
    · exact ⟨hw, ho⟩

theorem traffic (h : c.Alike d) (t : Target) (xs : List Action) :
    (c.traffic t xs).1.Alike (d.traffic t xs).1 := by
  induction xs generalizing c d with
  | nil => exact h
  | cons x xs ih =>
    rw [traffic_cons, traffic_cons]
    exact ih (h.act t x)

end Alike

theorem noteSlow_alike (c : Crew) (wait : Wait) (k : Nat) : (c.noteSlow wait k).Alike c := by
  rw [noteSlow]
  split
  · exact ⟨rfl, rfl⟩
  · split <;> exact ⟨rfl, rfl⟩

/-- The second crew is where some steps of a worker's thread bring the first one, notices apart. -/
def Led (t : Target) (k : Nat) (c d : Crew) : Prop :=
  ∃ m, d.Alike (c.traffic t (List.replicate m (.take k))).1

namespace Led

variable {k : Nat} {d e : Crew}

theorem of_alike (h : d.Alike c) : Led t k c d := ⟨0, h⟩

theorem settle (t : Target) (c : Crew) (k : Nat) : Led t k c (c.settle k) := by
  obtain ⟨m, hm⟩ := settle_traffic t c k
  exact ⟨m, by rw [hm], by rw [hm]⟩

theorem trans (h : Led t k c d) (h' : Led t k d e) : Led t k c e := by
  obtain ⟨m, hm⟩ := h
  obtain ⟨n, hn⟩ := h'
  refine ⟨m + n, ?_⟩
  rw [← List.replicate_append_replicate, traffic_append]
  exact hn.trans (hm.traffic t _)

end Led

end Crew

end ThreadTrace
