import ThreadTrace.Proofs.Pool.Traffic

namespace ThreadTrace

def Item.event? : Item → Option Event
  | .event e => some e
  | .stop => none

@[simp] theorem Item.event?_event (e : Event) : (Item.event e).event? = some e := rfl

@[simp] theorem Item.event?_stop : Item.stop.event? = none := rfl

def Worker.waiting (w : Worker) : List Event := w.queue.filterMap Item.event?

namespace Crew

/-- The events that a worker took, in the order in which they were sent. -/
def taken (k : Nat) (hist : List Record) : List Event := hist.filterMap fun
  | .sent j e true => if j = k then some e else none
  | _ => none

/-- The events that a worker handed to its sink, in the order in which it did. -/
def accepted (k : Nat) (hist : List Record) : List Event := hist.filterMap fun
  | .accepted j e _ => if j = k then some e else none
  | _ => none

def closings (k : Nat) (hist : List Record) : Nat := hist.countP fun
  | .closed j _ => j = k
  | _ => false

/-- What must have come before a record of a worker: it takes events exactly until it is stopped,
and it closes its sink once, after the stop, when everything that it took is accepted. -/
def Lawful (k : Nat) (pre : List Record) : Record → Prop
  | .sent j _ taken => j = k → (taken = true ↔ .stopped k ∉ pre)
  | .stopped _ => True
  | .accepted j _ _ => j = k → ∀ r, .closed k r ∉ pre
  | .closed j _ => j = k →
    (∀ r, .closed k r ∉ pre) ∧ .stopped k ∈ pre ∧ accepted k pre = taken k pre

inductive Phase (k : Nat) (hist : List Record) (w : Worker) : Prop
  | running (h : w.running = true) (ha : w.life = .alive) (hq : .stop ∉ w.queue)
      (hs : .stopped k ∉ hist) (hc : ∀ r, .closed k r ∉ hist)
  | stopping (h : w.running = false) (ha : w.life = .alive) (es : List Event)
      (hq : w.queue = es.map .event ++ [.stop]) (hs : .stopped k ∈ hist)
      (hc : ∀ r, .closed k r ∉ hist)
  | finished (h : w.running = false) (ha : w.life = .finished) (hq : w.queue = [])
      (hs : .stopped k ∈ hist) (hc : closings k hist = 1)

structure Tally (k : Nat) (hist : List Record) (w : Worker) : Prop where
  conserved : accepted k hist ++ w.waiting = taken k hist
  lawful : ∀ pre x post, hist = pre ++ x :: post → Lawful k pre x
  phase : Phase k hist w

variable {k : Nat} {hist : List Record} {w : Worker} {x : Record}

theorem taken_append (hist more : List Record) :
    taken k (hist ++ more) = taken k hist ++ taken k more := List.filterMap_append

theorem accepted_append (hist more : List Record) :
    accepted k (hist ++ more) = accepted k hist ++ accepted k more := List.filterMap_append

theorem closings_append (hist more : List Record) :
    closings k (hist ++ more) = closings k hist + closings k more := List.countP_append

theorem lawful_concat (h : ∀ pre x post, hist = pre ++ x :: post → Lawful k pre x)
    (hx : Lawful k hist x) :
    ∀ pre y post, hist ++ [x] = pre ++ y :: post → Lawful k pre y := by
  intro pre y post he
  obtain rfl | ⟨post, z, rfl⟩ := List.eq_nil_or_concat post
  · obtain ⟨rfl, hy⟩ := List.append_inj' he rfl
    obtain rfl : x = y := List.singleton_inj.1 hy
    exact hx
  · rw [List.concat_eq_append, ← List.cons_append, ← List.append_assoc] at he
    exact h pre y post (List.append_inj' he rfl).1

theorem closings_eq_zero (h : ∀ r, .closed k r ∉ hist) : closings k hist = 0 := by
  apply List.countP_eq_zero.2
  intro x hx
  cases x with
  | closed j r =>
    intro hj
    obtain rfl : j = k := by simpa using hj
    exact h r hx
  | _ => simp

theorem Tally.other (p : Tally k hist w) (hx : x.place ≠ k) : Tally k (hist ++ [x]) w := by
  have ht : taken k [x] = [] := by
    cases x with
    | sent j e b => cases b <;> simp_all [taken, Record.place]
    | _ => rfl
  have ha : accepted k [x] = [] := by
    cases x <;> simp_all [accepted, Record.place]
  have hc : closings k [x] = 0 := by
    cases x <;> simp_all [closings, Record.place]
  have hmem : ∀ {y : Record}, y.place = k → (y ∈ hist ++ [x] ↔ y ∈ hist) := by
    intro y hy
    have hne : y ≠ x := fun he => hx (he ▸ hy)
    simp [hne]
  have hstop : .stopped k ∈ hist ++ [x] ↔ .stopped k ∈ hist := hmem rfl
  have hclose : ∀ r, .closed k r ∈ hist ++ [x] ↔ .closed k r ∈ hist := fun r => hmem rfl
  constructor
  · rw [accepted_append, taken_append, ha, ht, List.append_nil, List.append_nil]
    exact p.conserved
  · apply lawful_concat p.lawful
    cases x with
    | stopped => trivial
    | _ => exact fun hj => absurd hj hx
  · cases p.phase with
    | running h hal hq hs hc =>
      exact .running h hal hq (mt hstop.1 hs) fun r => mt (hclose r).1 (hc r)
    | stopping h hal es hq hs hc =>
      exact .stopping h hal es hq (hstop.2 hs) fun r => mt (hclose r).1 (hc r)
    | finished h hal hq hs hcl =>
      exact .finished h hal hq (hstop.2 hs) (by rw [closings_append, hcl, hc])

theorem Tally.send (p : Tally k hist w) (e : Event) :
    Tally k (hist ++ [.sent k e (w.send e).1]) (w.send e).2 := by
  have hstop : ∀ b, .stopped k ∈ hist ++ [.sent k e b] ↔ .stopped k ∈ hist := by simp
  have hclose : ∀ b r, .closed k r ∈ hist ++ [.sent k e b] ↔ .closed k r ∈ hist := by simp
  cases hr : w.running with
  | true =>
    simp only [Worker.send, hr, if_true]
    cases p.phase with
    | running h hal hq hs hc =>
      constructor
      · rw [accepted_append, taken_append, ← p.conserved]
        simp [accepted, taken, Worker.waiting]
      · exact lawful_concat p.lawful fun _ => iff_of_true rfl hs
      · refine .running rfl hal (by simpa using hq) (mt (hstop _).1 hs) fun r => ?_
        exact mt (hclose _ r).1 (hc r)
    | stopping h | finished h => rw [hr] at h; cases h
  | false =>
    simp only [Worker.send, hr, Bool.false_eq_true, if_false]
    have hin : .stopped k ∈ hist := by
      cases p.phase with
      | running h => rw [hr] at h; cases h
      | stopping h hal es hq hs hc => exact hs
      | finished h hal hq hs hc => exact hs
    constructor
    · rw [accepted_append, taken_append, ← p.conserved]
      simp [accepted, taken]
    · exact lawful_concat p.lawful fun _ => iff_of_false (by simp) (fun hn => hn hin)
    · cases p.phase with
      | running h => rw [hr] at h; cases h
      | stopping h hal es hq hs hc =>
        exact .stopping h hal es hq ((hstop _).2 hs) fun r => mt (hclose _ r).1 (hc r)
      | finished h hal hq hs hc =>
        exact .finished h hal hq ((hstop _).2 hs) (by rw [closings_append, hc]; rfl)

theorem exists_events {q : List Item} (hq : .stop ∉ q) : ∃ es : List Event, q = es.map .event := by
  induction q with
  | nil => exact ⟨[], rfl⟩
  | cons i q ih =>
    obtain ⟨es, rfl⟩ := ih fun h => hq (List.mem_cons_of_mem _ h)
    cases i with
    | event e => exact ⟨e :: es, rfl⟩
    | stop => exact absurd List.mem_cons_self hq

theorem Tally.stop (p : Tally k hist w) : Tally k (hist ++ [.stopped k]) w.stop := by
  have hin : .stopped k ∈ hist ++ [.stopped k] := by simp
  have hclose : ∀ r, .closed k r ∈ hist ++ [.stopped k] ↔ .closed k r ∈ hist := by simp
  have hw : w.stop.waiting = w.waiting := by
    rw [Worker.stop]
    split <;> simp [Worker.waiting]
  constructor
  · rw [accepted_append, taken_append, hw, ← p.conserved]
    simp [accepted, taken]
  · exact lawful_concat p.lawful trivial
  · cases p.phase with
    | running h hal hq hs hc =>
      obtain ⟨es, he⟩ := exists_events hq
      simp only [Worker.stop, h, if_true]
      exact .stopping rfl hal es (by simp [he]) hin fun r => mt (hclose r).1 (hc r)
    | stopping h hal es hq hs hc =>
      simp only [Worker.stop, h, Bool.false_eq_true, if_false]
      exact .stopping h hal es hq hin fun r => mt (hclose r).1 (hc r)
    | finished h hal hq hs hc =>
      simp only [Worker.stop, h, Bool.false_eq_true, if_false]
      exact .finished h hal hq hin (by rw [closings_append, hc]; rfl)

theorem Tally.accept (p : Tally k hist w) {e : Event} {q : List Item} (hal : w.life = .alive)
    (hq : w.queue = .event e :: q) (o : Outlets) :
    Tally k (hist ++ processing k w o) (w.take o).1 := by
  have hp : processing k w o = [.accepted k e (w.sink.accept e o).1] := by
    simp [processing, hal, hq]
  have hw : (w.take o).1 = { w with queue := q, sink := (w.sink.accept e o).2.1 } := by
    simp only [Worker.take, hal, hq]
    rfl
  rw [hp, hw]
  generalize (w.sink.accept e o).1 = r
  have hstop : .stopped k ∈ hist ++ [.accepted k e r] ↔ .stopped k ∈ hist := by simp
  have hclose : ∀ r', .closed k r' ∈ hist ++ [.accepted k e r] ↔ .closed k r' ∈ hist := by simp
  have hopen : ∀ r, .closed k r ∉ hist := by
    cases p.phase with
    | running _ _ _ _ hc => exact hc
    | stopping _ _ _ _ _ hc => exact hc
    | finished _ h => rw [hal] at h; cases h
  constructor
  · rw [accepted_append, taken_append, ← p.conserved]
    simp [accepted, taken, Worker.waiting, hq]
  · exact lawful_concat p.lawful fun _ => hopen
  · cases p.phase with
    | running h _ hn hs hc =>
      have hn : .stop ∉ q := fun hm => hn (hq ▸ List.mem_cons_of_mem _ hm)
      exact .running h hal hn (mt hstop.1 hs) fun r => mt (hclose r).1 (hc r)
    | stopping h _ es hqe hs hc =>
      cases es with
      | nil =>
        rw [hq] at hqe
        cases hqe
      | cons e' es =>
        rw [hq] at hqe
        cases hqe
        exact .stopping h hal es rfl (hstop.2 hs) fun r => mt (hclose r).1 (hc r)
    | finished _ h => rw [hal] at h; cases h

theorem Tally.queue_of_stop (p : Tally k hist w) {q : List Item} (hq : w.queue = .stop :: q) :
    q = [] := by
  cases p.phase with
  | running _ _ hn => exact absurd (hq ▸ List.mem_cons_self) hn
  | finished _ _ he => rw [hq] at he; cases he
  | stopping _ _ es he =>
    rw [hq] at he
    cases es with
    | nil => exact (List.cons.inj he).2
    | cons e es => cases he

/-- Nothing waits behind the stop marker, so everything is accepted when the sink is closed. -/
theorem Tally.close (p : Tally k hist w) {q : List Item} (hal : w.life = .alive)
    (hq : w.queue = .stop :: q) (o : Outlets) :
    Tally k (hist ++ processing k w o) (w.take o).1 := by
  have hp : processing k w o = [.closed k (w.sink.close o).1] := by
    simp [processing, hal, hq]
  have hw : (w.take o).1 =
      { w with queue := q, sink := (w.sink.close o).2.1, life := .finished } := by
    simp only [Worker.take, hal, hq]
    rfl
  rw [hp, hw]
  generalize (w.sink.close o).1 = r
  obtain rfl := p.queue_of_stop hq
  have hall : accepted k hist = taken k hist := by
    simpa [Worker.waiting, hq, List.filterMap_cons] using p.conserved
  cases p.phase with
  | running _ _ hn => exact absurd (hq ▸ List.mem_cons_self) hn
  | finished _ h => rw [hal] at h; cases h
  | stopping h _ es hqe hs hc =>
    constructor
    · rw [accepted_append, taken_append, hall]
      simp [accepted, taken, Worker.waiting]
    · exact lawful_concat p.lawful fun _ => ⟨hc, hs, hall⟩
    · refine .finished h rfl rfl (List.mem_append_left _ hs) ?_
      rw [closings_append, closings_eq_zero hc]
      simp [closings]

theorem Tally.take (p : Tally k hist w) (o : Outlets) :
    Tally k (hist ++ processing k w o) (w.take o).1 := by
  by_cases hal : w.life = .alive
  · cases hq : w.queue with
    | nil =>
      have hp : processing k w o = [] := by simp [processing, hq]
      have hw : (w.take o).1 = w := by simp [Worker.take, hq]
      rw [hp, hw, List.append_nil]
      exact p
    | cons i q =>
      cases i with
      | event e => exact p.accept hal hq o
      | stop => exact p.close hal hq o
  · have hp : processing k w o = [] := by simp [processing, hal]
    have hw : (w.take o).1 = w := by simp [Worker.take, hal]
    rw [hp, hw, List.append_nil]
    exact p

/-- How often a worker has closed its sink can be read off its queue: once if it was stopped and the
stop marker is gone, and else never. -/
theorem Tally.closings_cases (p : Tally k hist w) :
    closings k hist = 1 ∧ .stopped k ∈ hist ∧ .stop ∉ w.queue ∨
      closings k hist = 0 ∧ (.stopped k ∈ hist → .stop ∈ w.queue) := by
  cases p.phase with
  | running _ _ _ hs hc => exact .inr ⟨closings_eq_zero hc, fun h => absurd h hs⟩
  | stopping _ _ es hq _ hc => exact .inr ⟨closings_eq_zero hc, fun _ => by simp [hq]⟩
  | finished _ _ hq hs hc => exact .inl ⟨hc, hs, by simp [hq]⟩

end Crew

end ThreadTrace
