import Mathlib.Data.List.Infix
import ThreadTrace.Proofs.Host.Routing
import ThreadTrace.Proofs.Pool.Started

namespace ThreadTrace

theorem Sink.accept_error {s : Sink} {e : Event} {o : Outlets} {f : Fault}
    (h : (s.accept e o).1 = .error f) : (s.accept e o).2 = (s, o) := by
  revert h
  rw [accept]
  cases s.outlet with
  | memory inbox => cases inbox <;> simp
  | console tag screen => cases hp : printEvent tag screen e o <;> simp [hp]
  | file path place written => cases s.closed <;> simp
  | made w slot box => cases hr : w.acceptRaises <;> simp [hr]

namespace Crew

variable {t : Target} {c c' : Crew} {k : Nat} {hist : List Record} {w : Worker}

theorem Tally.others {rs : List Record} (p : Tally k hist w) (h : ∀ x ∈ rs, x.place ≠ k) :
    Tally k (hist ++ rs) w := by
  induction rs generalizing hist with
  | nil => simpa using p
  | cons x rs ih =>
    have hx := p.other (h x List.mem_cons_self)
    have hr := ih hx fun y hy => h y (List.mem_cons_of_mem _ hy)
    simpa using hr

theorem Tally.step {j : Nat} {v v' : Worker} {rs : List Record} (p : Tally k hist w)
    (hw : c.worker? k = some w) (hv : c.worker? j = some v)
    (hs : c'.workers = c.workers.set j v') (hplace : ∀ x ∈ rs, x.place = j)
    (own : k = j → Tally k hist v → Tally k (hist ++ rs) v') :
    ∃ w, c'.worker? k = some w ∧ Tally k (hist ++ rs) w := by
  by_cases hj : k = j
  · subst hj
    obtain rfl : v = w := Option.some.inj (hv.symm.trans hw)
    refine ⟨v', ?_, own rfl p⟩
    rw [worker?, hs]
    exact List.getElem?_set_self (List.getElem?_eq_some_iff.1 hw).1
  · refine ⟨w, ?_, p.others fun x hx he => hj (he.symm.trans (hplace x hx))⟩
    rw [worker?, hs, List.getElem?_set_ne (Ne.symm hj)]
    exact hw

theorem tally_act (h : ∃ w, c.worker? k = some w ∧ Tally k hist w) (x : Action) :
    ∃ w, (c.act t x).1.worker? k = some w ∧ Tally k (hist ++ (c.act t x).2) w := by
  obtain ⟨w, hw, p⟩ := h
  have hx := acted t c x
  generalize c.act t x = y at hx ⊢
  cases hx with
  | idle => exact ⟨w, hw, by simpa using p⟩
  | send e j v hr hv =>
    apply p.step hw hv rfl (by simp [Record.place])
    rintro rfl hp
    exact hp.send e
  | take j v hv =>
    apply p.step hw hv rfl (processing_place j v c.outlets)
    rintro rfl hp
    exact hp.take c.outlets
  | stop j v hv =>
    apply p.step hw hv rfl (by simp [Record.place])
    rintro rfl hp
    exact hp.stop

theorem tally_traffic (h : ∃ w, c.worker? k = some w ∧ Tally k hist w) (xs : List Action) :
    ∃ w, (c.traffic t xs).1.worker? k = some w ∧ Tally k (hist ++ (c.traffic t xs).2) w := by
  induction xs generalizing c hist with
  | nil => simpa [traffic] using h
  | cons x xs ih =>
    have hr := ih (tally_act (t := t) h x)
    rw [traffic_cons]
    simpa using hr

theorem Tally.accepted_take (p : Tally k hist w) (o : Outlets) (n : Nat) :
    (w.queue.take (n + 1)).filterMap Item.event? <+:
      accepted k (processing k w o) ++ ((w.take o).1.queue.take n).filterMap Item.event? := by
  cases hq : w.queue with
  | nil => simp
  | cons i q =>
    have hl : w.life = .alive := by
      cases p.phase with
      | running _ h => exact h
      | stopping _ h => exact h
      | finished _ _ he => rw [hq] at he; cases he
    cases i with
    | event e => simp [processing, Worker.take, Worker.accept, hl, hq, accepted]
    | stop =>
      obtain rfl := p.queue_of_stop hq
      simp [List.filterMap_cons]

theorem send_grows (w : Worker) (e : Event) : w.queue <+: (w.send e).2.queue := by
  rw [Worker.send]
  split
  · exact List.prefix_append _ _
  · exact List.prefix_refl _

theorem stop_grows (w : Worker) : w.queue <+: w.stop.queue := by
  rw [Worker.stop]
  split
  · exact List.prefix_append _ _
  · exact List.prefix_refl _

theorem act_grows {x : Action} {w' : Worker} (hx : x ≠ .take k) (hw : c.worker? k = some w)
    (hw' : (c.act t x).1.worker? k = some w') :
    w.queue <+: w'.queue ∧ accepted k (c.act t x).2 = [] := by
  have grows : ∀ {j : Nat} {v v' : Worker}, c.worker? j = some v → v.queue <+: v'.queue →
      (c.putWorker j v').worker? k = some w' → w.queue <+: w'.queue := by
    intro j v v' hv hq h
    by_cases hj : j = k
    · subst hj
      obtain rfl := Option.some.inj (hv.symm.trans hw)
      obtain rfl := Option.some.inj (h.symm.trans (putWorker_worker? hw v'))
      exact hq
    · rw [worker?, putWorker, List.getElem?_set_ne hj] at h
      obtain rfl := Option.some.inj (h.symm.trans hw)
      exact List.prefix_refl _
  have ha := acted t c x
  generalize c.act t x = y at ha hw'
  cases ha with
  | idle =>
    obtain rfl := Option.some.inj (hw'.symm.trans hw)
    exact ⟨List.prefix_refl _, rfl⟩
  | send e j v hr hv => exact ⟨grows hv (send_grows v e) hw', rfl⟩
  | stop j v hv => exact ⟨grows hv (stop_grows v) hw', rfl⟩
  | take j v hv =>
    have hj : j ≠ k := fun he => hx (he ▸ rfl)
    constructor
    · rw [worker?, takeAt, List.getElem?_set_ne hj] at hw'
      obtain rfl := Option.some.inj (hw'.symm.trans hw)
      exact List.prefix_refl _
    · apply List.filterMap_eq_nil_iff.2
      intro r hr
      have hp := processing_place j v c.outlets r hr
      cases r <;> simp_all [Record.place]

/-- A worker's thread accepts what waits in its queue once it gets to take so many items, whatever
happens in between. -/
theorem accepted_waiting {n : Nat} {xs : List Action} (hw : c.worker? k = some w)
    (p : Tally k hist w) (hn : n ≤ xs.count (.take k)) :
    (w.queue.take n).filterMap Item.event? <+: accepted k (c.traffic t xs).2 := by
  induction xs generalizing c hist w n with
  | nil =>
    obtain rfl : n = 0 := by simpa using hn
    simp
  | cons x xs ih =>
    obtain ⟨w', hw', p'⟩ := tally_act (t := t) ⟨w, hw, p⟩ x
    rw [traffic_cons, accepted_append]
    -- only the worker's own takes shorten its queue, and each counts as one of the `n`
    by_cases hx : x = .take k
    · subst hx
      rw [List.count_cons_self] at hn
      have ha : c.act t (.take k) = (c.takeAt k w, processing k w c.outlets) := by simp [act, hw]
      rw [ha] at hw' p' ⊢
      obtain rfl := Option.some.inj ((takeAt_worker? hw).symm.trans hw')
      cases n with
      | zero => simp
      | succ n =>
        have hrest := ih hw' p' (Nat.le_of_succ_le_succ hn)
        exact (p.accepted_take c.outlets n).trans ((List.prefix_append_right_inj _).2 hrest)
    · rw [List.count_cons_of_ne hx] at hn
      obtain ⟨hgrow, hnone⟩ := act_grows hx hw hw'
      rw [hnone, List.nil_append]
      refine List.IsPrefix.trans ?_ (ih hw' p' hn)
      exact (hgrow.take n).filterMap _

abbrev Display := List Sink × Outlets

def display (c : Crew) : Display := (c.workers.map (·.sink), c.outlets)

def Record.replay (d : Display) : Record → Display
  | .accepted k e (.ok ()) =>
    match d.1[k]? with
    | some s => (d.1.set k (s.accept e d.2).2.1, (s.accept e d.2).2.2)
    | none => d
  | .closed k _ =>
    match d.1[k]? with
    | some s => (d.1.set k (s.close d.2).2.1, (s.close d.2).2.2)
    | none => d
  | _ => d

theorem display_put {w' : Worker} (hw : c.worker? k = some w) (hs : w'.sink = w.sink) :
    (c.putWorker k w').display = c.display := by
  have he : (c.workers.set k w').map (·.sink) = (c.workers.set k w).map (·.sink) := by
    rw [List.map_set, List.map_set, hs]
  rw [set_worker hw] at he
  exact Prod.ext he rfl

theorem display_sink (hw : c.worker? k = some w) : c.display.1[k]? = some w.sink := by
  simp only [display, List.getElem?_map]
  exact congrArg (Option.map (·.sink)) hw

theorem display_take (c : Crew) (k : Nat) (w : Worker) :
    (c.takeAt k w).display =
      (c.display.1.set k (w.take c.outlets).1.sink, (w.take c.outlets).2.1) := by
  simp [takeAt, display, List.map_set]

theorem set_display (hw : c.worker? k = some w) : c.display.1.set k w.sink = c.display.1 := by
  obtain ⟨hl, he⟩ := List.getElem?_eq_some_iff.1 (display_sink hw)
  rw [← he]
  exact List.set_getElem_self hl

theorem replay_take (hw : c.worker? k = some w) :
    (processing k w c.outlets).foldl Record.replay c.display = (c.takeAt k w).display := by
  rw [display_take]
  have hs := display_sink hw
  have ho : c.display.2 = c.outlets := rfl
  have hd : (c.display.1.set k w.sink, c.outlets) = c.display := Prod.ext (set_display hw) rfl
  by_cases hl : w.life = .alive
  · cases hq : w.queue with
    | nil => simp [processing, Worker.take, hl, hq, hd]
    | cons i q =>
      cases i with
      | event e =>
        cases hr : (w.sink.accept e c.outlets).1 with
        | ok u =>
          simp [processing, Worker.take, Worker.accept, Record.replay, hl, hq, hr, hs, ho]
        | error f =>
          have hf := Sink.accept_error hr
          simp [processing, Worker.take, Worker.accept, Record.replay, hl, hq, hr, hf, hd]
      | stop =>
        simp [processing, Worker.take, Worker.finish, Record.replay, hl, hq, hs, ho]
  · simp [processing, Worker.take, hl, hd]

theorem replay_act (x : Action) :
    (c.act t x).2.foldl Record.replay c.display = (c.act t x).1.display := by
  have hx := acted t c x
  generalize c.act t x = y at hx ⊢
  cases hx with
  | idle => rfl
  | take j v hv => exact replay_take hv
  | send e j v hr hv =>
    have hs : (v.send e).2.sink = v.sink := by
      rw [Worker.send]
      split <;> rfl
    exact (display_put hv hs).symm
  | stop j v hv =>
    have hs : v.stop.sink = v.sink := by
      rw [Worker.stop]
      split <;> rfl
    exact (display_put hv hs).symm

theorem replay_traffic (xs : List Action) :
    (c.traffic t xs).2.foldl Record.replay c.display = (c.traffic t xs).1.display := by
  induction xs generalizing c with
  | nil => rfl
  | cons x xs ih =>
    rw [traffic_cons, List.foldl_append, replay_act]
    exact ih

def Record.asked : Record → Option Event
  | .sent _ e _ => some e
  | _ => none

def Action.asks : Action → Option Event
  | .send e => some e
  | _ => none

theorem processing_asked (k : Nat) (w : Worker) (o : Outlets) :
    (processing k w o).filterMap Record.asked = [] := by
  rw [processing]
  split
  · rfl
  · split <;> rfl

theorem act_stopped (hk : k < c.workers.length) (x : Action) :
    .stopped k ∈ (c.act t x).2 ↔ x = .stop k := by
  have hx := acted t c x
  cases x with
  | send e =>
    generalize c.act _ _ = y at hx ⊢
    cases hx <;> simp
  | take j =>
    generalize c.act _ _ = y at hx ⊢
    cases hx with
    | idle => simp
    | take j w hw =>
      simp only [processing]
      split
      · simp
      · split <;> simp
  | stop j =>
    generalize c.act _ _ = y at hx ⊢
    cases hx with
    | idle _ hx =>
      refine iff_of_false (by simp) ?_
      rintro ⟨⟩
      have hn := hx k (.inr rfl)
      rw [worker?, List.getElem?_eq_none_iff] at hn
      omega
    | stop j w hw => simp [eq_comm]

theorem traffic_stopped (hk : k < c.workers.length) (xs : List Action) :
    .stopped k ∈ (c.traffic t xs).2 ↔ .stop k ∈ xs := by
  induction xs generalizing c with
  | nil => simp [traffic]
  | cons x xs ih =>
    have hrest := ih (c := (c.act t x).1) (by rw [act_length]; exact hk)
    rw [traffic_cons, List.mem_append, act_stopped hk, hrest, List.mem_cons, eq_comm]

section Workers

variable {id : Nat} {mode : Mode} {ws : List Nat}

theorem sent_routed (hn : ws ≠ []) {e : Event}
    (hr : (Target.ofWorkers id mode ws).route (.int e.carrier) = .ok (some k)) :
    ws[(e.carrier % ws.length).toNat]? = some k := by
  obtain ⟨j, hj, hroute⟩ := Target.route_ofWorkers id mode hn e.carrier
  rw [hroute] at hr
  cases hr
  exact hj

theorem act_answered (hn : ws ≠ []) (h : ∀ k ∈ ws, k < c.workers.length) (x : Action) :
    (c.act (Target.ofWorkers id mode ws) x).2.filterMap Record.asked = x.asks.toList := by
  have hx := acted (Target.ofWorkers id mode ws) c x
  cases x with
  | send e =>
    obtain ⟨k, hk, hr⟩ := Target.route_ofWorkers id mode hn e.carrier
    have hl := h k (List.mem_of_getElem? hk)
    have hw : c.worker? k = some c.workers[k] := List.getElem?_eq_getElem hl
    simp [act, hr, hw, Record.asked, Action.asks]
  | take k =>
    generalize c.act _ _ = y at hx ⊢
    cases hx with
    | idle => rfl
    | take k w hw => exact processing_asked k w c.outlets
  | stop k =>
    generalize c.act _ _ = y at hx ⊢
    cases hx <;> rfl

theorem traffic_answered (hn : ws ≠ []) (h : ∀ k ∈ ws, k < c.workers.length) (xs : List Action) :
    (c.traffic (Target.ofWorkers id mode ws) xs).2.filterMap Record.asked =
      xs.filterMap Action.asks := by
  induction xs generalizing c with
  | nil => rfl
  | cons x xs ih =>
    have hrest := ih (c := (c.act (Target.ofWorkers id mode ws) x).1)
      fun k hk => by
        rw [act_length]
        exact h k hk
    rw [traffic_cons, List.filterMap_append, act_answered hn h, hrest]
    cases ha : x.asks <;> simp [ha]

theorem act_routed (hn : ws ≠ []) {x : Action} {e : Event} {b : Bool}
    (h : .sent k e b ∈ (c.act (Target.ofWorkers id mode ws) x).2) :
    ws[(e.carrier % ws.length).toNat]? = some k := by
  have hx := acted (Target.ofWorkers id mode ws) c x
  generalize c.act _ _ = y at hx h
  cases hx with
  | idle => cases h
  | send e' j w hr hw =>
    cases List.mem_singleton.1 h
    exact sent_routed hn hr
  | take j w hw =>
    have ha := List.mem_filterMap.2 ⟨_, h, show (Record.sent k e b).asked = some e from rfl⟩
    rw [processing_asked] at ha
    cases ha
  | stop j w hw => cases List.mem_singleton.1 h

theorem traffic_routed (hn : ws ≠ []) {xs : List Action} {e : Event} {b : Bool}
    (h : .sent k e b ∈ (c.traffic (Target.ofWorkers id mode ws) xs).2) :
    ws[(e.carrier % ws.length).toNat]? = some k := by
  induction xs generalizing c with
  | nil => cases h
  | cons x xs ih =>
    rw [traffic_cons] at h
    rcases List.mem_append.1 h with h | h
    · exact act_routed hn h
    · exact ih h

end Workers

/-- How the worker at a place has served when traffic has come so far. -/
structure Served (t : Target) (c : Crew) (hist : List Record) (k : Nat) (w : Worker) : Prop where
  conserved : accepted k hist ++ w.waiting = taken k hist
  lawful : ∀ pre x post, hist = pre ++ x :: post → Lawful k pre x
  closings_le : closings k hist ≤ 1
  closings_eq : closings k hist = 1 ↔ .stopped k ∈ hist ∧ .stop ∉ w.queue
  drained : ∀ more : List Action, w.queue.length ≤ more.count (.take k) →
    taken k hist <+: accepted k (hist ++ (c.traffic t more).2)

theorem Tally.served (p : Tally k hist w) (hw : c.worker? k = some w) : Served t c hist k w where
  conserved := p.conserved
  lawful := p.lawful
  closings_le := by
    rcases p.closings_cases with h | h
    · exact h.1.le
    · omega
  closings_eq := by
    rcases p.closings_cases with ⟨h, hs, hq⟩ | ⟨h, hs⟩
    · exact iff_of_true h ⟨hs, hq⟩
    · exact iff_of_false (by omega) fun hn => hn.2 (hs hn.1)
  drained more hm := by
    have h := accepted_waiting (t := t) hw p hm
    rw [List.take_length] at h
    rw [accepted_append, ← p.conserved]
    exact (List.prefix_append_right_inj _).2 h

/-- Traffic through the target of some workers. -/
structure Delivers (t : Target) (ws : List Nat) (c : Crew) (xs : List Action) : Prop where
  answered : (c.traffic t xs).2.filterMap Record.asked = xs.filterMap Action.asks
  routed : ∀ (k : Nat) (e : Event) (b : Bool), .sent k e b ∈ (c.traffic t xs).2 →
    ws[(e.carrier % ws.length).toNat]? = some k
  owned : ∀ k ∈ ws, ∀ e ∈ accepted k (c.traffic t xs).2,
    ws[(e.carrier % ws.length).toNat]? = some k
  stopped : ∀ k ∈ ws, .stopped k ∈ (c.traffic t xs).2 ↔ .stop k ∈ xs
  replayed : (c.traffic t xs).2.foldl Record.replay c.display = (c.traffic t xs).1.display
  served : ∀ k ∈ ws, ∃ w, (c.traffic t xs).1.worker? k = some w ∧
    Served t (c.traffic t xs).1 (c.traffic t xs).2 k w

theorem exists_sent {e : Event} (h : e ∈ taken k hist) : .sent k e true ∈ hist := by
  obtain ⟨x, hx, he⟩ := List.mem_filterMap.1 h
  cases x with
  | sent j e' b => cases b <;> simp_all
  | _ => simp at he

theorem Started.delivers {ws : List Nat} (h : c.Started ws) (hn : ws ≠ []) (id : Nat) (mode : Mode)
    (xs : List Action) : Delivers (Target.ofWorkers id mode ws) ws c xs := by
  have hl : ∀ k ∈ ws, k < c.workers.length := by
    intro k hk
    obtain ⟨w, hw, -⟩ := h k hk
    exact (List.getElem?_eq_some_iff.1 hw).1
  have hserved : ∀ k ∈ ws, ∃ w, (c.traffic (Target.ofWorkers id mode ws) xs).1.worker? k = some w ∧
      Served (Target.ofWorkers id mode ws) (c.traffic (Target.ofWorkers id mode ws) xs).1
        (c.traffic (Target.ofWorkers id mode ws) xs).2 k w := by
    intro k hk
    obtain ⟨w, hw, p⟩ := tally_traffic (t := Target.ofWorkers id mode ws) (h k hk).tally xs
    rw [List.nil_append] at p
    exact ⟨w, hw, p.served hw⟩
  constructor
  · exact traffic_answered hn hl xs
  · exact fun k e b he => traffic_routed hn he
  · intro k hk e he
    obtain ⟨w, -, s⟩ := hserved k hk
    have ht := exists_sent (s.conserved ▸ List.mem_append_left _ he)
    exact traffic_routed hn ht
  · exact fun k hk => traffic_stopped (hl k hk) xs
  · exact replay_traffic xs
  · exact hserved

/-- Whatever is sent through the target of a pool that was created and started, whenever its workers
take items and whenever they are stopped: events go to the worker that the carrier's remainder
names, which hands exactly those that it took to its sink, in order, before it closes it. -/
theorem pool_delivery {settings : Settings} {owner : Nat → String} {id size kind options : Value}
    {c₀ c₁ c : Crew} {pool : Pool}
    (hc : (createPool settings owner id size kind options).on c₀ = (.ok pool, c₁))
    (hs : (startAll pool.workers).on c₁ = (.ok (), c)) (tid : Nat) (mode : Mode)
    (xs : List Action) :
    Delivers (Target.ofWorkers tid mode pool.workers) pool.workers c xs := by
  obtain ⟨hn, hd, hw⟩ := createPool_on hc
  obtain ⟨c', he, hstarted, -⟩ := startAll_on hd hw
  rw [he] at hs
  cases hs
  exact hstarted.delivers hn tid mode xs

/-- A pool of two: the send after the stop is refused, and the event before it is still accepted. -/
theorem pool_delivery_pair :
    ∃ c₁ c : Crew,
      (createPool {} (fun _ => "p") (.text "p") (.int 2) (.text "memory") .null).on {} =
        (.ok ⟨.text "p", [0, 1]⟩, c₁) ∧
      (startAll [0, 1]).on c₁ = (.ok (), c) ∧
      Delivers (Target.ofWorkers 0 .trace [0, 1]) [0, 1] c
        [.send { kind := .call, carrier := 3 }, .stop 1, .send { kind := .call, carrier := 5 },
          .take 1, .take 1] := by
  have hc : (createPool {} (fun _ => "p") (.text "p") (.int 2) (.text "memory") .null).on {} =
    (.ok ⟨.text "p", [0, 1]⟩, _) := rfl
  obtain ⟨-, hd, hw⟩ := createPool_on hc
  obtain ⟨c, hs, -⟩ := startAll_on hd hw
  exact ⟨_, c, hc, hs, pool_delivery hc hs 0 .trace _⟩

end Crew

end ThreadTrace
