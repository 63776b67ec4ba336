import ThreadTrace.Proofs.Profile.Course

namespace ThreadTrace

namespace Situation

variable {σ : Type} (c : HookEnv σ) (s₀ : Situation σ)

inductive Armed : List Move → Attachment → Prop
  | attach {ms caller sel a} (hs : sel.coversNew = true) :
      Armed (ms ++ [.attach caller (.selector sel) a]) a
  | later {ms m a} (h : Armed ms a) (hm : ∀ caller, m ≠ .clear caller) : Armed (ms ++ [m]) a

inductive Snapshot : List Move → List String → Prop
  | taken {ms caller sel a} (hs : sel.coversNew = true)
      (hn : (s₀.run c ms).host.arrivals = none) :
      Snapshot (ms ++ [.attach caller (.selector sel) a])
        ((s₀.run c ms).threads.listed.map (·.name))
  | later {ms m known} (h : Snapshot ms known)
      (hm : (s₀.run c (ms ++ [m])).host.arrivals.isSome = true) : Snapshot (ms ++ [m]) known

/-- A thread was to get an attachment, and the host was not cleared since. -/
inductive Requested : List Move → String → Attachment → Prop
  | thread {ms caller x a} : Requested (ms ++ [.attach caller (.thread x) a]) x a
  | ident {ms caller t a} (ht : t ∈ (s₀.run c ms).threads.all) (ha : t.isAlive = true) :
      Requested (ms ++ [.attach caller (.ident t.assigned) a]) t.name a
  | existing {ms caller sel t a} (hs : sel.coversExisting = true)
      (ht : t ∈ (s₀.run c ms).threads.all) (ha : t.isAlive = true) :
      Requested (ms ++ [.attach caller (.selector sel) a]) t.name a
  | arrived {ms t f below a known} (ht : t ∈ (s₀.run c ms).threads.all) (ha : t.isAlive = true)
      (hn : (s₀.run c ms).host.traced.get? t.assigned = none)
      (ho : Hook.own? t.caller .call (s₀.run c ms).host = some a) (hr : Armed ms a)
      (hk : Snapshot c s₀ ms known) (hx : t.name ∉ known) :
      Requested (ms ++ [.signal t.name .call f below]) t.name a
  | started {ms u f below x a} (hu : u ∈ (s₀.run c ms).threads.all) (ha : u.isAlive = true)
      (ho : Hook.own? u.caller .call (s₀.run c ms).host = some a)
      (hs : a.flags.setOnSpawn = true) (hf : Hook.started? f = some x)
      (h : Requested (ms ++ [.signal u.name .call f below]) u.name a) :
      Requested (ms ++ [.signal u.name .call f below]) x a
  | later {ms m x a} (h : Requested ms x a) (hm : ∀ caller, m ≠ .clear caller) :
      Requested (ms ++ [m]) x a

/-- What is promised about threads: live ones differ in their idents, and the end of a traced thread
is the return of its lowest frame, which reaches the hook. -/
structure Orderly (ms : List Move) : Prop where
  apart : ∀ pre, pre <+: ms → (s₀.run c pre).threads.Apart
  ends : ∀ pre x t, pre ++ [.finish x none] <+: ms → (s₀.run c pre).threads.find? x = some t →
    t.isAlive = true → (s₀.run c pre).host.traced.get? t.assigned = none

/-- Whoever is traced is alive, no sink and requested; so is, once alive, whoever waits. -/
structure Accounted (ms : List Move) : Prop where
  names : (s₀.run c ms).threads.names.Nodup
  listens : Hook.Listens (s₀.run c ms).host
  traced : ∀ y ∈ (s₀.run c ms).host.traced, ∃ t ∈ (s₀.run c ms).threads.all,
    t.isAlive = true ∧ t.assigned = y.1 ∧ t.isSink = false ∧ Requested c s₀ ms t.name y.2
  pending : ∀ y ∈ (s₀.run c ms).host.pending,
    (s₀.run c ms).threads.isSink y.1 = false ∧ Requested c s₀ ms y.1 y.2
  arrivals : ∀ a, (s₀.run c ms).host.arrivals = some a →
    Armed ms a ∧ Snapshot c s₀ ms (s₀.run c ms).host.known

variable {c s₀} {ms : List Move} {m : Move}

theorem Accounted.carry (p : Accounted c s₀ ms) (hm : ∀ caller, m ≠ .clear caller)
    (ht : ∀ y ∈ (s₀.run c (ms ++ [m])).host.traced,
      (y ∈ (s₀.run c ms).host.traced ∧
        ∀ t ∈ (s₀.run c ms).threads.all, t.isAlive = true → t.assigned = y.1 → ¬m.Ends t.name) ∨
      ∃ t ∈ (s₀.run c ms).threads.all, t.isAlive = true ∧ t.assigned = y.1 ∧ t.isSink = false ∧
        ¬m.Ends t.name ∧ Requested c s₀ (ms ++ [m]) t.name y.2)
    (hp : ∀ y ∈ (s₀.run c (ms ++ [m])).host.pending, y ∈ (s₀.run c ms).host.pending ∨
      (s₀.run c ms).threads.isSink y.1 = false ∧ Requested c s₀ (ms ++ [m]) y.1 y.2)
    (ha : ∀ a, (s₀.run c (ms ++ [m])).host.arrivals = some a →
      ((s₀.run c ms).host.arrivals = some a ∧
        (s₀.run c (ms ++ [m])).host.known = (s₀.run c ms).host.known) ∨
      Armed (ms ++ [m]) a ∧ Snapshot c s₀ (ms ++ [m]) (s₀.run c (ms ++ [m])).host.known) :
    Accounted c s₀ (ms ++ [m]) := by
  have he : Threads.Evolves (s₀.run c ms).threads (s₀.run c (ms ++ [m])).threads m.Ends := by
    rw [run_concat]
    exact step_evolves c p.names m
  constructor
  · rw [he.names]
    exact p.names
  · rw [run_concat]
    exact listens_step p.listens m
  · intro y hy
    have found : ∃ t ∈ (s₀.run c ms).threads.all, t.isAlive = true ∧ t.assigned = y.1 ∧
        t.isSink = false ∧ ¬m.Ends t.name ∧ Requested c s₀ (ms ++ [m]) t.name y.2 := by
      obtain ⟨hy, hg⟩ | hy := ht y hy
      · obtain ⟨t, ht, hal, hn, hs, hr⟩ := p.traced y hy
        exact ⟨t, ht, hal, hn, hs, hg t ht hal hn, .later hr hm⟩
      · exact hy
    obtain ⟨t, ht, hal, hn, hs, hg, hr⟩ := found
    obtain ⟨u, hu, hux, hus, hua, hun⟩ := he.alive p.names ht hal hg
    exact ⟨u, hu, hua, hun.trans hn, hus.trans hs, hux ▸ hr⟩
  · intro y hy
    rw [he.isSink]
    obtain hy | hy := hp y hy
    · exact ⟨(p.pending y hy).1, .later (p.pending y hy).2 hm⟩
    · exact hy
  · intro a har
    obtain ⟨hold, hk⟩ | h := ha a har
    · obtain ⟨h1, h2⟩ := p.arrivals a hold
      rw [hk]
      exact ⟨.later h1 hm, .later h2 (by rw [har]; rfl)⟩
    · exact h

theorem Accounted.less (p : Accounted c s₀ ms) (hm : ∀ caller, m ≠ .clear caller)
    (ht : ∀ y ∈ (s₀.run c (ms ++ [m])).host.traced, y ∈ (s₀.run c ms).host.traced ∧
      ∀ t ∈ (s₀.run c ms).threads.all, t.isAlive = true → t.assigned = y.1 → ¬m.Ends t.name)
    (hp : ∀ y ∈ (s₀.run c (ms ++ [m])).host.pending, y ∈ (s₀.run c ms).host.pending)
    (ha : ∀ a, (s₀.run c (ms ++ [m])).host.arrivals = some a →
      (s₀.run c ms).host.arrivals = some a)
    (hk : (s₀.run c (ms ++ [m])).host.known = (s₀.run c ms).host.known) :
    Accounted c s₀ (ms ++ [m]) :=
  p.carry hm (fun y hy => .inl (ht y hy)) (fun y hy => .inl (hp y hy))
    fun a har => .inl ⟨ha a har, hk⟩

theorem Accounted.same (p : Accounted c s₀ ms) (hm : ∀ caller, m ≠ .clear caller)
    (hh : ((s₀.run c ms).step c m).host = (s₀.run c ms).host)
    (hg : ∀ y ∈ (s₀.run c ms).host.traced, ∀ t ∈ (s₀.run c ms).threads.all, t.isAlive = true →
      t.assigned = y.1 → ¬m.Ends t.name) : Accounted c s₀ (ms ++ [m]) := by
  rw [← run_concat] at hh
  apply p.less hm
  · intro y hy
    rw [hh] at hy
    exact ⟨hy, hg y hy⟩
  · rw [hh]
    exact fun y hy => hy
  · rw [hh]
    exact fun a ha => ha
  · rw [hh]

/-- The attachment that a live thread has in a call was requested for it, and it is no sink. -/
theorem Accounted.own (p : Accounted c s₀ ms) (hd : (s₀.run c ms).threads.Apart) {t : Thread}
    (ht : t ∈ (s₀.run c ms).threads.all) (hal : t.isAlive = true) {a : Attachment}
    (ho : Hook.own? t.caller .call (s₀.run c ms).host = some a) (f : Frame) (below : List Frame) :
    t.isSink = false ∧ Requested c s₀ (ms ++ [.signal t.name .call f below]) t.name a := by
  obtain hg | ⟨-, hg, har⟩ := Hook.own?_cases ho
  · obtain ⟨u, hu, hua, hun, hus, hr⟩ := p.traced _ (Table.mem_of_get? hg)
    have hname : u.name = t.name := hd u hu t ht hua hal hun
    obtain rfl := Threads.eq_of_name p.names hu ht hname
    exact ⟨hus, .later hr (by simp)⟩
  · obtain hw | ⟨hs, hx, hr⟩ := Hook.arriving_cases har
    · obtain ⟨hs, hr⟩ := p.pending _ (Table.mem_of_get? hw)
      exact ⟨(Threads.isSink_of_mem p.names ht).symm.trans hs, .later hr (by simp)⟩
    · obtain ⟨hm, hk⟩ := p.arrivals a hr
      exact ⟨hs, .arrived ht hal hg ho hm hk hx⟩

theorem Accounted.signal (p : Accounted c s₀ ms) (hd : (s₀.run c ms).threads.Apart) (x : String)
    (what : Hook.Signal) (f : Frame) (below : List Frame) :
    Accounted c s₀ (ms ++ [.signal x what f below]) := by
  have still : (s₀.run c ms).signal c x what f below = s₀.run c ms →
      Accounted c s₀ (ms ++ [.signal x what f below]) := by
    intro hs
    exact p.same (by simp) (by rw [step, hs]) fun _ _ _ _ _ _ hg => hg
  obtain hs | ⟨t, hx, hal, hc⟩ := signal_cases (c := c) (s₀.run c ms) x what f below
  · exact still hs
  · obtain ⟨ht, rfl⟩ := Threads.mem_of_find? hx
    have hs : s₀.run c (ms ++ [.signal t.name what f below]) =
        (s₀.run c ms).signal c t.name what f below := run_concat ..
    rw [← hs] at hc
    apply p.carry (by simp)
    · intro y hy
      obtain hy | ⟨rfl, hn, ho⟩ := hc.traced y hy
      · exact .inl ⟨hy, fun _ _ _ _ hg => hg⟩
      · obtain ⟨hsink, hr⟩ := p.own hd ht hal ho f below
        exact .inr ⟨t, ht, hal, hn.symm, hsink, fun hg => hg, hr⟩
    · intro y hy
      obtain hy | ⟨rfl, ho, hf, hst, hsink⟩ := hc.pending y hy
      · exact .inl hy
      · exact .inr ⟨hsink, .started ht hal ho hf hst (p.own hd ht hal ho f below).2⟩
    · intro a ha
      exact .inl ⟨hc.arrivals a ha, hc.known⟩

theorem Accounted.finish (p : Accounted c s₀ ms) (x : String) (lowest : Option Frame)
    (he : lowest = none → ∀ t, (s₀.run c ms).threads.find? x = some t → t.isAlive = true →
      (s₀.run c ms).host.traced.get? t.assigned = none) :
    Accounted c s₀ (ms ++ [.finish x lowest]) := by
  cases lowest with
  | none =>
    refine p.same (by simp) (finish_unheard _ x).1 ?_
    rintro y hy t ht hal hn rfl
    have hg := Table.get?_isSome_of_mem hy
    rw [← hn, he rfl t (Threads.find?_of_mem p.names ht) hal] at hg
    cases hg
  | some f =>
    have hh : (s₀.run c (ms ++ [.finish x (some f)])).host =
        ((s₀.run c ms).signal c x .ret f []).host := by
      rw [run_concat]
      exact (finish_heard _ x f).1
    have gone : ∀ y ∈ ((s₀.run c ms).signal c x .ret f []).host.traced,
        ∀ t ∈ (s₀.run c ms).threads.all, t.isAlive = true → t.assigned = y.1 →
          ¬Move.Ends (.finish x (some f)) t.name := by
      rintro y hy t ht hal hn rfl
      obtain ⟨es, hp⟩ := signal_performed (c := c) (Threads.find?_of_mem p.names ht) hal .ret f []
      exact Hook.untraced_plan_end p.listens (hp.traced y hy) hn.symm
    obtain hs | ⟨t, -, -, hc⟩ := signal_cases (c := c) (s₀.run c ms) x .ret f []
    · rw [hs] at gone
      exact p.same (by simp) ((finish_heard _ x f).1.trans (by rw [hs])) gone
    · rw [← hh] at hc gone
      apply p.less (by simp)
      · intro y hy
        obtain hold | ⟨hw, -⟩ := hc.traced y hy
        · exact ⟨hold, gone y hy⟩
        · cases hw
      · intro y hy
        obtain hold | ⟨hw, -⟩ := hc.pending y hy
        · exact hold
        · cases hw
      · exact hc.arrivals
      · exact hc.known

theorem Accounted.attach (p : Accounted c s₀ ms) (caller : String) (carrier : Carrier)
    (a : Attachment) : Accounted c s₀ (ms ++ [.attach caller carrier a]) := by
  have hs : s₀.run c (ms ++ [.attach caller carrier a]) =
      (s₀.run c ms).step c (.attach caller carrier a) := run_concat ..
  let o := (s₀.run c ms).calledBy caller
  obtain ⟨active, installed, allThreads, hh⟩ := o.attach_host a carrier
  have hhost : (s₀.run c (ms ++ [.attach caller carrier a])).host = (o.attach carrier a).1.host := by
    rw [hs]
    rfl
  apply p.carry (by simp)
  · intro y hy
    rw [hhost, hh] at hy
    obtain hy | ⟨rfl, t, ht, hal, hn, hsink, hsel⟩ := Observed.mem_traced_attachCarrier hy
    · exact .inl ⟨hy, fun _ _ _ _ hg => hg⟩
    · refine .inr ⟨t, ht, hal, hn, hsink, fun hg => hg, ?_⟩
      cases carrier with
      | selector sel => exact .existing hsel ht hal
      | port handle => exact hsel.elim
      | thread x =>
        obtain rfl : x = t.name := hsel
        exact .thread
      | ident n =>
        obtain rfl : n = t.assigned := hsel
        exact .ident ht hal
  · intro y hy
    rw [hhost, hh] at hy
    obtain hy | ⟨rfl, rfl, hsink⟩ := Observed.mem_pending_attachCarrier hy
    · exact .inl hy
    · exact .inr ⟨hsink, .thread⟩
  · intro b hb
    have ha : (s₀.run c (ms ++ [.attach caller carrier a])).host.arrivals =
        (o.attachCarrier carrier a).1.arrivals := by rw [hhost, hh]
    have hk : (s₀.run c (ms ++ [.attach caller carrier a])).host.known =
        (o.attachCarrier carrier a).1.known := by rw [hhost, hh]
    obtain ⟨ho, hk'⟩ | ⟨ho, hk', sel, rfl, hsel⟩ := o.arrivals_attachCarrier a carrier
    · exact .inl ⟨(ho.symm.trans ha.symm).trans hb, hk.trans hk'⟩
    · obtain rfl : a = b := Option.some.inj ((ho.symm.trans ha.symm).trans hb)
      refine .inr ⟨.attach hsel, ?_⟩
      rw [hk, hk']
      cases hr : (s₀.run c ms).host.arrivals with
      | none =>
        have hn : o.host.arrivals.isNone = true := by
          rw [show o.host.arrivals = none from hr]
          rfl
        rw [if_pos hn]
        exact .taken hsel hr
      | some b =>
        have hn : ¬o.host.arrivals.isNone = true := by
          rw [show o.host.arrivals = some b from hr]
          simp
        rw [if_neg hn]
        exact .later (p.arrivals b hr).2 (by rw [hb]; rfl)

theorem Accounted.clear (p : Accounted c s₀ ms) (caller : String) :
    Accounted c s₀ (ms ++ [.clear caller]) := by
  have hs : s₀.run c (ms ++ [.clear caller]) = (s₀.run c ms).step c (.clear caller) := run_concat ..
  have hh : (s₀.run c (ms ++ [.clear caller])).host.held = [] := by
    rw [hs]
    exact Observed.held_clear
  have none : ∀ b, b ∉ (s₀.run c (ms ++ [.clear caller])).host.held := by simp [hh]
  constructor
  · rw [hs]
    exact names_step c p.names _
  · rw [hs]
    exact listens_step p.listens _
  · intro y hy
    exact absurd (ProfileHost.mem_held.2 (.inl ⟨_, hy⟩)) (none y.2)
  · intro y hy
    exact absurd (ProfileHost.mem_held.2 (.inr (.inl ⟨_, hy⟩))) (none y.2)
  · intro a ha
    exact absurd (ProfileHost.mem_held_of_arrivals ha) (none a)

theorem Accounted.fresh {ts : Threads} (hn : ts.names.Nodup) (o : σ) :
    Accounted c (fresh ts o) [] where
  names := hn
  listens := fun h => absurd rfl h
  traced := fun y hy => by cases hy
  pending := fun y hy => by cases hy
  arrivals := fun a ha => by cases ha

theorem Accounted.step (p : Accounted c s₀ ms) (m : Move) (ho : Orderly c s₀ (ms ++ [m])) :
    Accounted c s₀ (ms ++ [m]) := by
  cases m with
  | attach caller carrier a => exact p.attach caller carrier a
  | clear caller => exact p.clear caller
  | signal x what f below => exact p.signal (ho.apart ms (List.prefix_append ..)) x what f below
  | finish x lowest =>
    refine p.finish x lowest fun hn t ht hal => ?_
    subst hn
    exact ho.ends ms x t (List.prefix_refl _) ht hal
  | install unit spec localOnly =>
    have hs := run_concat c s₀ ms (.install unit spec localOnly)
    apply p.less (by simp) <;> rw [hs]
    · exact fun y hy => ⟨hy, fun _ _ _ _ hg => hg⟩
    · exact fun y hy => hy
    · exact fun a ha => ha
    · rfl
  | forget t =>
    have hs := run_concat c s₀ ms (.forget t)
    apply p.less (by simp) <;> rw [hs]
    · exact fun y hy => ⟨(List.mem_filter.1 hy).1, fun _ _ _ _ hg => hg⟩
    · exact fun y hy => (List.mem_filter.1 hy).1
    · exact fun a ha => (Option.filter_eq_some_iff.1 ha).1
    · rfl
  | launch x =>
    exact p.same (by simp) (by simp only [Situation.step]; split <;> rfl) fun _ _ _ _ _ _ hg => hg
  | start x ident =>
    exact p.same (by simp) (by simp only [Situation.step]; split <;> rfl) fun _ _ _ _ _ _ hg => hg

theorem Accounted.run {ts : Threads} {o : σ} (hn : ts.names.Nodup) (ms : List Move)
    (ho : Orderly c (Situation.fresh ts o) ms) : Accounted c (Situation.fresh ts o) ms := by
  have go : ∀ todo done, done ++ todo = ms → Accounted c (Situation.fresh ts o) done →
      Accounted c (Situation.fresh ts o) ms := by
    intro todo
    induction todo with
    | nil =>
      intro done he p
      rw [List.append_nil] at he
      exact he ▸ p
    | cons m todo ih =>
      intro done he p
      have hp : done ++ [m] <+: ms := ⟨todo, by rw [← he]; simp⟩
      refine ih (done ++ [m]) (by rw [← he]; simp) (p.step m ?_)
      exact ⟨fun pre h => ho.apart pre (h.trans hp), fun pre x t h => ho.ends pre x t (h.trans hp)⟩
  exact go ms [] rfl (.fresh hn o)

/-- Only threads for which it was requested are traced, and sinks are neither traced nor waiting. -/
theorem traced_requested {ts : Threads} {o : σ} (hn : ts.names.Nodup) {ms : List Move}
    (ho : Orderly c (Situation.fresh ts o) ms) :
    let s := (Situation.fresh ts o).run c ms
    (∀ t ∈ s.threads.all, t.isAlive = true → ∀ a, s.host.traced.get? t.assigned = some a →
        t.isSink = false ∧ Requested c (Situation.fresh ts o) ms t.name a) ∧
      ∀ t ∈ s.threads.all, (s.host.pending.get? t.name).isSome = true → t.isSink = false := by
  intro s
  have p := Accounted.run hn ms ho
  have hd : s.threads.Apart := ho.apart ms (List.prefix_refl ms)
  constructor
  · intro t ht hal a hg
    obtain ⟨u, hu, hua, hun, hus, hr⟩ := p.traced _ (Table.mem_of_get? hg)
    have hname : u.name = t.name := hd u hu t ht hua hal hun
    obtain rfl := Threads.eq_of_name p.names hu ht hname
    exact ⟨hus, hr⟩
  · intro t ht hw
    obtain ⟨a, ha⟩ := Option.isSome_iff_exists.1 hw
    rw [← Threads.isSink_of_mem p.names ht]
    exact (p.pending _ (Table.mem_of_get? ha)).1

def spawning (a : Attachment) : List Move :=
  [.attach "main" (.thread "main") a, .signal "main" .call (.start (.thread "child")) [],
    .start "child" 7, .signal "child" .call { unit := some "app", function := "work" } []]

theorem traced_requested_child :
    Requested (.answering true) (Situation.fresh .family ())
      (spawning ⟨{ setOnSpawn := true }, .ofWorkers 0 .trace [0]⟩) "child"
      ⟨{ setOnSpawn := true }, .ofWorkers 0 .trace [0]⟩ := by
  have ho : Orderly (.answering true) (Situation.fresh .family ())
      (spawning ⟨{ setOnSpawn := true }, .ofWorkers 0 .trace [0]⟩) := by
    constructor
    · intro pre h
      simp only [spawning, List.prefix_cons_iff, List.prefix_nil] at h
      rcases h with rfl | ⟨_, rfl, rfl | ⟨_, rfl, rfl | ⟨_, rfl, rfl | ⟨_, rfl, rfl⟩⟩⟩⟩ <;> decide
    · intro pre x t h
      have hm := h.subset (List.mem_append_right pre List.mem_cons_self)
      simp [spawning] at hm
  have h := traced_requested (c := .answering true) (o := ()) (by decide) ho
  exact (h.1 { name := "child", assigned := 7, state := .alive, hooked := true }
    (Threads.mem_of_find? (x := "child") (by rfl)).1 rfl _ (by rfl)).2

end Situation

end ThreadTrace
