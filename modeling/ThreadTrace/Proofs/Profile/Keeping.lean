import ThreadTrace.Proofs.Profile.Dropping
import ThreadTrace.Proofs.Profile.Renewal
import ThreadTrace.Proofs.Profile.Stream
import ThreadTrace.Proofs.Profile.Switching
import ThreadTrace.Proofs.Profile.Waiting

namespace ThreadTrace

theorem Table.get?_filter_eq_none {κ α : Type} [DecidableEq κ] {t : Table κ α} {k : κ}
    (h : t.get? k = none) (p : κ × α → Bool) : Table.get? (t.filter p) k = none := by
  cases hf : Table.get? (t.filter p) k with
  | none => rfl
  | some a =>
    have hs := get?_isSome_of_mem (List.mem_filter.1 (mem_of_get? hf)).1
    rw [h] at hs
    cases hs

/-- That a journal tells of a target being dropped, and why: one of its workers refused an event, or
it has no workers. -/
inductive Drops (t : Target) (es : List Entry) : Prop
  | refused {u k e} (hu : u.id = t.id) (hr : u.route (.int e.carrier) = .ok (some k))
      (he : [.handed k e false, .dropped u] <:+: es)
  | unserved {u} (hu : u.id = t.id) (hs : u.sinks = []) (hd : .dropped u ∈ es)

theorem Drops.append {t : Target} {es : List Entry} (p : Drops t es) (fs : List Entry) :
    Drops t (fs ++ es) := by
  cases p with
  | refused hu hr he => exact .refused hu hr (he.trans (List.suffix_append fs es).isInfix)
  | unserved hu hs hd => exact .unserved hu hs (List.mem_append_right fs hd)

theorem Answered.drops {es : List Entry} (p : Answered es) {t : Target} {y : Entry} (hy : y ∈ es)
    (hd : y.drops t) : Drops t es := by
  induction p with
  | nil => cases hy
  | @taken k e es _ ih =>
    obtain rfl | hy := List.mem_cons.1 hy
    · exact hd.elim
    · exact (ih hy).append [.handed k e true]
  | @refused k e u es hr _ ih =>
    obtain rfl | hy := List.mem_cons.1 hy
    · exact hd.elim
    · obtain rfl | hy := List.mem_cons.1 hy
      · exact .refused hd hr ⟨[], es, rfl⟩
      · exact (ih hy).append [.handed k e false, .dropped u]
  | @unserved u es hs _ ih =>
    obtain rfl | hy := List.mem_cons.1 hy
    · exact .unserved hd hs List.mem_cons_self
    · exact (ih hy).append [.dropped u]

namespace Hook

variable {isSink : String → Bool} {me : Caller} {what : Signal} {f : Frame} {below : List Frame}
  {h k : ProfileHost} {ds : List Effect} {es : List Entry} {r : Except Fault Unit} {n : Nat}
  {x : String} {a : Attachment}

/-- What no drop of a target and no attachment passed on can end, effects leave alone, unless they
drop that very target. -/
theorem Performed.undropped {P : ProfileHost → Prop} (p : Performed ds h r es k)
    (hd : ∀ d ∈ ds, d.Proper) {t : Target}
    (hf : ∀ g u, u.id ≠ t.id → P g → P (ProfileHost.forget g u))
    (hp : ∀ g child a, .pass child a ∈ ds → P g → P (Hook.pass child a g)) (hh : P h) :
    P k ∨ Drops t es := by
  by_cases hy : ∃ y ∈ es, y.drops t
  · obtain ⟨y, hy, hyd⟩ := hy
    exact .inr ((p.answered hd).drops hy hyd)
  · refine .inl (p.preserves_of_dropped (fun g u hm hg => hf g u (fun hu => hy ?_) hg) hp hh)
    exact ⟨.dropped u, hm, hu⟩

theorem plan_proper : ∀ d ∈ (plan isSink me what f below h).2, d.Proper :=
  fun _ hd => (mem_plan hd).proper

theorem Performed.keeps_traced (p : Performed (plan isSink me what f below h).2
    (plan isSink me what f below h).1 r es k) (hg : h.traced.get? n = some a) :
    k.traced.get? n = some a ∨ Drops a.target es ∨ n = me.ident ∧ what = .ret ∧ below = [] := by
  by_cases he : n = me.ident ∧ what = .ret ∧ below = []
  · exact .inr (.inr he)
  · have hplan : (plan isSink me what f below h).1.traced.get? n = some a := by
      by_cases hn : n = me.ident
      · subst hn
        cases ha : h.active with
        | false => simpa only [plan, ha, Bool.false_eq_true, if_false] using hg
        | true => exact traced_plan_own ha (own?_of_traced hg) fun hw hb => he ⟨rfl, hw, hb⟩
      · rw [traced_plan_other (Ne.symm hn)]
        exact hg
    refine (p.undropped (P := fun g => g.traced.get? n = some a) plan_proper ?_ ?_ hplan).imp_right
      .inl
    · intro g u hu hg
      exact Table.get?_filter hg (by simpa using Ne.symm hu)
    · intro g child b _ hg
      exact hg

theorem Performed.keeps_arrivals (p : Performed (plan isSink me what f below h).2
    (plan isSink me what f below h).1 r es k) (ha : h.arrivals = some a) :
    k.arrivals = some a ∨ Drops a.target es := by
  obtain ⟨-, harr, -⟩ := plan_others isSink me what f below h
  refine p.undropped (P := fun g => g.arrivals = some a) plan_proper ?_ ?_ (harr.trans ha)
  · intro g u hu hg
    exact Option.filter_eq_some_iff.2 ⟨hg, by simpa using Ne.symm hu⟩
  · intro g child b _ hg
    exact hg

theorem moves_settle (hp : h.pending.get? me.thread = some a) :
    (settle me h).2.pending.get? me.thread = some a ∨
      (settle me h).2.pending.get? me.thread = none ∧
        (settle me h).2.traced.get? me.ident = some a := by
  have ha : arriving h me = some a := by simp only [arriving, hp]
  unfold settle
  split
  · exact .inl hp
  · split
    · exact .inl hp
    · rw [ha]
      exact .inr ⟨by rw [Table.get?_erase, if_pos rfl], by rw [Table.get?_put, if_pos rfl]⟩

theorem moves_plan (isSink : String → Bool) (f : Frame) (below : List Frame)
    (hp : h.pending.get? x = some a) :
    (plan isSink me what f below h).1.pending.get? x = some a ∨
      (what = .call ∧ me.thread = x) ∧ (plan isSink me what f below h).1.pending.get? x = none ∧
        (plan isSink me what f below h).1.traced.get? me.ident = some a := by
  by_cases hx : what = .call ∧ me.thread = x
  · obtain ⟨rfl, rfl⟩ := hx
    cases ha : h.active with
    | false => exact .inl (by simpa only [plan, ha, Bool.false_eq_true, if_false] using hp)
    | true =>
      obtain ⟨last, he⟩ := planCall_host isSink me f (f :: below) h
      simp only [plan, ha, if_true, he]
      exact (moves_settle hp).imp_right fun hm => ⟨⟨trivial, trivial⟩, hm⟩
  · rw [pending_plan fun hw hn => hx ⟨hw, hn⟩]
    exact .inl hp

theorem Performed.keeps_pending (p : Performed (plan isSink me what f below h).2
    (plan isSink me what f below h).1 r es k) (hp : h.pending.get? x = some a) :
    k.pending.get? x = some a ∨ Drops a.target es ∨
      (∃ b, .pass x b ∈ (plan isSink me what f below h).2) ∨
        (what = .call ∧ me.thread = x) ∧ k.pending.get? x = none ∧
          k.traced.get? me.ident = some a := by
  by_cases hb : ∃ b, .pass x b ∈ (plan isSink me what f below h).2
  · exact .inr (.inr (.inl hb))
  · have unpassed : ∀ (g : ProfileHost) child b, .pass child b ∈ (plan isSink me what f below h).2 →
        (Hook.pass child b g).pending.get? x = g.pending.get? x := by
      intro g child b hm
      rw [Hook.pass, Table.get?_put, if_neg fun he : x = child => hb ⟨b, he ▸ hm⟩]
    obtain hw | ⟨hown, hw⟩ := moves_plan isSink f below hp
    · refine (p.undropped (P := fun g => g.pending.get? x = some a) plan_proper ?_ ?_ hw).imp_right
        .inl
      · intro g u hu hg
        exact Table.get?_filter hg (by simpa using Ne.symm hu)
      · intro g child b hm hg
        rw [unpassed g child b hm]
        exact hg
    · have kept := p.undropped (t := a.target)
        (P := fun g => g.pending.get? x = none ∧ g.traced.get? me.ident = some a) plan_proper
        (fun g u hu hg => ⟨Table.get?_filter_eq_none hg.1 _,
          Table.get?_filter hg.2 (by simpa using Ne.symm hu)⟩)
        (fun g child b hm hg => ⟨(unpassed g child b hm).trans hg.1, hg.2⟩) hw
      obtain hk | hk := kept
      · exact .inr (.inr (.inr ⟨hown, hk⟩))
      · exact .inr (.inl hk)

end Hook

/-- That a move takes back all that forwards to a target, where `es` is what the journal gains. -/
inductive Move.Withdraws (m : Move) (es : List Entry) (t : Target) : Prop
  | clear {caller} (hm : m = .clear caller)
  | forget {u} (hm : m = .forget u) (hu : u.id = t.id)
  | drop {x what f below} (hm : m.Fires x what f below) (hd : Drops t es)

namespace Situation

variable {σ : Type} {c : HookEnv σ} {s : Situation (Journaled σ)} {m : Move} {es : List Entry}

/-- What one move leaves of the registrations, where `es` is what the journal gains. A running
thread keeps its own unless it is attached anew or its lowest frame returns. What arrivals get stays
armed unless new threads are attached. A thread yet to start keeps what it waits with unless it is
attached anew, a traced thread starts it and passes its own on, or it calls: that moves it to those
that run. -/
structure Keeps (s s' : Situation (Journaled σ)) (m : Move) (es : List Entry) : Prop where
  traced : ∀ t ∈ s.threads.all, t.isAlive = true → ∀ a, s.host.traced.get? t.assigned = some a →
    s'.host.traced.get? t.assigned = some a ∨ m.Withdraws es a.target ∨
      (∃ caller carrier b, m = .attach caller carrier b ∧ carrier.selects t) ∨
      ∃ f, m.Fires t.name .ret f []
  arrivals : ∀ a, s.host.arrivals = some a → s'.host.arrivals = some a ∨
    m.Withdraws es a.target ∨
      ∃ caller carrier b, m = .attach caller carrier b ∧ carrier.coversNew = true
  pending : ∀ x a, s.host.pending.get? x = some a → s'.host.pending.get? x = some a ∨
    m.Withdraws es a.target ∨ (∃ caller b, m = .attach caller (.thread x) b) ∨
      (∃ y f below u b, m.Fires y .call f below ∧ s.threads.find? y = some u ∧ u.isAlive = true ∧
        Hook.own? u.caller .call s.host = some b ∧
        Hook.heir? s.threads.isSink b f = some x) ∨
      ∃ f below u, m.Fires x .call f below ∧ s.threads.find? x = some u ∧ u.isAlive = true ∧
        s'.host.pending.get? x = none ∧ s'.host.traced.get? u.assigned = some a
  filters : (∀ caller, m ≠ .clear caller) →
    (∀ unit spec localOnly, m ≠ .install unit spec localOnly) → s'.host.filters = s.host.filters

theorem Keeps.of_host {s' : Situation (Journaled σ)} (h : s'.host = s.host) : Keeps s s' m es where
  traced t _ _ a hg := .inl (by rw [h]; exact hg)
  arrivals a hg := .inl (by rw [h]; exact hg)
  pending x a hg := .inl (by rw [h]; exact hg)
  filters _ _ := by rw [h]

theorem Keeps.fires (hd : s.threads.Apart) {x : String} {what : Hook.Signal} {f : Frame}
    {below : List Frame} (hm : m.Fires x what f below)
    (hj : (s.step c.journaled m).outside.journal = s.outside.journal ++ es) :
    Keeps s (s.step c.journaled m) m es := by
  obtain ⟨hh, ho⟩ := step_fires (c := c.journaled) s hm
  rw [ho] at hj
  obtain hs | ⟨u, hx, ha, hc⟩ := signal_cases (c := c.journaled) s x what f below
  · exact .of_host (hh.trans (congrArg host hs))
  · obtain ⟨fs, p, hk⟩ := signal_journaled (c := c) hx ha what f below
    obtain rfl := List.append_cancel_left (hk.symm.trans hj)
    obtain ⟨hmem, hname⟩ := Threads.mem_of_find? hx
    rw [← hh] at p hc
    constructor
    · intro t ht hta a hg
      obtain hg | hdrop | ⟨hn, rfl, rfl⟩ := p.keeps_traced hg
      · exact .inl hg
      · exact .inr (.inl (.drop hm hdrop))
      · obtain rfl : t.name = x := (hd t ht u hmem hta ha hn).trans hname
        exact .inr (.inr (.inr ⟨f, hm⟩))
    · intro a hg
      exact (p.keeps_arrivals hg).imp_right fun hdrop => .inl (.drop hm hdrop)
    · intro y a hg
      obtain hg | hdrop | ⟨b, hb⟩ | ⟨⟨rfl, hy⟩, hmoved⟩ := p.keeps_pending hg
      · exact .inl hg
      · exact .inr (.inl (.drop hm hdrop))
      · cases Hook.mem_plan hb with
        | pass hw hown hf hs hsink =>
          subst hw
          refine .inr (.inr (.inr (.inl ⟨x, f, below, u, b, hm, hx, ha, hown, ?_⟩)))
          simp [Hook.heir?, hf, hs, hsink]
      · obtain rfl : x = y := hname.symm.trans hy
        exact .inr (.inr (.inr (.inr ⟨f, below, u, hm, hx, ha, hmoved⟩)))
    · exact fun _ _ => hc.filters

theorem Keeps.attach (hd : s.threads.Apart) (caller : String) (carrier : Carrier) (b : Attachment) :
    Keeps s (s.step c.journaled (.attach caller carrier b)) (.attach caller carrier b) es := by
  let o := s.calledBy caller
  obtain ⟨active, installed, allThreads, hh⟩ := o.attach_host b carrier
  have hhost : (s.step c.journaled (.attach caller carrier b)).host =
      { (o.attachCarrier carrier b).1 with ignored := [], active, installed, allThreads } := hh
  constructor
  · intro t ht hta a hg
    rw [hhost]
    obtain hc | ⟨-, u, hu, hua, hi, -, hsel⟩ := o.traced_attachCarrier b carrier t.assigned
    · exact .inl (hc.trans hg)
    · have hn : u.name = t.name := hd u hu t ht hua hta hi
      exact .inr (.inr (.inl ⟨caller, carrier, b, rfl, (selects_congr hn hi).1 hsel⟩))
  · intro a hg
    rw [hhost]
    cases hn : carrier.coversNew with
    | true => exact .inr (.inr ⟨caller, carrier, b, rfl, hn⟩)
    | false =>
      have hc := (o.arrivals_attachCarrier_eq b carrier).1
      rw [hn] at hc
      exact .inl (hc.trans hg)
  · intro x a hg
    rw [hhost]
    by_cases hx : carrier = .thread x
    · subst hx
      exact .inr (.inr (.inl ⟨caller, b, rfl⟩))
    · exact .inl ((o.pending_attachCarrier b carrier hx).trans hg)
  · intro _ _
    rw [hhost]
    exact o.filters_attachCarrier b carrier

theorem Keeps.forget (t : Target) :
    Keeps s (s.step c.journaled (.forget t)) (.forget t) es where
  traced u _ _ a hg := by
    by_cases ht : t.id = a.target.id
    · exact .inr (.inl (.forget rfl ht))
    · exact .inl (Table.get?_filter hg (by simpa using Ne.symm ht))
  arrivals a hg := by
    by_cases ht : t.id = a.target.id
    · exact .inr (.inl (.forget rfl ht))
    · exact .inl (Option.filter_eq_some_iff.2 ⟨hg, by simpa using Ne.symm ht⟩)
  pending x a hg := by
    by_cases ht : t.id = a.target.id
    · exact .inr (.inl (.forget rfl ht))
    · exact .inl (Table.get?_filter hg (by simpa using Ne.symm ht))
  filters _ _ := rfl

theorem Keeps.step (hd : s.threads.Apart)
    (hj : (s.step c.journaled m).outside.journal = s.outside.journal ++ es) :
    Keeps s (s.step c.journaled m) m es := by
  cases m with
  | attach caller carrier b => exact .attach hd caller carrier b
  | forget t => exact .forget t
  | clear caller =>
    exact ⟨fun _ _ _ _ _ => .inr (.inl (.clear rfl)), fun _ _ => .inr (.inl (.clear rfl)),
      fun _ _ _ => .inr (.inl (.clear rfl)), fun hn _ => absurd rfl (hn caller)⟩
  | install unit spec localOnly =>
    exact ⟨fun _ _ _ _ hg => .inl hg, fun _ hg => .inl hg, fun _ _ hg => .inl hg,
      fun _ hn => absurd rfl (hn unit spec localOnly)⟩
  | launch | start =>
    refine .of_host ?_
    simp only [Situation.step]
    split <;> rfl
  | signal x what f below => exact .fires hd .signal hj
  | finish x lowest =>
    cases lowest with
    | none => exact .of_host (finish_unheard s x).1
    | some f => exact .fires hd .finish hj

def Request.move? : Request → Option Move
  | .attach caller carrier flags target =>
    (Carrier.ofValue carrier).toOption.map fun c => .attach caller c ⟨flags, target⟩
  | .install unit spec localOnly =>
    (unitOfValue unit).toOption.map fun u => .install u spec localOnly
  | .move m => some m

theorem request_refused {c : HookEnv σ} {s : Situation σ} {r : Request} (hr : r.move? = none) :
    ∃ f, s.request c r = (.error f, s) := by
  cases r with
  | move m => cases hr
  | attach caller v flags target =>
    cases hv : Carrier.ofValue v with
    | error f => exact ⟨f, by simp only [request, TraceHost.attach, hv]; rfl⟩
    | ok carrier => simp [Request.move?, hv, Except.toOption] at hr
  | install v spec localOnly =>
    cases hv : unitOfValue v with
    | error f => exact ⟨f, by simp only [request, TraceHost.install, hv]; rfl⟩
    | ok unit => simp [Request.move?, hv, Except.toOption] at hr

theorem request_moves {c : HookEnv σ} {s : Situation σ} {r : Request} (hr : r.move? = some m) :
    (s.request c r).2 = s.step c m := by
  cases r with
  | move m' =>
    cases hr
    rfl
  | attach caller v flags target =>
    cases hv : Carrier.ofValue v with
    | error f => simp [Request.move?, hv, Except.toOption] at hr
    | ok carrier =>
      simp only [Request.move?, hv, Except.toOption, Option.map_some, Option.some.injEq] at hr
      subst hr
      simp only [request, TraceHost.attach, hv]
      rfl
  | install v spec localOnly =>
    cases hv : unitOfValue v with
    | error f => simp [Request.move?, hv, Except.toOption] at hr
    | ok unit =>
      simp only [Request.move?, hv, Except.toOption, Option.map_some, Option.some.injEq] at hr
      subst hr
      simp only [request, TraceHost.install, hv]
      rfl

/-- A host that is asked or told something loses no registration but by the moves that end just that
one, as long as live threads differ in their idents. A refused request changes nothing at all.
Dropping a target leaves of all tables exactly what forwards elsewhere, and all filters. -/
theorem registrations_kept (c : HookEnv σ) (s : Situation (Journaled σ)) (hd : s.threads.Apart)
    (r : Request) :
    (r.move? = none → ∃ f, s.request c.journaled r = (.error f, s)) ∧
      (∀ m, r.move? = some m → ∃ es,
        (s.request c.journaled r).2.outside.journal = s.outside.journal ++ es ∧
          Keeps s (s.request c.journaled r).2 m es) ∧
      ∀ t, let h := s.host.forget t
        (∀ n b, (n, b) ∈ h.traced ↔ (n, b) ∈ s.host.traced ∧ b.target.id ≠ t.id) ∧
          (∀ x b, (x, b) ∈ h.pending ↔ (x, b) ∈ s.host.pending ∧ b.target.id ≠ t.id) ∧
          (∀ b, h.arrivals = some b ↔ s.host.arrivals = some b ∧ b.target.id ≠ t.id) ∧
          h.filters = s.host.filters ∧ h.localOnly = s.host.localOnly := by
  refine ⟨request_refused, fun m hr => ?_, fun t => ?_⟩
  · rw [request_moves hr]
    obtain ⟨es, hj⟩ := journal_step (c := c) s m
    exact ⟨es, hj, .step hd hj⟩
  · refine ⟨fun n b => ?_, fun x b => ?_, fun b => ?_, rfl, rfl⟩
    · simp [ProfileHost.forget]
    · simp [ProfileHost.forget]
    · simp [ProfileHost.forget, Option.filter_eq_some_iff]

def apart : List Move :=
  [.attach "main" (.thread "main") ⟨{ running := true }, .ofWorkers 0 .trace [0]⟩,
    .attach "main" (.thread "other") ⟨{ call := true }, .ofWorkers 1 .trace [1]⟩]

/-- A refused event costs its own target and leaves the other alone. -/
theorem registrations_kept_apart :
    let c := HookEnv.answering false
    let s := (fresh pair ⟨(), []⟩).run c.journaled apart
    let m : Move := .signal "main" .call default []
    let s' := (s.request c.journaled (.move m)).2
    s.threads.Apart ∧ s.host.traced.keys = [1, 2] ∧ s'.host.traced.keys = [2] ∧
      ∃ es, s'.outside.journal = s.outside.journal ++ es ∧ Keeps s s' m es := by
  dsimp only
  refine ⟨by decide, by decide, by decide, ?_⟩
  exact (registrations_kept _ _ (by decide) (.move (.signal "main" .call default []))).2.1 _ rfl

/-- A registration is lost although no worker refused anything, if its target has no workers. -/
theorem registration_lost : ¬∀ (ts : Threads) (ms : List Move) (m : Move) (es : List Entry),
    let c := (HookEnv.answering true).journaled
    let s := (fresh ts (⟨(), []⟩ : Journaled Unit)).run c ms
    s.threads.Apart → (s.step c m).outside.journal = s.outside.journal ++ es →
      ∀ t ∈ s.threads.all, t.isAlive = true → ∀ a, s.host.traced.get? t.assigned = some a →
        (∀ caller, m ≠ .clear caller) → (∀ u, m ≠ .forget u) →
        (∀ w e, .handed w e false ∉ es) →
        (∀ caller carrier b, m ≠ .attach caller carrier b) → (∀ f, ¬m.Fires t.name .ret f []) →
        (s.step c m).host.traced.get? t.assigned = some a := by
  intro h
  let a : Attachment := ⟨{ running := true }, { id := 0 }⟩
  have hl := h .family [.attach "main" (.thread "main") a] (.signal "main" .call default [])
    [.dropped a.target] (by decide) rfl
    { name := "main", assigned := 1, state := .alive, hooked := true }
    (Threads.mem_of_find? (x := "main") (by rfl)).1 rfl a rfl
    (by simp) (by simp) (by simp) (by simp) (by rintro f ⟨⟩)
  cases hl

end Situation

end ThreadTrace
