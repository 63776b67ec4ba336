import ThreadTrace.Proofs.Host.Routing
import ThreadTrace.Proofs.Profile.Switching

namespace ThreadTrace

theorem Value.length_cutTo_le {n : Nat} (hn : 3 ≤ n) (s : String) : (cutTo n s).length ≤ n := by
  unfold cutTo
  split
  · rw [String.length_append, String.length_ofList, List.length_take]
    have hd : "...".length = 3 := rfl
    omega
  · omega

theorem Value.length_brief_le (v : Value) : v.brief.length ≤ 80 := length_cutTo_le (by decide) _

def Flags.asks (f : Flags) : EventKind → Bool
  | .call => f.call
  | .returnTo => f.call && f.returnTo
  | .exit => f.procs
  | .scheduledIn | .scheduledOut => f.running
  | .send => false

theorem Target.get?_of_route {t : Target} {n : Int} {w : Nat}
    (hr : t.route (.int n) = .ok (some w)) :
    Table.get? t.sinks (n.fmod t.sinks.length) = some w := by
  rw [route_int] at hr
  split at hr
  · cases hr
  · split at hr
    · rename_i s hs
      cases hr
      have hp : (fun s : Int × Nat => n.fmod t.sinks.length == s.1) =
          fun s => decide (s.1 = n.fmod t.sinks.length) := by
        funext s
        rw [Bool.eq_iff_iff, beq_iff_eq, decide_eq_true_iff, eq_comm]
      rw [hp] at hs
      rw [Table.get?, hs]
      rfl
    · cases hr

namespace ProfileHost

/-- The filter that decides about a unit: its own, or else the wildcard's, which leaves the library
itself out. -/
inductive Decides (h : ProfileHost) (u : String) (spec : MatchSpec) : Prop
  | own (hu : h.filters.get? u = some spec)
  | wildcard (hu : h.filters.get? u = none) (ho : isOwn u = false)
      (hw : h.filters.get? Entry.wildcard = some spec)

theorem matchUnit_eq_some {h : ProfileHost} {unit : Option String} {spec : MatchSpec} :
    h.matchUnit unit = some spec ↔ ∃ u, unit = some u ∧ h.Decides u spec := by
  cases unit with
  | none => simp [matchUnit]
  | some u =>
    simp only [matchUnit, Option.bind_some, Option.some.injEq, exists_eq_left']
    constructor
    · intro hm
      cases hu : h.filters.get? u with
      | some s =>
        rw [hu] at hm
        exact .own (hu.trans hm)
      | none =>
        rw [hu] at hm
        cases ho : isOwn u with
        | true => simp [ho] at hm
        | false => exact .wildcard hu ho (by simpa [ho] using hm)
    · rintro (hu | ⟨hu, ho, hw⟩)
      · simp only [hu]
      · simp [hu, ho, hw]

end ProfileHost

namespace Hook

variable {σ : Type} {c : HookEnv σ} {isSink : String → Bool} {me : Caller} {what : Signal}
  {f : Frame} {below stack : List Frame} {h k : ProfileHost} {ds : List Effect} {es : List Entry}
  {r : Except Fault Unit} {n w : Nat} {a : Attachment} {e e' : Event} {taken : Bool}

/-- That an event of a thread is what an attachment asks for, on a host with its filters. -/
structure Founded (h : ProfileHost) (n : Nat) (a : Attachment) (e : Event) : Prop where
  carrier : e.carrier = n
  mode : e.mode = a.target.mode
  asked : a.flags.asks e.kind = true
  matched : e.kind = .call ∨ e.kind = .returnTo → ∃ u spec, e.unit = some u ∧ h.Decides u spec
  args : e.args.isSome = (e.kind == .call && !a.flags.arity)
  shown : ∀ xs, e.args = some xs → e.arity = some (xs.length : Int) ∧ ∀ x ∈ xs, x.length ≤ 80
  dump : e.dump.isSome = true → e.kind = .call ∧ a.target.mode = .trace ∧
    ∃ u, e.unit = some u ∧ h.Decides u .processDump

/-- An event on its way: it gets a time if its attachment asks for one, and the worker of its
thread. -/
structure Conveyed (n : Nat) (a : Attachment) (e' : Event) (w : Nat) (e : Event) : Prop where
  event : e = { e' with timestamp := e.timestamp }
  timestamp : e.timestamp.isSome = a.flags.timestamp
  worker : a.target.route (.int n) = .ok (some w)

theorem founded_plain {kind : EventKind} (hk : a.flags.asks kind = true) (hc : kind ≠ .call)
    (hr : kind ≠ .returnTo) : Founded h n a (plain kind n a) where
  carrier := rfl
  mode := rfl
  asked := hk
  matched hm := absurd hm (not_or.2 ⟨hc, hr⟩)
  args := by
    have hb : (kind == .call) = false := beq_eq_false_iff_ne.2 hc
    simp [plain, hb]
  shown xs hx := by cases hx
  dump hd := by cases hd

theorem length_arguments (hf : f.arity ≤ f.localNames.length) :
    (arguments f).length = f.arity := by
  rw [arguments, List.length_map, List.length_take, Nat.min_eq_left hf]

theorem founded_called {spec : MatchSpec} (hc : a.flags.call = true)
    (hm : h.matchUnit f.unit = some spec) (hf : f.arity ≤ f.localNames.length) :
    Founded h n a (called n a spec f stack) where
  carrier := rfl
  mode := rfl
  asked := hc
  matched _ :=
    let ⟨u, hu, hs⟩ := ProfileHost.matchUnit_eq_some.1 hm
    ⟨u, spec, hu, hs⟩
  args := by cases ha : a.flags.arity <;> simp [called, ha]
  shown xs hx := by
    simp only [called] at hx
    split at hx
    · cases hx
    · cases hx
      refine ⟨by rw [length_arguments hf]; rfl, fun x hx => ?_⟩
      obtain ⟨name, -, rfl⟩ := List.mem_map.1 hx
      exact Value.length_brief_le _
  dump hd := by
    simp only [called] at hd
    split at hd
    · rename_i hs
      obtain ⟨rfl, ht⟩ : spec = .processDump ∧ a.target.mode = .trace := by simpa using hs
      exact ⟨rfl, ht, ProfileHost.matchUnit_eq_some.1 hm⟩
    · cases hd

theorem founded_returned {caller : Frame} (hr : a.flags.returnTo = true)
    (hc : a.flags.call = true) (hm : (h.matchUnit f.unit).isSome = true) :
    Founded h n a (returned n a f caller) where
  carrier := rfl
  mode := rfl
  asked := by simp [returned, Flags.asks, hr, hc]
  matched _ :=
    let ⟨spec, hs⟩ := Option.isSome_iff_exists.1 hm
    let ⟨u, hu, hd⟩ := ProfileHost.matchUnit_eq_some.1 hs
    ⟨u, spec, hu, hd⟩
  args := rfl
  shown xs hx := by cases hx
  dump hd := by cases hd

theorem founded_planCall (hf : f.arity ≤ f.localNames.length)
    (hm : .report n a e ∈ (planCall isSink me f stack h).2) : Founded h n a e := by
  have hfilters := settle_filters me h
  simp only [planCall] at hm
  cases hs : settle me h with
  | mk own g =>
    rw [hs] at hm hfilters
    cases own with
    | none => cases hm
    | some b =>
      simp only [callEffects, List.mem_append] at hm
      rcases hm with hm | hm | hm
      · split at hm
        · rename_i hb
          simp only [switching] at hm
          split at hm
          · cases hm
          · obtain hm | hm := List.mem_append.1 hm
            · obtain ⟨hl, -⟩ | ⟨p, b', -, -, hb', hl⟩ := leaving_cases g
              · rw [hl] at hm
                cases hm
              · rw [hl] at hm
                cases List.mem_singleton.1 hm
                exact founded_plain hb' (by decide) (by decide)
            · cases List.mem_singleton.1 hm
              exact founded_plain hb (by decide) (by decide)
        · cases hm
      · split at hm
        · obtain ⟨child, -, -, he⟩ := mem_passing hm
          cases he
        · cases hm
      · split at hm
        · rename_i hb
          obtain ⟨spec, hu, he⟩ := mem_calling hm
          cases he
          exact founded_called hb ((matchUnit_congr hfilters f.unit).symm.trans hu) hf
        · cases hm

theorem founded_planReturn {caller : Option Frame}
    (hm : .report n a e ∈ (planReturn me f caller h).2) : Founded h n a e := by
  unfold planReturn at hm
  split at hm
  · unfold planEnd at hm
    split at hm
    · cases hm
    · simp only [endEffects] at hm
      split at hm
      · rename_i hp
        cases List.mem_singleton.1 hm
        exact founded_plain hp (by decide) (by decide)
      · cases hm
  · cases hm
  · simp only [returnEffects] at hm
    split at hm
    · rename_i hr
      cases List.mem_singleton.1 hm
      exact founded_returned hr.1 hr.2.1 hr.2.2
    · cases hm

theorem founded_plan (hf : what = .call → f.arity ≤ f.localNames.length)
    (hm : .report n a e ∈ (plan isSink me what f below h).2) : Founded h n a e := by
  unfold plan at hm
  split at hm
  · cases what with
    | call => exact founded_planCall (hf rfl) hm
    | ret => exact founded_planReturn hm
    | other => cases hm
  · cases hm

theorem plan_other (hm : .report n a e ∈ (plan isSink me what f below h).2) (hn : n ≠ me.ident) :
    h.traced.get? n = some a ∧ ∃ rest, (plan isSink me what f below h).2 = .report n a e :: rest ∧
      ∀ (m : Nat) (b : Attachment) (d : Event), .report m b d ∈ rest → d.carrier = me.ident := by
  have hp := mem_plan hm
  have carried : ∀ (m : Nat) (b : Attachment) (d : Event), d.kind ≠ .scheduledOut →
      .report m b d ∈ (plan isSink me what f below h).2 → d.carrier = me.ident := by
    intro m b d hk hd
    cases mem_plan hd with
    | leaving => exact absurd rfl hk
    | own _ hc => exact hc
  cases hp with
  | own => exact absurd rfl hn
  | leaving _ hb =>
    refine ⟨hb, ?_⟩
    obtain ⟨ds, rest, hd, hrest, ht⟩ := plan_turns isSink me what f below h
    generalize (plan isSink me what f below h).1.lastIdent = last at ht
    have unswitched : ∀ {d : Effect}, d ∈ rest → d.switch? = none := fun hd => (hrest _ hd).switch?
    rw [hd] at hm
    obtain hm | hm := List.mem_append.1 hm
    · cases ht with
      | stays => cases hm
      | comes b' _ =>
        obtain ⟨hl, -⟩ | ⟨p, b, -, -, -, hl⟩ := leaving_cases h
        · rw [hl] at hm
          cases List.mem_singleton.1 hm
        · rw [hl] at hm hd
          obtain hm | hm := List.mem_cons.1 hm
          · cases hm
            refine ⟨_, hd, fun m b₁ d hr => ?_⟩
            obtain hr | hr := List.mem_cons.1 hr
            · cases hr
              rfl
            · refine carried m b₁ d (fun hk => ?_) (by rw [hd]; exact List.mem_append_right _ hr)
              have hs := unswitched hr
              simp [Effect.switch?, Event.switch?, hk] at hs
          · cases List.mem_singleton.1 hm
    · cases unswitched hm

theorem Reported.head {h' : ProfileHost} (p : Reported n a e' h' r es k)
    (hm : .handed w e taken ∈ es) : es.head? = some (.handed w e taken) := by
  cases p with
  | withheld | astray => cases hm
  | unserved => cases List.mem_singleton.1 hm
  | taken =>
    cases List.mem_singleton.1 hm
    rfl
  | refused =>
    obtain hm | hm := List.mem_cons.1 hm
    · cases hm
      rfl
    · cases List.mem_singleton.1 hm

theorem Performed.head (p : Performed (plan isSink me what f below h).2
    (plan isSink me what f below h).1 r es k) (hm : .handed w e taken ∈ es)
    (hn : e.carrier ≠ me.ident) : es.head? = some (.handed w e taken) := by
  obtain ⟨n, a, e', x, hd, rfl, -⟩ := p.handed hm
  have hne : n ≠ me.ident := by
    rintro rfl
    cases mem_plan hd with
    | leaving hp => exact hp rfl
    | own _ hc => exact hn hc
  obtain ⟨-, rest, hplan, hrest⟩ := plan_other hd hne
  rw [hplan] at p
  cases p with
  | failed first => exact first.head hm
  | report first later =>
    obtain hm | hm := List.mem_append.1 hm
    · rw [List.head?_append, first.head hm]
      rfl
    · obtain ⟨m, b, d, y, hr, he, -⟩ := later.handed hm
      have hc : e'.carrier = d.carrier := (Event.mk.inj he).2.1
      exact absurd (hc.trans (hrest m b d hr)) hn

theorem report_conveyed (n : Nat) (a : Attachment) (e' : Event) (s : HookState (Journaled σ)) :
    ∃ es, (((Effect.report n a e').act c.journaled).on s).2.outside.journal =
        s.outside.journal ++ es ∧
      ∀ w e taken, .handed w e taken ∈ es → Conveyed n a e' w e := by
  have hs : (stamp c.journaled a.flags s.outside).1.isSome = a.flags.timestamp ∧
      (stamp c.journaled a.flags s.outside).2.journal = s.outside.journal := by
    cases ht : a.flags.timestamp <;> simp [stamp, ht, HookEnv.journaled]
  rw [report_on]
  generalize stamp c.journaled a.flags s.outside = x at hs ⊢
  obtain ⟨ht, hx⟩ := hs
  rw [← hx]
  simp only [emit]
  split
  · exact ⟨[], by simp, by simp⟩
  · cases hr : a.target.route (.int n) with
    | error f => exact ⟨[], by simp, by simp⟩
    | ok v =>
      cases v with
      | none => exact ⟨[.dropped a.target], by simp [drop, HookEnv.journaled], by simp⟩
      | some v =>
        have conveyed : Conveyed n a e' v { e' with timestamp := x.1 } := ⟨rfl, ht, hr⟩
        cases ho : (c.offer v { e' with timestamp := x.1 } x.2.inner).1 with
        | true =>
          refine ⟨[.handed v { e' with timestamp := x.1 } true],
            by simp [offer, drop, HookEnv.journaled, ho], fun w e taken hm => ?_⟩
          cases List.mem_singleton.1 hm
          exact conveyed
        | false =>
          refine ⟨[.handed v { e' with timestamp := x.1 } false, .dropped a.target],
            by simp [offer, drop, HookEnv.journaled, ho], fun w e taken hm => ?_⟩
          obtain hm | hm := List.mem_cons.1 hm
          · cases hm
            exact conveyed
          · cases List.mem_singleton.1 hm

theorem actAll_conveyed (ds : List Effect) (s : HookState (Journaled σ)) :
    ∃ es, ((actAll c.journaled ds).on s).2.outside.journal = s.outside.journal ++ es ∧
      ∀ w e taken, .handed w e taken ∈ es →
        ∃ n a e', .report n a e' ∈ ds ∧ Conveyed n a e' w e := by
  induction ds generalizing s with
  | nil => exact ⟨[], by simp [actAll], by simp⟩
  | cons d ds ih =>
    cases d with
    | pass child a =>
      obtain ⟨es, hj, hc⟩ := ih { s with host := Hook.pass child a s.host }
      refine ⟨es, hj, fun w e taken hm => ?_⟩
      obtain ⟨n, b, e', hd, hv⟩ := hc w e taken hm
      exact ⟨n, b, e', List.mem_cons_of_mem _ hd, hv⟩
    | report n a e' =>
      obtain ⟨es, hj, hc⟩ := report_conveyed (c := c) n a e' s
      simp only [actAll, Act.on_bind]
      cases h : ((Effect.report n a e').act c.journaled).on s with
      | mk r t =>
        rw [h] at hj
        cases r with
        | error f =>
          refine ⟨es, hj, fun w e taken hm => ?_⟩
          exact ⟨n, a, e', List.mem_cons_self, hc w e taken hm⟩
        | ok _ =>
          obtain ⟨fs, hk, hd⟩ := ih t
          refine ⟨es ++ fs, by rw [hk, hj, List.append_assoc], fun w e taken hm => ?_⟩
          obtain hm | hm := List.mem_append.1 hm
          · exact ⟨n, a, e', List.mem_cons_self, hc w e taken hm⟩
          · obtain ⟨m, b, d, hr, hv⟩ := hd w e taken hm
            exact ⟨m, b, d, List.mem_cons_of_mem _ hr, hv⟩

/-- That an event which a callback hands to a worker is justified by an attachment that its thread
holds at that moment: `h` is the host when the callback begins, and `es` what is done in it. The
running thread has the attachment that was settled then. Another thread is traced with it, and its
event is the first, so that nothing has been dropped yet. -/
structure Justified (h : ProfileHost) (me : Caller) (what : Signal) (es : List Entry) (w : Nat)
    (e : Event) (taken : Bool) (n : Nat) (a : Attachment) : Prop extends Founded h n a e where
  own : n = me.ident → own? me what h = some a
  other : n ≠ me.ident → h.traced.get? n = some a ∧ es.head? = some (.handed w e taken)
  worker : Table.get? a.target.sinks (e.carrier.fmod a.target.sinks.length) = some w
  timestamp : e.timestamp.isSome = a.flags.timestamp

theorem Founded.timed (p : Founded h n a e) (x : Option Double) :
    Founded h n a { e with timestamp := x } :=
  ⟨p.carrier, p.mode, p.asked, p.matched, p.args, p.shown, p.dump⟩

theorem Performed.justified (p : Performed (plan isSink me what f below h).2
    (plan isSink me what f below h).1 r es k) (hf : what = .call → f.arity ≤ f.localNames.length)
    (hm : .handed w e taken ∈ es) (hd : .report n a e' ∈ (plan isSink me what f below h).2)
    (hv : Conveyed n a e' w e) : Justified h me what es w e taken n a := by
  have he := (founded_plan hf hd).timed e.timestamp
  rw [← hv.event] at he
  refine ⟨he, fun hn => ?_, fun hn => ?_, ?_, hv.timestamp⟩
  · cases mem_plan hd with
    | leaving hp => exact absurd hn hp
    | own ha => exact ha
  · have hc : e.carrier ≠ me.ident := fun hc => hn (Int.ofNat.inj (he.carrier.symm.trans hc))
    exact ⟨(plan_other hd hn).1, p.head hm hc⟩
  · rw [he.carrier]
    exact Target.get?_of_route hv.worker

theorem Justified.undumped (p : Justified h me what es w e taken n a) (hm : e.mode = .profile) :
    e.dump = none := by
  cases hd : e.dump with
  | none => rfl
  | some d =>
    obtain ⟨-, ht, -⟩ := p.dump (by rw [hd]; rfl)
    rw [p.mode, ht] at hm
    cases hm

end Hook

/-- That the frame of a call lists its parameters among its local names. -/
def Move.Declares : Move → Prop
  | .signal _ .call f _ => f.arity ≤ f.localNames.length
  | _ => True

instance (m : Move) : Decidable m.Declares := by
  unfold Move.Declares
  split <;> infer_instance

theorem Move.Fires.declared {m : Move} {x : String} {what : Hook.Signal} {f : Frame}
    {below : List Frame} (hm : m.Fires x what f below) (hd : m.Declares) (hw : what = .call) :
    f.arity ≤ f.localNames.length := by
  subst hw
  cases hm
  exact hd

namespace Situation

variable {σ : Type} {c : HookEnv σ} {w : Nat} {e : Event} {taken : Bool} {es : List Entry}

theorem signal_justified {s : Situation (Journaled σ)} {x : String} {what : Hook.Signal} {f : Frame}
    {below : List Frame} (hf : what = .call → f.arity ≤ f.localNames.length)
    (hj : (s.signal c.journaled x what f below).outside.journal = s.outside.journal ++ es)
    (hm : .handed w e taken ∈ es) :
    ∃ t, s.threads.find? x = some t ∧ t.isAlive = true ∧
      ∃ n a, Hook.Justified s.host t.caller what es w e taken n a := by
  obtain hs | ⟨t, hx, ha, -⟩ := signal_cases (c := c.journaled) s x what f below
  · rw [hs] at hj
    rw [List.self_eq_append_right.1 hj] at hm
    cases hm
  · refine ⟨t, hx, ha, ?_⟩
    obtain ⟨fs, hp, hk⟩ := signal_journaled (c := c) hx ha what f below
    obtain rfl := List.append_cancel_left (hk.symm.trans hj)
    obtain ⟨gs, hg, hc⟩ := Hook.actAll_conveyed (c := c)
      (Hook.plan s.threads.isSink t.caller what f below s.host).2
      ⟨(Hook.plan s.threads.isSink t.caller what f below s.host).1, s.outside⟩
    rw [signal_eq hx ha, callback, Hook.fire_on] at hk
    obtain rfl := List.append_cancel_left (hg.symm.trans hk)
    obtain ⟨n, a, e', hd, hv⟩ := hc w e taken hm
    exact ⟨n, a, hp.justified hf hm hd hv⟩

theorem step_justified {s : Situation (Journaled σ)} {m : Move} (hd : m.Declares)
    (hj : (s.step c.journaled m).outside.journal = s.outside.journal ++ es)
    (hm : .handed w e taken ∈ es) :
    ∃ x what f below t, m.Fires x what f below ∧ s.threads.find? x = some t ∧ t.isAlive = true ∧
      ∃ n a, Hook.Justified s.host t.caller what es w e taken n a := by
  obtain ⟨x, what, f, below, hf⟩ | hs := fires_or_outside (c := c.journaled) s m
  · rw [(step_fires s hf).2] at hj
    obtain ⟨t, hx, ha, hp⟩ := signal_justified (hf.declared hd) hj hm
    exact ⟨x, what, f, below, t, hf, hx, ha, hp⟩
  · rw [hs] at hj
    rw [List.self_eq_append_right.1 hj] at hm
    cases hm

theorem mem_journal_run {s : Situation (Journaled σ)} {ms : List Move} {x : Entry}
    (hj : (s.run c.journaled ms).outside.journal = s.outside.journal ++ es) (hx : x ∈ es) :
    ∃ pre m fs, pre ++ [m] <+: ms ∧ x ∈ fs ∧
      ((s.run c.journaled pre).step c.journaled m).outside.journal =
        (s.run c.journaled pre).outside.journal ++ fs := by
  induction ms generalizing s es with
  | nil =>
    rw [List.self_eq_append_right.1 hj] at hx
    cases hx
  | cons m ms ih =>
    obtain ⟨fs, hf⟩ := journal_step (c := c) s m
    obtain ⟨gs, hg⟩ := journal_run (c := c) (s.step c.journaled m) ms
    rw [run_cons, hg, hf, List.append_assoc] at hj
    obtain rfl := List.append_cancel_left hj
    obtain hx | hx := List.mem_append.1 hx
    · exact ⟨[], m, fs, ⟨ms, rfl⟩, hx, hf⟩
    · obtain ⟨pre, m', us, hp, hu, hk⟩ := ih hg hx
      exact ⟨m :: pre, m', us, List.cons_prefix_cons.2 ⟨rfl, hp⟩, hu, hk⟩

/-- Every event that a run hands to a worker is justified in the callback in which it is handed
over; a target in profile mode gets no dump. -/
theorem handed_justified {ts : Threads} {o : σ} {ms : List Move} (hd : ∀ m ∈ ms, m.Declares)
    (hm : .handed w e taken ∈ ((fresh ts ⟨o, []⟩).run c.journaled ms).outside.journal) :
    ∃ pre m x what f below, pre ++ [m] <+: ms ∧ m.Fires x what f below ∧
      let s := (fresh ts ⟨o, []⟩).run c.journaled pre
      ∃ t es n a, s.threads.find? x = some t ∧ t.isAlive = true ∧
        (s.step c.journaled m).outside.journal = s.outside.journal ++ es ∧
        .handed w e taken ∈ es ∧ Hook.Justified s.host t.caller what es w e taken n a ∧
        (e.mode = .profile → e.dump = none) := by
  obtain ⟨pre, m, es, hp, hx, hj⟩ :=
    mem_journal_run (s := fresh ts ⟨o, []⟩) (List.nil_append _).symm hm
  have hdm := hd m (hp.subset (List.mem_append_right pre List.mem_cons_self))
  obtain ⟨x, what, f, below, t, hfires, ht, ha, n, a, hc⟩ := step_justified hdm hj hx
  exact ⟨pre, m, x, what, f, below, hp, hfires, t, es, n, a, ht, ha, hj, hx, hc, hc.undumped⟩

def mixed : List Move :=
  [.attach "main" (.thread "main")
      ⟨{ running := true, timestamp := true }, .ofWorkers 0 .profile [3]⟩,
    .attach "main" (.thread "other") ⟨{ running := true, call := true }, .ofWorkers 1 .trace [5]⟩,
    .install "app" .processDump false, .signal "main" .call default [],
    .signal "other" .call { unit := some "app", function := "work" } []]

theorem handed_justified_mixed :
    let c := HookEnv.answering true
    let out : Event :=
      { kind := .scheduledOut, carrier := 1, timestamp := some default, mode := .profile }
    (∀ m ∈ mixed, m.Declares) ∧
      .handed 3 out true ∈ ((fresh pair ⟨(), []⟩).run c.journaled mixed).outside.journal ∧
      ∃ pre m x what f below, pre ++ [m] <+: mixed ∧ m.Fires x what f below ∧
        let s := (fresh pair ⟨(), []⟩).run c.journaled pre
        ∃ t es n a, s.threads.find? x = some t ∧ t.isAlive = true ∧
          (s.step c.journaled m).outside.journal = s.outside.journal ++ es ∧
          .handed 3 out true ∈ es ∧ Hook.Justified s.host t.caller what es 3 out true n a ∧
          (out.mode = .profile → out.dump = none) := by
  intro c out
  have hd : ∀ m ∈ mixed, m.Declares := by decide
  have hm : .handed 3 out true ∈ ((fresh pair ⟨(), []⟩).run c.journaled mixed).outside.journal := by
    decide
  exact ⟨hd, hm, handed_justified hd hm⟩

end Situation

end ThreadTrace
