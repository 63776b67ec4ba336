import ThreadTrace.Proofs.Host.Routing
import ThreadTrace.Proofs.Profile.Course

namespace ThreadTrace

def ProfileHost.Forwards (h : ProfileHost) (t : Target) : Prop := ∃ b ∈ h.held, b.target.id = t.id

def Entry.drops (t : Target) : Entry → Prop
  | .handed .. => False
  | .dropped u => u.id = t.id

/-- Refusals, and nothing else that a worker does, drop the target that the event was for. A target
is also dropped if it has no workers at all. -/
inductive Answered : List Entry → Prop
  | nil : Answered []
  | taken {k e es} (rest : Answered es) : Answered (.handed k e true :: es)
  | refused {k e t es} (hr : t.route (.int e.carrier) = .ok (some k)) (rest : Answered es) :
      Answered (.handed k e false :: .dropped t :: es)
  | unserved {t es} (ht : t.sinks = []) (rest : Answered es) : Answered (.dropped t :: es)

theorem Answered.append {es fs : List Entry} (he : Answered es) (hf : Answered fs) :
    Answered (es ++ fs) := by
  induction he with
  | nil => exact hf
  | taken _ ih => exact .taken ih
  | refused hr _ ih => exact .refused hr ih
  | unserved ht _ ih => exact .unserved ht ih

namespace Hook

def Effect.Proper : Effect → Prop
  | .report ident _ e => e.carrier = ident ∧ e.kind.isProfiled = true
  | .pass .. => True

variable {isSink : String → Bool} {me : Caller} {what : Signal} {f : Frame} {below : List Frame}
  {h g k m : ProfileHost} {ds : List Effect} {es : List Entry} {r : Except Fault Unit}

theorem Planned.proper {d : Effect} (p : Planned isSink me what f h d) : d.Proper := by
  cases p with
  | leaving => exact ⟨rfl, rfl⟩
  | own _ hc hk => exact ⟨hc, hk⟩
  | pass => trivial

theorem Reported.answered {ident : Nat} {a : Attachment} {e : Event}
    (p : Reported ident a e h r es k) (hc : e.carrier = ident) : Answered es := by
  cases p with
  | withheld | astray => exact .nil
  | unserved hr => exact .unserved (Target.route_int_eq_none.1 hr) .nil
  | taken => exact .taken .nil
  | refused w x hr => exact .refused (e := { e with timestamp := x }) (hc ▸ hr) .nil

theorem Performed.answered (p : Performed ds h r es k) (hd : ∀ d ∈ ds, d.Proper) : Answered es := by
  induction p with
  | done => exact .nil
  | report first _ ih =>
    have hf := first.answered (hd _ List.mem_cons_self).1
    exact hf.append (ih fun d hm => hd d (List.mem_cons_of_mem _ hm))
  | failed first => exact first.answered (hd _ List.mem_cons_self).1
  | pass _ ih => exact ih fun d hm => hd d (List.mem_cons_of_mem _ hm)

theorem Reported.not_forwards {ident : Nat} {a : Attachment} {e : Event} {t : Target} {y : Entry}
    (p : Reported ident a e h r es k) (hy : y ∈ es) (hd : y.drops t) :
    ¬k.Forwards t ∧ a.target.id = t.id := by
  have hdrop : y = .dropped a.target → ¬(h.forget a.target).Forwards t ∧ a.target.id = t.id := by
    rintro rfl
    have hid : a.target.id = t.id := hd
    refine ⟨?_, hid⟩
    rintro ⟨b, hb, he⟩
    exact (ProfileHost.mem_held_forget.1 hb).2 (he.trans hid.symm)
  cases p with
  | withheld | astray => cases hy
  | unserved => exact hdrop (List.mem_singleton.1 hy)
  | taken =>
    rw [List.mem_singleton.1 hy] at hd
    exact hd.elim
  | refused =>
    obtain rfl | hy := List.mem_cons.1 hy
    · exact hd.elim
    · exact hdrop (List.mem_singleton.1 hy)

/-- Neither do effects, unless they pass an attachment on. -/
theorem Performed.not_forwards {t : Target} {y : Entry} (p : Performed ds h r es k)
    (hp : ∀ child a, .pass child a ∉ ds) (hy : y ∈ es) (hd : y.drops t) : ¬k.Forwards t := by
  induction p with
  | done => cases hy
  | @report ident a e _ es₁ g ds _ fs k first rest ih =>
    have hp' : ∀ child a, .pass child a ∉ ds := fun child a hm =>
      hp child a (List.mem_cons_of_mem _ hm)
    obtain hy | hy := List.mem_append.1 hy
    · rintro ⟨b, hb, he⟩
      obtain hb | ⟨child, hm⟩ := rest.held b hb
      · exact (first.not_forwards hy hd).1 ⟨b, hb, he⟩
      · exact hp' child b hm
    · exact ih hp' hy
  | failed first => exact (first.not_forwards hy hd).1
  | pass => exact absurd List.mem_cons_self (hp _ _)

def heir? (isSink : String → Bool) (a : Attachment) (f : Frame) : Option String :=
  if a.flags.setOnSpawn then (started? f).filter fun child => !isSink child else none

theorem passing_heir (a : Attachment) :
    (if a.flags.setOnSpawn then passing isSink a f else []) =
      (heir? isSink a f).toList.map fun child => .pass child a := by
  unfold heir? passing
  by_cases hf : a.flags.setOnSpawn = true
  · simp only [hf, if_true]
    cases started? f with
    | none => rfl
    | some child => cases hc : isSink child <;> simp [Option.filter, hc]
  · simp [hf]

theorem not_pass_switching {ident : Nat} {a b : Attachment} {child : String} :
    .pass child b ∉ switching ident a h := by
  intro hm
  obtain ⟨p, b, -, -, he⟩ | he := mem_switching hm <;> cases he

theorem not_pass_calling {ident : Nat} {a b : Attachment} {child : String} {stack : List Frame} :
    .pass child b ∉ calling ident a h f stack := by
  intro hm
  obtain ⟨spec, -, he⟩ := mem_calling hm
  cases he

/-- A call event that its worker takes, whenever the call is matched. -/
def CallTaken (a : Attachment) (h : ProfileHost) (f : Frame) (es : List Entry) : Prop :=
  a.flags.call = true → (h.matchUnit f.unit).isSome = true →
    ∃ w e, .handed w e true ∈ es ∧ e.kind = .call

theorem calling_performed {ident : Nat} {a : Attachment} {stack : List Frame}
    (p : Performed (if a.flags.call then calling ident a h f stack else []) g r es k) :
    (k = g ∧ r = .ok () ∧ CallTaken a h f es ∧ ∀ t, ∀ y ∈ es, ¬Entry.drops t y) ∨
      (k = g.forget a.target ∧ r = .ok () ∧ ¬CallTaken a h f es) ∨
      ((∃ x, a.target.route (.int ident) = .error x) ∧ es = []) := by
  by_cases hc : a.flags.call = true
  · rw [if_pos hc, calling] at p
    cases hm : h.matchUnit f.unit with
    | none =>
      rw [hm] at p
      cases p
      exact .inl ⟨rfl, rfl, fun _ hs => by simp [hm] at hs, by simp⟩
    | some spec =>
      have untaken : ∀ {fs}, (∀ w e, .handed w e true ∉ fs) → ¬CallTaken a h f fs := by
        intro fs hn hk
        obtain ⟨w, e, hw, -⟩ := hk hc (by simp [hm])
        exact hn w e hw
      rw [hm] at p
      cases p with
      | failed first =>
        cases first with
        | astray _ hr => exact .inr (.inr ⟨⟨_, hr⟩, rfl⟩)
      | report first rest =>
        cases rest
        cases first with
        | withheld _ he => cases he
        | taken w x hr =>
          refine .inl ⟨rfl, rfl, fun _ _ => ⟨w, _, List.mem_cons_self, rfl⟩, ?_⟩
          simp [Entry.drops]
        | unserved | refused => exact .inr (.inl ⟨rfl, rfl, untaken (by simp)⟩)
  · rw [if_neg hc] at p
    cases p
    exact .inl ⟨rfl, rfl, fun hc' => absurd hc' hc, by simp⟩

theorem switching_routes {ident : Nat} {a : Attachment}
    (p : Performed (switching ident a h) g (.ok ()) es k) (hn : es ≠ []) :
    ∃ w, a.target.route (.int ident) = .ok w := by
  unfold switching at p
  split at p
  · cases p
    exact absurd rfl hn
  · exact p.routes (List.mem_append_right _ List.mem_cons_self) rfl

theorem callTaken_append {ident : Nat} {a : Attachment} {fs : List Entry}
    (p : Performed (if a.flags.running then switching ident a h else []) g r fs m) :
    CallTaken a h f (fs ++ es) ↔ CallTaken a h f es := by
  have hn : ∀ w e, .handed w e true ∈ fs → e.kind ≠ .call := by
    intro w e hm
    obtain ⟨ident, b, e', x, hd, rfl, -⟩ := p.handed hm
    split at hd
    · obtain ⟨q, c, -, -, he⟩ | he := mem_switching hd
      · cases he
        exact fun hk => by cases hk
      · cases he
        exact fun hk => by cases hk
    · cases hd
  constructor
  · intro hk hc hm
    obtain ⟨w, e, hw, he⟩ := hk hc hm
    obtain hw | hw := List.mem_append.1 hw
    · exact absurd he (hn w e hw)
    · exact ⟨w, e, hw, he⟩
  · intro hk hc hm
    obtain ⟨w, e, hw, he⟩ := hk hc hm
    exact ⟨w, e, List.mem_append_right _ hw, he⟩

/-- What a thread passes on in a callback to a thread that it starts, if all that is left of the
callback is done and its call event is taken. -/
structure PassesOn (isSink : String → Bool) (me : Caller) (what : Signal) (f : Frame)
    (h : ProfileHost) (r : Except Fault Unit) (es : List Entry) (child : String) (a : Attachment) :
    Prop where
  called : what = .call
  own : own? me what h = some a
  heir : heir? isSink a f = some child
  completed : r = .ok ()
  kept : CallTaken a h f es

/-- After a call that drops a target, only what was passed on can forward there. -/
theorem callEffects_dropped {ident : Nat} {a : Attachment} {stack : List Frame} {t : Target}
    {y : Entry} (p : Performed (callEffects isSink ident a h f stack) g r es k) (hy : y ∈ es)
    (hd : y.drops t) :
    (¬k.Forwards t ∧ ¬((heir? isSink a f).isSome = true ∧ r = .ok () ∧ CallTaken a h f es)) ∨
      ∃ child m, ¬ProfileHost.Forwards m t ∧ k = pass child a m ∧
        heir? isSink a f = some child ∧ r = .ok () ∧ CallTaken a h f es := by
  rw [callEffects, passing_heir] at p
  have pw : ∀ child b,
      .pass child b ∉ (if a.flags.running then switching ident a h else []) := by
    intro child b hm
    split at hm
    · exact not_pass_switching hm
    · cases hm
  have pc : ∀ child b,
      .pass child b ∉ (if a.flags.call then calling ident a h f stack else []) := by
    intro child b hm
    split at hm
    · exact not_pass_calling hm
    · cases hm
  cases hh : heir? isSink a f with
  | none =>
    rw [hh] at p
    refine .inl ⟨p.not_forwards (fun child b hm => ?_) hy hd, fun hs => by simp at hs⟩
    obtain hm | hm := List.mem_append.1 hm
    · exact pw _ _ hm
    · exact pc _ _ hm
  | some child =>
    rw [hh] at p
    obtain ⟨x, rfl, hp⟩ | ⟨fs, m, gs, rfl, hp, hq⟩ := p.of_append
    · exact .inl ⟨hp.not_forwards pw hy hd, fun hs => by simp at hs⟩
    · cases hq with
      | pass rest =>
        rw [callTaken_append hp]
        -- the call event is taken, or it drops what was passed on as well, or it finds no worker
        obtain ⟨rfl, rfl, hk, hn⟩ | ⟨rfl, rfl, hk⟩ | ⟨⟨x, hx⟩, rfl⟩ := calling_performed rest
        · have hy : y ∈ fs := (List.mem_append.1 hy).resolve_right fun hg => hn t y hg hd
          exact .inr ⟨child, m, hp.not_forwards pw hy hd, rfl, rfl, rfl, hk⟩
        · refine .inl ⟨fun hf => ?_, fun hs => hk hs.2.2⟩
          obtain hy | hy := List.mem_append.1 hy
          · obtain ⟨b, hb, he⟩ := hf
            obtain ⟨hb, hne⟩ := ProfileHost.mem_held_forget.1 hb
            obtain rfl | hb := mem_held_pass hb
            · exact hne rfl
            · exact hp.not_forwards pw hy hd ⟨b, hb, he⟩
          · exact rest.not_forwards pc hy hd hf
        · rw [List.append_nil] at hy
          by_cases hr : a.flags.running = true
          · rw [if_pos hr] at hp
            obtain ⟨w, hw⟩ := switching_routes hp (List.ne_nil_of_mem hy)
            rw [hw] at hx
            cases hx
          · rw [if_neg hr] at hp
            cases hp
            cases hy

theorem plan_dropped {t : Target} {y : Entry}
    (p : Performed (plan isSink me what f below h).2 (plan isSink me what f below h).1 r es k)
    (hy : y ∈ es) (hd : y.drops t) :
    (¬k.Forwards t ∧ ∀ child a, ¬PassesOn isSink me what f h r es child a) ∨
      ∃ child a m, ¬ProfileHost.Forwards m t ∧ k = pass child a m ∧
        PassesOn isSink me what f h r es child a := by
  by_cases hw : what = .call
  · subst hw
    unfold plan at p
    split at p
    · simp only [planCall] at p
      cases hs : settle me h with
      | mk own g =>
        rw [hs] at p
        cases own with
        | none =>
          cases p
          cases hy
        | some a =>
          have hf : g.filters = h.filters := by simpa [hs] using settle_filters me h
          have ho : own? me .call h = some a := by rw [own?, hs]
          have hc : ∀ fs, CallTaken a g f fs ↔ CallTaken a h f fs := fun fs => by
            rw [CallTaken, CallTaken, matchUnit_congr hf]
          obtain ⟨hk, hn⟩ | ⟨child, m, hm, hk, hh, hr, ht⟩ := callEffects_dropped p hy hd
          · refine .inl ⟨hk, fun child b hb => hn ?_⟩
            obtain rfl : a = b := by simpa [ho] using hb.own
            exact ⟨by rw [hb.heir]; rfl, hb.completed, (hc es).2 hb.kept⟩
          · exact .inr ⟨child, a, m, hm, hk, rfl, ho, hh, hr, (hc es).1 ht⟩
    · cases p
      cases hy
  · refine .inl ⟨p.not_forwards (fun child a hm => ?_) hy hd, fun child a hb => hw hb.called⟩
    cases mem_plan hm with
    | pass hc => exact hw hc

end Hook

namespace Situation

variable {σ : Type} {c : HookEnv σ}

/-- A callback that drops a target leaves nothing that forwards there for any thread that runs or
arrives; a thread yet to start has an attachment that does exactly if it was passed on in this very
callback. Only such an attachment forwards to the target until the target is attached again. -/
theorem signal_dropped {s : Situation (Journaled σ)} {x : String} {u : Thread}
    (hx : s.threads.find? x = some u) (ha : u.isAlive = true) (what : Hook.Signal) (f : Frame)
    (below : List Frame) {es : List Entry}
    (hes : (s.signal c.journaled x what f below).outside.journal = s.outside.journal ++ es)
    {t : Target} (hd : ∃ y ∈ es, y.drops t) :
    let after := s.signal c.journaled x what f below
    let passesOn := Hook.PassesOn s.threads.isSink u.caller what f s.host
      (s.callback c.journaled u what f below).1 es
    Answered es ∧
      (∀ n b, (n, b) ∈ after.host.traced → b.target.id ≠ t.id) ∧
      (∀ b, after.host.arrivals = some b → b.target.id ≠ t.id) ∧
      (∀ child b, b.target.id = t.id → ((child, b) ∈ after.host.pending ↔ passesOn child b)) ∧
      ∀ ms : List Move, (∀ caller carrier b, .attach caller carrier b ∈ ms → b.target.id ≠ t.id) →
        ∀ b ∈ (after.run c.journaled ms).host.held, b.target.id = t.id →
          ∃ child, passesOn child b := by
  intro after passesOn
  obtain ⟨fs, p, hfs⟩ := signal_journaled (c := c) hx ha what f below
  obtain rfl : es = fs := List.append_cancel_left (hes.symm.trans hfs)
  obtain ⟨y, hy, hd⟩ := hd
  have hans : Answered es := p.answered fun d hm => (Hook.mem_plan hm).proper
  have later : (∀ b ∈ after.host.held, b.target.id = t.id → ∃ child, passesOn child b) →
      ∀ ms : List Move, (∀ caller carrier b, .attach caller carrier b ∈ ms → b.target.id ≠ t.id) →
        ∀ b ∈ (after.run c.journaled ms).host.held, b.target.id = t.id →
          ∃ child, passesOn child b := by
    intro now ms hms b hb he
    obtain ⟨caller, carrier, hm⟩ | hb := held_run hb
    · exact absurd he (hms caller carrier b hm)
    · exact now b hb he
  -- either nothing forwards to the target, or only what was passed on to a thread yet to start
  obtain ⟨hk, hn⟩ | ⟨child, a, m, hm, hk, hp⟩ := Hook.plan_dropped p hy hd
  · have none : ∀ b ∈ after.host.held, b.target.id ≠ t.id := fun b hb he => hk ⟨b, hb, he⟩
    refine ⟨hans, fun n b hb => ?_, fun b hb => ?_, fun child b he => ⟨fun hb => ?_, fun hb => ?_⟩,
      later fun b hb he => absurd he (none b hb)⟩
    · exact none b (ProfileHost.mem_held.2 (.inl ⟨n, hb⟩))
    · exact none b (ProfileHost.mem_held_of_arrivals hb)
    · exact absurd he (none b (ProfileHost.mem_held.2 (.inr (.inl ⟨child, hb⟩))))
    · exact absurd hb (hn child b)
  · have none : ∀ b ∈ m.held, b.target.id ≠ t.id := fun b hb he => hm ⟨b, hb, he⟩
    have hpass : after.host = Hook.pass child a m := hk
    refine ⟨hans, fun n b hb => ?_, fun b hb => ?_, fun x b he => ⟨fun hb => ?_, fun hb => ?_⟩,
      later fun b hb he => ?_⟩
    · rw [hpass] at hb
      exact none b (ProfileHost.mem_held.2 (.inl ⟨n, hb⟩))
    · rw [hpass] at hb
      exact none b (ProfileHost.mem_held_of_arrivals hb)
    · rw [hpass] at hb
      obtain h | hb := Table.mem_put hb
      · cases h
        exact hp
      · exact absurd he (none b (ProfileHost.mem_held.2 (.inr (.inl ⟨x, hb⟩))))
    · obtain rfl : b = a := Option.some.inj (hb.own.symm.trans hp.own)
      obtain rfl : x = child := Option.some.inj (hb.heir.symm.trans hp.heir)
      rw [hpass]
      refine Table.mem_of_get? ?_
      rw [Hook.pass, Table.get?_put, if_pos rfl]
    · rw [hpass] at hb
      obtain rfl | hb := Hook.mem_held_pass hb
      · exact ⟨child, hp⟩
      · exact absurd he (none b hb)

def stopped : Attachment := ⟨{ running := true, setOnSpawn := true }, .ofWorkers 0 .trace [0]⟩

def beforeSpawn : Situation (Journaled Unit) :=
  (fresh .family ⟨(), []⟩).run (HookEnv.answering false).journaled
    [.attach "main" (.thread "main") stopped]

def afterSpawn : Situation (Journaled Unit) :=
  beforeSpawn.signal (HookEnv.answering false).journaled "main" .call (.start (.thread "child")) []

theorem signal_dropped_spawn :
    beforeSpawn.host.traced = [(1, stopped)] ∧
      (∀ n b, (n, b) ∈ afterSpawn.host.traced → b.target.id ≠ 0) ∧
      ∀ child b, b.target.id = 0 → (child, b) ∈ afterSpawn.host.pending →
        child = "child" ∧ b = stopped := by
  have h := signal_dropped (c := .answering false) (s := beforeSpawn) (x := "main")
    (u := { name := "main", assigned := 1, state := .alive, hooked := true }) (by rfl) (by rfl) .call
    (.start (.thread "child")) []
    (show afterSpawn.outside.journal = beforeSpawn.outside.journal ++ afterSpawn.outside.journal
      by rfl)
    (t := stopped.target) ⟨_, List.mem_cons_of_mem _ List.mem_cons_self, rfl⟩
  refine ⟨by rfl, h.2.1, fun child b hb hm => ?_⟩
  have hp := (h.2.2.2.1 child b hb).1 hm
  have hs : b = stopped := Option.some.inj (hp.own.symm.trans (by rfl))
  have hc : Hook.heir? beforeSpawn.threads.isSink stopped (.start (.thread "child")) =
    some "child" := by rfl
  exact ⟨Option.some.inj ((hs ▸ hp.heir).symm.trans hc), hs⟩

/-- A callback that drops a target may leave something behind that forwards there. -/
theorem drop_outlived :
    ¬∀ (ts : Threads) (ms : List Move) (x : String) (u : Thread) (what : Hook.Signal) (f : Frame)
      (below : List Frame) (es : List Entry) (t : Target),
      let s := (fresh ts ⟨(), []⟩).run (HookEnv.answering false).journaled ms
      let after := s.signal (HookEnv.answering false).journaled x what f below
      s.threads.find? x = some u → u.isAlive = true →
        after.outside.journal = s.outside.journal ++ es → (∃ y ∈ es, y.drops t) →
          ¬after.host.Forwards t := by
  intro h
  have hn := h .family [.attach "main" (.thread "main") stopped] "main"
    { name := "main", assigned := 1, state := .alive, hooked := true } .call
    (.start (.thread "child")) [] afterSpawn.outside.journal stopped.target (by rfl) (by rfl)
    (by rfl) ⟨_, List.mem_cons_of_mem _ List.mem_cons_self, rfl⟩
  exact hn ⟨stopped, ProfileHost.mem_held_of_pending (x := "child") (by rfl), rfl⟩

end Situation

end ThreadTrace
