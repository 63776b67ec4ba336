import ThreadTrace.Proofs.Profile.Effects

namespace ThreadTrace

inductive Entry
  | handed (worker : Nat) (e : Event) (taken : Bool)
  | dropped (t : Target)
deriving DecidableEq, Inhabited

structure Journaled (σ : Type) where
  inner : σ
  journal : List Entry := []

/-- The surroundings that do what others do and keep a journal of it. -/
def HookEnv.journaled {σ : Type} (c : HookEnv σ) : HookEnv (Journaled σ) where
  offer k e o :=
    let (taken, inner) := c.offer k e o.inner
    (taken, ⟨inner, o.journal ++ [.handed k e taken]⟩)
  tick o :=
    let (x, inner) := c.tick o.inner
    (x, { o with inner })
  dropped t o := ⟨c.dropped t o.inner, o.journal ++ [.dropped t]⟩

namespace Hook

variable {σ : Type} (c : HookEnv σ)

/-- How an event is handed over: the outcome, the journal and the host that is left. -/
inductive Reported (ident : Nat) (a : Attachment) (e : Event) (h : ProfileHost) :
    Except Fault Unit → List Entry → ProfileHost → Prop
  | withheld (hm : a.target.mode = .profile) (he : e.kind.isProfiled = false) :
      Reported ident a e h (.ok ()) [] h
  | astray (f : Fault) (hr : a.target.route (.int ident) = .error f) :
      Reported ident a e h (.error f) [] h
  | unserved (hr : a.target.route (.int ident) = .ok none) :
      Reported ident a e h (.ok ()) [.dropped a.target] (h.forget a.target)
  | taken (k : Nat) (x : Option Double) (hr : a.target.route (.int ident) = .ok (some k)) :
      Reported ident a e h (.ok ()) [.handed k { e with timestamp := x } true] h
  | refused (k : Nat) (x : Option Double) (hr : a.target.route (.int ident) = .ok (some k)) :
      Reported ident a e h (.ok ()) [.handed k { e with timestamp := x } false, .dropped a.target]
        (h.forget a.target)

def pass (child : String) (a : Attachment) (h : ProfileHost) : ProfileHost :=
  { h with pending := h.pending.put child a }

/-- Effects from one host to another; a fault ends them early. -/
inductive Performed :
    List Effect → ProfileHost → Except Fault Unit → List Entry → ProfileHost → Prop
  | done (h) : Performed [] h (.ok ()) [] h
  | report {ident a e h es g ds r fs k} (first : Reported ident a e h (.ok ()) es g)
      (rest : Performed ds g r fs k) : Performed (.report ident a e :: ds) h r (es ++ fs) k
  | failed {ident a e h es g ds f} (first : Reported ident a e h (.error f) es g) :
      Performed (.report ident a e :: ds) h (.error f) es g
  | pass {child a h ds r es k} (rest : Performed ds (Hook.pass child a h) r es k) :
      Performed (.pass child a :: ds) h r es k

theorem report_reported (ident : Nat) (a : Attachment) (e : Event) (s : HookState (Journaled σ)) :
    ∃ es, Reported ident a e s.host (((Effect.report ident a e).act c.journaled).on s).1 es
        (((Effect.report ident a e).act c.journaled).on s).2.host ∧
      (((Effect.report ident a e).act c.journaled).on s).2.outside.journal =
        s.outside.journal ++ es := by
  have hj : (stamp c.journaled a.flags s.outside).2.journal = s.outside.journal := by
    by_cases ht : a.flags.timestamp = true <;> simp [stamp, ht, HookEnv.journaled]
  rw [report_on]
  generalize stamp c.journaled a.flags s.outside = x at hj ⊢
  rw [← hj]
  simp only [emit]
  by_cases hm : (a.target.mode == .profile && !e.kind.isProfiled) = true
  · rw [if_pos hm]
    have hm' : a.target.mode = .profile ∧ e.kind.isProfiled = false := by simpa using hm
    exact ⟨[], .withheld hm'.1 hm'.2, by simp⟩
  · rw [if_neg hm]
    cases hr : a.target.route (.int ident) with
    | error f => exact ⟨[], .astray f hr, by simp⟩
    | ok w =>
      cases w with
      | none => exact ⟨_, .unserved hr, by simp [drop, HookEnv.journaled]⟩
      | some k =>
        cases ho : (c.offer k { e with timestamp := x.1 } x.2.inner).1 with
        | true => exact ⟨_, by simpa [offer, drop, HookEnv.journaled, ho] using .taken k x.1 hr,
            by simp [offer, drop, HookEnv.journaled, ho]⟩
        | false => exact ⟨_, by simpa [offer, drop, HookEnv.journaled, ho] using .refused k x.1 hr,
            by simp [offer, drop, HookEnv.journaled, ho]⟩

theorem actAll_performed (ds : List Effect) (s : HookState (Journaled σ)) :
    ∃ es, Performed ds s.host ((actAll c.journaled ds).on s).1 es
        ((actAll c.journaled ds).on s).2.host ∧
      ((actAll c.journaled ds).on s).2.outside.journal = s.outside.journal ++ es := by
  induction ds generalizing s with
  | nil => exact ⟨[], .done _, by simp [actAll]⟩
  | cons d ds ih =>
    cases d with
    | pass child a =>
      obtain ⟨es, hp, hj⟩ := ih { s with host := Hook.pass child a s.host }
      exact ⟨es, .pass hp, hj⟩
    | report ident a e =>
      obtain ⟨es, hr, hj⟩ := report_reported c ident a e s
      simp only [actAll, Act.on_bind]
      cases h : ((Effect.report ident a e).act c.journaled).on s with
      | mk r t =>
        rw [h] at hr hj
        cases r with
        | error f => exact ⟨es, .failed hr, hj⟩
        | ok _ =>
          obtain ⟨fs, hp, hk⟩ := ih t
          exact ⟨es ++ fs, .report hr hp, by rw [hk, hj, List.append_assoc]⟩

def unjournaled (s : HookState (Journaled σ)) : HookState σ := ⟨s.host, s.outside.inner⟩

theorem act_unjournaled (d : Effect) (s : HookState (Journaled σ)) :
    (d.act c).on (unjournaled s) =
      (((d.act c.journaled).on s).1, unjournaled ((d.act c.journaled).on s).2) := by
  cases d with
  | pass child a => rfl
  | report ident a e =>
    have ht : stamp c a.flags s.outside.inner =
        ((stamp c.journaled a.flags s.outside).1, (stamp c.journaled a.flags s.outside).2.inner) := by
      by_cases ht : a.flags.timestamp = true <;> simp [stamp, ht, HookEnv.journaled]
    rw [report_on, report_on]
    simp only [unjournaled, ht]
    generalize stamp c.journaled a.flags s.outside = x
    simp only [emit]
    split
    · rfl
    · cases a.target.route (.int ident) with
      | error f => rfl
      | ok w =>
        cases w with
        | none => rfl
        | some k =>
          cases ho : (c.offer k { e with timestamp := x.1 } x.2.inner).1 <;>
            simp [offer, drop, HookEnv.journaled, ho]

theorem actAll_unjournaled (ds : List Effect) (s : HookState (Journaled σ)) :
    (actAll c ds).on (unjournaled s) =
      (((actAll c.journaled ds).on s).1, unjournaled ((actAll c.journaled ds).on s).2) := by
  induction ds generalizing s with
  | nil => rfl
  | cons d ds ih =>
    simp only [actAll, Act.on_bind, act_unjournaled]
    cases (d.act c.journaled).on s with
    | mk r t =>
      cases r with
      | error f => rfl
      | ok _ => exact ih t

/-- A callback ends on the host that its effects make of the one that took notice. -/
theorem fire_performed (isSink : String → Bool) (me : Caller) (what : Signal) (f : Frame)
    (below : List Frame) (s : HookState σ) :
    ∃ es, Performed (plan isSink me what f below s.host).2 (plan isSink me what f below s.host).1
      ((fire c isSink me what f below).on s).1 es ((fire c isSink me what f below).on s).2.host := by
  rw [fire_on]
  generalize plan isSink me what f below s.host = p
  obtain ⟨es, hp, -⟩ := actAll_performed c p.2 ⟨p.1, ⟨s.outside, []⟩⟩
  have h := actAll_unjournaled c p.2 ⟨p.1, ⟨s.outside, []⟩⟩
  rw [unjournaled] at h
  rw [h]
  exact ⟨es, hp⟩

theorem fire_journaled (isSink : String → Bool) (me : Caller) (what : Signal) (f : Frame)
    (below : List Frame) (s : HookState (Journaled σ)) :
    ∃ es, Performed (plan isSink me what f below s.host).2 (plan isSink me what f below s.host).1
        ((fire c.journaled isSink me what f below).on s).1 es
        ((fire c.journaled isSink me what f below).on s).2.host ∧
      ((fire c.journaled isSink me what f below).on s).2.outside.journal =
        s.outside.journal ++ es := by
  rw [fire_on]
  generalize plan isSink me what f below s.host = p
  exact actAll_performed c p.2 ⟨p.1, s.outside⟩

theorem Performed.of_append {ds ds' : List Effect} {h k : ProfileHost} {r : Except Fault Unit}
    {es : List Entry} (p : Performed (ds ++ ds') h r es k) :
    (∃ f, r = .error f ∧ Performed ds h r es k) ∨
      ∃ fs g gs, es = fs ++ gs ∧ Performed ds h (.ok ()) fs g ∧ Performed ds' g r gs k := by
  induction ds generalizing h es with
  | nil => exact .inr ⟨[], h, es, rfl, .done h, p⟩
  | cons d ds ih =>
    cases p with
    | failed first => exact .inl ⟨_, rfl, .failed first⟩
    | @report _ _ _ _ es₁ _ _ _ _ _ first rest =>
      obtain ⟨f, hf, hp⟩ | ⟨fs, g, gs, rfl, hp, hq⟩ := ih rest
      · exact .inl ⟨f, hf, .report first hp⟩
      · exact .inr ⟨es₁ ++ fs, g, gs, (List.append_assoc ..).symm, .report first hp, hq⟩
    | pass rest =>
      obtain ⟨f, hf, hp⟩ | ⟨fs, g, gs, rfl, hp, hq⟩ := ih rest
      · exact .inl ⟨f, hf, .pass hp⟩
      · exact .inr ⟨fs, g, gs, rfl, .pass hp, hq⟩

theorem Performed.routes {ds : List Effect} {h k : ProfileHost} {es : List Entry} {ident : Nat}
    {a : Attachment} {e : Event} (p : Performed ds h (.ok ()) es k) (hm : .report ident a e ∈ ds)
    (he : e.kind.isProfiled = true) : ∃ w, a.target.route (.int ident) = .ok w := by
  generalize hr : (.ok () : Except Fault Unit) = r at p
  induction p with
  | done => cases hm
  | report first _ ih =>
    obtain hm | hm := List.mem_cons.1 hm
    · cases hm
      cases first with
      | withheld _ hf => rw [hf] at he; cases he
      | unserved hr | taken _ _ hr | refused _ _ hr => exact ⟨_, hr⟩
    · exact ih hm hr
  | failed => cases hr
  | pass _ ih =>
    obtain hm | hm := List.mem_cons.1 hm
    · cases hm
    · exact ih hm hr

theorem Reported.handed {ident w : Nat} {a : Attachment} {e e' : Event} {h k : ProfileHost}
    {r : Except Fault Unit} {es : List Entry} {taken : Bool} (p : Reported ident a e' h r es k)
    (hm : .handed w e taken ∈ es) :
    ∃ x, e = { e' with timestamp := x } ∧ a.target.route (.int ident) = .ok (some w) := by
  cases p with
  | withheld | astray => cases hm
  | unserved => cases List.mem_singleton.1 hm
  | taken v x hr =>
    cases List.mem_singleton.1 hm
    exact ⟨x, rfl, hr⟩
  | refused v x hr =>
    obtain hm | hm := List.mem_cons.1 hm
    · cases hm
      exact ⟨x, rfl, hr⟩
    · cases List.mem_singleton.1 hm

theorem Performed.handed {ds : List Effect} {h k : ProfileHost} {r : Except Fault Unit}
    {es : List Entry} {w : Nat} {e : Event} {taken : Bool} (p : Performed ds h r es k)
    (hm : .handed w e taken ∈ es) :
    ∃ ident a e' x, .report ident a e' ∈ ds ∧ e = { e' with timestamp := x } ∧
      a.target.route (.int ident) = .ok (some w) := by
  induction p with
  | done => cases hm
  | report first _ ih =>
    obtain hm | hm := List.mem_append.1 hm
    · obtain ⟨x, h⟩ := first.handed hm
      exact ⟨_, _, _, x, List.mem_cons_self, h⟩
    · obtain ⟨ident, a, e', x, hd, h⟩ := ih hm
      exact ⟨ident, a, e', x, List.mem_cons_of_mem _ hd, h⟩
  | failed first =>
    obtain ⟨x, h⟩ := first.handed hm
    exact ⟨_, _, _, x, List.mem_cons_self, h⟩
  | pass _ ih =>
    obtain ⟨ident, a, e', x, hd, h⟩ := ih hm
    exact ⟨ident, a, e', x, List.mem_cons_of_mem _ hd, h⟩

end Hook

end ThreadTrace
