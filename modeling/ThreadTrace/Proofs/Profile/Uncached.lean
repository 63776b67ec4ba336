import ThreadTrace.Proofs.Profile.Gathering
import ThreadTrace.Proofs.Profile.Course

namespace ThreadTrace

def ProfileHost.uncached (h : ProfileHost) : ProfileHost := { h with ignored := [] }

theorem Table.erase_of_none {κ α : Type} [DecidableEq κ] {t : Table κ α} {k : κ}
    (h : t.get? k = none) : t.erase k = t := by
  refine List.filter_eq_self.2 fun x hx => ?_
  have hs := get?_isSome_of_mem hx
  simp only [ne_eq, decide_not, Bool.not_eq_eq_eq_not, Bool.not_true, decide_eq_false_iff_not]
  rintro rfl
  rw [h] at hs
  cases hs

namespace Hook

open ProfileHost

variable {σ : Type} (c : HookEnv σ) {isSink : String → Bool} {me : Caller} {what : Signal} {f : Frame}
  {below : List Frame} {h : ProfileHost}

/-- Whether looking the running thread up again would find it untraced if it is remembered so. -/
def Faithful (me : Caller) (h : ProfileHost) : Prop :=
  h.traced.get? me.ident = none → me.ident ∈ h.ignored → me.ident ∈ h.hooked ∧ arriving h me = none

theorem pending_of_arriving (ha : arriving h me = none) : h.pending.get? me.thread = none := by
  unfold arriving at ha
  split at ha
  · cases ha
  · assumption

theorem settle_uncached (hf : Faithful me h) :
    (settle me h.uncached).1 = (settle me h).1 ∧
      (settle me h.uncached).2.uncached = (settle me h).2.uncached := by
  have slow : arriving h.uncached me = arriving h me := rfl
  cases ht : h.traced.get? me.ident with
  | some a => simp [settle, uncached, ht]
  | none =>
    by_cases hi : me.ident ∈ h.ignored
    · obtain ⟨hh, ha⟩ := hf ht hi
      have hn : ∀ x, h.uncached.ignored.contains x = false := fun _ => rfl
      have hu : h.uncached.traced.get? me.ident = none := ht
      simp only [settle, ht, hu, hn, slow, ha]
      simp [uncached, hi, insertNew_of_mem hh, Table.erase_of_none (pending_of_arriving ha)]
    · have hn : ∀ x, h.uncached.ignored.contains x = false := fun _ => rfl
      have hu : h.uncached.traced.get? me.ident = none := ht
      have hc : h.ignored.contains me.ident = false := by simpa using hi
      simp only [settle, ht, hu, hn, hc, slow]
      cases arriving h me <;> exact ⟨rfl, rfl⟩

theorem planCall_uncached (hf : Faithful me h) (stack : List Frame) :
    (planCall isSink me f stack h.uncached).2 = (planCall isSink me f stack h).2 ∧
      (planCall isSink me f stack h.uncached).1.uncached =
        (planCall isSink me f stack h).1.uncached := by
  have effects : ∀ ident a (g : ProfileHost),
      callEffects isSink ident a g.uncached f stack = callEffects isSink ident a g f stack :=
    fun _ _ _ => rfl
  obtain ⟨hown, hhost⟩ := settle_uncached hf
  simp only [planCall]
  generalize settle me h.uncached = slow at hown hhost
  generalize settle me h = quick at hown hhost
  obtain ⟨own, g⟩ := slow
  obtain ⟨own', k⟩ := quick
  obtain rfl : own = own' := hown
  replace hhost : g.uncached = k.uncached := hhost
  cases own with
  | none => exact ⟨rfl, hhost⟩
  | some a =>
    refine ⟨?_, ?_⟩
    · change callEffects isSink me.ident a g f stack = callEffects isSink me.ident a k f stack
      rw [← effects, hhost, effects]
    · change (if a.flags.running then { g with lastIdent := some me.ident } else g).uncached =
        (if a.flags.running then { k with lastIdent := some me.ident } else k).uncached
      split
      · exact congrArg (fun h : ProfileHost => { h with lastIdent := some me.ident }) hhost
      · exact hhost

theorem planReturn_uncached (me : Caller) (f : Frame) (caller : Option Frame) (h : ProfileHost) :
    (planReturn me f caller h.uncached).2 = (planReturn me f caller h).2 ∧
      (planReturn me f caller h.uncached).1.uncached = (planReturn me f caller h).1.uncached := by
  have ht : h.uncached.traced = h.traced := rfl
  unfold planReturn planEnd
  rw [ht]
  cases caller <;> cases h.traced.get? me.ident <;> exact ⟨rfl, rfl⟩

theorem plan_uncached (isSink : String → Bool) (f : Frame) (below : List Frame)
    (hf : h.active = true → what = .call → Faithful me h) :
    (plan isSink me what f below h.uncached).2 = (plan isSink me what f below h).2 ∧
      (plan isSink me what f below h.uncached).1.uncached =
        (plan isSink me what f below h).1.uncached := by
  have hu : h.uncached.active = h.active := rfl
  unfold plan
  rw [hu]
  cases ha : h.active with
  | false => exact ⟨rfl, rfl⟩
  | true =>
    cases what with
    | call => exact planCall_uncached (hf ha rfl) (f :: below)
    | ret => exact planReturn_uncached me f below.head? h
    | other => exact ⟨rfl, rfl⟩

end Hook

namespace HookState

variable {σ : Type}

def uncached (s : HookState σ) : HookState σ := { s with host := s.host.uncached }

end HookState

namespace Hook

variable {σ : Type} (c : HookEnv σ)

theorem act_uncached (d : Effect) (s : HookState σ) :
    (d.act c).on s.uncached = (((d.act c).on s).1, ((d.act c).on s).2.uncached) := by
  cases d with
  | pass child a => rfl
  | report ident a e =>
    rw [report_on, report_on]
    simp only [HookState.uncached]
    generalize stamp c a.flags s.outside = x
    simp only [emit]
    split
    · rfl
    · cases a.target.route (.int ident) with
      | error f => rfl
      | ok w =>
        cases w with
        | none => rfl
        | some k =>
          cases ho : (c.offer k { e with timestamp := x.1 } x.2).1 with
          | true => simp [offer, drop, ho]
          | false =>
            simp [offer, drop, ho]
            rfl

theorem actAll_uncached (ds : List Effect) (s : HookState σ) :
    (actAll c ds).on s.uncached = (((actAll c ds).on s).1, ((actAll c ds).on s).2.uncached) := by
  induction ds generalizing s with
  | nil => rfl
  | cons d ds ih =>
    simp only [actAll, Act.on_bind, act_uncached]
    cases (d.act c).on s with
    | mk r t =>
      cases r with
      | error f => rfl
      | ok _ => exact ih t

theorem fire_uncached (isSink : String → Bool) {me : Caller} {what : Signal} (f : Frame)
    (below : List Frame) {s : HookState σ}
    (hf : s.host.active = true → what = .call → Faithful me s.host) :
    ((fire c isSink me what f below).on s.uncached).1 =
        ((fire c isSink me what f below).on s).1 ∧
      ((fire c isSink me what f below).on s.uncached).2.uncached =
        ((fire c isSink me what f below).on s).2.uncached := by
  obtain ⟨hds, hh⟩ := plan_uncached isSink f below hf
  have hslow := actAll_uncached c (plan isSink me what f below s.host).2
    ⟨(plan isSink me what f below s.host.uncached).1, s.outside⟩
  have hquick := actAll_uncached c (plan isSink me what f below s.host).2
    ⟨(plan isSink me what f below s.host).1, s.outside⟩
  rw [show HookState.uncached ⟨(plan isSink me what f below s.host.uncached).1, s.outside⟩ =
    HookState.uncached ⟨(plan isSink me what f below s.host).1, s.outside⟩ by
      rw [HookState.uncached, HookState.uncached, hh], hquick] at hslow
  have hslow := Prod.mk.inj hslow
  rw [fire_on, fire_on]
  change ((actAll c (plan isSink me what f below s.host.uncached).2).on _).1 = _ ∧
    ((actAll c (plan isSink me what f below s.host.uncached).2).on _).2.uncached = _
  rw [hds]
  exact ⟨hslow.1.symm, hslow.2.symm⟩

end Hook

namespace Observed

variable (o : Observed) (a : Attachment)

def uncached : Observed := { o with host := o.host.uncached }

theorem attachListed_uncached (ts : List Thread) (traced : Table Nat Attachment)
    (unreached : List String) :
    o.uncached.attachListed a traced unreached ts = o.attachListed a traced unreached ts := by
  have ho : ∀ t, o.uncached.observable t = o.observable t := fun _ => rfl
  induction ts generalizing traced unreached with
  | nil => rfl
  | cons t ts ih => simp only [attachListed, ho, ih]

theorem attachCarrier_uncached (c : Carrier) :
    (o.uncached.attachCarrier c a).1 = (o.attachCarrier c a).1.uncached := by
  have hr : ∀ t n, (o.uncached.attachRunning t n a).1 = (o.attachRunning t n a).1.uncached := by
    intro t n
    rw [attachRunning, attachRunning, show o.uncached.observable t = o.observable t from rfl]
    split <;> rfl
  have ht : o.uncached.threads = o.threads := rfl
  cases c with
  | port handle => rfl
  | selector s =>
    rw [attachCarrier, attachCarrier, attachSelector_eq, attachSelector_eq, ht]
    rw [attachListed_uncached]
    rfl
  | thread x =>
    rw [attachCarrier, attachCarrier]
    cases hx : o.threads.find? x with
    | none => simp only [attachThread, ht, hx]; rfl
    | some t =>
      cases hs : t.isSink with
      | true => simp only [attachThread, ht, hx, hs, if_true]; rfl
      | false =>
        rw [attachThread_eq o.uncached a hx hs, attachThread_eq o a hx hs]
        cases t.ident? with
        | none => rfl
        | some n =>
          dsimp only
          split
          · exact hr t n
          · rfl
  | ident n =>
    rw [attachCarrier, attachCarrier, attachIdent, attachIdent, ht]
    cases o.threads.listed.reverse.find? fun t => t.ident? == some n with
    | none => rfl
    | some t =>
      dsimp only
      split
      · rfl
      · exact hr t n

theorem attach_uncached (c : Carrier) : (o.uncached.attach c a).1 = (o.attach c a).1 := by
  have h := attachCarrier_uncached o a c
  simp only [attach]
  rw [h]
  rfl

theorem clear_uncached : o.uncached.clear = o.clear := by
  simp only [clear, uninstallHook]
  rfl

end Observed

namespace Situation

variable {σ : Type} (c : HookEnv σ)

def uncached (s : Situation σ) : Situation σ := s.withHost s.host.uncached

/-- A run in which every lookup takes the slow path. -/
def runSlowly (s : Situation σ) (ms : List Move) : Situation σ :=
  ms.foldl (fun s m => s.uncached.step c m) s

/-- Whether the thread that makes a call would be found untraced again if it is remembered so. -/
def Reliable (s : Situation σ) : Move → Prop
  | .signal x .call _ _ => s.host.active = true →
    ∀ t, s.threads.find? x = some t → t.isAlive = true → Hook.Faithful t.caller s.host
  | _ => True

theorem signal_uncached {s : Situation σ} {x : String} {what : Hook.Signal} {f : Frame}
    {below : List Frame} (hr : Reliable s (.signal x what f below)) :
    (s.uncached.signal c x what f below).uncached = (s.signal c x what f below).uncached := by
  cases hx : s.threads.find? x with
  | none =>
    have hu : s.uncached.threads.find? x = none := hx
    simp only [signal, hx, hu]
    rfl
  | some t =>
    have hu : s.uncached.threads.find? x = some t := hx
    cases ha : t.isAlive with
    | false =>
      simp only [signal, hx, hu, ha, Bool.false_eq_true, if_false]
      rfl
    | true =>
      have hf : s.host.active = true → what = .call → Hook.Faithful t.caller s.host := by
        rintro hactive rfl
        exact hr hactive t hx ha
      obtain ⟨-, h⟩ := Hook.fire_uncached c s.threads.isSink f below (s := ⟨s.host, s.outside⟩) hf
      rw [signal_eq hu ha, signal_eq hx ha]
      exact congrArg (fun z : HookState σ => (⟨⟨z.host, s.threads⟩, z.outside⟩ : Situation σ)) h

theorem step_uncached {s : Situation σ} {m : Move} (hr : Reliable s m) :
    (s.uncached.step c m).uncached = (s.step c m).uncached := by
  have hi : ∀ x states, s.uncached.isIn x states = s.isIn x states := fun _ _ => rfl
  cases m with
  | attach caller carrier a =>
    have h := Observed.attach_uncached (s.calledBy caller) a carrier
    exact congrArg (fun o => uncached { s with observed := o }) h
  | install | forget => rfl
  | clear caller =>
    have h := Observed.clear_uncached (s.calledBy caller)
    exact congrArg (fun o => uncached { s with observed := o }) h
  | launch | start =>
    simp only [step, hi]
    split <;> rfl
  | signal => exact signal_uncached c hr
  | finish x lowest =>
    simp only [step, hi]
    split
    · cases lowest with
      | none => rfl
      | some f =>
        have h : (s.uncached.signal c x .ret f []).uncached = (s.signal c x .ret f []).uncached :=
          signal_uncached c trivial
        exact congrArg (fun s : Situation σ => s.withThreads (s.threads.finish x)) h
    · rfl

/-- As long as memory is reliable it makes no difference. -/
theorem run_uncached {s u : Situation σ} {ms : List Move} (hr : Along c Reliable s ms)
    (hu : u.uncached = s.uncached) : (u.runSlowly c ms).uncached = (s.run c ms).uncached := by
  induction ms generalizing s u with
  | nil => exact hu
  | cons m ms ih =>
    have h : (u.uncached.step c m).uncached = (s.step c m).uncached := by
      rw [hu]
      exact step_uncached c hr.1
    exact ih hr.2 h

end Situation

end ThreadTrace
