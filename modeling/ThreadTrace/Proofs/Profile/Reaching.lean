import Mathlib.Data.List.Induction
import ThreadTrace.Proofs.Profile.Covering

namespace ThreadTrace

def Notice.unreached : Notice → List String
  | .threadUnreached x => [x]
  | .threadsUnreached xs => xs
  | _ => []

theorem Thread.of_alive {t : Thread} (ha : t.isAlive = true) :
    t.ident? = some t.assigned ∧ t.isListed = true := by
  have hs : t.state = .alive := by simpa [isAlive] using ha
  simp [ident?, isListed, hs]

namespace Hook

open ProfileHost

variable {isSink : String → Bool} {me : Caller} {what : Signal} {f : Frame} {below : List Frame}
  {h : ProfileHost} {n : Nat}

theorem mem_hooked_settle (hi : ∀ m ∈ h.ignored, m ∈ h.hooked) :
    n ∈ (settle me h).2.hooked ↔
      n = me.ident ∧ h.traced.get? n = none ∨ n ∈ h.hooked := by
  unfold settle
  split
  · rename_i a ha
    refine ⟨.inr, ?_⟩
    rintro (⟨rfl, hn⟩ | hn)
    · rw [ha] at hn
      cases hn
    · exact hn
  · rename_i ht
    split
    · rename_i hm
      refine ⟨.inr, ?_⟩
      rintro (⟨rfl, -⟩ | hn)
      · exact hi _ (by simpa using hm)
      · exact hn
    · have hs : n ∈ insertNew me.ident h.hooked ↔
          n = me.ident ∧ h.traced.get? n = none ∨ n ∈ h.hooked := by
        rw [mem_insertNew, or_comm]
        refine or_congr_left ⟨?_, And.left⟩
        rintro rfl
        exact ⟨rfl, ht⟩
      cases arriving h me <;> exact hs

theorem mem_hooked_plan (hi : ∀ m ∈ h.ignored, m ∈ h.hooked) :
    n ∈ (plan isSink me what f below h).1.hooked ↔
      (h.active = true ∧ what = .call ∧ n = me.ident ∧ h.traced.get? n = none) ∨
        n ∈ h.hooked ∧ ¬(h.active = true ∧ what = .ret ∧ below = [] ∧ n = me.ident) := by
  unfold plan
  cases ha : h.active with
  | false => simp
  | true =>
    simp only [if_true]
    cases what with
    | other => simp
    | call =>
      obtain ⟨last, he⟩ := planCall_host isSink me f (f :: below) h
      simp [he, mem_hooked_settle hi]
    | ret =>
      cases below with
      | nil =>
        simp only [planReturn, List.head?_nil, hooked_planEnd, remove, List.mem_filter]
        simp
      | cons g below =>
        obtain ⟨_, _, _, -, he⟩ := planReturn_host me f (g :: below).head? h
        cases ht : h.traced.get? me.ident <;> simp [planReturn, ht]

theorem ignored_hooked_plan (hi : ∀ m ∈ h.ignored, m ∈ h.hooked)
    (hn : n ∈ (plan isSink me what f below h).1.ignored) :
    n ∈ (plan isSink me what f below h).1.hooked := by
  unfold plan at hn ⊢
  split at hn
  · rename_i ha
    rw [if_pos ha]
    cases what with
    | other => exact hi n hn
    | call =>
      obtain ⟨last, he⟩ := planCall_host isSink me f (f :: below) h
      rw [he] at hn ⊢
      obtain hn | ⟨-, hn, -⟩ := remembered_settle hn
      · exact subset_hooked_settle (hi n hn)
      · exact hn
    | ret =>
      simp only [planReturn] at hn ⊢
      split at hn
      · obtain ⟨hn, hne⟩ := mem_ignored_planEnd hn
        rw [hooked_planEnd]
        exact List.mem_filter.2 ⟨hi n hn, by simpa using hne⟩
      · exact hi n hn
      · exact hi n hn
  · rename_i ha
    rw [if_neg ha]
    exact hi n hn

end Hook

namespace Observed

variable (o : Observed) (a : Attachment)

theorem attachListed_unreached (ts : List Thread) (traced : Table Nat Attachment)
    (unreached : List String) :
    (o.attachListed a traced unreached ts).2 = unreached ++
      (ts.filter fun t => t.ident?.isSome && !t.isSink && !o.observable t).map (·.name) := by
  induction ts generalizing traced unreached with
  | nil => simp [attachListed]
  | cons t ts ih =>
    rw [attachListed]
    cases hi : t.ident? with
    | none => simp [ih, hi]
    | some n =>
      cases hs : t.isSink with
      | true => simp [ih, hi, hs]
      | false => cases ho : o.observable t <;> simp [ih, hi, hs, ho]

section Selected

variable {o} {t : Thread} {c : Carrier} (hn : o.threads.names.Nodup) (hd : o.threads.Apart)
  (ht : t ∈ o.threads.all) (ha : t.isAlive = true)

include hn hd ht ha

theorem eq_of_ident {u : Thread} (hu : u ∈ o.threads.listed)
    (hi : u.ident? = some t.assigned) : u = t := by
  obtain ⟨hm, hl⟩ := Threads.mem_listed.1 hu
  have hname := hd u hm t ht (Thread.isAlive_of_listed hl hi) ha (Thread.assigned_of_ident? hi)
  exact Threads.eq_of_name hn hm ht hname

theorem find?_ident :
    (o.threads.listed.reverse.find? fun u => u.ident? == some t.assigned) = some t := by
  obtain ⟨hi, hl⟩ := Thread.of_alive ha
  have hm : t ∈ o.threads.listed.reverse := List.mem_reverse.2 (Threads.mem_listed.2 ⟨ht, hl⟩)
  cases hf : o.threads.listed.reverse.find? fun u => u.ident? == some t.assigned with
  | none => exact absurd (by simp [hi]) (List.find?_eq_none.1 hf t hm)
  | some u =>
    have hu := List.mem_reverse.1 (List.mem_of_find?_eq_some hf)
    rw [eq_of_ident hn hd ht ha hu (by simpa using List.find?_some hf)]

variable (hs : t.isSink = false) (hc : c.selects t)

include hs hc

theorem catches_of_selects : o.catches c t.assigned = o.observable t := by
  obtain ⟨hi, hl⟩ := Thread.of_alive ha
  have admits : o.admits t t.assigned = o.observable t := by simp [Observed.admits, hi, hs]
  cases c with
  | port handle => exact hc.elim
  | thread x =>
    obtain rfl : x = t.name := hc
    simp [catches, Threads.find?_of_mem hn ht, ha, admits]
  | ident n =>
    obtain rfl : n = t.assigned := hc
    simp [catches, find?_ident hn hd ht ha, admits]
  | selector s =>
    have hx : s.coversExisting = true := hc
    rw [catches, hx, Bool.true_and, Bool.eq_iff_iff, List.any_eq_true, ← admits]
    refine ⟨?_, fun h => ⟨t, Threads.mem_listed.2 ⟨ht, hl⟩, h⟩⟩
    rintro ⟨u, hu, h⟩
    have hui : u.ident? = some t.assigned := by
      simp only [Observed.admits, Bool.and_eq_true, beq_iff_eq] at h
      exact h.1.1
    exact eq_of_ident hn hd ht ha hu hui ▸ h

theorem unreached_of_selects :
    t.name ∈ (o.attachCarrier c a).2.flatMap Notice.unreached ↔ o.observable t = false := by
  obtain ⟨hi, hl⟩ := Thread.of_alive ha
  have running : t.name ∈ (o.attachRunning t t.assigned a).2.flatMap Notice.unreached ↔
      o.observable t = false := by
    rw [attachRunning]
    cases ho : o.observable t <;> simp [Notice.unreached]
  cases c with
  | port handle => exact hc.elim
  | thread x =>
    obtain rfl : x = t.name := hc
    simpa [attachCarrier, attachThread, Threads.find?_of_mem hn ht, hs, hi, ha] using running
  | ident n =>
    obtain rfl : n = t.assigned := hc
    simpa [attachCarrier, attachIdent, find?_ident hn hd ht ha, hs] using running
  | selector s =>
    have hx : s.coversExisting = true := hc
    have hu : (o.attachCarrier (.selector s) a).2.flatMap Notice.unreached =
        (o.attachListed a o.host.traced [] o.threads.listed).2 := by
      have hs : (o.attachSelector s a).2 = (o.attachExisting a).2 := by
        simp only [attachSelector, hx, if_true]
      rw [attachCarrier, hs, attachExisting]
      cases hl : (o.attachListed a o.host.traced [] o.threads.listed).2 with
      | nil => simp [hl]
      | cons x xs => simp [hl, Notice.unreached]
    rw [hu, attachListed_unreached, List.nil_append, List.mem_map]
    constructor
    · rintro ⟨u, hu, hname⟩
      obtain ⟨hm, hp⟩ := List.mem_filter.1 hu
      obtain rfl := Threads.eq_of_name hn (Threads.mem_listed.1 hm).1 ht hname
      simpa [hi, hs] using hp
    · intro ho
      exact ⟨t, List.mem_filter.2 ⟨Threads.mem_listed.2 ⟨ht, hl⟩, by simp [hi, hs, ho]⟩, rfl⟩

end Selected

end Observed

namespace Situation

variable {σ : Type} {c : HookEnv σ} {s s₀ : Situation σ} {m : Move} {ms : List Move} {n : Nat}

/-- A live thread calls under an ident that is not traced, on a host that observes something. -/
def Meets (s : Situation σ) (m : Move) (n : Nat) : Prop :=
  ∃ x f below t, m.Fires x .call f below ∧ s.threads.find? x = some t ∧ t.isAlive = true ∧
    t.assigned = n ∧ s.host.active = true ∧ s.host.traced.get? n = none

/-- The host is cleared, or it hears of the end of a thread with an ident. -/
def Parts (s : Situation σ) (m : Move) (n : Nat) : Prop :=
  (∃ caller, m = .clear caller) ∨
    ∃ x f t, m.Fires x .ret f [] ∧ s.threads.find? x = some t ∧ t.isAlive = true ∧
      t.assigned = n ∧ s.host.active = true

/-- That an ident has been met in a run, and not been parted from since. -/
inductive Met (c : HookEnv σ) (s₀ : Situation σ) (n : Nat) : List Move → Prop
  | now {qs : List Move} {q : Move} (hq : (s₀.run c qs).Meets q n) : Met c s₀ n (qs ++ [q])
  | before {qs : List Move} {q : Move} (h : Met c s₀ n qs) (hq : ¬(s₀.run c qs).Parts q n) :
    Met c s₀ n (qs ++ [q])

/-- Whoever is taken for untraced has been met. -/
def Recalls (s : Situation σ) : Prop := ∀ n ∈ s.host.ignored, n ∈ s.host.hooked

theorem fires_hooked (hi : s.Recalls) {x : String} {what : Hook.Signal} {f : Frame}
    {below : List Frame} (hm : m.Fires x what f below) :
    (s.step c m).Recalls ∧
      (n ∈ (s.step c m).host.hooked ↔ s.Meets m n ∨ n ∈ s.host.hooked ∧ ¬s.Parts m n) := by
  have hh := (step_fires (c := c) s hm).1
  have hclear : ∀ caller, m ≠ .clear caller := by
    rintro caller rfl
    cases hm
  rw [Recalls, hh]
  cases hx : s.isIn x [.alive] with
  | false =>
    rw [(signal_unalive (c := c) (l := {}) hx what f below).1]
    have absent : ∀ {t}, s.threads.find? x = some t → t.isAlive ≠ true := by
      intro t ht ha
      rw [isIn_alive ht ha] at hx
      cases hx
    have unmet : ¬s.Meets m n := by
      rintro ⟨y, g, below', t, hy, ht, ha, -⟩
      obtain ⟨rfl, -⟩ := hm.unique hy
      exact absent ht ha
    have unparted : ¬s.Parts m n := by
      rintro (⟨caller, rfl⟩ | ⟨y, g, t, hy, ht, ha, -⟩)
      · exact hclear caller rfl
      · obtain ⟨rfl, -⟩ := hm.unique hy
        exact absent ht ha
    exact ⟨hi, by simp [unmet, unparted]⟩
  | true =>
    obtain ⟨t, hx, ha⟩ : ∃ t, s.threads.find? x = some t ∧ t.isAlive = true := by
      obtain ⟨t, ht, ha⟩ := (Option.any_eq_true _ _).1 hx
      exact ⟨t, ht, by simpa [Thread.isAlive] using ha⟩
    obtain ⟨es, p⟩ := signal_performed (c := c) hx ha what f below
    rw [p.ignored, p.hooked]
    refine ⟨fun k hk => Hook.ignored_hooked_plan hi hk, (Hook.mem_hooked_plan hi).trans ?_⟩
    refine or_congr ⟨?_, ?_⟩ (and_congr_right fun _ => not_congr ⟨?_, ?_⟩)
    · rintro ⟨hactive, rfl, rfl, hu⟩
      exact ⟨x, f, below, t, hm, hx, ha, rfl, hactive, hu⟩
    · rintro ⟨y, g, below', u, hy, hu, -, rfl, hactive, hn⟩
      obtain ⟨rfl, rfl, -⟩ := hm.unique hy
      obtain rfl := Option.some.inj (hx.symm.trans hu)
      exact ⟨hactive, rfl, rfl, hn⟩
    · rintro ⟨hactive, rfl, rfl, rfl⟩
      exact .inr ⟨x, f, t, hm, hx, ha, rfl, hactive⟩
    · rintro (⟨caller, rfl⟩ | ⟨y, g, u, hy, hu, -, rfl, hactive⟩)
      · exact absurd rfl (hclear caller)
      · obtain ⟨rfl, rfl, rfl, rfl⟩ := hm.unique hy
        obtain rfl := Option.some.inj (hx.symm.trans hu)
        exact ⟨hactive, rfl, rfl, rfl⟩

theorem unheard_hooked (hi : s.Recalls) (hf : ∀ x what f below, ¬m.Fires x what f below)
    (hc : ∀ caller, m ≠ .clear caller)
    (hig : ∀ k ∈ (s.step c m).host.ignored, k ∈ s.host.ignored)
    (hh : (s.step c m).host.hooked = s.host.hooked) :
    (s.step c m).Recalls ∧
      (n ∈ (s.step c m).host.hooked ↔ s.Meets m n ∨ n ∈ s.host.hooked ∧ ¬s.Parts m n) := by
  have unmet : ¬s.Meets m n := by
    rintro ⟨x, f, below, t, hm, -⟩
    exact hf x .call f below hm
  have unparted : ¬s.Parts m n := by
    rintro (⟨caller, rfl⟩ | ⟨x, f, t, hm, -⟩)
    · exact hc caller rfl
    · exact hf x .ret f [] hm
  rw [Recalls, hh]
  exact ⟨fun k hk => hi k (hig k hk), by simp [unmet, unparted]⟩

theorem step_hooked (hi : s.Recalls) (m : Move) :
    (s.step c m).Recalls ∧
      (n ∈ (s.step c m).host.hooked ↔ s.Meets m n ∨ n ∈ s.host.hooked ∧ ¬s.Parts m n) := by
  cases m with
  | attach caller carrier a =>
    obtain ⟨active, installed, allThreads, hh⟩ := (s.calledBy caller).attach_host a carrier
    have hhost : (s.step c (.attach caller carrier a)).host =
      { ((s.calledBy caller).attachCarrier carrier a).1 with
        ignored := [], active, installed, allThreads } := hh
    refine unheard_hooked hi (by rintro _ _ _ _ ⟨⟩) (by rintro _ ⟨⟩) (by simp [hhost]) ?_
    rw [hhost, Observed.attachCarrier_frame]
    rfl
  | install | forget =>
    exact unheard_hooked hi (by rintro _ _ _ _ ⟨⟩) (by rintro _ ⟨⟩) (fun k hk => hk) rfl
  | clear caller =>
    have hh : (s.step c (.clear caller)).host.ignored = [] ∧
        (s.step c (.clear caller)).host.hooked = [] := by
      simp only [step, host, Observed.clear, Observed.uninstallHook]
      split <;> exact ⟨rfl, rfl⟩
    have parted : s.Parts (.clear caller) n := .inl ⟨caller, rfl⟩
    have unmet : ¬s.Meets (.clear caller) n := by rintro ⟨x, f, below, t, ⟨⟩, -⟩
    simp [Recalls, hh.1, hh.2, parted, unmet]
  | launch x =>
    have hh : (s.step c (.launch x)).host = s.host := by
      simp only [step]
      split <;> rfl
    exact unheard_hooked hi (by rintro _ _ _ _ ⟨⟩) (by rintro _ ⟨⟩) (by simp [hh]) (by rw [hh])
  | start x k =>
    have hh : (s.step c (.start x k)).host = s.host := by
      simp only [step]
      split <;> rfl
    exact unheard_hooked hi (by rintro _ _ _ _ ⟨⟩) (by rintro _ ⟨⟩) (by simp [hh]) (by rw [hh])
  | signal x what f below => exact fires_hooked hi .signal
  | finish x lowest =>
    cases lowest with
    | none =>
      have hh := (finish_unheard (c := c) s x).1
      exact unheard_hooked hi (by rintro _ _ _ _ ⟨⟩) (by rintro _ ⟨⟩) (by simp [hh]) (by rw [hh])
    | some f => exact fires_hooked hi .finish

theorem not_met_nil : ¬Met c s₀ n [] := by
  intro h
  generalize hl : ([] : List Move) = l at h
  cases h <;> simp at hl

theorem met_concat :
    Met c s₀ n (ms ++ [m]) ↔
      (s₀.run c ms).Meets m n ∨ Met c s₀ n ms ∧ ¬(s₀.run c ms).Parts m n := by
  refine ⟨fun h => ?_, fun h => h.elim .now fun h => .before h.1 h.2⟩
  generalize hl : ms ++ [m] = l at h
  cases h with
  | now hq =>
    obtain ⟨rfl, hm⟩ := List.append_inj' hl rfl
    obtain rfl := List.head_eq_of_cons_eq hm
    exact .inl hq
  | before h hq =>
    obtain ⟨rfl, hm⟩ := List.append_inj' hl rfl
    obtain rfl := List.head_eq_of_cons_eq hm
    exact .inr ⟨h, hq⟩

/-- The host keeps exactly the idents that it has met and not parted from. -/
theorem hooked_run {ts : Threads} {o : σ} (ms : List Move) :
    ((fresh ts o).run c ms).Recalls ∧
      (n ∈ ((fresh ts o).run c ms).host.hooked ↔ Met c (fresh ts o) n ms) := by
  induction ms using List.reverseRecOn with
  | nil =>
    refine ⟨fun k hk => ?_, iff_of_false List.not_mem_nil not_met_nil⟩
    cases hk
  | append_singleton ms m ih =>
    obtain ⟨hi, hn⟩ := ih
    rw [run_concat, met_concat, ← hn]
    exact step_hooked hi m

/-- Where hooks cannot be put on threads that run already, an attach registers the live threads that
its carrier stands for if they make it themselves or have been met, and reports the others. -/
theorem attach_reaches {ts : Threads} {o : σ} (hn : ts.names.Nodup) (hr : ts.reachesRunning = false)
    (ms : List Move) (caller : String) (carrier : Carrier) (a : Attachment) {t : Thread} :
    let s := (fresh ts o).run c ms
    let r := (s.calledBy caller).attach carrier a
    s.threads.Apart → t ∈ s.threads.all → t.isAlive = true → t.isSink = false → carrier.selects t →
      (t.name = caller ∨ Met c (fresh ts o) t.assigned ms →
        r.1.host.traced.get? t.assigned = some a ∧ t.name ∉ r.2.flatMap Notice.unreached) ∧
      (¬(t.name = caller ∨ Met c (fresh ts o) t.assigned ms) →
        r.1.host.traced.get? t.assigned = s.host.traced.get? t.assigned ∧
          t.name ∈ r.2.flatMap Notice.unreached) := by
  intro s r hd ht ha hs hc
  let asked := s.calledBy caller
  have names : asked.threads.names.Nodup := by
    have h := (run_ages (c := c) (s := fresh ts o) hn ms).1
    exact h ▸ hn
  have observable : asked.observable t = true ↔
      t.name = caller ∨ Met c (fresh ts o) t.assigned ms := by
    have hr' : asked.threads.reachesRunning = false :=
      (reachesRunning_run (c := c) (s := fresh ts o) ms).trans hr
    rw [← (hooked_run (c := c) (n := t.assigned) ms).2]
    simp only [Observed.observable, hr', (Thread.of_alive ha).1]
    simp [asked, calledBy, s, host]
  have traced : r.1.host.traced.get? t.assigned =
      if asked.observable t then some a else s.host.traced.get? t.assigned := by
    obtain ⟨active, installed, allThreads, hh⟩ := asked.attach_host a carrier
    have hh' : r.1.host.traced = (asked.attachCarrier carrier a).1.traced := congrArg (·.traced) hh
    rw [hh', Observed.get?_traced_attachCarrier,
      Observed.catches_of_selects names hd ht ha hs hc]
    rfl
  have unreached := Observed.unreached_of_selects (a := a) names hd ht ha hs hc
  rw [← observable, traced]
  constructor
  · intro h
    refine ⟨if_pos h, fun hu => ?_⟩
    rw [unreached.1 hu] at h
    cases h
  · intro h
    exact ⟨if_neg h, unreached.2 (by simpa using h)⟩

/-- The child is met as it calls while another is traced. -/
theorem attach_reaches_child :
    let c := HookEnv.answering true
    let ms : List Move := [.attach "main" (.thread "main") basic, .start "child" 7,
      .signal "child" .call default [], .forget basic.target]
    let s := (fresh .family ()).run c ms
    let r := (s.calledBy "main").attach (.thread "child") basic
    s.threads.Apart ∧ s.host.active = false ∧ Met c (fresh .family ()) 7 ms ∧
      r.1.host.traced.get? 7 = some basic ∧ "child" ∉ r.2.flatMap Notice.unreached := by
  dsimp only
  have met : Met (HookEnv.answering true) (fresh .family ()) 7
      ([.attach "main" (.thread "main") basic, .start "child" 7] ++
        [.signal "child" .call default []] ++ [.forget basic.target]) := by
    refine .before (.now ⟨"child", default, [], _, .signal, rfl, rfl, rfl, rfl, rfl⟩) ?_
    rintro (⟨_, ⟨⟩⟩ | ⟨_, _, _, ⟨⟩, _⟩)
  have names : Threads.family.names.Nodup := by decide
  have h := attach_reaches (c := HookEnv.answering true) (o := ()) names rfl
    [.attach "main" (.thread "main") basic, .start "child" 7, .signal "child" .call default [],
      .forget basic.target] "main" (.thread "child") basic
    (t := { name := "child", assigned := 7, state := .alive, hooked := true })
    (by decide) (Threads.mem_of_find? (x := "child") (by rfl)).1 rfl rfl rfl
  exact ⟨by decide, by decide, met, h.1 (.inr met)⟩

/-- That a thread carries the hook of a host that is installed since. It was started, made an attach
or made a callback. -/
inductive Carries (c : HookEnv σ) (s₀ : Situation σ) (x : String) : List Move → Prop
  | started {qs : List Move} {n : Nat} (hi : (s₀.run c qs).host.installed = true)
    (hx : (s₀.run c qs).isIn x [.unstarted, .limbo] = true) : Carries c s₀ x (qs ++ [.start x n])
  | attached {qs : List Move} {carrier : Carrier} {a : Attachment}
    (ha : ((s₀.run c qs).step c (.attach x carrier a)).host.active = true) :
    Carries c s₀ x (qs ++ [.attach x carrier a])
  | called {qs : List Move} {q : Move} {what : Hook.Signal} {f : Frame} {below : List Frame}
    (hi : (s₀.run c qs).host.installed = true) (hx : (s₀.run c qs).isIn x [.alive] = true)
    (hq : q.Fires x what f below) : Carries c s₀ x (qs ++ [q])
  | later {qs : List Move} {q : Move} (h : Carries c s₀ x qs) (hq : ∀ caller, q ≠ .clear caller) :
    Carries c s₀ x (qs ++ [q])

/-- A thread that was started after the hook was installed, and whose call reached it, is not
attached if nobody was traced at that time. -/
theorem attach_overlooks : ¬∀ (ts : Threads) (ms : List Move) (caller : String) (carrier : Carrier)
    (a : Attachment) (t : Thread),
    let c := HookEnv.answering true
    let s := (fresh ts ()).run c ms
    let r := (s.calledBy caller).attach carrier a
    ts.names.Nodup → ts.reachesRunning = false → s.threads.Apart → t ∈ s.threads.all →
      t.isAlive = true → t.isSink = false → carrier.selects t →
      Carries c (fresh ts ()) t.name ms →
      r.1.host.traced.get? t.assigned = some a ∧ t.name ∉ r.2.flatMap Notice.unreached := by
  intro h
  have carries : Carries (HookEnv.answering true) (fresh .family ()) "child"
      ([.attach "main" (.thread "main") basic, .forget basic.target] ++ [.start "child" 7] ++
        [.signal "child" .call default []]) :=
    .called (by decide) (by decide) .signal
  obtain ⟨hl, -⟩ := h .family _ "main" (.thread "child") basic
    { name := "child", assigned := 7, state := .alive, hooked := true }
    (by decide) rfl (by decide) (Threads.mem_of_find? (x := "child") (by rfl)).1 rfl rfl rfl carries
  cases hl

end Situation

end ThreadTrace
