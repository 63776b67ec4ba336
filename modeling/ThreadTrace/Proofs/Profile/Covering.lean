import ThreadTrace.Proofs.Profile.Honoured
import ThreadTrace.Proofs.Profile.Memory
import ThreadTrace.Proofs.Profile.Renewal

namespace ThreadTrace

def ThreadState.rank : ThreadState → Nat
  | .unstarted => 0
  | .limbo => 1
  | .alive => 2
  | .finished => 3

namespace Threads

/-- Whether all threads are still there and none has gone back. -/
def Ages (ts us : Threads) : Prop :=
  ∀ t ∈ ts.all, ∃ u ∈ us.all, u.name = t.name ∧ t.state.rank ≤ u.state.rank

variable {ts us : Threads} {x : String}

theorem Ages.of_unhooked (h : us.unhooked.all = ts.unhooked.all) : Ages ts us := by
  intro t ht
  obtain ⟨u, hu, he⟩ := exists_of_unhooked h ht
  have hs : u.state = t.state := congrArg (·.state) he
  exact ⟨u, hu, congrArg (·.name) he, hs ▸ Nat.le_refl _⟩

theorem Ages.update {f : Thread → Thread} (hf : ∀ t ∈ ts.all, t.name = x →
    (f t).name = t.name ∧ t.state.rank ≤ (f t).state.rank) : Ages ts (ts.update x f) := by
  intro t ht
  by_cases hx : t.name = x
  · exact ⟨f t, List.mem_map.2 ⟨t, ht, by simp [hx]⟩, hf t ht hx⟩
  · exact ⟨t, List.mem_map.2 ⟨t, ht, by simp [hx]⟩, rfl, Nat.le_refl _⟩

theorem Ages.find? (h : Ages ts us) (hn : us.names.Nodup) {t : Thread} (ht : ts.find? x = some t) :
    ∃ u, us.find? x = some u ∧ t.state.rank ≤ u.state.rank := by
  obtain ⟨hm, rfl⟩ := mem_of_find? ht
  obtain ⟨u, hu, hname, hr⟩ := h t hm
  exact ⟨u, hname ▸ find?_of_mem hn hu, hr⟩

end Threads

namespace Situation

variable {σ : Type} {c : HookEnv σ} {x : String} {a : Attachment}

section Ageing

variable {s : Situation σ}

theorem step_ages (hn : s.threads.names.Nodup) (m : Move) :
    s.threads.Ages (s.step c m).threads := by
  have moved : ∀ {x states f}, s.isIn x states = true →
      (∀ t : Thread, t.state ∈ states → (f t).name = t.name ∧ t.state.rank ≤ (f t).state.rank) →
      s.threads.Ages (s.threads.update x f) := by
    intro x states f hx hf
    exact .update fun t ht hname => hf t (state_of_isIn hn hx ht hname)
  cases m with
  | attach caller carrier a =>
    have h := congrArg Threads.all (Observed.unhooked_attach (s.calledBy caller) a carrier)
    exact .of_unhooked h
  | clear caller =>
    have h := congrArg Threads.all (Observed.unhooked_clear (s.calledBy caller))
    exact .of_unhooked h
  | install | forget => exact .of_unhooked rfl
  | launch x =>
    simp only [step]
    split
    · exact moved ‹_› fun t ht => by simp_all [ThreadState.rank]
    · exact .of_unhooked rfl
  | start x n =>
    simp only [step]
    split
    · exact moved ‹_› fun t ht => by
        simp only [List.mem_cons, List.not_mem_nil, or_false] at ht
        obtain ht | ht := ht <;> simp [ht, ThreadState.rank]
    · exact .of_unhooked rfl
  | signal x what f below =>
    rw [step, signal_threads]
    exact .of_unhooked rfl
  | finish x lowest =>
    have ended : s.isIn x [.alive] = true → s.threads.Ages (s.threads.finish x) := fun hx =>
      moved hx fun t ht => by simp_all [ThreadState.rank]
    simp only [step]
    split
    · cases lowest with
      | none => exact ended ‹_›
      | some f =>
        change s.threads.Ages ((s.signal c x .ret f []).threads.finish x)
        rw [signal_threads]
        exact ended ‹_›
    · exact .of_unhooked rfl

theorem run_ages (hn : s.threads.names.Nodup) (ms : List Move) :
    (s.run c ms).threads.names = s.threads.names ∧ s.threads.Ages (s.run c ms).threads := by
  induction ms generalizing s with
  | nil => exact ⟨rfl, .of_unhooked rfl⟩
  | cons m ms ih =>
    obtain ⟨hnames, hages⟩ := ih (names_step c hn m)
    refine ⟨hnames.trans (step_evolves c hn m).names, fun t ht => ?_⟩
    obtain ⟨u, hu, hname, hr⟩ := step_ages hn m t ht
    obtain ⟨v, hv, hname', hr'⟩ := hages u hu
    exact ⟨v, hv, hname'.trans hname, Nat.le_trans hr hr'⟩

theorem isSink_run (hn : s.threads.names.Nodup) (ms : List Move) (x : String) :
    (s.run c ms).threads.isSink x = s.threads.isSink x := by
  induction ms generalizing s with
  | nil => rfl
  | cons m ms ih =>
    exact (ih (names_step c hn m)).trans ((step_evolves c hn m).isSink x)

theorem reachesRunning_run (ms : List Move) :
    (s.run c ms).threads.reachesRunning = s.threads.reachesRunning := by
  induction ms generalizing s with
  | nil => rfl
  | cons m ms ih =>
    refine ih.trans ?_
    cases m with
    | attach caller carrier a =>
      have h := Observed.unhooked_attach (s.calledBy caller) a carrier
      exact (Threads.mk.inj h).2.2.2
    | clear caller =>
      have h := Observed.unhooked_clear (s.calledBy caller)
      exact (Threads.mk.inj h).2.2.2
    | install | forget => rfl
    | signal => exact congrArg Threads.reachesRunning (signal_threads ..)
    | launch | start =>
      simp only [step]
      split <;> rfl
    | finish x lowest =>
      simp only [step]
      split
      · cases lowest with
        | none => rfl
        | some f =>
          change (s.signal c x .ret f []).threads.reachesRunning = _
          rw [signal_threads]
      · rfl

theorem finished_of_ends (hn : s.threads.names.Nodup) {m : Move} {t : Thread}
    (ht : s.threads.find? x = some t) (ha : t.isAlive = true) (he : m.Ends x) :
    ∃ u, (s.step c m).threads.find? x = some u ∧ u.state = .finished := by
  cases m with
  | finish y lowest =>
    obtain rfl : x = y := he
    have hts : (s.step c (.finish x lowest)).threads = s.threads.finish x := by
      simp only [step, isIn_alive ht ha, if_true]
      cases lowest with
      | none => rfl
      | some f =>
        change (s.signal c x .ret f []).threads.finish x = s.threads.finish x
        rw [signal_threads]
    obtain ⟨hm, rfl⟩ := Threads.mem_of_find? ht
    have hv : { t with state := .finished, hooked := false } ∈
        (s.step c (.finish t.name lowest)).threads.all :=
      hts ▸ List.mem_map.2 ⟨t, hm, by simp⟩
    have hf := Threads.find?_of_mem (names_step c hn _) hv
    exact ⟨_, hf, rfl⟩
  | _ => exact he.elim

theorem unfinished (hn : s.threads.names.Nodup) {ms : List Move} {t u : Thread}
    (ht : s.threads.find? x = some t) (ha : t.isAlive = true)
    (hu : (s.run c ms).threads.find? x = some u) (hua : u.isAlive = true) :
    ∀ m ∈ ms, ¬m.Ends x := by
  induction ms generalizing s t with
  | nil => simp
  | cons m ms ih =>
    have hn' := names_step c hn m
    have he : ¬m.Ends x := by
      intro he
      obtain ⟨v, hv, hvs⟩ := finished_of_ends (c := c) hn ht ha he
      obtain ⟨hnames, hages⟩ := run_ages (c := c) hn' ms
      obtain ⟨w, hw, hr⟩ := hages.find? (hnames ▸ hn') hv
      obtain rfl := Option.some.inj (hu.symm.trans hw)
      simp only [Thread.isAlive, beq_iff_eq] at hua
      rw [hvs, hua] at hr
      exact absurd hr (by decide)
    obtain ⟨v, hv, -, -, hk⟩ := (step_evolves c hn m).find? ht
    have hname := (Threads.mem_of_find? ht).2
    intro n hm
    obtain rfl | hm := List.mem_cons.1 hm
    · exact he
    · exact ih hn' hv (hk ha (hname ▸ he)).1 hu n hm

theorem known_step (m : Move) : (s.step c m).host.known = s.host.known ∨
    (s.step c m).host.known = s.threads.listed.map (·.name) := by
  have signaled : ∀ x what f below,
      (s.signal c x what f below).host.known = s.host.known := by
    intro x what f below
    obtain hs | ⟨t, -, -, hc⟩ := signal_cases (c := c) s x what f below
    · rw [hs]
    · exact hc.known
  cases m with
  | attach caller carrier a =>
    let o := s.calledBy caller
    obtain ⟨active, installed, allThreads, hh⟩ := o.attach_host a carrier
    have hk : (o.attach carrier a).1.host.known = (o.attachCarrier carrier a).1.known := by rw [hh]
    change (o.attach carrier a).1.host.known = _ ∨ (o.attach carrier a).1.host.known = _
    rw [hk, (o.arrivals_attachCarrier_eq a carrier).2, Observed.knownAfter]
    split
    · split
      · exact .inr rfl
      · exact .inl rfl
    · exact .inl rfl
  | clear caller =>
    left
    simp only [step, host, Observed.clear, Observed.uninstallHook]
    split <;> rfl
  | install | forget => exact .inl rfl
  | signal x what f below => exact .inl (signaled x what f below)
  | launch | start =>
    left
    simp only [step]
    split <;> rfl
  | finish x lowest =>
    cases lowest with
    | none => exact .inl (congrArg ProfileHost.known (finish_unheard s x).1)
    | some f =>
      exact .inl ((congrArg ProfileHost.known (finish_heard s x f).1).trans (signaled x .ret f []))

theorem known_run (hn : s.threads.names.Nodup) (ms : List Move)
    (hk : ∀ y ∈ s.host.known, ∃ t ∈ s.threads.all, t.name = y ∧ 1 ≤ t.state.rank) :
    ∀ y ∈ (s.run c ms).host.known, ∃ t ∈ (s.run c ms).threads.all,
      t.name = y ∧ 1 ≤ t.state.rank := by
  induction ms generalizing s with
  | nil => exact hk
  | cons m ms ih =>
    refine ih (names_step c hn m) fun y hy => ?_
    have launched : ∃ t ∈ s.threads.all, t.name = y ∧ 1 ≤ t.state.rank := by
      obtain hs | hs := known_step (c := c) (s := s) m
      · exact hk y (hs ▸ hy)
      · rw [hs] at hy
        obtain ⟨t, ht, rfl⟩ := List.mem_map.1 hy
        obtain ⟨ht, hl⟩ := Threads.mem_listed.1 ht
        refine ⟨t, ht, rfl, ?_⟩
        cases hst : t.state <;> simp_all [Thread.isListed, ThreadState.rank]
    obtain ⟨t, ht, rfl, hr⟩ := launched
    obtain ⟨u, hu, hname, hr'⟩ := step_ages (c := c) hn m t ht
    exact ⟨u, hu, hname, Nat.le_trans hr hr'⟩

end Ageing

def Undisturbing (t : Target) : Move → Prop
  | .attach .. | .clear _ => False
  | .forget u => u.id ≠ t.id
  | _ => True

/-- A traced thread starts another and passes its attachment on. -/
def Inherits (x : String) (b : Attachment) (s : Situation σ) : Move → Prop
  | .signal y .call f _ => ∃ u, s.threads.find? y = some u ∧ u.isAlive = true ∧
    Hook.own? u.caller .call s.host = some b ∧ Hook.heir? s.threads.isSink b f = some x
  | _ => False

/-- How a thread may come by another attachment than arrivals do. It waited with it, or a traced
thread passed it on, or it was left under the thread's ident by one that ended unheard before. -/
inductive Acquires (c : HookEnv σ) (s : Situation σ) (ms : List Move) (x : String) (n : Nat)
    (b : Attachment) : Prop
  | waited (h : (x, b) ∈ s.host.pending)
  | passed {qs m} (hq : qs ++ [m] <+: ms) (h : Inherits x b (s.run c qs) m)
  | left (h : (n, b) ∈ s.host.traced) (hu : ∀ u ∈ s.threads.all, u.isAlive = true → u.assigned ≠ n)

/-- A thread that is listed without an ident and taken for known. -/
def Overlooked (s : Situation σ) (x : String) : Prop :=
  x ∈ s.host.known ∧ s.isIn x [.limbo] = true

instance (s : Situation σ) (x : String) : Decidable (Overlooked s x) :=
  inferInstanceAs (Decidable (_ ∧ _))

theorem not_overlooked {s : Situation σ} (ha : s.isIn x [.alive] = true) : ¬Overlooked s x := by
  rintro ⟨-, hl⟩
  unfold isIn at ha hl
  obtain ⟨t, ht, hs⟩ := (Option.any_eq_true _ _).1 ha
  rw [ht, Option.any_some] at hl
  simp_all

/-- Arrivals are to get an attachment, and `G` tells what a thread may have under an ident. It may have
what arrivals get unless it is one of the `old`. Whatever it waits with or is taken for traced with it
may have, and it is not taken for untraced. -/
structure Expects (x : String) (a : Attachment) (old : List String) (G : Nat → Attachment → Prop)
    (ts : Threads) (h : ProfileHost) : Prop where
  names : ts.names.Nodup
  plain : ts.isSink x = false
  known : h.known = old
  arrivals : h.arrivals = some a
  active : h.active = true
  arrives : x ∉ old → ∀ n, G n a
  traced : ∀ y ∈ h.traced, OfOthers x ts y.1 ∨ G y.1 y.2
  pending : ∀ b, (x, b) ∈ h.pending → ∀ n, G n b
  ignored : x ∉ old → ∀ n ∈ h.ignored, OfOthers x ts n

section Expecting

variable {old : List String} {G : Nat → Attachment → Prop} {ts : Threads} {h : ProfileHost}
  {t : Thread}

theorem Expects.own (p : Expects x a old G ts h) (hd : ts.Apart) (ht : t ∈ ts.all)
    (ha : t.isAlive = true) (hx : t.name = x) {b : Attachment}
    (hb : Hook.own? t.caller .call h = some b) : G t.assigned b := by
  obtain hg | ⟨-, -, har⟩ := Hook.own?_cases hb
  · obtain ho | hg := p.traced _ (Table.mem_of_get? hg)
    · exact absurd rfl (ho.ne hd ht ha hx)
    · exact hg
  · obtain hw | ⟨-, hk, har⟩ := Hook.arriving_cases har
    · exact p.pending b (hx ▸ Table.mem_of_get? hw) t.assigned
    · obtain rfl : a = b := Option.some.inj (p.arrivals.symm.trans har)
      subst hx
      exact p.arrives (fun hm => hk (p.known ▸ hm)) t.assigned

theorem Expects.arriving (p : Expects x a old G ts h) (hk : x ∉ old) (ht : t ∈ ts.all)
    (hx : t.name = x) : Hook.arriving h t.caller ≠ none := by
  subst hx
  intro hn
  obtain ⟨-, hs | hm | har⟩ := Hook.arriving_eq_none.1 hn
  · have hs : t.isSink = true := hs
    rw [← Threads.isSink_of_mem p.names ht, p.plain] at hs
    cases hs
  · exact hk (p.known ▸ hm)
  · rw [p.arrivals] at har
    cases har

/-- A thread that is none of the old has something to be traced with. -/
theorem Expects.covers (p : Expects x a old G ts h) (hd : ts.Apart) (hk : x ∉ old)
    (ht : t ∈ ts.all) (ha : t.isAlive = true) (hx : t.name = x) :
    ∃ b, Hook.own? t.caller .call h = some b := by
  cases hg : h.traced.get? t.caller.ident with
  | some b => exact ⟨b, Hook.own?_of_traced hg⟩
  | none =>
    have hi : t.caller.ident ∉ h.ignored := fun hi => (p.ignored hk _ hi).ne hd ht ha hx rfl
    rw [Hook.own?_of_arriving hg hi]
    exact Option.ne_none_iff_exists'.1 (p.arriving hk ht hx)

theorem arrivals_forget (har : h.arrivals = some a) {u : Target} (hu : u.id ≠ a.target.id) :
    (h.forget u).arrivals = some a ∧ (h.forget u).active = true := by
  have har' : (h.forget u).arrivals = some a :=
    Option.filter_eq_some_iff.2 ⟨har, by simpa using hu.symm⟩
  exact ⟨har', ProfileHost.hasAttachments_of_held (ProfileHost.mem_held_of_arrivals har')⟩

theorem Expects.forget (p : Expects x a old G ts h) {u : Target} (hu : u.id ≠ a.target.id) :
    Expects x a old G ts (h.forget u) where
  names := p.names
  plain := p.plain
  known := p.known
  arrivals := (arrivals_forget p.arrivals hu).1
  active := (arrivals_forget p.arrivals hu).2
  arrives := p.arrives
  traced := fun y hy => p.traced y (List.mem_filter.1 hy).1
  pending := fun b hb => p.pending b (List.mem_filter.1 hb).1
  ignored := p.ignored

variable {s : Situation (Journaled σ)}

theorem Expects.signal (p : Expects x a old G s.threads s.host) (hd : s.threads.Apart) {y : String}
    {what : Hook.Signal} {f : Frame} {below : List Frame}
    (hb : ∀ b, Inherits x b s (.signal y what f below) → ∀ n, G n b)
    (hu : Undropped a.target s (s.step c.journaled (.signal y what f below))) :
    Expects x a old G s.threads (s.step c.journaled (.signal y what f below)).host := by
  obtain he | ⟨u, hx, hua, hc⟩ := signal_cases (c := c.journaled) s y what f below
  · have hs : s.step c.journaled (.signal y what f below) = s := he
    rw [hs]
    exact p
  obtain ⟨hm, -⟩ := Threads.mem_of_find? hx
  obtain ⟨es, pf, hj⟩ := signal_journaled (c := c) hx hua what f below
  obtain ⟨-, har, -, -, hactive⟩ := Hook.plan_others s.threads.isSink u.caller what f below s.host
  have listening := pf.preserves_of_dropped (P := fun g => g.arrivals = some a ∧ g.active = true)
    (fun g t ht hg => arrivals_forget hg.1 (hu es hj _ ht)) (fun _ _ _ _ hg => hg)
    ⟨har.trans p.arrivals, hactive.trans p.active⟩
  refine ⟨p.names, p.plain, hc.known.trans p.known, listening.1, listening.2, p.arrives, fun z hz => ?_,
    fun b hz => ?_, fun hk n hn => ?_⟩
  · obtain hz | ⟨-, hi, ho⟩ := hc.traced z hz
    · exact p.traced z hz
    · by_cases hux : u.name = x
      · rw [hi]
        exact .inr (p.own hd hm hua hux ho)
      · exact .inl ⟨u, hm, hua, hi.symm, hux⟩
  · obtain hz | ⟨rfl, ho, hf, hst, hsink⟩ := hc.pending (x, b) hz
    · exact p.pending b hz
    · refine hb b ⟨u, hx, hua, ho, ?_⟩
      simpa [Hook.heir?, hst, hsink] using hf
  · change n ∈ (s.signal c.journaled y what f below).host.ignored at hn
    rw [pf.ignored] at hn
    obtain hn | ⟨-, rfl, hnone⟩ := Hook.mem_ignored_plan hn
    · exact p.ignored hk n hn
    · exact ⟨u, hm, hua, rfl, fun hux => p.arriving hk hm hux hnone⟩

theorem Expects.step (p : Expects x a old G s.threads s.host) {m : Move}
    (hm : Undisturbing a.target m) (ha : Attended s m)
    (hb : ∀ b, Inherits x b s m → ∀ n, G n b)
    (hu : Undropped a.target s (s.step c.journaled m)) :
    Expects x a old G (s.step c.journaled m).threads (s.step c.journaled m).host := by
  have hosted : Expects x a old G s.threads (s.step c.journaled m).host := by
    cases m with
    | attach | clear => exact hm.elim
    | install unit spec localOnly => exact ⟨p.1, p.2, p.3, p.4, p.5, p.6, p.7, p.8, p.9⟩
    | forget t => exact p.forget hm
    | launch | start =>
      simp only [Situation.step]
      split <;> exact p
    | signal y what f below => exact p.signal ha.1 hb hu
    | finish y lowest =>
      cases lowest with
      | none =>
        rw [(finish_unheard s y).1]
        exact p
      | some f =>
        obtain ⟨hh, ho⟩ := finish_heard (c := c.journaled) s y f
        rw [Undropped, ho] at hu
        rw [hh]
        exact p.signal ha.1 (fun b hb => hb.elim) hu
  -- the idents that the host knows of afterwards are not those of threads that have ended
  have others : ∀ n, ((∃ b, (n, b) ∈ (s.step c.journaled m).host.traced) ∨
      n ∈ (s.step c.journaled m).host.ignored) → OfOthers x s.threads n →
        OfOthers x (s.step c.journaled m).threads n := fun n hk ho =>
    ho.evolves (step_evolves c.journaled p.names m) p.names fun t ht hta hi =>
      ha.unended p.names p.active hk ht hta hi
  refine { hosted with
    names := names_step _ p.names m
    plain := ((step_evolves c.journaled p.names m).isSink x).trans p.plain
    traced := fun y hy => ?_
    ignored := fun hk n hn => ?_ }
  · exact (hosted.traced y hy).imp_left (others y.1 (.inl ⟨y.2, hy⟩))
  · exact others n (.inr hn) (hosted.ignored hk n hn)

theorem Expects.run (p : Expects x a old G s.threads s.host) {ms : List Move}
    (hm : ∀ m ∈ ms, Undisturbing a.target m) (ha : Along c.journaled Attended s ms)
    (hb : ∀ qs m b, qs ++ [m] <+: ms → Inherits x b (s.run c.journaled qs) m → ∀ n, G n b)
    (hu : Undropped a.target s (s.run c.journaled ms)) :
    Expects x a old G (s.run c.journaled ms).threads (s.run c.journaled ms).host := by
  induction ms generalizing s with
  | nil => exact p
  | cons m ms ih =>
    obtain ⟨hu, hu'⟩ := hu.of_cons
    have q := p.step (hm m List.mem_cons_self) ha.1 (fun b => hb [] m b ⟨ms, rfl⟩) hu
    refine ih q (fun n hn => hm n (List.mem_cons_of_mem _ hn)) ha.2 (fun qs n b hq => ?_) hu'
    exact hb (m :: qs) n b (List.cons_prefix_cons.2 ⟨rfl, hq⟩)

theorem Expects.asked (hn : s.threads.names.Nodup) (hx : s.threads.isSink x = false)
    (caller : String) (ms : List Move) :
    let asked := s.step c.journaled (.attach caller (.selector .all) a)
    asked.isIn x [.alive] = false →
      Expects x a asked.host.known
        (fun n b => b = a ∧ x ∉ asked.host.known ∨ Acquires c.journaled asked ms x n b)
        asked.threads asked.host := by
  intro asked hna
  let o := s.calledBy caller
  obtain ⟨active, installed, allThreads, hh⟩ := o.attach_host a (.selector .all)
  have har : asked.host.arrivals = some a := by
    change (o.attach (.selector .all) a).1.host.arrivals = some a
    rw [hh]
    exact (o.arrivals_attachCarrier_eq a (.selector .all)).1
  refine ⟨names_step _ hn _, ((step_evolves _ hn _).isSink x).trans hx, rfl, har, ?_,
    fun hk n => .inl ⟨rfl, hk⟩, fun y hy => ?_, fun b hb n => .inr (.waited hb), fun _ n hi => ?_⟩
  · exact (o.attach_active a (.selector .all)).trans
      (ProfileHost.hasAttachments_of_held (ProfileHost.mem_held_of_arrivals har))
  · by_cases hu : ∃ u ∈ asked.threads.all, u.isAlive = true ∧ u.assigned = y.1
    · obtain ⟨u, hu, hua, hun⟩ := hu
      refine .inl ⟨u, hu, hua, hun, ?_⟩
      rintro rfl
      have hf := Threads.find?_of_mem (names_step _ hn _) hu
      rw [isIn_alive hf hua] at hna
      cases hna
    · exact .inr (.inr (.left hy fun u hm hua hun => hu ⟨u, hm, hua, hun⟩))
  · change n ∈ (o.attach (.selector .all) a).1.host.ignored at hi
    rw [hh] at hi
    cases hi

theorem Registered.asked (hn : s.threads.names.Nodup) (hr : s.threads.reachesRunning = true)
    (hx : s.threads.isSink x = false) (caller : String) :
    let asked := s.step c.journaled (.attach caller (.selector .all) a)
    asked.isIn x [.alive] = true → ∃ n, Registered x n a asked := by
  intro asked hal
  let o := s.calledBy caller
  obtain ⟨active, installed, allThreads, hh⟩ := o.attach_host a (.selector .all)
  obtain ⟨v, hv, hvs⟩ := (Option.any_eq_true _ _).1 hal
  have hva : v.isAlive = true := by simpa [Thread.isAlive] using hvs
  obtain ⟨hvm, rfl⟩ := Threads.mem_of_find? hv
  -- the thread was alive before
  have hgo : Threads.Continue s.threads asked.threads := step_continue hn (by simp)
  obtain ⟨t, ht, hta, htc⟩ := hgo.alive v hvm hva
  have hname : t.name = v.name := congrArg Caller.thread htc
  have hs : t.isSink = false := by rw [← Threads.isSink_of_mem hn ht, hname, hx]
  have hstate : t.state = .alive := by simpa [Thread.isAlive] using hta
  have hadmits : o.admits t t.assigned = true := by
    have ho : o.observable t = true := by
      have hreach : o.threads.reachesRunning = true := hr
      rw [Observed.observable, hreach, Bool.true_or, Bool.true_or]
    simp [Observed.admits, Thread.ident?, hstate, hs, ho]
  have hcatches : o.catches (.selector .all) t.assigned = true := by
    have hl : t ∈ o.threads.listed := Threads.mem_listed.2 ⟨ht, by simp [Thread.isListed, hstate]⟩
    rw [Observed.catches, List.any_eq_true.2 ⟨t, hl, hadmits⟩]
    rfl
  have htraced : asked.host.traced.get? t.assigned = some a := by
    change (o.attach (.selector .all) a).1.host.traced.get? t.assigned = some a
    rw [hh]
    exact (o.get?_traced_attachCarrier a (.selector .all) t.assigned).trans (if_pos hcatches)
  refine ⟨t.assigned, names_step _ hn _, ⟨v, hv, hva, (congrArg Caller.ident htc).symm⟩, htraced,
    fun _ => ?_⟩
  exact (o.attach_active a (.selector .all)).trans
    (ProfileHost.hasAttachments_of_held (ProfileHost.mem_held_of_traced htraced))

end Expecting

theorem limbo_of_known {s : Situation σ} {ms : List Move} {t : Thread} (hn : s.threads.names.Nodup)
    (hk : ∃ u ∈ s.threads.all, u.name = x ∧ 1 ≤ u.state.rank) (hna : s.isIn x [.alive] = false)
    (ht : (s.run c ms).threads.find? x = some t) (ha : t.isAlive = true) :
    s.isIn x [.limbo] = true := by
  obtain ⟨u, hu, rfl, hr⟩ := hk
  have hf := Threads.find?_of_mem hn hu
  obtain ⟨hnames, hages⟩ := run_ages (c := c) hn ms
  obtain ⟨v, hv, hr'⟩ := hages.find? (hnames ▸ hn) hf
  obtain rfl := Option.some.inj (ht.symm.trans hv)
  simp only [Thread.isAlive, beq_iff_eq] at ha
  simp only [isIn, hf, Option.any_some, ha] at hna hr' ⊢
  cases hs : u.state <;> simp_all [ThreadState.rank]

theorem Along.of_forall {P : Situation σ → Move → Prop} {s : Situation σ} {ms : List Move}
    (h : ∀ m ∈ ms, ∀ s, P s m) : Along c P s ms := by
  induction ms generalizing s with
  | nil => trivial
  | cons m ms ih => exact ⟨h m List.mem_cons_self s, ih fun n hn => h n (List.mem_cons_of_mem _ hn)⟩

theorem Undisturbing.spared {m : Move} (hm : Undisturbing a.target m) (s : Situation σ) :
    Spared x a s m := by
  cases m with
  | attach | clear => exact hm.elim
  | forget => exact hm
  | _ => trivial

theorem Lasting.of_not_ends {m : Move} (he : ¬m.Ends x) (hr : ∀ f, m ≠ .signal x .ret f []) :
    Lasting x m := by
  cases m with
  | finish y lowest => exact fun hy => he hy.symm
  | signal y what f below =>
    cases what with
    | ret =>
      cases below with
      | nil =>
        rintro rfl
        exact hr f rfl
      | cons => trivial
    | call | other => trivial
  | _ => trivial

theorem Registered.own_run {s : Situation (Journaled σ)} {n : Nat} {ms : List Move} {t : Thread}
    (p : Registered x n a s) (hm : ∀ m ∈ ms, Undisturbing a.target m)
    (ha : Along c.journaled Attended s ms) (hu : Undropped a.target s (s.run c.journaled ms))
    (hr : ∀ f, .signal x .ret f [] ∉ ms) (ht : (s.run c.journaled ms).threads.find? x = some t)
    (hta : t.isAlive = true) :
    (s.run c.journaled ms).host.active = true ∧
      Hook.own? t.caller .call (s.run c.journaled ms).host = some a := by
  obtain ⟨u, hx, hua, -⟩ := p.present
  have spared : Along c.journaled (Spared x a) s ms := .of_forall fun m hmem s => (hm m hmem).spared s
  have lasting : ∀ m ∈ ms, Lasting x m := fun m hmem =>
    .of_not_ends (unfinished p.names hx hua ht hta m hmem) fun f he => hr f (he ▸ hmem)
  obtain ⟨-, ⟨v, hv, -, hvn⟩, htraced, hlistens⟩ := p.run ha spared lasting hu
  obtain rfl : t = v := Option.some.inj (ht.symm.trans hv)
  have hg : (s.run c.journaled ms).host.traced.get? t.caller.ident = some a :=
    (congrArg _ hvn).trans htraced
  exact ⟨active_of_listens hlistens htraced, Hook.own?_of_traced hg⟩

/-- Where the hook reaches every thread and all threads are attached, every call of a thread that is no
sink is dealt with under an attachment, while nobody is attached, the host is not cleared and the
target is not dropped. It is the attachment for all, unless the thread waited with another, was
started by a traced thread that passed its own on, or took an ident that was traced although its
thread had ended. The one exception is a thread that was listed without an ident and is taken for
known: it has nothing but what it gets in those other ways. A thread that was alive is meant to call
no more after the return of its lowest frame. -/
theorem all_covered {ts : Threads} {o : σ} (hn : ts.names.Nodup) (hr : ts.reachesRunning = true)
    (pre ms : List Move) (caller : String) (f : Frame) (below : List Frame) {t : Thread} :
    let s := (fresh ts ⟨o, []⟩).run c.journaled pre
    let asked := s.step c.journaled (.attach caller (.selector .all) a)
    let ready := asked.run c.journaled ms
    Along c.journaled Attended asked (ms ++ [.signal x .call f below]) →
    (∀ m ∈ ms, Undisturbing a.target m) → Undropped a.target asked ready →
    (asked.isIn x [.alive] = true → ∀ g, .signal x .ret g [] ∉ ms) →
    ready.threads.find? x = some t → t.isAlive = true → t.isSink = false →
    (¬Overlooked asked x → ready.host.active = true ∧
        ∃ b, Hook.own? t.caller .call ready.host = some b ∧
          (b = a ∨ Acquires c.journaled asked ms x t.assigned b)) ∧
      (Overlooked asked x → ∀ b, Hook.own? t.caller .call ready.host = some b →
        Acquires c.journaled asked ms x t.assigned b) := by
  intro s asked ready hall hm hu hret hx hta hts
  obtain ⟨hmid, ⟨hapart, -⟩, -⟩ := along_append.1 hall
  have hns : s.threads.names.Nodup :=
    (run_ages (c := c.journaled) (s := fresh ts ⟨o, []⟩) hn pre).1 ▸ hn
  have hnasked : asked.threads.names.Nodup := names_step _ hns _
  have hreach : s.threads.reachesRunning = true := (reachesRunning_run pre).trans hr
  obtain ⟨htm, hname⟩ := Threads.mem_of_find? hx
  have hplain : s.threads.isSink x = false := by
    have hs := (isSink_run (c := c.journaled) hns (.attach caller (.selector .all) a :: ms) x).symm
    refine hs.trans ?_
    change ready.threads.isSink x = false
    rw [Threads.isSink, hx]
    exact hts
  -- whoever is alive at the request is attached by it, the others by their first call
  cases hal : asked.isIn x [.alive] with
  | true =>
    obtain ⟨n, hreg⟩ := Registered.asked (c := c) (a := a) hns hreach hplain caller hal
    obtain ⟨hactive, hown⟩ := hreg.own_run hm hmid hu (hret hal) hx hta
    exact ⟨fun _ => ⟨hactive, a, hown, .inl rfl⟩, fun hover => absurd hover (not_overlooked hal)⟩
  | false =>
    have hexp := (Expects.asked hns hplain caller ms hal).run hm hmid
      (fun qs m b hq hb n => .inr (.passed hq hb)) hu
    have hown := fun b hb => hexp.own (b := b) hapart htm hta hname hb
    refine ⟨fun hover => ?_, fun hover b hb => (hown b hb).resolve_left fun h => h.2 hover.1⟩
    have hnew : x ∉ asked.host.known := by
      intro hk
      have hknown := known_run (c := c.journaled) (s := fresh ts ⟨o, []⟩) hn
        (pre ++ [.attach caller (.selector .all) a]) (fun y hy => by cases hy) x
      rw [run_concat] at hknown
      exact hover ⟨hk, limbo_of_known hnasked (hknown hk) hal hx hta⟩
    obtain ⟨b, hb⟩ := hexp.covers hapart hnew htm hta hname
    exact ⟨hexp.active, b, hb, (hown b hb).imp_left And.left⟩

/-- A thread is launched after arrivals were armed for another target, and before all are attached. -/
theorem all_covered_launched :
    let c := (HookEnv.answering true).journaled
    let asked := ((fresh reached ⟨(), []⟩).run c
      [.attach "main" (.selector .new) (parental {}), .launch "child"]).step c
        (.attach "main" (.selector .all) basic)
    let ready := asked.run c [.start "child" 7]
    asked.isIn "child" [.limbo] = true ∧ ¬Overlooked asked "child" ∧ ready.host.active = true ∧
      ∃ b, Hook.own? ⟨7, "child", false⟩ .call ready.host = some b ∧
        (b = basic ∨ Acquires c asked [.start "child" 7] "child" 7 b) := by
  dsimp only
  have h := all_covered (c := .answering true) (o := ()) (x := "child") (a := basic)
    (t := { name := "child", assigned := 7, state := .alive, hooked := true })
    (show reached.names.Nodup by decide) rfl
    [.attach "main" (.selector .new) (parental {}), .launch "child"] [.start "child" 7] "main"
    (inApp "work") [] ⟨⟨by decide, by simp⟩, ⟨by decide, by simp⟩, trivial⟩ (by simp [Undisturbing])
    (.of_all (by decide)) (by simp) (by rfl) rfl rfl
  exact ⟨by decide, by decide, h.1 (by decide)⟩

/-- A thread that was launched, but has not started, is taken for known and is not traced when it
starts. -/
theorem launched_uncovered : ¬∀ (ts : Threads) (pre ms : List Move) (caller x : String)
    (a : Attachment) (f : Frame) (below : List Frame) (t : Thread),
    let c := (HookEnv.answering true).journaled
    let s := (fresh ts (⟨(), []⟩ : Journaled Unit)).run c pre
    let asked := s.step c (.attach caller (.selector .all) a)
    let ready := asked.run c ms
    ts.names.Nodup → ts.reachesRunning = true →
      Along c Attended (fresh ts ⟨(), []⟩)
        (pre ++ .attach caller (.selector .all) a :: ms ++ [.signal x .call f below]) →
      (∀ m ∈ ms, Undisturbing a.target m) → Undropped a.target asked ready →
      ready.threads.find? x = some t → t.isAlive = true → t.isSink = false →
      ∃ b, Hook.own? t.caller .call ready.host = some b := by
  intro h
  obtain ⟨b, hb⟩ := h reached [.launch "child"] [.start "child" 7] "main" "child" basic
    (inApp "work") [] { name := "child", assigned := 7, state := .alive, hooked := true }
    (by decide) rfl
    ⟨⟨by decide, by simp⟩, ⟨by decide, by simp⟩, ⟨by decide, by simp⟩, ⟨by decide, by simp⟩, trivial⟩
    (by simp [Undisturbing]) (.of_all (by decide)) (by rfl) rfl rfl
  cases hb

end Situation

end ThreadTrace
