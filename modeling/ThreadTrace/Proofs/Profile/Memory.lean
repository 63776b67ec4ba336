import ThreadTrace.Proofs.Profile.Uncached
import ThreadTrace.Proofs.Profile.Waiting

namespace ThreadTrace

namespace Threads

theorem exists_of_unhooked {ts us : Threads} (h : us.unhooked.all = ts.unhooked.all) {t : Thread}
    (ht : t ∈ ts.all) : ∃ u ∈ us.all, { u with hooked := false } = { t with hooked := false } := by
  have hm : { t with hooked := false } ∈ us.unhooked.all := h ▸ List.mem_map.2 ⟨t, ht, rfl⟩
  obtain ⟨u, hu, he⟩ := List.mem_map.1 hm
  exact ⟨u, hu, he⟩

structure Continue (ts us : Threads) : Prop where
  kept : ∀ t ∈ ts.all, ∀ n, t.ident? = some n → ∃ u ∈ us.all, u.name = t.name ∧ u.ident? = some n
  alive : ∀ u ∈ us.all, u.isAlive = true → ∃ t ∈ ts.all, t.isAlive = true ∧ t.caller = u.caller

namespace Continue

variable {ts us : Threads} {x : String}

theorem of_unhooked (h : us.unhooked.all = ts.unhooked.all) : Continue ts us := by
  constructor
  · intro t ht n hn
    obtain ⟨u, hu, he⟩ := exists_of_unhooked h ht
    exact ⟨u, hu, congrArg (·.name) he, (congrArg (·.ident?) he).trans hn⟩
  · intro u hu ha
    obtain ⟨t, ht, he⟩ := exists_of_unhooked h.symm hu
    exact ⟨t, ht, (congrArg (·.isAlive) he).trans ha, congrArg (·.caller) he⟩

theorem update {f : Thread → Thread} (hf : ∀ t ∈ ts.all, t.name = x → (f t).name = t.name ∧
    (∀ n, t.ident? = some n → (f t).ident? = some n) ∧
      ((f t).isAlive = true → t.isAlive = true ∧ t.caller = (f t).caller)) :
    Continue ts (ts.update x f) := by
  constructor
  · intro t ht n hn
    by_cases hx : t.name = x
    · obtain ⟨hname, hi, -⟩ := hf t ht hx
      refine ⟨f t, List.mem_map.2 ⟨t, ht, ?_⟩, hname, hi n hn⟩
      simp [hx]
    · refine ⟨t, List.mem_map.2 ⟨t, ht, ?_⟩, rfl, hn⟩
      simp [hx]
  · intro u hu ha
    obtain ⟨t, ht, rfl⟩ := List.mem_map.1 hu
    by_cases hx : t.name = x
    · simp only [hx, beq_self_eq_true, if_true] at ha ⊢
      obtain ⟨-, -, halive⟩ := hf t ht hx
      exact ⟨t, ht, halive ha⟩
    · have hb : (t.name == x) = false := by simpa using hx
      simp only [hb, Bool.false_eq_true, if_false] at ha ⊢
      exact ⟨t, ht, ha, rfl⟩

theorem apart (h : Continue ts us) (ha : ts.Apart) : us.Apart := by
  intro u hu v hv hua hva he
  obtain ⟨t, ht, hta, htc⟩ := h.alive u hu hua
  obtain ⟨w, hw, hwa, hwc⟩ := h.alive v hv hva
  have hi : t.assigned = w.assigned :=
    (congrArg Caller.ident htc).trans (he.trans (congrArg Caller.ident hwc).symm)
  have hn := ha t ht w hw hta hwa hi
  exact (congrArg Caller.thread htc).symm.trans (hn.trans (congrArg Caller.thread hwc))

end Continue

end Threads

namespace Hook

open ProfileHost

variable {isSink : String → Bool} {me you : Caller} {what : Signal} {f : Frame} {below : List Frame}
  {h k : ProfileHost} {ds : List Effect} {es : List Entry} {r : Except Fault Unit}

theorem Performed.hooked (p : Performed ds h r es k) : k.hooked = h.hooked :=
  p.preserves (P := fun g => g.hooked = h.hooked) (fun _ _ hg => hg) (fun _ _ _ _ hg => hg) rfl

theorem arriving_eq_none : arriving h me = none ↔ h.pending.get? me.thread = none ∧
    (me.isSink = true ∨ me.thread ∈ h.known ∨ h.arrivals = none) := by
  unfold arriving
  cases h.pending.get? me.thread with
  | some a => simp
  | none =>
    simp only [true_and]
    split
    · rename_i hc
      have hc : me.isSink = true ∨ me.thread ∈ h.known := by simpa using hc
      exact ⟨fun _ => hc.elim .inl fun hk => .inr (.inl hk), fun _ => rfl⟩
    · rename_i hc
      have hc : me.isSink = false ∧ me.thread ∉ h.known := by simpa using hc
      simp [hc.1, hc.2]

theorem arriving_forget (t : Target) (ha : arriving h me = none) :
    arriving (h.forget t) me = none := by
  rw [arriving_eq_none] at ha ⊢
  obtain ⟨hp, hk⟩ := ha
  refine ⟨?_, ?_⟩
  · cases hn : (h.forget t).pending.get? me.thread with
    | none => rfl
    | some b =>
      have hm := (List.mem_filter.1 (Table.mem_of_get? hn)).1
      have hs := Table.get?_isSome_of_mem hm
      rw [hp] at hs
      cases hs
  · refine hk.imp_right fun hk => hk.imp_right fun hk => ?_
    change h.arrivals.filter _ = none
    rw [hk]
    rfl

theorem Performed.arriving (p : Performed ds h r es k) (hp : ∀ a, .pass me.thread a ∉ ds)
    (ha : arriving h me = none) : Hook.arriving k me = none := by
  refine p.preserves (P := fun g => Hook.arriving g me = none) ?_ ?_ ha
  · intro g t hg
    exact arriving_forget t hg
  · intro g child a hm hg
    rw [arriving_eq_none] at hg ⊢
    have hx : me.thread ≠ child := fun he => hp a (he ▸ hm)
    refine ⟨?_, hg.2⟩
    rw [Hook.pass, Table.get?_put, if_neg hx]
    exact hg.1

theorem arriving_settle (ha : arriving h you = none) : arriving (settle me h).2 you = none := by
  rw [arriving_eq_none] at ha
  have hp : (h.pending.erase me.thread).get? you.thread = none := by
    rw [Table.get?_erase, ha.1, ite_self]
  unfold settle
  split
  · exact arriving_eq_none.2 ha
  · split
    · exact arriving_eq_none.2 ha
    · cases arriving h me <;> exact arriving_eq_none.2 ⟨hp, ha.2⟩

theorem hooked_planEnd : (planEnd me h).1.hooked = remove me.ident h.hooked := by
  unfold planEnd
  split <;> rfl

theorem subset_hooked_settle {n : Nat} (hn : n ∈ h.hooked) : n ∈ (settle me h).2.hooked := by
  have hi : n ∈ insertNew me.ident h.hooked := mem_insertNew.2 (.inl hn)
  unfold settle
  split
  · exact hn
  · split
    · exact hn
    · cases arriving h me <;> exact hi

end Hook

/-- What is kept of a run of threads: who has made a call, and who has made one without a return of
its lowest frame since. -/
structure Ledger where
  called : List String := []
  owing : List String := []

namespace Situation

open Hook

variable {σ : Type} {c : HookEnv σ} {l : Ledger} {s : Situation σ} {x : String} {t : Thread}

theorem state_of_isIn (hn : s.threads.names.Nodup) {states : List ThreadState}
    (hx : s.isIn x states = true) (ht : t ∈ s.threads.all) (hname : t.name = x) :
    t.state ∈ states := by
  rw [isIn, ← hname, Threads.find?_of_mem hn ht] at hx
  simpa using hx

theorem isIn_alive (hx : s.threads.find? x = some t) (ha : t.isAlive = true) :
    s.isIn x [.alive] = true := by
  rw [Thread.isAlive, beq_iff_eq] at ha
  simp [isIn, hx, ha]

theorem step_continue (hn : s.threads.names.Nodup) {m : Move} (hm : ∀ x n, m ≠ .start x n) :
    Threads.Continue s.threads (s.step c m).threads := by
  have finish : ∀ x, s.isIn x [.alive] = true →
      Threads.Continue s.threads (s.threads.finish x) := by
    intro x hx
    refine .update fun t ht hname => ⟨rfl, fun n hi => ?_, fun ha => ?_⟩
    · have hs : t.state = .alive := by simpa using state_of_isIn hn hx ht hname
      rw [← hi, Thread.ident?, Thread.ident?, hs]
    · exact absurd ha Bool.false_ne_true
  cases m with
  | attach caller carrier a =>
    have h := congrArg Threads.all (Observed.unhooked_attach (s.calledBy caller) a carrier)
    exact .of_unhooked h
  | clear caller =>
    have h := congrArg Threads.all (Observed.unhooked_clear (s.calledBy caller))
    exact .of_unhooked h
  | install | forget => exact .of_unhooked rfl
  | start x n => exact absurd rfl (hm x n)
  | launch x =>
    simp only [step]
    split
    · rename_i hx
      refine .update fun t ht hname => ⟨rfl, fun n hi => ?_, fun ha => ?_⟩
      · have hs : t.state = .unstarted := by simpa using state_of_isIn hn hx ht hname
        rw [Thread.ident?, hs] at hi
        cases hi
      · exact absurd ha Bool.false_ne_true
    · exact .of_unhooked rfl
  | signal x what f below =>
    rw [step, signal_threads]
    exact .of_unhooked rfl
  | finish x lowest =>
    simp only [step]
    split
    · rename_i hx
      cases lowest with
      | none => exact finish x hx
      | some f =>
        change Threads.Continue s.threads ((s.signal c x .ret f []).threads.finish x)
        rw [signal_threads]
        exact finish x hx
    · exact .of_unhooked rfl

def note (l : Ledger) (s : Situation σ) : Move → Ledger
  | .signal x .call _ _ => if s.isIn x [.alive] then ⟨x :: l.called, x :: l.owing⟩ else l
  | .signal x .ret _ [] | .finish x (some _) =>
    if s.isIn x [.alive] then { l with owing := l.owing.filter (· != x) } else l
  | _ => l

/-- What is promised of a move. A thread that is started by a call has made none, and a thread comes to
life under an ident that no live thread has, nor one that has called the hook and whose last return
did not reach it. -/
def Fair (l : Ledger) (s : Situation σ) : Move → Prop
  | .signal x .call f _ => s.isIn x [.alive] = true →
    ∀ child ∈ started? f, child ≠ x ∧ child ∉ l.called
  | .start x n => s.isIn x [.unstarted, .limbo] = true →
    ∀ t ∈ s.threads.all, t.ident? = some n → t.isAlive = false ∧ t.name ∉ l.owing
  | _ => True

def FairRun (c : HookEnv σ) : Ledger → Situation σ → List Move → Prop
  | _, _, [] => True
  | l, s, m :: ms => Fair l s m ∧ FairRun c (note l s m) (s.step c m) ms

instance (l : Ledger) (s : Situation σ) : (m : Move) → Decidable (Fair l s m)
  | .signal x .call f _ => inferInstanceAs (Decidable (s.isIn x [.alive] = true →
      ∀ child ∈ started? f, child ≠ x ∧ child ∉ l.called))
  | .start x n => inferInstanceAs (Decidable (s.isIn x [.unstarted, .limbo] = true →
      ∀ t ∈ s.threads.all, t.ident? = some n → t.isAlive = false ∧ t.name ∉ l.owing))
  | .signal _ .ret .. | .signal _ .other .. | .attach .. | .install .. | .forget _ | .clear _
  | .launch _ | .finish .. => inferInstanceAs (Decidable True)

instance (c : HookEnv σ) : (l : Ledger) → (s : Situation σ) → (ms : List Move) →
    Decidable (FairRun c l s ms)
  | _, _, [] => inferInstanceAs (Decidable True)
  | l, s, m :: ms =>
    have := instDecidableFairRun c (note l s m) (s.step c m) ms
    inferInstanceAs (Decidable (Fair l s m ∧ FairRun c (note l s m) (s.step c m) ms))

/-- Whether a host that has nothing to observe is left at that when a target is dropped. -/
def Unwoken (s : Situation σ) : Move → Prop
  | .forget t => s.host.active = false → (s.host.forget t).active = false
  | _ => True

/-- Whoever is remembered has called, and is either alive with nothing to get, or has ended without
its last return and left its ident to nobody. -/
structure Sound (l : Ledger) (s : Situation σ) : Prop where
  hooked : ∀ n ∈ s.host.ignored, n ∈ s.host.hooked
  owner : ∀ n ∈ s.host.ignored, ∃ t ∈ s.threads.all, t.ident? = some n ∧ t.name ∈ l.owing
  late : ∀ n ∈ s.host.ignored, ∀ u ∈ s.threads.all, u.isAlive = true → u.assigned = n →
    u.name ∈ l.called ∧ arriving s.host u.caller = none

theorem Sound.of_ignored (hi : s.host.ignored = []) : Sound l s := by
  constructor <;> simp [hi]

theorem Sound.carry {s' : Situation σ} {l' : Ledger} (h : Sound l s)
    (hts : Threads.Continue s.threads s'.threads)
    (hi : ∀ n ∈ s'.host.ignored, n ∈ s.host.ignored ∧ n ∈ s'.host.hooked ∧
      ∀ t ∈ s.threads.all, t.ident? = some n → t.name ∈ l.owing → t.name ∈ l'.owing)
    (hc : ∀ u ∈ s.threads.all, u.name ∈ l.called → u.name ∈ l'.called ∧
      (arriving s.host u.caller = none → arriving s'.host u.caller = none)) : Sound l' s' := by
  constructor
  · exact fun n hn => (hi n hn).2.1
  · intro n hn
    obtain ⟨hm, -, ho⟩ := hi n hn
    obtain ⟨t, ht, hti, hto⟩ := h.owner n hm
    obtain ⟨u, hu, hname, hui⟩ := hts.kept t ht n hti
    exact ⟨u, hu, hui, hname ▸ ho t ht hti hto⟩
  · intro n hn u hu hua hassigned
    obtain ⟨hm, -, -⟩ := hi n hn
    obtain ⟨t, ht, hta, htc⟩ := hts.alive u hu hua
    obtain ⟨hcalled, harriving⟩ :=
      h.late n hm t ht hta ((congrArg Caller.ident htc).trans hassigned)
    obtain ⟨hcalled', hkept⟩ := hc t ht hcalled
    have hname : t.name = u.name := congrArg Caller.thread htc
    exact ⟨hname ▸ hcalled', htc ▸ hkept harriving⟩

theorem Sound.rest {s' : Situation σ} (h : Sound l s)
    (hts : Threads.Continue s.threads s'.threads) (hh : s'.host = s.host) : Sound l s' := by
  refine h.carry hts (fun n hn => ?_) fun u _ hc => ⟨hc, fun ha => hh ▸ ha⟩
  rw [hh] at hn ⊢
  exact ⟨hn, h.hooked n hn, fun _ _ _ ho => ho⟩

theorem signal_idle {what : Hook.Signal} {f : Frame} {below : List Frame}
    (hx : s.threads.find? x = some t) (ha : t.isAlive = true)
    (hp : Hook.plan s.threads.isSink t.caller what f below s.host = (s.host, [])) :
    (s.signal c x what f below).host = s.host := by
  obtain ⟨es, p⟩ := signal_performed (c := c) hx ha what f below
  rw [hp] at p
  generalize (s.callback c t what f below).1 = r at p
  generalize (s.signal c x what f below).host = k at p ⊢
  cases p
  rfl

theorem signal_unalive (hx : s.isIn x [.alive] = false) (what : Hook.Signal) (f : Frame)
    (below : List Frame) : s.signal c x what f below = s ∧
      note l s (.signal x what f below) = l := by
  refine ⟨?_, ?_⟩
  · cases ht : s.threads.find? x with
    | none => simp only [signal, ht]
    | some t =>
      cases ha : t.isAlive with
      | false => simp [signal, ht, ha]
      | true => rw [isIn_alive ht ha] at hx; cases hx
  · cases what with
    | call => simp [note, hx]
    | ret => cases below <;> simp [note, hx]
    | other => rfl

theorem signal_asleep (ha : s.host.active = false) (x : String) (what : Hook.Signal) (f : Frame)
    (below : List Frame) : (s.signal c x what f below).host = s.host := by
  cases hx : s.threads.find? x with
  | none => simp only [signal, hx]
  | some t =>
    cases hta : t.isAlive with
    | false => simp [signal, hx, hta]
    | true => exact signal_idle hx hta (by simp [Hook.plan, ha])

section Signal

variable {what : Hook.Signal} {f : Frame} {below : List Frame}

theorem Sound.call (h : Sound l s) (hn : s.threads.names.Nodup) (hd : s.threads.Apart)
    (hx : s.threads.find? x = some t) (ha : t.isAlive = true) (hactive : s.host.active = true)
    (hf : Fair l s (.signal x .call f below)) :
    Sound ⟨x :: l.called, x :: l.owing⟩ (s.signal c x .call f below) := by
  obtain ⟨ht, rfl⟩ := Threads.mem_of_find? hx
  obtain ⟨es, p⟩ := signal_performed (c := c) hx ha .call f below
  have hplan : Hook.plan s.threads.isSink t.caller .call f below s.host =
      Hook.planCall s.threads.isSink t.caller f (f :: below) s.host := by
    simp only [Hook.plan, hactive, if_true]
  obtain ⟨last, hlast⟩ := Hook.planCall_host s.threads.isSink t.caller f (f :: below) s.host
  have hi := p.ignored
  have hh := p.hooked
  rw [hplan, hlast] at hi hh
  -- in a fair run no thread is started that has called
  have starts : ∀ u : Thread, u.name ∈ t.name :: l.called → ∀ b,
      .pass u.caller.thread b ∉ (Hook.plan s.threads.isSink t.caller .call f below s.host).2 := by
    intro u hu b hb
    cases Hook.mem_plan hb with
    | pass _ _ _ hs =>
      obtain ⟨hne, hnew⟩ := hf (isIn_alive hx ha) u.name hs
      exact (List.mem_cons.1 hu).elim hne hnew
  have late : ∀ u : Thread, u.name ∈ t.name :: l.called → arriving s.host u.caller = none →
      arriving (s.signal c t.name .call f below).host u.caller = none := by
    intro u hu hnone
    refine p.arriving (starts u hu) ?_
    rw [hplan, hlast]
    exact arriving_settle hnone
  constructor
  · intro n hn
    rw [hi] at hn
    rw [hh]
    obtain hn | ⟨-, hn, -⟩ := remembered_settle hn
    · exact subset_hooked_settle (h.hooked n hn)
    · exact hn
  · intro n hn
    rw [hi] at hn
    rw [signal_threads]
    obtain hn | ⟨rfl, -, -⟩ := remembered_settle hn
    · obtain ⟨u, hu, hui, huo⟩ := h.owner n hn
      exact ⟨u, hu, hui, List.mem_cons_of_mem _ huo⟩
    · refine ⟨t, ht, ?_, List.mem_cons_self⟩
      rw [Thread.isAlive, beq_iff_eq] at ha
      rw [Thread.ident?, ha]
      rfl
  · intro n hn u hu hua hassigned
    rw [hi] at hn
    rw [signal_threads] at hu
    obtain hn | ⟨rfl, -, hnone⟩ := remembered_settle hn
    · obtain ⟨hcalled, hnone⟩ := h.late n hn u hu hua hassigned
      exact ⟨List.mem_cons_of_mem _ hcalled, late u (List.mem_cons_of_mem _ hcalled) hnone⟩
    · have hname : u.name = t.name := hd u hu t ht hua ha hassigned
      obtain rfl : u = t := Threads.eq_of_name ‹_› hu ht hname
      exact ⟨List.mem_cons_self, late u List.mem_cons_self hnone⟩

theorem Sound.ret (h : Sound l s) (hn : s.threads.names.Nodup)
    (hx : s.threads.find? x = some t) (ha : t.isAlive = true) (hactive : s.host.active = true) :
    Sound (note l s (.signal x .ret f below)) (s.signal c x .ret f below) := by
  obtain ⟨ht, rfl⟩ := Threads.mem_of_find? hx
  obtain ⟨es, p⟩ := signal_performed (c := c) hx ha .ret f below
  have hplan : Hook.plan s.threads.isSink t.caller .ret f below s.host =
      Hook.planReturn t.caller f below.head? s.host := by
    simp only [Hook.plan, hactive, if_true]
  have late : ∀ u : Thread, arriving s.host u.caller = none →
      arriving (s.signal c t.name .ret f below).host u.caller = none := by
    intro u hnone
    refine p.arriving (fun b hb => ?_) ?_
    · cases Hook.mem_plan hb with
      | pass hw => cases hw
    · obtain ⟨_, _, _, -, hr⟩ := Hook.planReturn_host t.caller f below.head? s.host
      rw [hplan, hr]
      exact hnone
  have hi := p.ignored
  have hh := p.hooked
  have hts : Threads.Continue s.threads (s.signal c t.name .ret f below).threads := by
    rw [signal_threads]
    exact .of_unhooked rfl
  cases below with
  | cons g below =>
    have hsame : (Hook.planReturn t.caller f (some g) s.host).1 = s.host := by
      unfold Hook.planReturn
      split <;> first | rfl | contradiction
    rw [hplan, List.head?_cons, hsame] at hi hh
    refine h.carry hts (fun n hn => ?_) fun u hu hc => ⟨hc, late u⟩
    rw [hi] at hn
    exact ⟨hn, hh ▸ h.hooked n hn, fun _ _ _ ho => ho⟩
  | nil =>
    have hnote : note l s (.signal t.name .ret f []) =
        { l with owing := l.owing.filter (· != t.name) } := if_pos (isIn_alive hx ha)
    rw [hnote]
    refine h.carry hts (fun n hn => ?_) fun u hu hc => ⟨hc, late u⟩
    rw [hi, hplan] at hn
    obtain ⟨hn, hne⟩ := Hook.mem_ignored_planEnd hn
    refine ⟨hn, ?_, fun u hu hui ho => ?_⟩
    · rw [hh, hplan, List.head?_nil, Hook.planReturn, Hook.hooked_planEnd]
      exact List.mem_filter.2 ⟨h.hooked n hn, by simpa using hne⟩
    · refine List.mem_filter.2 ⟨ho, ?_⟩
      simp only [bne_iff_ne, ne_eq]
      intro hname
      obtain rfl := Threads.eq_of_name ‹_› hu ht hname
      exact hne (Thread.assigned_of_ident? hui).symm

end Signal

/-- What a fair run keeps up: names and idents tell live threads apart, and the memory is sound while
there is something to observe. -/
structure Kept (l : Ledger) (s : Situation σ) : Prop where
  names : s.threads.names.Nodup
  apart : s.threads.Apart
  sound : s.host.active = true → Sound l s

theorem Kept.fresh {ts : Threads} (hn : ts.names.Nodup) (hd : ts.Apart) (o : σ) :
    Kept {} (fresh ts o) :=
  ⟨hn, hd, fun _ => .of_ignored rfl⟩

theorem Kept.signal (p : Kept l s) {what : Hook.Signal} {f : Frame} {below : List Frame}
    (hf : Fair l s (.signal x what f below)) :
    Kept (note l s (.signal x what f below)) (s.signal c x what f below) := by
  have hts := signal_threads c s x what f below
  refine ⟨hts ▸ p.names, hts ▸ p.apart, fun hawake => ?_⟩
  have hactive : s.host.active = true := by
    cases ha : s.host.active with
    | true => rfl
    | false =>
      rw [signal_asleep ha, ha] at hawake
      cases hawake
  have h := p.sound hactive
  cases hx : s.isIn x [.alive] with
  | false =>
    obtain ⟨hs, hnote⟩ := signal_unalive (c := c) (l := l) hx what f below
    rw [hs, hnote]
    exact h
  | true =>
    obtain ⟨t, ht, ha⟩ : ∃ t, s.threads.find? x = some t ∧ t.isAlive = true := by
      obtain ⟨t, ht, ha⟩ := (Option.any_eq_true _ _).1 hx
      exact ⟨t, ht, by simpa [Thread.isAlive] using ha⟩
    cases what with
    | call =>
      rw [show note l s (.signal x .call f below) = ⟨x :: l.called, x :: l.owing⟩ from if_pos hx]
      exact h.call p.names p.apart ht ha hactive hf
    | ret => exact h.ret p.names ht ha hactive
    | other =>
      have hh : (s.signal c x .other f below).host = s.host :=
        signal_idle ht ha (by simp [Hook.plan])
      exact h.rest (hts ▸ .of_unhooked rfl) hh

theorem mem_start {ts : Threads} {n : Nat} {u : Thread} (hu : u ∈ (ts.start x (some n)).all) :
    u ∈ ts.all ∧ u.name ≠ x ∨ u.name = x ∧ u.assigned = n := by
  obtain ⟨t, ht, rfl⟩ := List.mem_map.1 hu
  by_cases hx : t.name = x
  · simp only [hx, beq_self_eq_true, if_true]
    exact .inr ⟨trivial, rfl⟩
  · have hb : (t.name == x) = false := by simpa using hx
    simp only [hb, Bool.false_eq_true, if_false]
    exact .inl ⟨ht, hx⟩

theorem Kept.start (p : Kept l s) {n : Nat} (hf : Fair l s (.start x n)) :
    Kept l (s.step c (.start x n)) := by
  have hn := names_step c p.names (.start x n)
  simp only [step] at hn ⊢
  split
  · rename_i hx
    rw [if_pos hx] at hn
    have free := hf hx
    have alive : ∀ u ∈ s.threads.all, u.isAlive = true → u.assigned ≠ n := by
      rintro u hu ha rfl
      have hi : u.ident? = some u.assigned := by
        have hs : u.state = .alive := by simpa [Thread.isAlive] using ha
        rw [Thread.ident?, hs]
      rw [(free u hu hi).1] at ha
      cases ha
    refine ⟨hn, ?_, fun hactive => ?_⟩
    · intro u hu v hv hua hva he
      obtain ⟨hu, -⟩ | ⟨hux, hun⟩ := mem_start hu <;> obtain ⟨hv, -⟩ | ⟨hvx, hvn⟩ := mem_start hv
      · exact p.apart u hu v hv hua hva he
      · exact absurd (he.trans hvn) (alive u hu hua)
      · exact absurd (he.symm.trans hun) (alive v hv hva)
      · exact hux.trans hvx.symm
    · have h := p.sound hactive
      refine ⟨h.hooked, fun k hk => ?_, fun k hk u hu hua hassigned => ?_⟩
      · obtain ⟨t, ht, hi, ho⟩ := h.owner k hk
        have hne : t.name ≠ x := by
          intro hname
          have hs := state_of_isIn p.names hx ht hname
          cases hst : t.state <;> simp_all [Thread.ident?]
        refine ⟨t, List.mem_map.2 ⟨t, ht, ?_⟩, hi, ho⟩
        simp [hne]
      · obtain ⟨hu, -⟩ | ⟨-, hun⟩ := mem_start hu
        · exact h.late k hk u hu hua hassigned
        · obtain ⟨t, ht, hi, ho⟩ := h.owner k hk
          rw [← hassigned, hun] at hi
          exact absurd ho (free t ht hi).2
  · exact p

theorem Kept.finish (p : Kept l s) {lowest : Option Frame} :
    Kept (note l s (.finish x lowest)) (s.step c (.finish x lowest)) := by
  have hm : ∀ y n, Move.finish x lowest ≠ .start y n := nofun
  have hts := step_continue (c := c) p.names hm
  refine ⟨names_step c p.names _, hts.apart p.apart, ?_⟩
  cases lowest with
  | none =>
    have hh := (finish_unheard (c := c) s x).1
    intro hactive
    rw [hh] at hactive
    exact (p.sound hactive).rest hts hh
  | some f =>
    have hh := (finish_heard (c := c) s x f).1
    intro hactive
    rw [hh] at hactive
    have q : Kept (note l s (.signal x .ret f [])) (s.signal c x .ret f []) := p.signal trivial
    have hs : (s.signal c x .ret f []).threads = s.threads := signal_threads ..
    exact (q.sound hactive).rest (hs ▸ hts) hh

theorem Kept.step (p : Kept l s) {m : Move} (hf : Fair l s m) (hw : Unwoken s m) :
    Kept (note l s m) (s.step c m) := by
  have moved : (∀ x n, m ≠ .start x n) →
      ((s.step c m).host.active = true → Sound (note l s m) (s.step c m)) →
        Kept (note l s m) (s.step c m) := fun hm hs =>
    ⟨names_step c p.names m, (step_continue p.names hm).apart p.apart, hs⟩
  cases m with
  | attach caller carrier a =>
    refine moved nofun fun _ => .of_ignored ?_
    obtain ⟨active, installed, allThreads, hh⟩ := (s.calledBy caller).attach_host a carrier
    exact congrArg ProfileHost.ignored hh
  | clear caller =>
    refine moved nofun fun _ => .of_ignored ?_
    change (s.calledBy caller).clear.host.ignored = []
    unfold Observed.clear Observed.uninstallHook
    split <;> rfl
  | install unit spec localOnly =>
    refine moved nofun fun hactive => ?_
    have h := p.sound hactive
    exact ⟨h.hooked, h.owner, h.late⟩
  | forget t =>
    refine moved nofun fun hactive => ?_
    cases ha : s.host.active with
    | false => exact absurd ((hw ha).symm.trans hactive) Bool.false_ne_true
    | true =>
      have h := p.sound ha
      exact ⟨h.hooked, h.owner, fun n hn u hu hua hi =>
        (h.late n hn u hu hua hi).imp_right (arriving_forget t)⟩
  | launch x =>
    refine moved nofun fun hactive => ?_
    have hh : (s.step c (.launch x)).host = s.host := by
      simp only [Situation.step]
      split <;> rfl
    rw [hh] at hactive
    exact (p.sound hactive).rest (step_continue p.names nofun) hh
  | start x n => exact p.start hf
  | finish x lowest => exact p.finish
  | signal x what f below => exact p.signal hf

theorem Kept.reliable (p : Kept l s) (m : Move) : Reliable s m := by
  cases m with
  | signal x what f below =>
    cases what with
    | call =>
      intro hactive t hx ha _ hi
      have h := p.sound hactive
      obtain ⟨ht, -⟩ := Threads.mem_of_find? hx
      exact ⟨h.hooked _ hi, (h.late _ hi t ht ha rfl).2⟩
    | ret | other => trivial
  | _ => trivial

theorem Kept.along (p : Kept l s) {ms : List Move} (hf : FairRun c l s ms)
    (hw : Along c Unwoken s ms) : Along c Reliable s ms := by
  induction ms generalizing l s with
  | nil => trivial
  | cons m ms ih => exact ⟨p.reliable m, ih (p.step hf.1 hw.1) hf.2 hw.2⟩

/-- In a fair run that no dropped target wakes, a host is at every moment what it would be if it
remembered nobody as untraced, but for this memory: the same threads are traced and waited for, the
same have been heard of, and the same has been handed to the workers. -/
theorem run_uncached_fair {ts : Threads} (hn : ts.names.Nodup) (hd : ts.Apart) (o : σ)
    {ms : List Move} (hf : FairRun c {} (fresh ts o) ms) (hw : Along c Unwoken (fresh ts o) ms)
    {pre : List Move} (hp : pre <+: ms) :
    ((fresh ts o).run c pre).uncached = ((fresh ts o).runSlowly c pre).uncached := by
  obtain ⟨rest, rfl⟩ := hp
  have hr := (Kept.fresh hn hd o).along hf hw
  exact (run_uncached c (along_append.1 hr).1 rfl).symm

def heirs : Threads where
  all := [{ name := "main", assigned := 1, state := .alive }, { name := "first", assigned := 4 },
    { name := "second", assigned := 4 }]

def twoWorkers : Attachment := ⟨{ running := true, setOnSpawn := true }, .ofWorkers 0 .trace [0, 1]⟩

def plainFrame : Frame where
  unit := some "app"
  function := "work"

def succession : List Move :=
  [.attach "main" (.thread "main") twoWorkers, .start "first" 4,
    .signal "first" .call plainFrame [], .signal "first" .call plainFrame [plainFrame],
    .signal "main" .call (.start (.thread "second")) [], .forget { id := 1 },
    .finish "first" (some plainFrame), .start "second" 4, .signal "second" .call plainFrame []]

theorem run_uncached_fair_succession :
    let c := (HookEnv.answering true).journaled
    FairRun c {} (fresh heirs ⟨(), []⟩) succession ∧
      Along c Unwoken (fresh heirs ⟨(), []⟩) succession ∧
      ((fresh heirs ⟨(), []⟩).run c succession).uncached =
        ((fresh heirs ⟨(), []⟩).runSlowly c succession).uncached ∧
      ((fresh heirs ⟨(), []⟩).run c (succession.take 4)).host.ignored = [4] ∧
      ((fresh heirs ⟨(), []⟩).run c succession).host.traced.keys = [1, 4] := by
  intro c
  have hf : FairRun c {} (fresh heirs ⟨(), []⟩) succession := by decide
  have hw : Along c Unwoken (fresh heirs ⟨(), []⟩) succession :=
    ⟨trivial, trivial, trivial, trivial, trivial, fun h => absurd h (by decide), trivial, trivial,
      trivial, trivial⟩
  have hn : heirs.names.Nodup := by decide
  have hd : heirs.Apart := by decide
  have he := run_uncached_fair hn hd _ hf hw (List.prefix_refl _)
  exact ⟨hf, hw, he, by decide, by decide⟩

def inherited : List Move :=
  [.attach "main" (.thread "main") twoWorkers, .start "first" 4,
    .signal "first" .call plainFrame [], .signal "main" .call (.start (.thread "second")) [],
    .finish "first" (some plainFrame), .start "second" 4, .forget { id := 1 },
    .signal "second" .call plainFrame []]

def firstOnly : HookEnv (Journaled Unit) :=
  HookEnv.journaled { HookEnv.answering true with offer := fun k _ o => (k == 0, o) }

/-- A host that is woken by a dropped target may take a thread for one that it remembers. -/
theorem remembered_wrongly : ¬∀ (ts : Threads) (ms : List Move), ts.names.Nodup → ts.Apart →
    FairRun firstOnly {} (fresh ts ⟨(), []⟩) ms → ∀ pre, pre <+: ms →
      ((fresh ts ⟨(), []⟩).run firstOnly pre).uncached =
        ((fresh ts ⟨(), []⟩).runSlowly firstOnly pre).uncached := by
  intro h
  have he := h heirs inherited (by decide) (by decide) (by decide) inherited (List.prefix_refl _)
  have hl := congrArg (fun s : Situation (Journaled Unit) => s.outside.journal.length) he
  exact absurd hl (by decide)

end Situation

end ThreadTrace
