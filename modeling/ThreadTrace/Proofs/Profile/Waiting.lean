import ThreadTrace.Proofs.Profile.Dropping
import ThreadTrace.Proofs.Profile.Provenance

namespace ThreadTrace

namespace Hook

open ProfileHost

variable {isSink : String → Bool} {me : Caller} {what : Signal} {f : Frame} {below : List Frame}
  {h k : ProfileHost} {ds : List Effect} {es : List Entry} {r : Except Fault Unit} {x : String}
  {a : Attachment}

theorem pending_settle (hx : me.thread ≠ x) :
    (settle me h).2.pending.get? x = h.pending.get? x := by
  have he : (h.pending.erase me.thread).get? x = h.pending.get? x := by
    rw [Table.get?_erase, if_neg fun hn => hx hn.symm]
  unfold settle
  split
  · rfl
  · split
    · rfl
    · cases arriving h me <;> exact he

theorem pending_plan (hx : what = .call → me.thread ≠ x) :
    (plan isSink me what f below h).1.pending.get? x = h.pending.get? x := by
  unfold plan
  split
  · cases what with
    | other => rfl
    | call =>
      obtain ⟨last, he⟩ := planCall_host isSink me f (f :: below) h
      rw [he]
      exact pending_settle (hx rfl)
    | ret =>
      obtain ⟨_, _, _, -, he⟩ := planReturn_host me f below.head? h
      rw [he]
  · rfl

theorem remembered_settle {n : Nat} (hn : n ∈ (settle me h).2.ignored) :
    n ∈ h.ignored ∨ n = me.ident ∧ n ∈ (settle me h).2.hooked ∧ arriving h me = none := by
  have hk : me.ident ∈ insertNew me.ident h.hooked := mem_insertNew.2 (.inr rfl)
  unfold settle at hn ⊢
  split at hn
  · exact .inl hn
  · split at hn
    · exact .inl hn
    · rename_i ht hi
      cases ha : arriving h me with
      | some a =>
        rw [ha] at hn
        exact .inl hn
      | none =>
        rw [ha] at hn
        obtain hn | rfl := mem_insertNew.1 hn
        · exact .inl hn
        · exact .inr ⟨rfl, by rwa [if_neg hi], rfl⟩

theorem mem_ignored_planEnd {n : Nat} (hn : n ∈ (planEnd me h).1.ignored) :
    n ∈ h.ignored ∧ n ≠ me.ident := by
  have hr : n ∈ remove me.ident h.ignored := by
    unfold planEnd at hn
    split at hn <;> exact hn
  obtain ⟨hn, hne⟩ := List.mem_filter.1 hr
  exact ⟨hn, by simpa using hne⟩

theorem mem_ignored_plan {n : Nat} (hn : n ∈ (plan isSink me what f below h).1.ignored) :
    n ∈ h.ignored ∨ what = .call ∧ n = me.ident ∧ arriving h me = none := by
  unfold plan at hn
  split at hn
  · cases what with
    | other => exact .inl hn
    | call =>
      obtain ⟨last, he⟩ := planCall_host isSink me f (f :: below) h
      rw [he] at hn
      exact (remembered_settle hn).imp_right fun hr => ⟨rfl, hr.1, hr.2.2⟩
    | ret =>
      simp only [planReturn] at hn
      split at hn
      · exact .inl (mem_ignored_planEnd hn).1
      · exact .inl hn
      · exact .inl hn
  · exact .inl hn

theorem unignored_plan_end (ha : h.active = true) {n : Nat}
    (hn : n ∈ (plan isSink me .ret f [] h).1.ignored) : n ≠ me.ident := by
  simp only [plan, ha, if_true, planReturn, List.head?_nil] at hn
  exact (mem_ignored_planEnd hn).2

theorem Performed.ignored (p : Performed ds h r es k) : k.ignored = h.ignored :=
  p.preserves (P := fun g => g.ignored = h.ignored) (fun _ _ hg => hg) (fun _ _ _ _ hg => hg) rfl

/-- A host that listens, with an attachment for a thread yet to start. -/
def Reserves (x : String) (a : Attachment) (h : ProfileHost) : Prop :=
  h.pending.get? x = some a ∧ h.active = true

theorem active_of_pending (hp : h.pending.get? x = some a) : h.hasAttachments = true :=
  hasAttachments_of_held (mem_held_of_pending hp)

theorem Reserves.forget (hh : Reserves x a h) {t : Target} (ht : t.id ≠ a.target.id) :
    Reserves x a (h.forget t) := by
  have hp : (h.forget t).pending.get? x = some a :=
    Table.get?_filter hh.1 (by simpa using fun he => ht he.symm)
  exact ⟨hp, active_of_pending hp⟩

theorem Performed.reserves (p : Performed ds h r es k) (hd : ∀ y ∈ es, ¬Entry.drops a.target y)
    (hp : ∀ b, .pass x b ∈ ds → b = a) (hh : Reserves x a h) : Reserves x a k := by
  refine p.preserves_of_dropped ?_ ?_ hh
  · intro g t hm hg
    exact hg.forget (hd _ hm)
  · intro g child b hm hg
    refine ⟨?_, hg.2⟩
    rw [Hook.pass, Table.get?_put]
    by_cases hx : x = child
    · rw [if_pos hx, hp b (hx ▸ hm)]
    · rw [if_neg hx]
      exact hg.1

end Hook

namespace Situation

variable {σ : Type} {c : HookEnv σ} {x : String} {a : Attachment}

/-- What is promised about threads, move by move: live ones differ in their idents, and a thread that
the host has looked at ends with the return of its lowest frame, which reaches the hook. -/
def Attended (s : Situation σ) (m : Move) : Prop :=
  s.threads.Apart ∧ ∀ y t, m = .finish y none → s.threads.find? y = some t → t.isAlive = true →
    s.host.traced.get? t.assigned = none ∧ t.assigned ∉ s.host.ignored

def Spared (x : String) (a : Attachment) (s : Situation σ) : Move → Prop
  | .attach _ carrier _ => carrier ≠ .thread x ∧
    ∀ t ∈ s.threads.all, t.name = x → t.isAlive = true → ¬carrier.selects t
  | .forget t => t.id ≠ a.target.id
  | .clear _ => False
  | _ => True

def Unheard (x : String) (s : Situation σ) : Move → Prop
  | .signal y .call _ _ => ∀ t, s.threads.find? y = some t → t.isAlive = true → y ≠ x
  | _ => True

def Unpassed (x : String) (a : Attachment) (s : Situation σ) : Move → Prop
  | .signal y .call f _ => ∀ t, s.threads.find? y = some t → t.isAlive = true →
    ∀ b, Hook.own? t.caller .call s.host = some b →
      Hook.heir? s.threads.isSink b f = some x → b = a
  | _ => True

def Undropped (t : Target) (s s' : Situation (Journaled σ)) : Prop :=
  ∀ es, s'.outside.journal = s.outside.journal ++ es → ∀ y ∈ es, ¬y.drops t

def OfOthers (x : String) (ts : Threads) (n : Nat) : Prop :=
  ∃ t ∈ ts.all, t.isAlive = true ∧ t.assigned = n ∧ t.name ≠ x

/-- A thread waits for its start with an attachment, and the idents that the host knows of are those
of others. -/
structure Awaits (x : String) (a : Attachment) (s : Situation σ) : Prop where
  names : s.threads.names.Nodup
  reserves : Hook.Reserves x a s.host
  traced : ∀ y ∈ s.host.traced, OfOthers x s.threads y.1
  ignored : ∀ n ∈ s.host.ignored, OfOthers x s.threads n

section Along

variable {P : Situation σ → Move → Prop} {s : Situation σ} {ms : List Move}

theorem Along.at (h : Along c P s ms) (pre : List Move) {m : Move} (hp : pre ++ [m] <+: ms) :
    P (s.run c pre) m := by
  obtain ⟨rest, rfl⟩ := hp
  exact (along_append.1 (along_append.1 h).1).2.1

theorem Orderly.of_attended {m : Move} (h : Along c Attended s (ms ++ [m])) : Orderly c s ms := by
  constructor
  · rintro pre ⟨rest, rfl⟩
    cases rest with
    | nil => exact (h.at pre (m := m) (by simp)).1
    | cons n rest => exact (h.at pre (m := n) ⟨rest ++ [m], by simp⟩).1
  · intro pre y t hp ht ha
    exact ((h.at pre (hp.trans (List.prefix_append ..))).2 y t rfl ht ha).1

end Along

theorem Undropped.of_cons {s : Situation (Journaled σ)} {t : Target} {m : Move} {ms : List Move}
    (h : Undropped t s (s.run c.journaled (m :: ms))) :
    Undropped t s (s.step c.journaled m) ∧
      Undropped t (s.step c.journaled m) ((s.step c.journaled m).run c.journaled ms) := by
  obtain ⟨es, he⟩ := journal_step (c := c) s m
  obtain ⟨fs, hf⟩ := journal_run (c := c) (s.step c.journaled m) ms
  have hall := h (es ++ fs) (by rw [run_cons, hf, he, List.append_assoc])
  constructor
  · intro es' he' y hy
    obtain rfl : es = es' := List.append_cancel_left (he.symm.trans he')
    exact hall y (List.mem_append_left _ hy)
  · intro fs' hf' y hy
    obtain rfl : fs = fs' := List.append_cancel_left (hf.symm.trans hf')
    exact hall y (List.mem_append_right _ hy)

theorem OfOthers.evolves {ts us : Threads} {gone : String → Prop} {n : Nat}
    (h : OfOthers x ts n) (he : Threads.Evolves ts us gone) (hn : ts.names.Nodup)
    (hg : ∀ t ∈ ts.all, t.isAlive = true → t.assigned = n → ¬gone t.name) : OfOthers x us n := by
  obtain ⟨t, ht, ha, hi, hx⟩ := h
  obtain ⟨u, hu, hname, -, hua, hui⟩ := he.alive hn ht ha (hg t ht ha hi)
  exact ⟨u, hu, hua, hui.trans hi, hname ▸ hx⟩

theorem OfOthers.ne {ts : Threads} {n : Nat} (h : OfOthers x ts n) (hd : ts.Apart) {t : Thread}
    (ht : t ∈ ts.all) (ha : t.isAlive = true) (hx : t.name = x) : t.assigned ≠ n := by
  rintro rfl
  obtain ⟨u, hu, hua, hui, hne⟩ := h
  exact hne ((hd u hu t ht hua ha hui).trans hx)

/-- No thread ends whose ident the host knows of afterwards: its return made the host forget it. -/
theorem Attended.unended {s : Situation σ} {m : Move} (ha : Attended s m)
    (hn : s.threads.names.Nodup) (hactive : s.host.active = true) {n : Nat}
    (hk : (∃ b, (n, b) ∈ (s.step c m).host.traced) ∨ n ∈ (s.step c m).host.ignored) {t : Thread}
    (ht : t ∈ s.threads.all) (hta : t.isAlive = true) (hi : t.assigned = n) : ¬m.Ends t.name := by
  intro he
  cases m with
  | finish y lowest =>
    obtain rfl : t.name = y := he
    have hf := Threads.find?_of_mem hn ht
    cases lowest with
    | none =>
      rw [(finish_unheard s t.name).1] at hk
      obtain ⟨hnone, hnot⟩ := ha.2 t.name t rfl hf hta
      obtain ⟨b, hb⟩ | hm := hk
      · have hs := Table.get?_isSome_of_mem hb
        rw [← hi, hnone] at hs
        cases hs
      · exact hnot (hi ▸ hm)
    | some f =>
      rw [(finish_heard s t.name f).1] at hk
      obtain ⟨es, hp⟩ := signal_performed (c := c) hf hta .ret f []
      obtain ⟨b, hb⟩ | hm := hk
      · exact Hook.untraced_plan_end (fun _ => hactive) (hp.traced _ hb) hi.symm
      · exact Hook.unignored_plan_end hactive (hp.ignored ▸ hm) hi.symm
  | _ => exact he

theorem Awaits.carry {s : Situation σ} (p : Awaits x a s) (m : Move)
    (hr : Hook.Reserves x a (s.step c m).host)
    (ht : ∀ y ∈ (s.step c m).host.traced, OfOthers x s.threads y.1 ∧
      ∀ t ∈ s.threads.all, t.isAlive = true → t.assigned = y.1 → ¬m.Ends t.name)
    (hi : ∀ n ∈ (s.step c m).host.ignored, OfOthers x s.threads n ∧
      ∀ t ∈ s.threads.all, t.isAlive = true → t.assigned = n → ¬m.Ends t.name) :
    Awaits x a (s.step c m) := by
  have he := step_evolves c p.names m
  refine ⟨names_step c p.names m, hr, fun y hy => ?_, fun n hn => ?_⟩
  · exact (ht y hy).1.evolves he p.names (ht y hy).2
  · exact (hi n hn).1.evolves he p.names (hi n hn).2

section

variable {s : Situation (Journaled σ)}

theorem Awaits.called (p : Awaits x a s) {y : String} {u : Thread}
    (hu : s.threads.find? y = some u) (hua : u.isAlive = true) (what : Hook.Signal) (f : Frame)
    (below : List Frame) (hm : Unheard x s (.signal y what f below))
    (hp : Unpassed x a s (.signal y what f below))
    (hd : Undropped a.target s (s.signal c.journaled y what f below)) :
    Hook.Reserves x a (s.signal c.journaled y what f below).host ∧
      (∀ z ∈ (s.signal c.journaled y what f below).host.traced,
        z ∈ s.host.traced ∨ what = .call ∧ z.1 = u.assigned) ∧
      ∀ n ∈ (s.signal c.journaled y what f below).host.ignored,
        n ∈ s.host.ignored ∨ what = .call ∧ n = u.assigned := by
  obtain ⟨es, pf, hj⟩ := signal_journaled (c := c) hu hua what f below
  have hname : u.name = y := (Threads.mem_of_find? hu).2
  have hx : what = .call → u.caller.thread ≠ x := by
    rintro rfl
    exact fun he => hm u hu hua (hname.symm.trans he)
  obtain ⟨-, -, -, -, hactive⟩ := Hook.plan_others s.threads.isSink u.caller what f below s.host
  refine ⟨?_, fun z hz => ?_, fun n hn => ?_⟩
  · refine pf.reserves (fun y hy => hd es hj y hy) (fun b hb => ?_)
      ⟨(Hook.pending_plan hx).trans p.reserves.1, hactive.trans p.reserves.2⟩
    cases Hook.mem_plan hb with
    | pass hw ho hf hs hk =>
      subst hw
      refine hp u hu hua b ho ?_
      simp [Hook.heir?, hf, hs, hk]
  · exact (Hook.mem_traced_plan (pf.traced z hz)).imp_right fun h => ⟨h.1, h.2.1⟩
  · rw [pf.ignored] at hn
    exact (Hook.mem_ignored_plan hn).imp_right fun hm => ⟨hm.1, hm.2.1⟩

theorem Awaits.signal (p : Awaits x a s) {y : String} {what : Hook.Signal} {f : Frame}
    {below : List Frame} (hm : Unheard x s (.signal y what f below))
    (hp : Unpassed x a s (.signal y what f below))
    (hd : Undropped a.target s (s.step c.journaled (.signal y what f below))) :
    Awaits x a (s.step c.journaled (.signal y what f below)) := by
  obtain he | ⟨u, hu, hua, -⟩ := signal_cases (c := c.journaled) s y what f below
  · have hs : s.step c.journaled (.signal y what f below) = s := he
    rw [hs]
    exact p
  · obtain ⟨hr, ht, hi⟩ := p.called hu hua what f below hm hp hd
    obtain ⟨hmem, hname⟩ := Threads.mem_of_find? hu
    have own : what = .call → OfOthers x s.threads u.assigned := by
      rintro rfl
      exact ⟨u, hmem, hua, rfl, hname ▸ hm u hu hua⟩
    refine p.carry _ hr (fun z hz => ⟨?_, fun _ _ _ _ hg => hg⟩) fun n hn =>
      ⟨?_, fun _ _ _ _ hg => hg⟩
    · obtain hz | ⟨hw, hz⟩ := ht z hz
      · exact p.traced z hz
      · rw [hz]
        exact own hw
    · obtain hn | ⟨hw, rfl⟩ := hi n hn
      · exact p.ignored n hn
      · exact own hw

theorem Awaits.finish (p : Awaits x a s) {y : String} {lowest : Option Frame}
    (ha : Attended s (.finish y lowest))
    (hd : Undropped a.target s (s.step c.journaled (.finish y lowest))) :
    Awaits x a (s.step c.journaled (.finish y lowest)) := by
  have unended := fun n hk t ht hta hi =>
    ha.unended (c := c.journaled) (n := n) (t := t) p.names p.reserves.2 hk ht hta hi
  cases lowest with
  | none =>
    have hh := (finish_unheard (c := c.journaled) s y).1
    refine p.carry _ (hh ▸ p.reserves) (fun z hz => ⟨?_, unended z.1 (.inl ⟨z.2, hz⟩)⟩) fun n hn =>
      ⟨?_, unended n (.inr hn)⟩
    · exact p.traced z (hh ▸ hz)
    · exact p.ignored n (hh ▸ hn)
  | some f =>
    obtain ⟨hh, ho⟩ := finish_heard (c := c.journaled) s y f
    have hd : Undropped a.target s (s.step c.journaled (.signal y .ret f [])) := fun es he =>
      hd es (by rw [ho]; exact he)
    have q : Awaits x a (s.step c.journaled (.signal y .ret f [])) := p.signal trivial trivial hd
    have hths : (s.step c.journaled (.signal y .ret f [])).threads = s.threads := signal_threads ..
    refine p.carry _ (hh ▸ q.reserves) (fun z hz => ⟨?_, unended z.1 (.inl ⟨z.2, hz⟩)⟩) fun n hn =>
      ⟨?_, unended n (.inr hn)⟩
    · exact hths ▸ q.traced z (hh ▸ hz)
    · exact hths ▸ q.ignored n (hh ▸ hn)

theorem Awaits.attach (p : Awaits x a s) {caller : String} {carrier : Carrier} {b : Attachment}
    (hm : Spared x a s (.attach caller carrier b)) :
    Awaits x a (s.step c.journaled (.attach caller carrier b)) := by
  let o := s.calledBy caller
  obtain ⟨active, installed, allThreads, hh⟩ := o.attach_host b carrier
  have hhost : (s.step c.journaled (.attach caller carrier b)).host =
      { (o.attachCarrier carrier b).1 with ignored := [], active, installed, allThreads } := hh
  have hactive := o.attach_active b carrier
  have hpending : (o.attachCarrier carrier b).1.pending.get? x = some a :=
    (o.pending_attachCarrier b carrier hm.1).trans p.reserves.1
  refine p.carry _ ?_ (fun z hz => ⟨?_, fun _ _ _ _ hg => hg⟩) fun n hn => ?_
  · have hw : (s.step c.journaled (.attach caller carrier b)).host.pending.get? x = some a := by
      rw [hhost]
      exact hpending
    exact ⟨hw, hactive.trans (Hook.active_of_pending hw)⟩
  · rw [hhost] at hz
    obtain hz | ⟨-, t, ht, hta, hi, -, hsel⟩ := Observed.mem_traced_attachCarrier hz
    · exact p.traced z hz
    · exact ⟨t, ht, hta, hi, fun hx => hm.2 t ht hx hta hsel⟩
  · rw [hhost] at hn
    cases hn

theorem Awaits.aside (p : Awaits x a s) {m : Move} (hh : (s.step c.journaled m).host = s.host)
    (hm : ∀ y, ¬m.Ends y) : Awaits x a (s.step c.journaled m) := by
  refine p.carry m ?_ (fun z hz => ?_) fun n hn => ?_
  · rw [hh]
    exact p.reserves
  · rw [hh] at hz
    exact ⟨p.traced z hz, fun t _ _ _ => hm t.name⟩
  · rw [hh] at hn
    exact ⟨p.ignored n hn, fun t _ _ _ => hm t.name⟩

/-- One move more, and the thread goes on waiting. -/
theorem Awaits.step (p : Awaits x a s) {m : Move} (ha : Attended s m) (hs : Spared x a s m)
    (hm : Unheard x s m) (hp : Unpassed x a s m)
    (hd : Undropped a.target s (s.step c.journaled m)) :
    Awaits x a (s.step c.journaled m) := by
  cases m with
  | attach caller carrier b => exact p.attach hs
  | clear caller => exact hs.elim
  | signal y what f below => exact p.signal hm hp hd
  | finish y lowest => exact p.finish ha hd
  | forget t =>
    refine p.carry _ (p.reserves.forget hs) (fun z hz => ⟨?_, fun _ _ _ _ hg => hg⟩) fun n hn =>
      ⟨p.ignored n hn, fun _ _ _ _ hg => hg⟩
    exact p.traced z (List.mem_filter.1 hz).1
  | install unit spec localOnly =>
    exact p.carry _ p.reserves (fun z hz => ⟨p.traced z hz, fun _ _ _ _ hg => hg⟩) fun n hn =>
      ⟨p.ignored n hn, fun _ _ _ _ hg => hg⟩
  | launch | start =>
    exact p.aside (by simp only [Situation.step]; split <;> rfl) fun _ hg => hg

theorem Awaits.run (p : Awaits x a s) {ms : List Move} (ha : Along c.journaled Attended s ms)
    (hs : Along c.journaled (Spared x a) s ms) (hm : Along c.journaled (Unheard x) s ms)
    (hp : Along c.journaled (Unpassed x a) s ms)
    (hd : Undropped a.target s (s.run c.journaled ms)) : Awaits x a (s.run c.journaled ms) := by
  induction ms generalizing s with
  | nil => exact p
  | cons m ms ih =>
    obtain ⟨hd, hd'⟩ := hd.of_cons
    exact ih (p.step ha.1 hs.1 hm.1 hp.1 hd) ha.2 hs.2 hm.2 hp.2 hd'

end

end Situation

end ThreadTrace
