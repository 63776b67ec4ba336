import ThreadTrace.Proofs.Profile.Stream
import ThreadTrace.Proofs.Profile.Waiting

namespace ThreadTrace

namespace Hook

variable {isSink : String → Bool} {me : Caller} {what : Signal} {f : Frame} {below : List Frame}
  {h k : ProfileHost} {ds : List Effect} {es : List Entry} {r : Except Fault Unit} {a : Attachment}

theorem own?_of_pending (hn : h.traced.get? me.ident = none) (hi : me.ident ∉ h.ignored)
    (hp : h.pending.get? me.thread = some a) : own? me .call h = some a := by
  rw [own?_of_arriving hn hi, arriving, hp]

theorem Performed.traces (p : Performed ds h r es k) {n : Nat}
    (hd : ∀ y ∈ es, ¬Entry.drops a.target y) (hg : h.traced.get? n = some a) :
    k.traced.get? n = some a := by
  refine p.preserves_of_dropped (P := fun g => g.traced.get? n = some a) ?_ ?_ hg
  · intro g t hm hg
    have ht : t.id ≠ a.target.id := hd _ hm
    exact Table.get?_filter hg (by simpa using fun he => ht he.symm)
  · intro g child b _ hg
    exact hg

theorem Planned.of_carrier {n : Nat} {b : Attachment} {e : Event}
    (p : Planned isSink me what f h (.report n b e))
    (ht : ∀ b, h.traced.get? n = some b → b = a)
    (ho : me.ident = n → ∀ b, own? me what h = some b → b = a) : b = a := by
  cases p with
  | leaving _ hb => exact ht b hb
  | own hb => exact ho rfl b hb

theorem Reported.hands {ident w : Nat} {b : Attachment} {e : Event}
    (p : Reported ident b e h (.ok ()) es k) (he : e.kind.isProfiled = true)
    (hr : b.target.route (.int ident) = .ok (some w)) :
    ∃ z taken, .handed w { e with timestamp := z } taken ∈ es := by
  cases p with
  | withheld _ hn =>
    rw [hn] at he
    cases he
  | unserved hu =>
    rw [hr] at hu
    cases hu
  | taken v z hv | refused v z hv =>
    obtain rfl : w = v := by simpa [hr] using hv
    exact ⟨z, _, List.mem_cons_self⟩

theorem Performed.hands {ident w : Nat} {b : Attachment} {e : Event}
    (p : Performed ds h (.ok ()) es k) (hm : .report ident b e ∈ ds)
    (he : e.kind.isProfiled = true) (hr : b.target.route (.int ident) = .ok (some w)) :
    ∃ z taken, .handed w { e with timestamp := z } taken ∈ es := by
  generalize hx : (.ok () : Except Fault Unit) = x at p
  induction p with
  | done => cases hm
  | report first _ ih =>
    obtain hm | hm := List.mem_cons.1 hm
    · cases hm
      obtain ⟨z, taken, h⟩ := first.hands he hr
      exact ⟨z, taken, List.mem_append_left _ h⟩
    · obtain ⟨z, taken, h⟩ := ih hm hx
      exact ⟨z, taken, List.mem_append_right _ h⟩
  | failed => cases hx
  | pass _ ih =>
    obtain hm | hm := List.mem_cons.1 hm
    · cases hm
    · exact ih hm hx

end Hook

namespace Situation

variable {σ : Type} {c : HookEnv σ} {x : String} {n : Nat} {a : Attachment}

def Lasting (x : String) : Move → Prop
  | .finish y _ => y ≠ x
  | .signal y .ret _ [] => y ≠ x
  | _ => True

/-- All events of a carrier that the journal gains were handed to the worker that a target has for
it. -/
def Forwarded (n : Nat) (t : Target) (s s' : Situation (Journaled σ)) : Prop :=
  ∀ es, s'.outside.journal = s.outside.journal ++ es →
    ∀ w e taken, .handed w e taken ∈ es → e.carrier = (n : Int) →
      t.route (.int n) = .ok (some w)

/-- All that a callback plans to report on a carrier is for one attachment, and if the callback is done
to the end, it is handed to the worker that the target has for the carrier. -/
def Delivered (c : HookEnv σ) (n : Nat) (a : Attachment) (s : Situation (Journaled σ)) (u : Thread)
    (what : Hook.Signal) (f : Frame) (below : List Frame) : Prop :=
  ∀ b e, .report n b e ∈ (Hook.plan s.threads.isSink u.caller what f below s.host).2 →
    b = a ∧ ((s.callback c.journaled u what f below).1 = .ok () →
      ∀ w, a.target.route (.int n) = .ok (some w) →
        ∀ es, (s.signal c.journaled u.name what f below).outside.journal = s.outside.journal ++ es →
          ∃ z taken, .handed w { e with timestamp := z } taken ∈ es)

structure Registered (x : String) (n : Nat) (a : Attachment) (s : Situation σ) : Prop where
  names : s.threads.names.Nodup
  present : ∃ u, s.threads.find? x = some u ∧ u.isAlive = true ∧ u.assigned = n
  traced : s.host.traced.get? n = some a
  listens : Hook.Listens s.host

/-- A thread that is yet to start is given an attachment by its name, and until its first call nobody
attaches it anew and nothing takes the attachment back. -/
structure Outstanding (c : HookEnv σ) (s : Situation (Journaled σ)) (caller x : String)
    (a : Attachment) (mid : List Move) : Prop where
  unstarted : ∃ t, s.threads.find? x = some t ∧ t.ident? = none ∧ t.isSink = false
  spared : Along c.journaled (Spared x a) (s.step c.journaled (.attach caller (.thread x) a)) mid
  unheard : Along c.journaled (Unheard x) (s.step c.journaled (.attach caller (.thread x) a)) mid
  undropped : Undropped a.target (s.step c.journaled (.attach caller (.thread x) a))
    ((s.step c.journaled (.attach caller (.thread x) a)).run c.journaled mid)

section

variable {s : Situation (Journaled σ)}

theorem Forwarded.quiet {s' : Situation (Journaled σ)} {t : Target}
    (hj : s'.outside.journal = s.outside.journal) : Forwarded n t s s' := by
  intro es he w e taken hm
  obtain rfl : es = [] := List.append_cancel_left (he.symm.trans (hj.trans (List.append_nil _).symm))
  cases hm

theorem forwarded_signal (ht : ∀ b, s.host.traced.get? n = some b → b = a) (y : String)
    (what : Hook.Signal) (f : Frame) (below : List Frame)
    (ho : ∀ u, s.threads.find? y = some u → u.isAlive = true → u.assigned = n →
      ∀ b, Hook.own? u.caller what s.host = some b → b = a) :
    Forwarded n a.target s (s.signal c.journaled y what f below) := by
  obtain he | ⟨u, hu, hua, -⟩ := signal_cases (c := c.journaled) s y what f below
  · exact .quiet (congrArg (·.outside.journal) he)
  · obtain ⟨fs, hp, hj⟩ := signal_journaled (c := c) hu hua what f below
    intro es he w e taken hm hc
    obtain rfl : fs = es := List.append_cancel_left (hj.symm.trans he)
    obtain ⟨ident, b, e', z, hd, rfl, hr⟩ := hp.handed hm
    have pl := Hook.mem_plan hd
    obtain rfl : ident = n := Int.ofNat_inj.1 (pl.proper.1.symm.trans hc)
    exact pl.of_carrier ht (ho u hu hua) ▸ hr

theorem delivered_signal (ht : ∀ b, s.host.traced.get? n = some b → b = a) {u : Thread}
    (hu : s.threads.find? u.name = some u) (hua : u.isAlive = true) (what : Hook.Signal) (f : Frame)
    (below : List Frame)
    (ho : u.assigned = n → ∀ b, Hook.own? u.caller what s.host = some b → b = a) :
    Delivered c n a s u what f below := by
  intro b e hm
  have pl := Hook.mem_plan hm
  obtain rfl := pl.of_carrier ht ho
  refine ⟨rfl, fun hr w hw es he => ?_⟩
  obtain ⟨fs, hp, hj⟩ := signal_journaled (c := c) hu hua what f below
  obtain rfl : fs = es := List.append_cancel_left (hj.symm.trans he)
  rw [hr] at hp
  exact hp.hands hm pl.proper.2 hw

theorem Registered.signal (p : Registered x n a s) (hap : s.threads.Apart) {y : String}
    (what : Hook.Signal) (f : Frame) (below : List Frame) (hl : what = .ret → below = [] → y ≠ x)
    (hd : Undropped a.target s (s.signal c.journaled y what f below)) :
    (s.signal c.journaled y what f below).host.traced.get? n = some a := by
  obtain he | ⟨u, hu, hua, -⟩ := signal_cases (c := c.journaled) s y what f below
  · rw [he]
    exact p.traced
  · obtain ⟨es, hp, hj⟩ := signal_journaled (c := c) hu hua what f below
    refine hp.traces (fun z hz => hd es hj z hz) ?_
    obtain ⟨v, hv, hva, rfl⟩ := p.present
    obtain ⟨hmem, hname⟩ := Threads.mem_of_find? hu
    obtain ⟨hvmem, hvname⟩ := Threads.mem_of_find? hv
    -- live threads differ in their idents: a callback under this one is the thread's own
    by_cases hn : u.assigned = v.assigned
    · have hyx : y = x := hname.symm.trans ((hap u hmem v hvmem hua hva hn).trans hvname)
      have ho : Hook.own? u.caller what s.host = some a :=
        Hook.own?_of_traced ((congrArg s.host.traced.get? hn).trans p.traced)
      rw [← hn]
      exact Hook.traced_plan_own (active_of_listens p.listens p.traced) ho
        fun hw hb => hl hw hb hyx
    · rw [Hook.traced_plan_other (show u.caller.ident ≠ v.assigned from hn)]
      exact p.traced

theorem Registered.attach (p : Registered x n a s) (hap : s.threads.Apart) {caller : String}
    {carrier : Carrier} {b : Attachment} (hs : Spared x a s (.attach caller carrier b)) :
    (s.step c.journaled (.attach caller carrier b)).host.traced.get? n = some a := by
  obtain ⟨active, installed, allThreads, hh⟩ := (s.calledBy caller).attach_host b carrier
  change ((s.calledBy caller).attach carrier b).1.host.traced.get? n = some a
  rw [hh]
  obtain hg | ⟨-, u, hu, hua, hun, -, hsel⟩ := (s.calledBy caller).traced_attachCarrier b carrier n
  · exact hg.trans p.traced
  · obtain ⟨v, hv, hva, rfl⟩ := p.present
    obtain ⟨hvmem, hvname⟩ := Threads.mem_of_find? hv
    exact absurd hsel (hs.2 u hu ((hap u hu v hvmem hua hva hun).trans hvname) hua)

theorem Registered.traced_step (p : Registered x n a s) {m : Move} (ha : Attended s m)
    (hs : Spared x a s m) (hl : Lasting x m) (hd : Undropped a.target s (s.step c.journaled m)) :
    (s.step c.journaled m).host.traced.get? n = some a := by
  cases m with
  | attach caller carrier b => exact p.attach ha.1 hs
  | clear => exact hs.elim
  | install => exact p.traced
  | forget t => exact Table.get?_filter p.traced (by simpa using fun he => hs he.symm)
  | launch | start =>
    simp only [step]
    split <;> exact p.traced
  | signal y what f below =>
    refine p.signal ha.1 what f below ?_ hd
    rintro rfl rfl
    exact hl
  | finish y lowest =>
    cases lowest with
    | none =>
      rw [(finish_unheard s y).1]
      exact p.traced
    | some f =>
      obtain ⟨hh, ho⟩ := finish_heard (c := c.journaled) s y f
      rw [Undropped, ho] at hd
      rw [hh]
      exact p.signal ha.1 .ret f [] (fun _ _ => hl) hd

theorem Registered.step (p : Registered x n a s) {m : Move} (ha : Attended s m)
    (hs : Spared x a s m) (hl : Lasting x m) (hd : Undropped a.target s (s.step c.journaled m)) :
    Registered x n a (s.step c.journaled m) := by
  refine ⟨names_step _ p.names m, ?_, p.traced_step ha hs hl hd, listens_step p.listens m⟩
  obtain ⟨u, hu, hua, hun⟩ := p.present
  obtain ⟨v, hv, -, -, hk⟩ := (step_evolves c.journaled p.names m).find? hu
  have he : ¬m.Ends u.name := by
    rw [(Threads.mem_of_find? hu).2]
    intro he
    cases m with
    | finish y lowest => exact hl he.symm
    | _ => exact he
  exact ⟨v, hv, (hk hua he).1, (hk hua he).2.trans hun⟩

theorem Registered.run (p : Registered x n a s) {ms : List Move}
    (ha : Along c.journaled Attended s ms) (hs : Along c.journaled (Spared x a) s ms)
    (hl : ∀ m ∈ ms, Lasting x m) (hd : Undropped a.target s (s.run c.journaled ms)) :
    Registered x n a (s.run c.journaled ms) := by
  induction ms generalizing s with
  | nil => exact p
  | cons m ms ih =>
    obtain ⟨hd, hd'⟩ := hd.of_cons
    exact ih (p.step ha.1 hs.1 (hl m List.mem_cons_self) hd) ha.2 hs.2
      (fun m hm => hl m (List.mem_cons_of_mem _ hm)) hd'

theorem Registered.only (p : Registered x n a s) {b : Attachment}
    (hb : s.host.traced.get? n = some b) : b = a := Option.some.inj (hb.symm.trans p.traced)

theorem Registered.own (p : Registered x n a s) {u : Thread} {what : Hook.Signal}
    (hn : u.assigned = n) {b : Attachment} (hb : Hook.own? u.caller what s.host = some b) : b = a := by
  have hg : s.host.traced.get? u.caller.ident = some a :=
    (congrArg s.host.traced.get? hn).trans p.traced
  exact Option.some.inj (hb.symm.trans (Hook.own?_of_traced hg))

theorem Registered.forwarded (p : Registered x n a s) (m : Move) :
    Forwarded n a.target s (s.step c.journaled m) := by
  cases m with
  | attach | clear | install | forget => exact .quiet rfl
  | launch | start =>
    simp only [Situation.step]
    split <;> exact .quiet rfl
  | signal y what f below =>
    exact forwarded_signal (fun _ => p.only) y what f below fun _ _ _ hn _ => p.own hn
  | finish y lowest =>
    cases lowest with
    | none => exact .quiet (congrArg Journaled.journal (finish_unheard s y).2)
    | some f =>
      rw [Forwarded, (finish_heard s y f).2]
      exact forwarded_signal (fun _ => p.only) y .ret f [] fun _ _ _ hn _ => p.own hn

theorem Registered.delivered (p : Registered x n a s) {u : Thread} (hu : u ∈ s.threads.all)
    (hua : u.isAlive = true) (what : Hook.Signal) (f : Frame) (below : List Frame) :
    Delivered c n a s u what f below :=
  delivered_signal (fun _ => p.only) (Threads.find?_of_mem p.names hu) hua what f below
    fun hn _ => p.own hn

theorem Awaits.asked (hn : s.threads.names.Nodup) {caller : String} {t : Thread}
    (ht : s.threads.find? x = some t) (hi : t.ident? = none) (hs : t.isSink = false)
    (hk : ∀ y ∈ s.host.traced, ∃ u ∈ s.threads.all, u.isAlive = true ∧ u.assigned = y.1) :
    Awaits x a (s.step c.journaled (.attach caller (.thread x) a)) := by
  let o := s.calledBy caller
  obtain ⟨active, installed, allThreads, hh⟩ := o.attach_host a (.thread x)
  have hhost : (s.step c.journaled (.attach caller (.thread x) a)).host =
      { s.host with
        pending := s.host.pending.put x a, ignored := [], active, installed, allThreads } := by
    have hput : (o.attachCarrier (.thread x) a).1 =
        { s.host with pending := s.host.pending.put x a } := by
      have ho : o.threads.find? x = some t := ht
      simp only [Observed.attachCarrier, Observed.attachThread, ho, hs, hi]
      rfl
    rw [hput] at hh
    exact hh
  have hp : (s.step c.journaled (.attach caller (.thread x) a)).host.pending.get? x = some a := by
    rw [hhost]
    simp [Table.get?_put]
  refine ⟨names_step _ hn _, ⟨hp, ?_⟩, fun y hy => ?_, fun n hm => ?_⟩
  · exact (o.attach_active a (.thread x)).trans (Hook.active_of_pending hp)
  · rw [hhost] at hy
    obtain ⟨u, hu, hua, hun⟩ := hk y hy
    have hx : u.name ≠ x := by
      rintro rfl
      obtain rfl := Option.some.inj (ht.symm.trans (Threads.find?_of_mem hn hu))
      cases hst : t.state <;> simp [Thread.isAlive, Thread.ident?, hst] at hua hi
    exact OfOthers.evolves ⟨u, hu, hua, hun, hx⟩ (step_evolves c.journaled hn _) hn
      fun _ _ _ _ hg => hg
  · rw [hhost] at hm
    cases hm

/-- The first call of a thread that waits finds its attachment. -/
theorem Awaits.own (p : Awaits x a s) (hap : s.threads.Apart) {u : Thread}
    (hu : s.threads.find? x = some u) (hua : u.isAlive = true) :
    s.host.traced.get? u.assigned = none ∧ Hook.own? u.caller .call s.host = some a := by
  obtain ⟨hmem, rfl⟩ := Threads.mem_of_find? hu
  have hn : s.host.traced.get? u.assigned = none := by
    refine Option.eq_none_iff_forall_ne_some.2 fun b hb => ?_
    exact (p.traced _ (Table.mem_of_get? hb)).ne hap hmem hua rfl rfl
  refine ⟨hn, Hook.own?_of_pending hn (fun hi => ?_) p.reserves.1⟩
  exact (p.ignored _ hi).ne hap hmem hua rfl rfl

theorem Awaits.registered (p : Awaits x a s) (hap : s.threads.Apart) {u : Thread}
    (hu : s.threads.find? x = some u) (hua : u.isAlive = true) {f : Frame} {below : List Frame}
    (hd : Undropped a.target s (s.step c.journaled (.signal x .call f below))) :
    Registered x u.assigned a (s.step c.journaled (.signal x .call f below)) := by
  have hths : (s.step c.journaled (.signal x .call f below)).threads = s.threads :=
    signal_threads ..
  obtain ⟨es, hp, hj⟩ := signal_journaled (c := c) hu hua .call f below
  refine ⟨names_step _ p.names _, ⟨u, hths ▸ hu, hua, rfl⟩, ?_,
    listens_step (fun _ => p.reserves.2) _⟩
  refine hp.traces (fun z hz => hd es hj z hz) ?_
  exact Hook.traced_plan_own p.reserves.2 (p.own hap hu hua).2 (by simp)

end

/-- A thread that was given an attachment by name before its start is registered with it by its first
call, whoever starts it and whoever else is waited for, and its events go to its target from then on.
This takes that live threads differ in their idents, that a thread which the host has looked at ends
with a return which reaches the hook, and that nobody who starts the thread passes another attachment
on to it. -/
theorem carrier_honoured {ts : Threads} {o : σ} (hn : ts.names.Nodup) {pre mid : List Move}
    {caller : String} {f : Frame} {below : List Frame} {u : Thread} :
    let s := (fresh ts ⟨o, []⟩).run c.journaled pre
    let asked := s.step c.journaled (.attach caller (.thread x) a)
    let ready := asked.run c.journaled mid
    let called := ready.step c.journaled (.signal x .call f below)
    Outstanding c s caller x a mid →
    Along c.journaled Attended (fresh ts ⟨o, []⟩)
      (pre ++ .attach caller (.thread x) a :: mid ++ [.signal x .call f below]) →
    Along c.journaled (Unpassed x a) asked mid →
    ready.threads.find? x = some u → u.isAlive = true →
    Hook.own? u.caller .call ready.host = some a ∧
      Forwarded u.assigned a.target ready called ∧
      Delivered c u.assigned a ready u .call f below ∧
      (Undropped a.target ready called →
        called.host.traced.get? u.assigned = some a ∧
          ∀ post : List Move,
            Along c.journaled Attended called post →
            Along c.journaled (Spared x a) called post →
            (∀ m ∈ post, Lasting x m) →
            Undropped a.target called (called.run c.journaled post) →
            let later := called.run c.journaled post
            later.host.traced.get? u.assigned = some a ∧
              (∀ m, Forwarded u.assigned a.target later (later.step c.journaled m)) ∧
              ∀ v ∈ later.threads.all, v.isAlive = true → ∀ what f below,
                Delivered c u.assigned a later v what f below) := by
  intro s asked ready called hr ha hp hu hua
  obtain ⟨ha, hcall, -⟩ := along_append.1 ha
  obtain ⟨hpre, hattach, hmid⟩ := along_append.1 ha
  have hacc := Accounted.run (c := c.journaled) (o := ⟨o, []⟩) hn pre
    (Orderly.of_attended (along_append.2 ⟨hpre, hattach, trivial⟩))
  have hap : ready.threads.Apart := by
    rw [run_append] at hcall
    exact hcall.1
  obtain ⟨t, ht, hi, hs⟩ := hr.unstarted
  -- before the request only the idents of live threads are traced, and none of them is this one
  have hasked : Awaits x a asked := by
    refine .asked hacc.names ht hi hs fun y hy => ?_
    obtain ⟨v, hv, hva, hvn, -⟩ := hacc.traced y hy
    exact ⟨v, hv, hva, hvn⟩
  have hready : Awaits x a ready := hasked.run hmid hr.spared hr.unheard hp hr.undropped
  obtain ⟨hnone, hown⟩ := hready.own hap hu hua
  have untraced : ∀ b, ready.host.traced.get? u.assigned = some b → b = a := by
    intro b hb
    rw [hnone] at hb
    cases hb
  refine ⟨hown, ?_, ?_, fun hd => ?_⟩
  · refine forwarded_signal untraced x .call f below fun v hv _ _ b hb => ?_
    obtain rfl : u = v := Option.some.inj (hu.symm.trans hv)
    exact Option.some.inj (hb.symm.trans hown)
  · obtain ⟨-, rfl⟩ := Threads.mem_of_find? hu
    exact delivered_signal untraced hu hua .call f below fun _ b hb =>
      Option.some.inj (hb.symm.trans hown)
  · have hreg : Registered x u.assigned a called := hready.registered hap hu hua hd
    refine ⟨hreg.traced, fun post hpost hspared hlasting hundropped => ?_⟩
    have hlater := hreg.run hpost hspared hlasting hundropped
    exact ⟨hlater.traced, hlater.forwarded, fun v hv hva => hlater.delivered hv hva⟩

def parental (flags : Flags) : Attachment := ⟨flags, .ofWorkers 1 .trace [6]⟩

def parent (flags : Flags) : List Move :=
  [.install "app" .passThrough true, .attach "main" (.thread "main") (parental flags)]

def birth : List Move :=
  [.attach "main" (.selector .new) (parental {}),
    .signal "main" .call (.start (.thread "child")) [], .start "child" 7]

def born (flags : Flags) : Situation (Journaled Unit) :=
  (fresh .family ⟨(), []⟩).run (HookEnv.answering true).journaled
    (parent flags ++ .attach "main" (.thread "child") basic :: birth)

theorem Undropped.of_all {s s' : Situation (Journaled σ)} {t : Target}
    (h : s'.outside.journal.all (fun
      | .handed .. => true
      | .dropped _ => false) = true) : Undropped t s s' := by
  intro es he y hy hd
  have hall := List.all_eq_true.1 h y (he ▸ List.mem_append_right _ hy)
  cases y with
  | handed => exact hd
  | dropped => cases hall

theorem outstanding_birth {flags : Flags} (hf : flags = {} ∨ flags = { setOnSpawn := true }) :
    Outstanding (.answering true)
      ((fresh .family ⟨(), []⟩).run (HookEnv.answering true).journaled (parent flags)) "main" "child"
      basic birth := by
  have hnew : ∀ t : Thread, ¬(Carrier.selector .new).selects t := fun _ =>
    show ¬Selector.new.coversExisting = true by decide
  refine ⟨⟨{ name := "child", assigned := 7 }, by rfl, rfl, rfl⟩,
    ⟨⟨by simp, fun t _ _ _ => hnew t⟩, trivial, trivial, trivial⟩, ⟨trivial, ?_, trivial, trivial⟩, ?_⟩
  · intro _ _ _
    decide
  · rcases hf with rfl | rfl <;> exact .of_all (by rfl)

theorem attended_birth {flags : Flags} (hf : flags = {} ∨ flags = { setOnSpawn := true }) :
    Along (HookEnv.answering true).journaled Attended (fresh .family ⟨(), []⟩)
      (parent flags ++ .attach "main" (.thread "child") basic :: birth ++
        [.signal "child" .call (inApp "work") []]) := by
  rcases hf with rfl | rfl
  all_goals
    refine ⟨⟨?_, by simp⟩, ⟨?_, by simp⟩, ⟨?_, by simp⟩, ⟨?_, by simp⟩, ⟨?_, by simp⟩, ⟨?_, by simp⟩,
      ⟨?_, by simp⟩, trivial⟩ <;> decide

theorem unpassed_birth :
    Along (HookEnv.answering true).journaled (Unpassed "child" basic)
      (((fresh .family ⟨(), []⟩).run (HookEnv.answering true).journaled (parent {})).step
        (HookEnv.answering true).journaled (.attach "main" (.thread "child") basic)) birth := by
  refine ⟨trivial, fun t ht _ b hb hh => ?_, trivial, trivial⟩
  obtain rfl : { name := "main", assigned := 1, state := .alive, hooked := true } = t :=
    Option.some.inj ht
  obtain rfl : parental {} = b := Option.some.inj hb
  cases hh

theorem carrier_honoured_child :
    let called := (born {}).step (HookEnv.answering true).journaled
      (.signal "child" .call (inApp "work") [])
    let later := called.run (HookEnv.answering true).journaled
      [.signal "child" .call (inApp "help") [inApp "work"]]
    Hook.own? ⟨7, "child", false⟩ .call (born {}).host = some basic ∧
      (∃ e taken, .handed 5 e taken ∈ called.outside.journal) ∧
      called.host.traced.get? 7 = some basic ∧ later.host.traced.get? 7 = some basic ∧
        ∀ m, Forwarded 7 basic.target later (later.step (HookEnv.answering true).journaled m) := by
  intro called later
  have h := carrier_honoured (c := .answering true) (o := ()) (a := basic)
    (u := { name := "child", assigned := 7, state := .alive, hooked := true }) (by decide)
    (outstanding_birth (.inl rfl)) (attended_birth (.inl rfl)) unpassed_birth (by rfl) (by rfl)
  obtain ⟨hown, -, hdelivered, h⟩ := h
  obtain ⟨z, taken, hm⟩ := (hdelivered basic _ (List.mem_singleton.2 rfl)).2 (by rfl) 5 (by rfl)
    called.outside.journal (by rfl)
  obtain ⟨hcalled, h⟩ := h (.of_all (by rfl))
  obtain ⟨hlater, hnext, -⟩ := h [.signal "child" .call (inApp "help") [inApp "work"]]
    ⟨⟨by decide, by simp⟩, trivial⟩ ⟨trivial, trivial⟩ (by simp [Lasting]) (.of_all (by rfl))
  exact ⟨hown, ⟨_, taken, hm⟩, hcalled, hlater, hnext⟩

/-- Whether the first call of a thread that was asked for by name finds its attachment in every run
in which something that is promised holds of each move. -/
def Honours (P : String → Attachment → Situation (Journaled Unit) → Move → Prop) : Prop :=
  ∀ (ts : Threads) (pre mid : List Move) (caller x : String) (a : Attachment) (f : Frame)
    (below : List Frame) (u : Thread),
    let s := (fresh ts ⟨(), []⟩).run (HookEnv.answering true).journaled pre
    let asked := s.step (HookEnv.answering true).journaled (.attach caller (.thread x) a)
    let ready := asked.run (HookEnv.answering true).journaled mid
    ts.names.Nodup → Outstanding (.answering true) s caller x a mid →
      Along (HookEnv.answering true).journaled (P x a) (fresh ts ⟨(), []⟩)
        (pre ++ .attach caller (.thread x) a :: mid ++ [.signal x .call f below]) →
      ready.threads.find? x = some u → u.isAlive = true →
        Hook.own? u.caller .call ready.host = some a

def successive : Threads where
  all := [{ name := "main", assigned := 1, state := .alive }, { name := "child", assigned := 7 },
    { name := "old", assigned := 7, state := .alive }]

/-- A traced thread that starts another passes its attachment on in place of the one that was asked
for; and where a traced thread ends unheard, the next one with its ident is taken for it. -/
theorem carrier_overridden :
    ¬Honours (fun _ _ => Attended) ∧
      ¬Honours (fun x a s m => s.threads.Apart ∧ Unpassed x a s m) := by
  constructor
  · intro h
    have hown := h .family (parent { setOnSpawn := true }) birth "main" "child" basic (inApp "work")
      [] { name := "child", assigned := 7, state := .alive, hooked := true } (by decide)
      (outstanding_birth (.inr rfl)) (attended_birth (.inr rfl)) (by rfl) (by rfl)
    have hpassed : Hook.own? ⟨7, "child", false⟩ .call (born { setOnSpawn := true }).host =
        some (parental { setOnSpawn := true }) := by rfl
    have he : parental { setOnSpawn := true } = basic := Option.some.inj (hpassed.symm.trans hown)
    simp [parental, basic, Target.ofWorkers] at he
  · intro h
    have hown := h successive [.attach "old" (.thread "old") (parental {})]
      [.finish "old" none, .start "child" 7] "main" "child" basic (inApp "work") []
      { name := "child", assigned := 7, state := .alive, hooked := true } (by decide)
      ⟨⟨{ name := "child", assigned := 7 }, by rfl, rfl, rfl⟩, ⟨trivial, trivial, trivial⟩,
        ⟨trivial, trivial, trivial⟩, .of_all (by rfl)⟩
      ⟨⟨by decide, trivial⟩, ⟨by decide, trivial⟩, ⟨by decide, trivial⟩, ⟨by decide, trivial⟩,
        ⟨by decide, fun t ht _ b hb hh => ?_⟩, trivial⟩ (by rfl) (by rfl)
    · have he : parental {} = basic := Option.some.inj hown
      simp [parental, basic, Target.ofWorkers] at he
    · simp [Hook.heir?, Hook.started?, inApp] at hh

end Situation

end ThreadTrace
