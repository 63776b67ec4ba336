import ThreadTrace.Proofs.Profile.Switching
import ThreadTrace.Proofs.Profile.Waiting

namespace ThreadTrace

def Event.untimed (e : Event) : Event := { e with timestamp := none }

def Entry.taken? : Entry → Option Event
  | .handed _ e true => some e.untimed
  | _ => none

def Entry.switch? (x : Entry) : Option Switch := x.taken?.bind Event.switch?

def lastSwitch (es : List Entry) : Option Switch := (es.filterMap Entry.switch?).getLast?

/-- Switches are asked for, and there is a worker for every thread. -/
structure Attachment.Watching (a : Attachment) : Prop where
  running : a.flags.running = true
  served : ∀ n : Nat, ∃ w, a.target.route (.int n) = .ok (some w)

def ProfileHost.Watchful (h : ProfileHost) : Prop := ∀ b ∈ h.held, b.Watching ∧ h.active = true

/-- What turning to a thread is to report: the thread before goes out if it is still traced, and this
one comes in. -/
def ProfileHost.turnTo (h : ProfileHost) (before : Option Nat) (n : Nat) : List Switch :=
  if before = some n then []
  else ((before.filter fun p => (h.traced.get? p).isSome).map Switch.out).toList ++ [.into n]

namespace Hook

open ProfileHost

variable {isSink : String → Bool} {me : Caller} {what : Signal} {f : Frame} {below : List Frame}
  {h k : ProfileHost} {ds rest : List Effect} {es : List Entry} {r : Except Fault Unit}

def Effect.event? : Effect → Option Event
  | .report _ _ e => some e.untimed
  | .pass .. => none

theorem Performed.taken (p : Performed ds h r es k)
    (hd : ∀ n b e, .report n b e ∈ ds → e.kind.isProfiled = true ∧
      ∃ w, b.target.route (.int n) = .ok (some w))
    (hk : ∀ w e, .handed w e false ∉ es) :
    es.map Entry.taken? = (ds.filterMap Effect.event?).map some := by
  have reported : ∀ {n b e h r es k}, Reported n b e h r es k →
      (e.kind.isProfiled = true ∧ ∃ w, b.target.route (.int n) = .ok (some w)) →
      (∀ w e, .handed w e false ∉ es) → r = .ok () ∧ es.map Entry.taken? = [some e.untimed] := by
    rintro n b e h r es k first ⟨hp, w, hw⟩ hk
    cases first with
    | withheld _ he =>
      rw [he] at hp
      cases hp
    | astray f hr =>
      rw [hw] at hr
      cases hr
    | unserved hr =>
      rw [hw] at hr
      cases hr
    | taken v x hr => exact ⟨rfl, rfl⟩
    | refused v x hr => exact absurd List.mem_cons_self (hk v _)
  induction p with
  | done => rfl
  | report first _ ih =>
    obtain ⟨-, h1⟩ := reported first (hd _ _ _ List.mem_cons_self)
      fun w e hm => hk w e (List.mem_append_left _ hm)
    have h2 := ih (fun n b e hm => hd n b e (List.mem_cons_of_mem _ hm))
      fun w e hm => hk w e (List.mem_append_right _ hm)
    rw [List.map_append, h1, h2]
    rfl
  | failed first =>
    obtain ⟨hr, -⟩ := reported first (hd _ _ _ List.mem_cons_self) hk
    cases hr
  | pass _ ih => exact ih (fun n b e hm => hd n b e (List.mem_cons_of_mem _ hm)) hk

theorem undropped_of_taken (hs : es.map Entry.taken? = (ds.filterMap Effect.event?).map some)
    (t : Target) : .dropped t ∉ es := by
  intro hm
  have hn : none ∈ es.map Entry.taken? := List.mem_map.2 ⟨_, hm, rfl⟩
  rw [hs] at hn
  obtain ⟨e, -, he⟩ := List.mem_map.1 hn
  cases he

theorem lastIdent_plan (hw : h.Watchful) :
    (plan isSink me what f below h).1.lastIdent =
      if what = .call ∧ (own? me .call h).isSome then some me.ident else h.lastIdent := by
  have hown : ∀ a, own? me .call h = some a → a.Watching ∧ h.active = true := fun a ha =>
    hw a (own?_mem_held ha)
  unfold plan
  cases ha : h.active with
  | false =>
    have hn : ¬(what = .call ∧ (own? me .call h).isSome = true) := by
      rintro ⟨-, ho⟩
      obtain ⟨a, ho⟩ := Option.isSome_iff_exists.1 ho
      obtain ⟨-, hc⟩ := hown a ho
      rw [ha] at hc
      cases hc
    rw [if_neg hn]
    rfl
  | true =>
    cases what with
    | other => rfl
    | ret =>
      obtain ⟨_, _, _, -, he⟩ := planReturn_host me f below.head? h
      simp only [if_true, he]
      rfl
    | call =>
      obtain ⟨traced, pending, hooked, ignored, hs⟩ := settle_others me h
      have hl : (settle me h).2.lastIdent = h.lastIdent := by rw [hs]
      simp only [if_true, planCall, own?, true_and] at hown ⊢
      generalize settle me h = x at hown hl
      obtain ⟨own, g⟩ := x
      cases own with
      | none => exact hl
      | some a => simp [(hown a rfl).1.running]

/-- Where all attachments ask for switches, a callback that makes the running thread the one heard of
last reports all that turning to it calls for. -/
theorem Turns.switches {last : Option Nat} (p : Turns me h ds last) (hw : h.Watchful) :
    (ds.filterMap Effect.event?).map Event.switch? =
      (if last = some me.ident then h.turnTo h.lastIdent me.ident else []).map some := by
  cases p with
  | stays =>
    split
    · rename_i hl
      rw [turnTo, if_pos hl]
      rfl
    · rfl
  | comes a hn =>
    rw [if_pos rfl, turnTo, if_neg hn, List.filterMap_append, List.map_append, List.map_append]
    congr 1
    obtain ⟨hl, hp⟩ | ⟨p, b, hp, hb, -, hl⟩ := leaving_cases h
    · have hnone : (h.lastIdent.filter fun p => (h.traced.get? p).isSome) = none := by
        refine Option.filter_eq_none_iff.2 fun p hq ht => ?_
        obtain ⟨b, hb⟩ := Option.isSome_iff_exists.1 ht
        have hr := (hw b (mem_held_of_traced hb)).1.running
        rw [hp p b hq hb] at hr
        cases hr
      rw [hl, hnone]
      rfl
    · rw [hl, hp, Option.filter_some, if_pos (by rw [hb]; rfl)]
      rfl

theorem Besides.switches (hr : ∀ d ∈ rest, Besides what d) :
    ∃ k, (rest.filterMap Effect.event?).map Event.switch? = List.replicate k none := by
  refine ⟨_, List.eq_replicate_iff.2 ⟨rfl, fun x hx => ?_⟩⟩
  obtain ⟨e, he, rfl⟩ := List.mem_map.1 hx
  obtain ⟨d, hd, hde⟩ := List.mem_filterMap.1 he
  cases d with
  | pass => cases hde
  | report n a e' =>
    cases hde
    exact (hr _ hd).switch?

theorem plan_switches (isSink : String → Bool) (me : Caller) (what : Signal) (f : Frame)
    (below : List Frame) (hw : h.Watchful) :
    ∃ k, ((plan isSink me what f below h).2.filterMap Effect.event?).map Event.switch? =
      (if what = .call ∧ (own? me .call h).isSome then h.turnTo h.lastIdent me.ident else []).map
        some ++ List.replicate k none := by
  obtain ⟨ds, rest, hd, hrest, ht⟩ := plan_turns isSink me what f below h
  obtain ⟨k, hk⟩ := Besides.switches hrest
  have hs := ht.switches hw
  rw [lastIdent_plan hw] at hs
  refine ⟨k, ?_⟩
  rw [hd, List.filterMap_append, List.map_append, hk, hs]
  congr 2
  by_cases hc : what = .call ∧ (own? me .call h).isSome
  · rw [if_pos hc, if_pos hc, if_pos rfl]
  · rw [if_neg hc, if_neg hc]
    split
    · rename_i hl
      rw [turnTo, if_pos hl]
    · rfl

/-- A call is reported of a traced thread that calls, a return and an end at a return. -/
theorem plan_reports {n : Nat} {a : Attachment} {e : Event}
    (hm : .report n a e ∈ (plan isSink me what f below h).2) :
    (e.kind = .call → what = .call ∧ (own? me .call h).isSome ∧ e.carrier = me.ident) ∧
      (e.kind = .returnTo ∨ e.kind = .exit → what = .ret) := by
  have hp := mem_plan hm
  obtain ⟨ds, rest, hd, hrest, ht⟩ := plan_turns isSink me what f below h
  rw [hd] at hm
  generalize (plan isSink me what f below h).1.lastIdent = last at ht
  obtain hm | hm := List.mem_append.1 hm
  · have hk : e.kind = .scheduledOut ∨ e.kind = .scheduledIn := by
      cases ht with
      | stays => cases hm
      | comes b hn =>
        obtain hm | hm := List.mem_append.1 hm
        · obtain ⟨p, b, -, -, he⟩ := mem_leaving hm
          cases he
          exact .inl rfl
        · cases List.mem_singleton.1 hm
          exact .inr rfl
    obtain hk | hk := hk <;> simp [hk]
  · cases hrest _ hm with
    | call hk =>
      refine ⟨fun _ => ?_, fun hr => by simp [hk] at hr⟩
      cases hp with
      | leaving => cases hk
      | own ha hc => exact ⟨rfl, by rw [ha]; rfl, hc⟩
    | ret hk => exact ⟨fun hc => by simp [hc] at hk, fun _ => rfl⟩

theorem routes_plan (hw : h.Watchful) (n : Nat) (b : Attachment) (e : Event)
    (hm : .report n b e ∈ (plan isSink me what f below h).2) :
    e.kind.isProfiled = true ∧ ∃ w, b.target.route (.int n) = .ok (some w) := by
  have hp := mem_plan hm
  refine ⟨?_, (hw b hp.held).1.served n⟩
  cases hp with
  | leaving => rfl
  | own _ _ hk => exact hk

theorem Performed.watchful (p : Performed (plan isSink me what f below h).2
    (plan isSink me what f below h).1 r es k) (hk : ∀ t, .dropped t ∉ es) (hw : h.Watchful) :
    k.Watchful := by
  obtain ⟨-, -, -, -, hactive⟩ := plan_others isSink me what f below h
  have hh := p.preserves_of_dropped
    (P := fun g => (∀ b ∈ g.held, b ∈ h.held) ∧ g.active = h.active)
    (fun g t ht => absurd ht (hk t))
    (fun g child a hm hg => ⟨fun b hb => ?_, hg.2⟩) ⟨fun b hb => held_plan hb, hactive⟩
  · intro b hb
    rw [hh.2]
    exact hw b (hh.1 b hb)
  · obtain rfl | hb := mem_held_pass hb
    · exact (mem_plan hm).held
    · exact hg.1 b hb

end Hook

def Move.Watches : Move → Prop
  | .attach _ _ a => a.Watching
  | .clear _ => False
  | _ => True

namespace Situation

variable {σ : Type} {c : HookEnv σ}

def tracedAs? (s : Situation σ) (x : String) (what : Hook.Signal) : Option (Hook.Signal × Nat) :=
  (s.threads.find? x).bind fun t =>
    if t.isAlive && (Hook.own? t.caller what s.host).isSome then some (what, t.assigned) else none

def heard? (s : Situation σ) : Move → Option (Hook.Signal × Nat)
  | .signal x what _ _ => s.tracedAs? x what
  | .finish x (some _) => s.tracedAs? x .ret
  | _ => none

def caller? (s : Situation σ) (m : Move) : Option Nat :=
  match s.heard? m with
  | some (.call, n) => some n
  | _ => none

/-- The traced thread that called last. -/
def lastCaller (c : HookEnv σ) (before : Option Nat) : Situation σ → List Move → Option Nat
  | _, [] => before
  | s, m :: ms => lastCaller c ((s.caller? m).or before) (s.step c m) ms

/-- Whatever workers are handed between two situations they take. -/
def Accepted (s s' : Situation (Journaled σ)) : Prop :=
  ∀ es, s'.outside.journal = s.outside.journal ++ es → ∀ w e, .handed w e false ∉ es

/-- What a move hands over, after what was handed over at this stage and with the thread that called
last. If a traced thread calls, first its turn; nothing else about scheduling. A call is handed over
when its thread was the last to come in; a return and an end are when the thread that called last was
the last to come in. -/
structure Announces (h : ProfileHost) (before caller : Option Nat) (stage es : List Entry) :
    Prop where
  turns : ∃ k, es.map Entry.switch? =
    ((caller.map (h.turnTo before)).getD []).map some ++ List.replicate k none
  calls : ∀ us w e taken vs, es = us ++ .handed w e taken :: vs → e.kind = .call →
    ∃ n : Nat, e.carrier = (n : Int) ∧ lastSwitch (stage ++ us) = some (.into n)
  others : ∀ us w e taken vs, es = us ++ .handed w e taken :: vs →
    e.kind = .returnTo ∨ e.kind = .exit → lastSwitch (stage ++ us) = before.map .into

theorem Accepted.of_cons {s : Situation (Journaled σ)} {m : Move} {ms : List Move}
    (h : Accepted s (s.run c.journaled (m :: ms))) :
    Accepted s (s.step c.journaled m) ∧
      Accepted (s.step c.journaled m) ((s.step c.journaled m).run c.journaled ms) := by
  obtain ⟨es, he⟩ := journal_step (c := c) s m
  obtain ⟨fs, hf⟩ := journal_run (c := c) (s.step c.journaled m) ms
  have hall := h (es ++ fs) (by rw [run_cons, hf, he, List.append_assoc])
  constructor
  · intro es' he' w e hm
    obtain rfl : es = es' := List.append_cancel_left (he.symm.trans he')
    exact hall w e (List.mem_append_left _ hm)
  · intro fs' hf' w e hm
    obtain rfl : fs = fs' := List.append_cancel_left (hf.symm.trans hf')
    exact hall w e (List.mem_append_right _ hm)

theorem lastSwitch_turn {h : ProfileHost} {before caller : Option Nat} {stage us : List Entry}
    (hs : lastSwitch stage = before.map .into)
    (hu : us.filterMap Entry.switch? = (caller.map (h.turnTo before)).getD []) :
    lastSwitch (stage ++ us) = (caller.or before).map .into := by
  rw [lastSwitch, List.filterMap_append, hu]
  cases caller with
  | none =>
    rw [Option.map_none, Option.getD_none, List.append_nil]
    exact hs
  | some n =>
    simp only [Option.map_some, Option.getD_some, ProfileHost.turnTo, Option.some_or]
    split
    · rename_i hb
      rw [List.append_nil]
      exact hs.trans (by rw [hb]; rfl)
    · rw [← List.append_assoc, List.getLast?_concat]

theorem switches_before {ys : List Switch} {us vs : List Entry} {w k : Nat} {e : Event}
    {taken : Bool} (hs : (us ++ .handed w e taken :: vs).map Entry.switch? =
      ys.map some ++ List.replicate k none) (he : e.switch? = none) :
    us.filterMap Entry.switch? = ys := by
  have hn : Entry.switch? (.handed w e taken) = none := by
    cases taken with
    | false => rfl
    | true => exact he
  have hf : us.filterMap Entry.switch? = (us.map Entry.switch?).filterMap id := by
    rw [List.filterMap_map]
    rfl
  have hy : (ys.map some).filterMap id = ys := by
    rw [List.filterMap_map]
    exact List.filterMap_some
  rw [List.map_append, List.map_cons, hn] at hs
  obtain ⟨zs, hz, hv⟩ | ⟨zs, hu, hz⟩ := List.append_eq_append_iff.1 hs
  · cases zs with
    | nil => rw [hf, ← hy, hz, List.append_nil]
    | cons z zs =>
      obtain ⟨rfl, -⟩ := List.cons.inj hv
      have hm : none ∈ ys.map some := hz ▸ List.mem_append_right _ List.mem_cons_self
      obtain ⟨y, -, hy⟩ := List.mem_map.1 hm
      cases hy
  · have hzs : zs.filterMap id = [] := by
      refine List.filterMap_eq_nil_iff.2 fun z hm => ?_
      exact List.eq_of_mem_replicate (hz ▸ List.mem_append_left _ hm)
    rw [hf, hu, List.filterMap_append, hzs, List.append_nil, hy]

theorem filterMap_switch? {ys : List Switch} {es : List Entry} {k : Nat}
    (hs : es.map Entry.switch? = ys.map some ++ List.replicate k none) :
    es.filterMap Entry.switch? = ys := by
  have hf : es.filterMap Entry.switch? = (es.map Entry.switch?).filterMap id := by
    rw [List.filterMap_map]
    rfl
  rw [hf, hs, List.filterMap_append, List.filterMap_map]
  simp

section

variable {s : Situation (Journaled σ)} {before : Option Nat} {stage : List Entry}

/-- A watchful host, of which the thread that called last was the last to come in. -/
structure Staged (before : Option Nat) (stage : List Entry) (s : Situation (Journaled σ)) : Prop where
  watchful : s.host.Watchful
  last : s.host.lastIdent = before
  stage : lastSwitch stage = before.map .into

theorem Announces.silent (h : ProfileHost) : Announces h before none stage [] :=
  ⟨⟨0, rfl⟩, fun us w e taken vs he => by simp at he, fun us w e taken vs he => by simp at he⟩

theorem Announces.of_plan {h : ProfileHost} {isSink : String → Bool} {me : Caller}
    {what : Hook.Signal} {f : Frame} {below : List Frame} {es : List Entry} (hw : h.Watchful)
    (hs : lastSwitch stage = h.lastIdent.map .into) (he : es.map Entry.taken? =
      ((Hook.plan isSink me what f below h).2.filterMap Hook.Effect.event?).map some) :
    Announces h h.lastIdent
      (if what = .call ∧ (Hook.own? me .call h).isSome then some me.ident else none) stage es := by
  obtain ⟨k, hk⟩ := Hook.plan_switches isSink me what f below hw
  have planned : ∀ {w e taken}, .handed w e taken ∈ es →
      ∃ n a e', .report n a e' ∈ (Hook.plan isSink me what f below h).2 ∧ e'.kind = e.kind ∧
        e'.carrier = e.carrier := by
    intro w e taken hm
    have hi : Entry.taken? (.handed w e taken) ∈ es.map Entry.taken? := List.mem_map.2 ⟨_, hm, rfl⟩
    rw [he] at hi
    obtain ⟨e', hd, ht⟩ := List.mem_map.1 hi
    obtain ⟨d, hplan, hde⟩ := List.mem_filterMap.1 hd
    cases d with
    | pass => cases hde
    | report n a e'' =>
      cases hde
      cases taken with
      | false => cases ht
      | true =>
        have hu : e''.untimed = e.untimed := Option.some.inj ht
        have hkind : e''.untimed.kind = e.untimed.kind := by rw [hu]
        have hcar : e''.untimed.carrier = e.untimed.carrier := by rw [hu]
        exact ⟨n, a, e'', hplan, hkind, hcar⟩
  have turns : es.map Entry.switch? =
      (((if what = .call ∧ (Hook.own? me .call h).isSome then some me.ident else none).map
        (h.turnTo h.lastIdent)).getD []).map some ++ List.replicate k none := by
    have hx : es.map Entry.switch? = (es.map Entry.taken?).map (·.bind Event.switch?) := by
      rw [List.map_map]
      rfl
    rw [hx, he, List.map_map]
    refine Eq.trans hk ?_
    congr 2
    split <;> rfl
  refine ⟨⟨k, turns⟩, fun us w e taken vs hes hc => ?_, fun us w e taken vs hes hr => ?_⟩
  · have hn : e.switch? = none := by simp only [Event.switch?, hc]
    have hu := switches_before (hes ▸ turns) hn
    obtain ⟨n, a, e', hm, hkind, hcar⟩ := planned (hes ▸ by simp : .handed w e taken ∈ es)
    obtain ⟨hwhat, hown, hi⟩ := (Hook.plan_reports hm).1 (hkind.trans hc)
    refine ⟨me.ident, hcar.symm.trans hi, ?_⟩
    rw [lastSwitch_turn hs hu, if_pos ⟨hwhat, hown⟩]
    rfl
  · have hn : e.switch? = none := by obtain hr | hr := hr <;> simp only [Event.switch?, hr]
    have hu := switches_before (hes ▸ turns) hn
    obtain ⟨n, a, e', hm, hkind, -⟩ := planned (hes ▸ by simp : .handed w e taken ∈ es)
    have hwhat : what = .ret := (Hook.plan_reports hm).2 (by rw [hkind]; exact hr)
    rw [lastSwitch_turn hs hu, if_neg fun h => by simp [hwhat] at h]
    rfl

theorem caller?_signal {x : String} {t : Thread} (hx : s.threads.find? x = some t)
    (ha : t.isAlive = true) (what : Hook.Signal) (f : Frame) (below : List Frame) :
    s.caller? (.signal x what f below) =
      if what = .call ∧ (Hook.own? t.caller .call s.host).isSome then some t.assigned else none := by
  simp only [caller?, heard?, tracedAs?, hx, Option.bind_some, ha, Bool.true_and]
  cases what with
  | call => cases (Hook.own? t.caller .call s.host).isSome <;> rfl
  | ret => cases (Hook.own? t.caller .ret s.host).isSome <;> rfl
  | other => cases (Hook.own? t.caller .other s.host).isSome <;> rfl

theorem signal_absent {c : HookEnv (Journaled σ)} {x : String}
    (hl : ¬∃ t, s.threads.find? x = some t ∧ t.isAlive = true) (what : Hook.Signal) (f : Frame)
    (below : List Frame) :
    s.signal c x what f below = s ∧ s.caller? (.signal x what f below) = none := by
  cases hx : s.threads.find? x with
  | none => simp [caller?, heard?, tracedAs?, signal, hx]
  | some t =>
    have ha : ¬t.isAlive = true := fun ha => hl ⟨t, hx, ha⟩
    simp [caller?, heard?, tracedAs?, signal, hx, ha]

theorem announces_signal (p : Staged before stage s) (x : String) (what : Hook.Signal) (f : Frame)
    (below : List Frame) (hacc : Accepted s (s.signal c.journaled x what f below)) :
    ∃ es, (s.signal c.journaled x what f below).outside.journal = s.outside.journal ++ es ∧
      Announces s.host before (s.caller? (.signal x what f below)) stage es ∧
      Staged ((s.caller? (.signal x what f below)).or before) (stage ++ es)
        (s.signal c.journaled x what f below) := by
  by_cases hl : ∃ t, s.threads.find? x = some t ∧ t.isAlive = true
  · obtain ⟨t, hx, ha⟩ := hl
    obtain ⟨es, hp, hj⟩ := signal_journaled (c := c) hx ha what f below
    obtain ⟨hw, rfl, hst⟩ := p
    have ht := hp.taken (Hook.routes_plan hw) (hacc es hj)
    have hl := hp.preserves
      (P := fun g => g.lastIdent =
        (Hook.plan s.threads.isSink t.caller what f below s.host).1.lastIdent)
      (fun _ _ hg => hg) (fun _ _ _ _ hg => hg) rfl
    have announces := Announces.of_plan hw hst ht
    rw [caller?_signal hx ha]
    refine ⟨es, hj, announces, hp.watchful (Hook.undropped_of_taken ht) hw, ?_, ?_⟩
    · rw [hl, Hook.lastIdent_plan hw]
      split <;> rfl
    · obtain ⟨k, hk⟩ := announces.turns
      exact lastSwitch_turn hst (filterMap_switch? hk)
  · obtain ⟨hs, hc⟩ := signal_absent (c := c.journaled) hl what f below
    rw [hs, hc]
    exact ⟨[], by simp, .silent _, by simpa using p⟩

theorem announces_quiet (p : Staged before stage s) {m : Move} (hc : s.caller? m = none)
    (hj : (s.step c.journaled m).outside.journal = s.outside.journal)
    (hw : (s.step c.journaled m).host.Watchful)
    (hl : (s.step c.journaled m).host.lastIdent = s.host.lastIdent) :
    ∃ es, (s.step c.journaled m).outside.journal = s.outside.journal ++ es ∧
      Announces s.host before (s.caller? m) stage es ∧
      Staged ((s.caller? m).or before) (stage ++ es) (s.step c.journaled m) := by
  refine ⟨[], by rw [hj, List.append_nil], ?_, ?_⟩
  · rw [hc]
    exact .silent _
  · rw [hc, List.append_nil]
    exact ⟨hw, hl.trans p.last, p.stage⟩

theorem announces_step (p : Staged before stage s) {m : Move} (hm : m.Watches)
    (hacc : Accepted s (s.step c.journaled m)) :
    ∃ es, (s.step c.journaled m).outside.journal = s.outside.journal ++ es ∧
      Announces s.host before (s.caller? m) stage es ∧
      Staged ((s.caller? m).or before) (stage ++ es) (s.step c.journaled m) := by
  cases m with
  | clear caller => exact absurd hm id
  | signal x what f below => exact announces_signal p x what f below hacc
  | install unit spec localOnly => exact announces_quiet p rfl rfl p.watchful rfl
  | attach caller carrier a =>
    obtain ⟨active, installed, allThreads, hh⟩ := (s.calledBy caller).attach_host a carrier
    refine announces_quiet p rfl rfl (fun b hb => ⟨?_, ?_⟩) ?_
    · obtain rfl | hb := Observed.held_attach hb
      · exact hm
      · exact (p.watchful b hb).1
    · exact ((s.calledBy caller).attach_active a carrier).trans
        (ProfileHost.hasAttachments_of_held hb)
    · change ((s.calledBy caller).attach carrier a).1.host.lastIdent = _
      rw [hh, Observed.attachCarrier_frame]
      rfl
  | forget t =>
    refine announces_quiet p rfl rfl (fun b hb => ⟨?_, ?_⟩) rfl
    · exact (p.watchful b (ProfileHost.mem_held_forget.1 hb).1).1
    · exact ProfileHost.hasAttachments_of_held hb
  | launch | start =>
    refine announces_quiet p rfl ?_ ?_ ?_ <;> simp only [step] <;> split
    all_goals first | rfl | exact p.watchful
  | finish x lowest =>
    cases lowest with
    | none =>
      obtain ⟨hh, ho⟩ := finish_unheard (c := c.journaled) s x
      exact announces_quiet p rfl (by rw [ho]) (by rw [hh]; exact p.watchful) (by rw [hh])
    | some f =>
      obtain ⟨hh, ho⟩ := finish_heard (c := c.journaled) s x f
      have hacc' : Accepted s (s.signal c.journaled x .ret f []) := fun es he =>
        hacc es (by rw [ho]; exact he)
      obtain ⟨es, hj, ha, hw, hl, hs⟩ := announces_signal p x .ret f [] hacc'
      exact ⟨es, by rw [ho]; exact hj, ha, by rw [hh]; exact hw, by rw [hh]; exact hl, hs⟩

theorem announces_run (p : Staged before stage s) {ms : List Move} (hm : ∀ m ∈ ms, m.Watches)
    (hacc : Accepted s (s.run c.journaled ms)) (qs : List Move) {m : Move} (hq : qs ++ [m] <+: ms) :
    ∃ gs es, (s.run c.journaled qs).outside.journal = s.outside.journal ++ gs ∧
      (s.run c.journaled (qs ++ [m])).outside.journal = s.outside.journal ++ gs ++ es ∧
      Announces (s.run c.journaled qs).host (s.lastCaller c.journaled before qs)
        ((s.run c.journaled qs).caller? m) (stage ++ gs) es := by
  induction qs generalizing s before stage ms with
  | nil =>
    obtain ⟨ns, rfl⟩ := hq
    obtain ⟨h1, -⟩ := hacc.of_cons
    obtain ⟨es, hj, ha, -⟩ := announces_step p (hm m (by simp)) h1
    refine ⟨[], es, by simp, by simpa using hj, ?_⟩
    rw [List.append_nil]
    exact ha
  | cons n qs ih =>
    obtain ⟨ns, rfl⟩ := hq
    obtain ⟨h1, h2⟩ := hacc.of_cons
    obtain ⟨fs, hf, -, hp⟩ := announces_step p (hm n (by simp)) h1
    obtain ⟨gs, es, hg, he, ha⟩ := ih hp (fun m hm' => hm m (List.mem_cons_of_mem _ hm')) h2
      ⟨ns, rfl⟩
    rw [hf] at hg he
    rw [List.append_assoc] at ha
    exact ⟨fs ++ gs, es, by rw [run_cons, hg, List.append_assoc],
      by rw [List.cons_append, run_cons, he]; simp only [List.append_assoc], ha⟩

end

theorem held_renewed {ts : Threads} {o : σ} {pre : List Move}
    (hp : pre = [] ∨ ∃ qs caller, pre = qs ++ [.clear caller]) :
    ((fresh ts o).run c pre).host.held = [] := by
  obtain rfl | ⟨qs, caller, rfl⟩ := hp
  · rfl
  · rw [run_concat]
    exact Observed.held_clear

/-- From the start or since the host was cleared, where all attachments ask for switches and workers
take whatever they are handed: the call of a traced thread first reports that the traced thread which
called before goes out, if it is still traced, and that this one comes in, unless they are one and the
same ident. Nothing else reports switches. So a call is handed over while its thread is in, and a
return or an end while the thread is in that called last. -/
theorem switches_announced {ts : Threads} {o : σ} {pre ms : List Move}
    (hp : pre = [] ∨ ∃ qs caller, pre = qs ++ [.clear caller]) (hm : ∀ m ∈ ms, m.Watches)
    (hacc : Accepted ((fresh ts ⟨o, []⟩).run c.journaled pre)
      (((fresh ts ⟨o, []⟩).run c.journaled pre).run c.journaled ms))
    (qs : List Move) (m : Move) (hq : qs ++ [m] <+: ms) :
    let s := (fresh ts ⟨o, []⟩).run c.journaled pre
    ∃ gs es, (s.run c.journaled qs).outside.journal = s.outside.journal ++ gs ∧
      (s.run c.journaled (qs ++ [m])).outside.journal = s.outside.journal ++ gs ++ es ∧
      Announces (s.run c.journaled qs).host (s.lastCaller c.journaled none qs)
        ((s.run c.journaled qs).caller? m) gs es := by
  intro s
  have hw : s.host.Watchful := fun b hb => absurd hb (by rw [held_renewed hp]; exact List.not_mem_nil)
  have hs : Staged none [] s := ⟨hw, lastIdent_renewed hp, rfl⟩
  exact announces_run hs hm hacc qs hq

theorem Accepted.of_all {s s' : Situation (Journaled σ)}
    (h : s'.outside.journal.all (fun
      | .handed _ _ taken => taken
      | .dropped _ => true) = true) : Accepted s s' := by
  intro es he w e hm
  rw [he, List.all_append, Bool.and_eq_true] at h
  exact Bool.false_ne_true (List.all_eq_true.1 h.2 _ hm)

def watchAttachment : Attachment :=
  ⟨{ running := true, call := true, returnTo := true }, .ofWorkers 0 .trace [0, 1]⟩

theorem watchAttachment_watching : watchAttachment.Watching where
  running := rfl
  served n := by
    have hw : [0, 1] ≠ [] := List.cons_ne_nil 0 [1]
    obtain ⟨k, -, hr⟩ := Target.route_ofWorkers 0 .trace hw n
    exact ⟨k, hr⟩

def work : Frame where
  unit := some "app"
  function := "work"

def alternation : List Move :=
  [.attach "main" (.thread "main") watchAttachment, .attach "main" (.thread "other") watchAttachment,
    .install "app" .passThrough true, .signal "other" .call work [default],
    .signal "main" .call work []]

theorem alternation_watches : ∀ m ∈ alternation, m.Watches := by
  intro m hm
  simp only [alternation, List.mem_cons, List.not_mem_nil, or_false] at hm
  rcases hm with rfl | rfl | rfl | rfl | rfl
  · exact watchAttachment_watching
  · exact watchAttachment_watching
  all_goals trivial

theorem switches_announced_alternation :
    let c := HookEnv.answering true
    let s := (fresh pair ⟨(), []⟩).run c.journaled [.clear "main"]
    let t := s.run c.journaled (alternation.take 4)
    Accepted s (s.run c.journaled alternation) ∧
      (s.run c.journaled alternation).outside.journal.map Entry.switch? =
        [some (.into 2), none, some (.out 2), some (.into 1), none] ∧
      s.lastCaller c.journaled none (alternation.take 4) = some 2 ∧
      ∃ gs es, t.outside.journal = s.outside.journal ++ gs ∧
        (s.run c.journaled (alternation.take 4 ++ [.signal "main" .call work []])).outside.journal =
          s.outside.journal ++ gs ++ es ∧
        Announces t.host (s.lastCaller c.journaled none (alternation.take 4))
          (t.caller? (.signal "main" .call work [])) gs es := by
  dsimp only
  refine ⟨.of_all (by decide), by decide, by decide, ?_⟩
  exact switches_announced (.inr ⟨[], "main", rfl⟩) alternation_watches (.of_all (by decide))
    (alternation.take 4) _ ⟨[], rfl⟩

/-- A return right after the call of another thread does not turn to its own. -/
theorem return_unannounced : ¬∀ (ts : Threads) (ms : List Move) (m n : Move)
    (x y : Hook.Signal × Nat), (∀ m' ∈ ms ++ [m, n], m'.Watches) →
    let c := (HookEnv.answering true).journaled
    let s := fresh ts (⟨(), []⟩ : Journaled Unit)
    Accepted s (s.run c (ms ++ [m, n])) → (s.run c ms).heard? m = some x →
      (s.run c (ms ++ [m])).heard? n = some y → x.1 ≠ .other → y.1 ≠ .other → x.2 ≠ y.2 →
      ∃ es, (s.run c (ms ++ [m, n])).outside.journal =
        (s.run c (ms ++ [m])).outside.journal ++ es ∧ .into y.2 ∈ es.filterMap Entry.switch? := by
  intro h
  let ms := alternation.take 4
  let m : Move := .signal "main" .call work []
  let n : Move := .signal "other" .ret work [default]
  have hm : ∀ m' ∈ ms ++ [m, n], m'.Watches := by
    intro m' hm'
    have hs : ms ++ [m, n] = alternation ++ [n] := rfl
    rw [hs] at hm'
    obtain hm' | hm' := List.mem_append.1 hm'
    · exact alternation_watches m' hm'
    · cases List.mem_singleton.1 hm'
      trivial
  obtain ⟨es, hj, he⟩ := h pair ms m n (.call, 1) (.ret, 2) hm (Accepted.of_all (by decide))
    (by decide) (by decide) (by decide) (by decide) (by decide)
  have hf := congrArg (List.filterMap Entry.switch?) hj
  rw [List.filterMap_append] at hf
  have hn : es.filterMap Entry.switch? = [] := List.append_right_eq_self.1 (hf.symm.trans (by decide))
  rw [hn] at he
  cases he

end Situation

end ThreadTrace
