import ThreadTrace.Proofs.Host.Routing
import ThreadTrace.Proofs.Profile.CallTree
import ThreadTrace.Proofs.Profile.Course

namespace ThreadTrace

/-- An event without what depends on more than the calls. -/
def Event.outline (e : Event) : Event := { e with timestamp := none, args := none, dump := none }

def Event.concerns (n : Nat) (e : Event) : Bool :=
  e.carrier == (n : Int) && (e.kind == .call || e.kind == .returnTo || e.kind == .exit)

/-- What a journal says about the calls of a thread: the worker, the event and the answer. -/
def Entry.account? (n : Nat) : Entry → Option (Nat × Event × Bool)
  | .handed w e taken => if e.concerns n then some (w, e.outline, taken) else none
  | .dropped _ => none

def Hook.Effect.account? (n : Nat) : Hook.Effect → Option Event
  | .report _ _ e => if e.concerns n then some e.outline else none
  | .pass .. => none

def Kept (ws : List Nat) (es : List Entry) : Prop := ∀ w e, .handed w e false ∈ es → w ∉ ws

/-- Targets with one id are one target. -/
def Compatible (a b : Attachment) : Prop := b.target.id = a.target.id → b.target = a.target

structure Serves (a : Attachment) (ws : List Nat) (n w : Nat) : Prop where
  nonempty : ws ≠ []
  numbered : a.target = .ofWorkers a.target.id a.target.mode ws
  route : a.target.route (.int n) = .ok (some w)
  mem : w ∈ ws

structure Flags.FollowCalls (f : Flags) : Prop where
  call : f.call = true
  returnTo : f.returnTo = true
  procs : f.procs = true

theorem Event.concerns_carrier {n : Nat} {e : Event} (h : e.concerns n = true) :
    e.carrier = (n : Int) := by
  simp only [concerns, Bool.and_eq_true, beq_iff_eq] at h
  exact h.1

theorem Event.concerns_isProfiled {n : Nat} {e : Event} (h : e.concerns n = true) :
    e.kind.isProfiled = true := by
  cases hk : e.kind with
  | send => simp [concerns, hk] at h
  | _ => rfl

theorem Kept.append {ws : List Nat} {es fs : List Entry} :
    Kept ws (es ++ fs) ↔ Kept ws es ∧ Kept ws fs := by
  constructor
  · intro h
    exact ⟨fun w e hm => h w e (List.mem_append_left _ hm),
      fun w e hm => h w e (List.mem_append_right _ hm)⟩
  · intro ⟨h, h'⟩ w e hm
    exact (List.mem_append.1 hm).elim (h w e) (h' w e)

namespace Hook

variable {isSink : String → Bool} {me : Caller} {what : Signal} {f : Frame} {below : List Frame}
  {h k : ProfileHost} {ds : List Effect} {es : List Entry} {r : Except Fault Unit}
  {n w : Nat} {a : Attachment} {ws : List Nat}

theorem Reported.accounts {ident : Nat} {b : Attachment} {e : Event}
    (p : Reported ident b e h (.ok ()) es k) (hr : a.target.route (.int n) = .ok (some w))
    (hc : e.concerns n = true → ident = n ∧ b = a) (hk : ∀ e, .handed w e false ∉ es) :
    es.filterMap (Entry.account? n) =
      ((Effect.report ident b e).account? n).toList.map fun e => (w, e, true) := by
  cases p with
  | withheld _ he =>
    have hn : ¬e.concerns n = true := fun h => by simp [Event.concerns_isProfiled h] at he
    simp [Effect.account?, hn]
  | unserved hu =>
    have hn : ¬e.concerns n = true := by
      intro h
      obtain ⟨rfl, rfl⟩ := hc h
      rw [hr] at hu
      cases hu
    simp [Effect.account?, Entry.account?, hn]
  | taken v x hv =>
    by_cases hn : e.concerns n = true
    · obtain ⟨rfl, rfl⟩ := hc hn
      obtain rfl : w = v := by simpa [hr] using hv
      have hx : Event.concerns ident { e with timestamp := x } = true := hn
      simp [Effect.account?, Entry.account?, hn, hx, Event.outline]
    · have hx : ¬Event.concerns n { e with timestamp := x } = true := hn
      simp [Effect.account?, Entry.account?, hn, hx]
  | refused v x hv =>
    have hn : ¬e.concerns n = true := by
      intro h
      obtain ⟨rfl, rfl⟩ := hc h
      obtain rfl : w = v := by simpa [hr] using hv
      exact hk _ List.mem_cons_self
    have hx : ¬Event.concerns n { e with timestamp := x } = true := hn
    simp [Effect.account?, Entry.account?, hn, hx]

/-- The journal of effects gives the same account of a thread as the effects themselves, if they end
without a fault and its worker refuses nothing. -/
theorem Performed.accounts (p : Performed ds h r es k) (hok : r = .ok ())
    (hr : a.target.route (.int n) = .ok (some w))
    (hd : ∀ ident b e, .report ident b e ∈ ds → e.concerns n = true → ident = n ∧ b = a)
    (hk : ∀ e, .handed w e false ∉ es) :
    es.filterMap (Entry.account? n) =
      (ds.filterMap (Effect.account? n)).map fun e => (w, e, true) := by
  induction p with
  | done => rfl
  | @report ident b e h es g ds r fs k first rest ih =>
    have h1 := first.accounts hr (hd _ _ _ List.mem_cons_self) fun e hm =>
      hk e (List.mem_append_left _ hm)
    have h2 := ih hok (fun i b e hm => hd i b e (List.mem_cons_of_mem _ hm)) fun e hm =>
      hk e (List.mem_append_right _ hm)
    rw [List.filterMap_append, h1, h2, List.filterMap_cons]
    cases (Effect.report ident b e).account? n <;> rfl
  | failed => cases hok
  | pass _ ih =>
    exact ih hok (fun i b e hm => hd i b e (List.mem_cons_of_mem _ hm)) hk

theorem Performed.account_nil (p : Performed ds h r es k)
    (hd : ds.filterMap (Effect.account? n) = []) : es.filterMap (Entry.account? n) = [] := by
  have reported : ∀ {ident b e h r es k}, Reported ident b e h r es k →
      (Effect.report ident b e).account? n = none → es.filterMap (Entry.account? n) = [] := by
    intro ident b e h r es k first hn
    have hc : ∀ x, ¬Event.concerns n { e with timestamp := x } = true := by
      intro x hc
      have hc : e.concerns n = true := hc
      simp [Effect.account?, hc] at hn
    cases first <;> simp [Entry.account?, hc]
  rw [List.filterMap_eq_nil_iff] at hd
  induction p with
  | done => rfl
  | report first _ ih =>
    obtain ⟨h1, hrest⟩ := List.forall_mem_cons.1 hd
    rw [List.filterMap_append, reported first h1, ih hrest, List.append_nil]
  | failed first => exact reported first (hd _ List.mem_cons_self)
  | pass _ ih => exact ih (List.forall_mem_cons.1 hd).2

theorem Performed.keeps (p : Performed ds h r es k) (hs : Serves a ws n w)
    (hd : ∀ ident b e, .report ident b e ∈ ds → b.target.id = a.target.id → b.target = a.target)
    (hk : Kept ws es) (hg : h.traced.get? n = some a) : k.traced.get? n = some a := by
  have reported : ∀ {ident b e h r es k}, Reported ident b e h r es k →
      (b.target.id = a.target.id → b.target = a.target) → Kept ws es →
      h.traced.get? n = some a → k.traced.get? n = some a := by
    intro ident b e h r es k first hb hk hg
    have spared : b.target.id ≠ a.target.id → (h.forget b.target).traced.get? n = some a := by
      intro hne
      exact Table.get?_filter hg (by simpa using fun he => hne he.symm)
    obtain ⟨w, hmem, hr⟩ := Target.route_ofWorkers a.target.id a.target.mode hs.nonempty
      (ident : Int)
    rw [← hs.numbered] at hr
    cases first with
    | withheld | astray | taken => exact hg
    | unserved hu =>
      refine spared fun he => ?_
      rw [hb he, hr] at hu
      cases hu
    | refused v x hv =>
      refine spared fun he => ?_
      rw [hb he, hr] at hv
      obtain rfl : w = v := by simpa using hv
      exact hk w _ List.mem_cons_self (List.mem_of_getElem? hmem)
  induction p with
  | done => exact hg
  | report first _ ih =>
    obtain ⟨hk1, hk2⟩ := Kept.append.1 hk
    exact ih (fun i b e hm => hd i b e (List.mem_cons_of_mem _ hm)) hk2
      (reported first (hd _ _ _ List.mem_cons_self) hk1 hg)
  | failed first => exact reported first (hd _ _ _ List.mem_cons_self) hk hg
  | pass _ ih => exact ih (fun i b e hm => hd i b e (List.mem_cons_of_mem _ hm)) hk hg

theorem Planned.concerns {ident : Nat} {b : Attachment} {e : Event}
    (p : Planned isSink me what f h (.report ident b e)) (hc : e.concerns n = true) :
    me.ident = n ∧ ident = n ∧ own? me what h = some b := by
  cases p with
  | leaving => simp [Event.concerns, plain] at hc
  | own ha he =>
    have hn : me.ident = n := Int.ofNat_inj.1 (he.symm.trans (Event.concerns_carrier hc))
    exact ⟨hn, hn, ha⟩

theorem account_plan_other (hn : me.ident ≠ n) :
    (plan isSink me what f below h).2.filterMap (Effect.account? n) = [] := by
  apply List.filterMap_eq_nil_iff.2
  intro d hd
  cases d with
  | pass => rfl
  | report ident b e =>
    have hc : ¬e.concerns n = true := fun hc => hn ((mem_plan hd).concerns hc).1
    simp [Effect.account?, hc]

theorem traced_plan_other (hn : me.ident ≠ n) :
    (plan isSink me what f below h).1.traced.get? n = h.traced.get? n := by
  have hne : n ≠ me.ident := fun he => hn he.symm
  simp only [plan]
  split
  · cases what with
    | other => rfl
    | call =>
      obtain ⟨last, he⟩ := planCall_host isSink me f (f :: below) h
      simp only [he, settle_traced, if_neg hne]
    | ret =>
      simp only [planReturn]
      split
      · simp only [planEnd]
        split
        · rfl
        · simp only [Table.get?_erase, if_neg hne]
      · rfl
      · rfl
  · rfl

theorem traced_plan_own (ha : h.active = true) (ho : own? me what h = some a)
    (hb : what = .ret → below ≠ []) :
    (plan isSink me what f below h).1.traced.get? me.ident = some a := by
  simp only [plan, ha, if_true]
  cases what with
  | other => exact ho
  | call =>
    obtain ⟨last, he⟩ := planCall_host isSink me f (f :: below) h
    simp only [he, settle_traced, if_pos]
    exact ho
  | ret =>
    have hg : h.traced.get? me.ident = some a := ho
    cases below with
    | nil => exact absurd rfl (hb rfl)
    | cons g below => simp only [planReturn, List.head?_cons, hg]

theorem outline_called {ident : Nat} {spec : MatchSpec} {stack : List Frame} (tr : Traced)
    (hi : tr.ident = ident) (hm : tr.mode = a.target.mode) :
    (called ident a spec f stack).outline = tr.called f.code := by
  simp [called, Event.outline, Traced.called, Frame.code, hi, hm]

theorem outline_returned {ident : Nat} {g : Frame} (tr : Traced) (hi : tr.ident = ident)
    (hm : tr.mode = a.target.mode) : (returned ident a f g).outline = tr.returned f.code g.code := by
  simp [returned, Event.outline, Traced.returned, Frame.code, place, hi, hm]

theorem account_call (ho : (settle me h).1 = some a) (hf : a.flags.call = true) {stack : List Frame} :
    (planCall isSink me f stack h).2.filterMap (Effect.account? me.ident) =
      if (h.matchUnit f.unit).isSome then
        [Traced.called ⟨fun u => (h.matchUnit u).isSome, me.ident, a.target.mode⟩ f.code]
      else [] := by
  have hs := settle_filters me h
  rw [planCall]
  cases hg : settle me h with
  | mk own g =>
    rw [hg] at ho hs
    obtain rfl : own = some a := ho
    simp only [callEffects, List.filterMap_append]
    have h1 : (if a.flags.running then switching me.ident a g else []).filterMap
        (Effect.account? me.ident) = [] := by
      apply List.filterMap_eq_nil_iff.2
      intro d hd
      split at hd
      · obtain ⟨p, b, -, -, rfl⟩ | rfl := mem_switching hd <;>
          simp [Effect.account?, Event.concerns, plain]
      · cases hd
    have h2 : (if a.flags.setOnSpawn then passing isSink a f else []).filterMap
        (Effect.account? me.ident) = [] := by
      apply List.filterMap_eq_nil_iff.2
      intro d hd
      split at hd
      · obtain ⟨child, -, -, rfl⟩ := mem_passing hd
        rfl
      · cases hd
    rw [h1, h2, if_pos hf, calling, matchUnit_congr hs, List.nil_append, List.nil_append]
    cases hm : h.matchUnit f.unit with
    | none => rfl
    | some spec =>
      have hc : Event.concerns me.ident (called me.ident a spec f stack) = true := by
        simp [Event.concerns, called]
      simp only [List.filterMap_cons, List.filterMap_nil, Effect.account?, hc, if_true,
        Option.isSome_some]
      exact congrArg (· :: []) (outline_called _ rfl rfl)

/-- A callback of a traced thread plans the events that its place in the call tree calls for. -/
theorem account_plan_own (ha : h.active = true) (ho : own? me what h = some a)
    (hf : a.flags.FollowCalls) :
    (plan isSink me what f below h).2.filterMap (Effect.account? me.ident) =
      Traced.answer ⟨fun u => (h.matchUnit u).isSome, me.ident, a.target.mode⟩
        ⟨what, f.code, below.map Frame.code⟩ := by
  simp only [plan, ha, if_true]
  cases what with
  | other => rfl
  | call => exact account_call ho hf.call
  | ret =>
    have hg : h.traced.get? me.ident = some a := ho
    cases below with
    | nil =>
      simp only [planReturn, List.head?_nil, planEnd, hg, endEffects, hf.procs, if_true]
      simp [Effect.account?, Event.concerns, plain, Traced.answer, Traced.ended, Event.outline]
    | cons g below =>
      simp only [planReturn, List.head?_cons, hg, returnEffects, hf.returnTo, hf.call, true_and,
        List.map_cons, Traced.answer]
      by_cases hm : (h.matchUnit f.unit).isSome = true
      · have hk : Event.concerns me.ident (returned me.ident a f g) = true := by
          simp [Event.concerns, returned]
        simp only [Frame.code, hm, if_true, List.filterMap_cons, List.filterMap_nil, Effect.account?, hk]
        exact congrArg (· :: []) (outline_returned _ rfl rfl)
      · simp [Frame.code, hm]

end Hook

def Move.callback? (x : String) : Move → Option Callback
  | .signal y what f below =>
    if y = x ∧ what ≠ .other then some ⟨what, f.code, below.map Frame.code⟩ else none
  | .finish y (some f) => if y = x then some ⟨.ret, f.code, []⟩ else none
  | _ => none

def Move.Spares (t : Thread) (target : Target) : Move → Prop
  | .attach _ carrier _ => ¬carrier.selects t
  | .install .. => False
  | .forget u => u.id ≠ target.id
  | .clear _ => False
  | .finish x none => x ≠ t.name
  | _ => True

namespace Situation

variable {σ : Type} {c : HookEnv σ} {t : Thread} {a : Attachment} {ws : List Nat} {w : Nat}

/-- Whether the callback that a move makes on a thread, if it makes one, ends without a fault. -/
def Completes (c : HookEnv σ) (t : Thread) (s : Situation σ) (m : Move) : Prop :=
  ∀ what f below u, m.Fires t.name what f below → s.threads.find? t.name = some u →
    (s.callback c u what f below).1 = .ok ()

theorem Completes.of_fires {s : Situation σ} {m : Move} {u : Thread} {what : Hook.Signal}
    {f : Frame} {below : List Frame} (hm : m.Fires t.name what f below)
    (hu : s.threads.find? t.name = some u) (hok : (s.callback c u what f below).1 = .ok ()) :
    Completes c t s m := by
  intro what' f' below' v hm' hv
  obtain ⟨-, rfl, rfl, rfl⟩ := hm.unique hm'
  obtain rfl := Option.some.inj (hu.symm.trans hv)
  exact hok

theorem Completes.of_signal {s : Situation σ} {x : String} (hx : x ≠ t.name) (what : Hook.Signal)
    (f : Frame) (below : List Frame) : Completes c t s (.signal x what f below) := by
  intro what' f' below' u hm hu
  exact absurd (Move.Fires.signal.unique hm).1 hx

/-- A thread amid others, traced and to be traced further. -/
structure Watched (t : Thread) (a : Attachment) (s : Situation (Journaled σ)) : Prop where
  names : s.threads.names.Nodup
  present : ∃ u, s.threads.find? t.name = some u ∧ u.isAlive = true ∧ u.assigned = t.assigned
  alone : ∀ u ∈ s.threads.all, u.isAlive = true → u.assigned = t.assigned → u.name = t.name
  traced : s.host.traced.get? t.assigned = some a
  listens : Hook.Listens s.host
  compatible : ∀ b ∈ s.host.held, Compatible a b

theorem active_of_listens {s : Situation (Journaled σ)} {n : Nat} (hl : Hook.Listens s.host)
    (ht : s.host.traced.get? n = some a) : s.host.active = true :=
  hl (List.ne_nil_of_mem (Table.mem_of_get? ht))

def handedTo (w : Nat) (es : List Event) : List (Nat × Event × Bool) := es.map fun e => (w, e, true)

theorem signal_account {s : Situation (Journaled σ)} {u : Thread} {x : String}
    (hx : s.threads.find? x = some u) (hu : u.isAlive = true) (what : Hook.Signal) (f : Frame)
    (below : List Frame) (hcomp : ∀ b ∈ s.host.held, Compatible a b) {n : Nat}
    (hs : Serves a ws n w)
    (hown : u.assigned = n → Hook.own? u.caller what s.host = some a ∧
      (s.callback c.journaled u what f below).1 = .ok ()) :
    ∃ es, (s.signal c.journaled x what f below).outside.journal = s.outside.journal ++ es ∧
      (Kept ws es →
        es.filterMap (Entry.account? n) = handedTo w
          ((Hook.plan s.threads.isSink u.caller what f below s.host).2.filterMap
            (Hook.Effect.account? n)) ∧
        ((Hook.plan s.threads.isSink u.caller what f below s.host).1.traced.get? n = some a →
          (s.signal c.journaled x what f below).host.traced.get? n = some a)) := by
  obtain ⟨es, hp, hj⟩ := signal_journaled (c := c) hx hu what f below
  refine ⟨es, hj, fun hk => ⟨?_, fun hg => ?_⟩⟩
  · by_cases hn : u.assigned = n
    · obtain ⟨ho, hok⟩ := hown hn
      refine hp.accounts hok hs.route (fun ident b e hm hc => ?_) fun e hm => hk w e hm hs.mem
      obtain ⟨-, h2, h3⟩ := (Hook.mem_plan hm).concerns hc
      exact ⟨h2, Option.some.inj (h3.symm.trans ho)⟩
    · have hnil : (Hook.plan s.threads.isSink u.caller what f below s.host).2.filterMap
          (Hook.Effect.account? n) = [] := Hook.account_plan_other hn
      rw [hnil, hp.account_nil hnil]
      rfl
  · exact hp.keeps hs (fun ident b e hm => hcomp b (Hook.mem_plan hm).held) hk hg

theorem signal_account_own {s : Situation (Journaled σ)} {u : Thread} {x : String}
    (hx : s.threads.find? x = some u) (hu : u.isAlive = true) (what : Hook.Signal) (f : Frame)
    (below : List Frame) (hcomp : ∀ b ∈ s.host.held, Compatible a b)
    (hs : Serves a ws u.assigned w) (hf : a.flags.FollowCalls) (ha : s.host.active = true)
    (ho : Hook.own? u.caller what s.host = some a)
    (hok : (s.callback c.journaled u what f below).1 = .ok ()) :
    ∃ es, (s.signal c.journaled x what f below).outside.journal = s.outside.journal ++ es ∧
      (Kept ws es →
        es.filterMap (Entry.account? u.assigned) = handedTo w
          (Traced.answer ⟨fun v => (s.host.matchUnit v).isSome, u.assigned, a.target.mode⟩
            ⟨what, f.code, below.map Frame.code⟩) ∧
        ((what = .ret → below ≠ []) →
          (s.signal c.journaled x what f below).host.traced.get? u.assigned = some a)) := by
  obtain ⟨es, hj, h⟩ := signal_account (c := c) hx hu what f below hcomp hs fun _ => ⟨ho, hok⟩
  refine ⟨es, hj, fun hk => ⟨?_, fun hb => ?_⟩⟩
  · rw [(h hk).1]
    exact congrArg (handedTo w) (Hook.account_plan_own ha ho hf)
  · exact (h hk).2 (Hook.traced_plan_own ha ho hb)

/-- From one situation to another the journal grows by what some callbacks of a traced thread call
for, handed to one worker, and the thread stays traced. -/
def Accounts (t : Thread) (a : Attachment) (ws : List Nat) (w : Nat)
    (s s' : Situation (Journaled σ)) (xs : List Callback) : Prop :=
  ∃ es, s'.outside.journal = s.outside.journal ++ es ∧
    (Kept ws es →
      es.filterMap (Entry.account? t.assigned) = handedTo w (xs.flatMap
        (Traced.answer ⟨fun v => (s.host.matchUnit v).isSome, t.assigned, a.target.mode⟩)) ∧
      s'.host.traced.get? t.assigned = some a)

theorem Accounts.quiet {s s' : Situation (Journaled σ)}
    (hj : s'.outside.journal = s.outside.journal)
    (hg : s'.host.traced.get? t.assigned = some a) : Accounts t a ws w s s' [] :=
  ⟨[], by rw [hj, List.append_nil], fun _ => ⟨rfl, hg⟩⟩

theorem Watched.account_other {s : Situation (Journaled σ)} (p : Watched t a s) {x : String}
    (hs : Serves a ws t.assigned w) (hxt : x ≠ t.name) (what : Hook.Signal) (f : Frame)
    (below : List Frame) : Accounts t a ws w s (s.signal c.journaled x what f below) [] := by
  obtain he | ⟨u, hx, hu, -⟩ := signal_cases (c := c.journaled) s x what f below
  · rw [he]
    exact .quiet rfl p.traced
  · obtain ⟨hmem, hname⟩ := Threads.mem_of_find? hx
    have hn : u.caller.ident ≠ t.assigned := fun hn =>
      hxt (hname.symm.trans (p.alone u hmem hu hn))
    obtain ⟨es, hj, h⟩ := signal_account (c := c) hx hu what f below p.compatible hs
      fun hn' => absurd hn' hn
    refine ⟨es, hj, fun hk => ⟨?_, (h hk).2 ?_⟩⟩
    · rw [(h hk).1, Hook.account_plan_other hn]
      rfl
    · rw [Hook.traced_plan_other hn]
      exact p.traced

theorem Watched.account_own {s : Situation (Journaled σ)} (p : Watched t a s)
    (hs : Serves a ws t.assigned w) (hf : a.flags.FollowCalls) {what : Hook.Signal} {f : Frame}
    {below : List Frame} (hb : what = .ret → below ≠ [])
    (hok : ∀ u, s.threads.find? t.name = some u →
      (s.callback c.journaled u what f below).1 = .ok ()) :
    Accounts t a ws w s (s.signal c.journaled t.name what f below)
      [⟨what, f.code, below.map Frame.code⟩] := by
  obtain ⟨u, hu, hua, hun⟩ := p.present
  have ho : Hook.own? u.caller what s.host = some a :=
    Hook.own?_of_traced ((congrArg s.host.traced.get? hun).trans p.traced)
  rw [Accounts]
  rw [← hun] at hs ⊢
  obtain ⟨es, hj, h⟩ := signal_account_own (c := c) hu hua what f below p.compatible hs hf
    (active_of_listens p.listens p.traced) ho (hok u hu)
  refine ⟨es, hj, fun hk => ⟨?_, (h hk).2 hb⟩⟩
  rw [(h hk).1, List.flatMap_singleton]

theorem filters_step {s : Situation (Journaled σ)} {m : Move} {target : Target}
    (hm : m.Spares t target) : (s.step c.journaled m).host.filters = s.host.filters := by
  have signaled : ∀ x what f below,
      (s.signal c.journaled x what f below).host.filters = s.host.filters := by
    intro x what f below
    obtain he | ⟨u, -, -, hc⟩ := signal_cases (c := c.journaled) s x what f below
    · rw [he]
    · exact hc.filters
  cases m with
  | attach caller carrier b =>
    obtain ⟨active, installed, allThreads, hh⟩ := (s.calledBy caller).attach_host b carrier
    change ((s.calledBy caller).attach carrier b).1.host.filters = s.host.filters
    rw [hh]
    exact (s.calledBy caller).filters_attachCarrier b carrier
  | install | clear => exact hm.elim
  | forget => rfl
  | launch | start =>
    simp only [step]
    split <;> rfl
  | signal x what f below => exact signaled x what f below
  | finish x lowest =>
    cases lowest with
    | none => rw [(finish_unheard s x).1]
    | some f =>
      rw [(finish_heard s x f).1]
      exact signaled x .ret f []

theorem selects_congr {carrier : Carrier} {u : Thread} (hn : u.name = t.name)
    (hi : u.assigned = t.assigned) : carrier.selects u ↔ carrier.selects t := by
  cases carrier <;> simp [Carrier.selects, hn, hi]

theorem Watched.account {s : Situation (Journaled σ)} (p : Watched t a s)
    (hs : Serves a ws t.assigned w) (hf : a.flags.FollowCalls) {m : Move}
    (hm : m.Spares t a.target) (hb : ∀ x, m.callback? t.name = some x → x.below ≠ [])
    (hok : Completes c.journaled t s m) :
    Accounts t a ws w s (s.step c.journaled m) (m.callback? t.name).toList := by
  cases m with
  | attach caller carrier b =>
    refine .quiet rfl ?_
    obtain ⟨active, installed, allThreads, hh⟩ := (s.calledBy caller).attach_host b carrier
    change ((s.calledBy caller).attach carrier b).1.host.traced.get? t.assigned = some a
    rw [hh]
    obtain hg | ⟨-, u, hu, hua, hun, -, hsel⟩ :=
      (s.calledBy caller).traced_attachCarrier b carrier t.assigned
    · exact hg.trans p.traced
    · exact absurd ((selects_congr (p.alone u hu hua hun) hun).1 hsel) hm
  | install | clear => exact hm.elim
  | forget u =>
    refine .quiet rfl (Table.get?_filter p.traced ?_)
    simpa using fun he => hm he.symm
  | launch | start =>
    simp only [step]
    split <;> exact .quiet rfl p.traced
  | signal x what f below =>
    by_cases hx : x = t.name
    · subst hx
      by_cases hw : what = .other
      · subst hw
        have hc : Move.callback? t.name (.signal t.name .other f below) = none := by
          simp [Move.callback?]
        rw [hc]
        exact p.account_own hs hf (by simp) fun u => hok _ f below u .signal
      · have hc : Move.callback? t.name (.signal t.name what f below) =
          some ⟨what, f.code, below.map Frame.code⟩ := by simp [Move.callback?, hw]
        rw [hc] at hb ⊢
        exact p.account_own hs hf (fun _ hn => hb _ rfl (by simp [hn]))
          fun u => hok what f below u .signal
    · have hc : Move.callback? t.name (.signal x what f below) = none := by
        simp [Move.callback?, hx]
      rw [hc]
      exact p.account_other hs hx what f below
  | finish x lowest =>
    have hx : ∀ f, lowest = some f → x ≠ t.name := by
      rintro f rfl hx
      exact hb ⟨.ret, f.code, []⟩ (by simp [Move.callback?, hx]) rfl
    have hc : Move.callback? t.name (.finish x lowest) = none := by
      cases lowest with
      | none => rfl
      | some f => simp [Move.callback?, hx f rfl]
    rw [hc]
    simp only [step]
    split
    · cases lowest with
      | none => exact .quiet rfl p.traced
      | some f => exact p.account_other hs (hx f rfl) .ret f []
    · exact .quiet rfl p.traced

def Alone (t : Thread) (s : Situation (Journaled σ)) : Prop :=
  ∀ u ∈ s.threads.all, u.isAlive = true → u.assigned = t.assigned → u.name = t.name

instance (t : Thread) (s : Situation (Journaled σ)) : Decidable (Alone t s) :=
  inferInstanceAs (Decidable (∀ u ∈ s.threads.all, u.isAlive = true → u.assigned = t.assigned →
    u.name = t.name))

theorem not_ends {m : Move} {target : Target} (hm : m.Spares t target)
    (hb : ∀ x, m.callback? t.name = some x → x.below ≠ []) : ¬m.Ends t.name := by
  intro he
  cases m with
  | finish x lowest =>
    obtain rfl : t.name = x := he
    cases lowest with
    | none => exact hm rfl
    | some f => exact hb ⟨.ret, f.code, []⟩ (by simp [Move.callback?]) rfl
  | _ => exact he

theorem Watched.step {s : Situation (Journaled σ)} (p : Watched t a s) {m : Move} {target : Target}
    (hm : m.Spares t target) (hb : ∀ x, m.callback? t.name = some x → x.below ≠ [])
    (hc : ∀ caller carrier b, m = .attach caller carrier b → Compatible a b)
    (ha : Alone t (s.step c.journaled m))
    (hg : (s.step c.journaled m).host.traced.get? t.assigned = some a) :
    Watched t a (s.step c.journaled m) := by
  constructor
  · exact names_step c.journaled p.names m
  · obtain ⟨u, hu, hua, hun⟩ := p.present
    obtain ⟨v, hv, -, -, hk⟩ := (step_evolves c.journaled p.names m).find? hu
    have he : ¬m.Ends u.name := (Threads.mem_of_find? hu).2 ▸ not_ends hm hb
    exact ⟨v, hv, (hk hua he).1, (hk hua he).2.trans hun⟩
  · exact ha
  · exact hg
  · exact listens_step p.listens m
  · intro b hb
    obtain ⟨caller, carrier, he⟩ | hb := held_step hb
    · exact hc caller carrier b he
    · exact p.compatible b hb

/-- The account of a traced thread over any moves up to the return of its lowest frame. -/
theorem Watched.run {s : Situation (Journaled σ)} (p : Watched t a s)
    (hs : Serves a ws t.assigned w) (hf : a.flags.FollowCalls) {ms : List Move}
    (hm : ∀ m ∈ ms, m.Spares t a.target)
    (hb : ∀ x ∈ ms.filterMap (Move.callback? t.name), x.below ≠ [])
    (hc : ∀ caller carrier b, .attach caller carrier b ∈ ms → Compatible a b)
    (ha : ∀ pre, pre <+: ms → Alone t (s.run c.journaled pre))
    (hok : Along c.journaled (Completes c.journaled t) s ms) {es : List Entry}
    (hj : (s.run c.journaled ms).outside.journal = s.outside.journal ++ es) (hk : Kept ws es) :
    es.filterMap (Entry.account? t.assigned) =
        handedTo w ((ms.filterMap (Move.callback? t.name)).flatMap
          (Traced.answer ⟨fun v => (s.host.matchUnit v).isSome, t.assigned, a.target.mode⟩)) ∧
      Watched t a (s.run c.journaled ms) ∧
      (s.run c.journaled ms).host.filters = s.host.filters := by
  induction ms generalizing s es with
  | nil =>
    obtain rfl : es = [] := by simpa using hj
    exact ⟨rfl, p, rfl⟩
  | cons m ms ih =>
    have hm0 := hm m List.mem_cons_self
    have hb0 : ∀ x, m.callback? t.name = some x → x.below ≠ [] := fun x hx =>
      hb x (List.mem_filterMap.2 ⟨m, List.mem_cons_self, hx⟩)
    obtain ⟨es₁, hj₁, h⟩ := p.account (c := c) hs hf hm0 hb0 hok.1
    obtain ⟨es₂, hj₂⟩ := journal_run (c := c) (s.step c.journaled m) ms
    obtain rfl : es = es₁ ++ es₂ := by
      rw [run_cons, hj₂, hj₁, List.append_assoc] at hj
      exact (List.append_cancel_left hj).symm
    obtain ⟨hk₁, hk₂⟩ := Kept.append.1 hk
    obtain ⟨hacc, hg⟩ := h hk₁
    have hfil : (s.step c.journaled m).host.filters = s.host.filters := filters_step hm0
    have hal : Alone t (s.step c.journaled m) := ha [m] (by simp)
    have p' := p.step hm0 hb0
      (fun caller carrier b he => hc caller carrier b (he ▸ List.mem_cons_self)) hal hg
    obtain ⟨hacc', hw, hfil'⟩ := ih p' (fun m hm' => hm m (List.mem_cons_of_mem _ hm'))
      (fun x hx => by
        obtain ⟨m', hm', hx⟩ := List.mem_filterMap.1 hx
        exact hb x (List.mem_filterMap.2 ⟨m', List.mem_cons_of_mem _ hm', hx⟩))
      (fun caller carrier b hm' => hc caller carrier b (List.mem_cons_of_mem _ hm'))
      (fun pre hp => ha (m :: pre) (List.cons_prefix_cons.2 ⟨rfl, hp⟩)) hok.2 hj₂ hk₂
    refine ⟨?_, hw, hfil'.trans hfil⟩
    rw [List.filterMap_append, hacc, hacc']
    simp only [Hook.matchUnit_congr hfil, handedTo]
    rw [← List.map_append, ← List.flatMap_append]
    cases hcb : m.callback? t.name <;> simp [hcb]

theorem Watched.account_last {s : Situation (Journaled σ)} (p : Watched t a s)
    (hs : Serves a ws t.assigned w) (hf : a.flags.FollowCalls) {m : Move} {code : Code}
    (hm : m.callback? t.name = some ⟨.ret, code, []⟩) (hok : Completes c.journaled t s m) :
    ∃ es, (s.step c.journaled m).outside.journal = s.outside.journal ++ es ∧
      (Kept ws es → es.filterMap (Entry.account? t.assigned) = handedTo w
        [Traced.ended ⟨fun v => (s.host.matchUnit v).isSome, t.assigned, a.target.mode⟩]) := by
  obtain ⟨u, hu, hua, hun⟩ := p.present
  have hsig : ∀ f, m.Fires t.name .ret f [] → ∃ es,
      (s.signal c.journaled t.name .ret f []).outside.journal = s.outside.journal ++ es ∧
        (Kept ws es → es.filterMap (Entry.account? t.assigned) = handedTo w
          [Traced.ended ⟨fun v => (s.host.matchUnit v).isSome, t.assigned, a.target.mode⟩]) := by
    intro f hfire
    rw [← hun] at hs ⊢
    obtain ⟨es, hj, h⟩ := signal_account_own (c := c) hu hua .ret f [] p.compatible hs hf
      (active_of_listens p.listens p.traced)
      ((congrArg s.host.traced.get? hun).trans p.traced) (hok .ret f [] u hfire hu)
    exact ⟨es, hj, fun hk => (h hk).1⟩
  cases m with
  | signal x what f below =>
    simp only [Move.callback?, Option.ite_none_right_eq_some, Option.some.injEq,
      Callback.mk.injEq] at hm
    obtain ⟨⟨rfl, -⟩, rfl, -, hbelow⟩ := hm
    obtain rfl : below = [] := List.map_eq_nil_iff.1 hbelow
    exact hsig f .signal
  | finish x lowest =>
    cases lowest with
    | none => cases hm
    | some f =>
      simp only [Move.callback?, Option.ite_none_right_eq_some] at hm
      obtain ⟨rfl, -⟩ := hm
      rw [(finish_heard s t.name f).2]
      exact hsig f .finish
  | _ => cases hm

/-- From the call of its lowest frame to the return of it, the calls, returns and the end of a thread
go to the worker for its ident, in the order of the call tree, if no worker of its target refuses an
event and none of its own callbacks ends in a fault. Other threads, their targets and what else is
attached meanwhile make no difference. -/
theorem account_whole {s : Situation (Journaled σ)} (hn : s.threads.names.Nodup)
    (ht : s.threads.find? t.name = some t) (hal : t.isAlive = true) (hact : s.host.active = true)
    (ho : Hook.own? t.caller .call s.host = some a) (hf : a.flags.FollowCalls) (hws : ws ≠ [])
    (hta : a.target = .ofWorkers a.target.id a.target.mode ws) {f : Frame} {mid : List Move}
    {last : Move} {calls : Calls}
    (hmid : mid.filterMap (Move.callback? t.name) = calls.walk [f.code])
    (hlast : last.callback? t.name = some ⟨.ret, f.code, []⟩)
    (hspare : ∀ m ∈ mid, m.Spares t a.target)
    (hcomp : ∀ b, (b ∈ s.host.held ∨ ∃ caller carrier, .attach caller carrier b ∈ mid) →
      Compatible a b)
    (halone : ∀ pre, pre <+: .signal t.name .call f [] :: mid → Alone t (s.run c.journaled pre))
    (hok : Along c.journaled (Completes c.journaled t) s
      (.signal t.name .call f [] :: mid ++ [last]))
    {es : List Entry}
    (hj : (s.run c.journaled (.signal t.name .call f [] :: mid ++ [last])).outside.journal =
      s.outside.journal ++ es) (hk : Kept ws es) :
    ∃ w, ws[t.assigned % ws.length]? = some w ∧
      es.filterMap (Entry.account? t.assigned) = (Traced.whole
        ⟨fun u => (s.host.matchUnit u).isSome, t.assigned, a.target.mode⟩ f.code calls).map
          fun e => (w, e, true) := by
  obtain ⟨w, hw, hr⟩ := Target.route_ofWorkers a.target.id a.target.mode hws (t.assigned : Int)
  have hmod : (((t.assigned : Nat) : Int) % ws.length).toNat = t.assigned % ws.length := by
    rw [← Int.natCast_emod, Int.toNat_natCast]
  rw [← hta] at hr
  rw [hmod] at hw
  have hs : Serves a ws t.assigned w := ⟨hws, hta, hr, List.mem_of_getElem? hw⟩
  refine ⟨w, hw, ?_⟩
  have hheld : ∀ b ∈ s.host.held, Compatible a b := fun b hb => hcomp b (.inl hb)
  -- the journal in three parts: of the first call, of what comes between, of the last return
  obtain ⟨⟨hok₁, hok₂⟩, hok₃, -⟩ := along_append.1 hok
  obtain ⟨es₁, hj₁, h₁⟩ := signal_account_own (c := c) ht hal .call f [] hheld hs hf hact ho
    (hok₁ .call f [] t .signal ht)
  let s₁ := s.step c.journaled (.signal t.name .call f [])
  obtain ⟨es₂, hj₂⟩ := journal_run (c := c) s₁ mid
  let s₂ := s₁.run c.journaled mid
  obtain ⟨es₃, hj₃⟩ := journal_step (c := c) s₂ last
  obtain rfl : es = es₁ ++ (es₂ ++ es₃) := by
    have hrun : s.run c.journaled (.signal t.name .call f [] :: mid ++ [last]) =
        s₂.step c.journaled last := by
      rw [run_concat, run_cons]
    rw [hrun, hj₃, hj₂] at hj
    have hj₁ : s₁.outside.journal = s.outside.journal ++ es₁ := hj₁
    rw [hj₁, List.append_assoc, List.append_assoc] at hj
    exact (List.append_cancel_left hj).symm
  obtain ⟨hk₁, hk⟩ := Kept.append.1 hk
  obtain ⟨hk₂, hk₃⟩ := Kept.append.1 hk
  obtain ⟨hacc₁, hg⟩ := h₁ hk₁
  have hths : s₁.threads = s.threads := signal_threads ..
  have p₁ : Watched t a s₁ := by
    constructor
    · rw [hths]
      exact hn
    · rw [hths]
      exact ⟨t, ht, hal, rfl⟩
    · exact halone [.signal t.name .call f []] (by simp)
    · exact hg (by simp)
    · exact listens_step (fun _ => hact) _
    · intro b hb
      obtain ⟨caller, carrier, he⟩ | hb := held_step hb
      · cases he
      · exact hheld b hb
  have hfil : s₁.host.filters = s.host.filters :=
    filters_step (show Move.Spares t a.target (.signal t.name .call f []) from trivial)
  obtain ⟨hacc₂, p₂, hfil₂⟩ := p₁.run (c := c) hs hf hspare
    (fun x hx => (Traced.below_of_mem_walk (hmid ▸ hx)).1)
    (fun caller carrier b hm => hcomp b (.inr ⟨caller, carrier, hm⟩))
    (fun pre hp => halone (_ :: pre) (List.cons_prefix_cons.2 ⟨rfl, hp⟩)) hok₂ hj₂ hk₂
  obtain ⟨fs, hj₃', h₃⟩ := p₂.account_last (c := c) hs hf hlast hok₃
  obtain rfl : es₃ = fs := List.append_cancel_left (hj₃.symm.trans hj₃')
  rw [List.filterMap_append, List.filterMap_append, hacc₁, hacc₂, h₃ hk₃, hmid,
    Traced.flatMap_answer]
  simp only [Hook.matchUnit_congr (hfil₂.trans hfil), Hook.matchUnit_congr hfil, handedTo,
    Traced.whole, Traced.answer, List.map_append, List.append_assoc]

def basic : Attachment := ⟨.base, .ofWorkers 0 .trace [4, 5]⟩

def childStarted : Situation (Journaled Unit) :=
  (fresh .family ⟨(), []⟩).run (HookEnv.answering true).journaled
    [.install "app" .passThrough true, .attach "main" (.thread "main") basic,
      .signal "main" .call (.start (.thread "child")) [], .start "child" 7]

def inApp (function : String) : Frame := { unit := some "app", function }

theorem account_whole_child :
    let after := childStarted.run (HookEnv.answering true).journaled
      (.signal "child" .call (inApp "work") [] ::
        [.signal "child" .call (inApp "help") [inApp "work"],
          .signal "main" .call (inApp "wait") [],
          .signal "child" .ret (inApp "help") [inApp "work"]] ++
        [.finish "child" (some (inApp "work"))])
    ∃ w, [4, 5][7 % 2]? = some w ∧
      after.outside.journal.filterMap (Entry.account? 7) = (Traced.whole
        ⟨fun u => (childStarted.host.matchUnit u).isSome, 7, .trace⟩ (inApp "work").code
        (.call (inApp "help").code .done .done)).map fun e => (w, e, true) := by
  intro after
  have held : childStarted.host.held = [basic, basic] := by rfl
  have taken : after.outside.journal.all (fun
      | .handed _ _ taken => taken
      | .dropped _ => true) = true := by rfl
  refine account_whole (c := .answering true) (s := childStarted)
    (t := { name := "child", assigned := 7, state := .alive, hooked := true }) (a := basic)
    (f := inApp "work") (by decide) (by rfl) rfl (by rfl) (by rfl) ⟨rfl, rfl, rfl⟩
    (show [4, 5] ≠ [] by simp) (by rfl) (by rfl) (by rfl) ?_ ?_ ?_ ?_
    (show after.outside.journal = childStarted.outside.journal ++ after.outside.journal by rfl) ?_
  · intro m hm
    simp only [List.mem_cons, List.not_mem_nil, or_false] at hm
    rcases hm with rfl | rfl | rfl <;> trivial
  · intro b hb
    have hb : b = basic := by
      obtain hb | ⟨caller, carrier, hb⟩ := hb
      · simpa [held] using hb
      · simp at hb
    subst hb
    exact fun _ => rfl
  · intro pre hp
    simp only [List.prefix_cons_iff, List.prefix_nil] at hp
    rcases hp with rfl | ⟨_, rfl, rfl | ⟨_, rfl, rfl | ⟨_, rfl, rfl | ⟨_, rfl, rfl⟩⟩⟩⟩ <;> decide
  · exact ⟨.of_fires .signal rfl rfl, .of_fires .signal rfl rfl, .of_signal (by decide) _ _ _,
      .of_fires .signal rfl rfl, .of_fires .finish rfl rfl, trivial⟩
  · intro w e hm
    have h := List.all_eq_true.1 taken _ hm
    cases h

end Situation

end ThreadTrace
