import ThreadTrace.Proofs.Profile.Course
import ThreadTrace.Proofs.Profile.Gathering

namespace ThreadTrace

/-- Hosts that differ at most in what is not read: the known threads while nobody waits for arrivals,
and the way in which the hook was put on while it is off. -/
inductive ProfileHost.Akin (h : ProfileHost) : ProfileHost → Prop
  | mk (known : List String) (allThreads : Bool)
      (hk : h.arrivals.isSome = true → known = h.known)
      (ha : h.installed = true → allThreads = h.allThreads) :
      Akin h { h with known, allThreads }

namespace ProfileHost

variable {h k : ProfileHost}

/-- What neither reads nor writes where the hosts differ keeps them alike, if it calls for no arrivals
and leaves a hook off. -/
theorem Akin.map (p : Akin h k) {f : ProfileHost → ProfileHost}
    (hf : ∀ known allThreads, f { h with known, allThreads } = { f h with known, allThreads })
    (hr : (f h).arrivals.isSome = true → h.arrivals.isSome = true)
    (hi : (f h).installed = true → h.installed = true) (hk : (f h).known = h.known)
    (ha : (f h).allThreads = h.allThreads) : Akin (f h) (f k) := by
  obtain ⟨known, allThreads, hk', ha'⟩ := p
  rw [hf known allThreads]
  exact .mk known allThreads (fun h => (hk' (hr h)).trans hk.symm) fun h => (ha' (hi h)).trans ha.symm

theorem Akin.forget (p : Akin h k) (t : Target) : Akin (h.forget t) (k.forget t) := by
  refine p.map (f := fun h => h.forget t) (fun _ _ => rfl) (fun hs => ?_) (fun hi => hi) rfl rfl
  obtain ⟨a, ha⟩ := Option.isSome_iff_exists.1 hs
  rw [(Option.filter_eq_some_iff.1 ha).1]
  rfl

end ProfileHost

namespace Hook

open ProfileHost

variable {h k : ProfileHost}

theorem arriving_akin (me : Caller) (p : Akin h k) : arriving k me = arriving h me := by
  obtain ⟨known, allThreads, hk, -⟩ := p
  simp only [arriving]
  cases h.pending.get? me.thread with
  | some a => rfl
  | none =>
    cases hr : h.arrivals with
    | none => simp
    | some a => rw [hk (by rw [hr]; rfl)]

theorem settle_akin (me : Caller) (p : Akin h k) :
    (settle me k).1 = (settle me h).1 ∧ Akin (settle me h).2 (settle me k).2 := by
  have hr := arriving_akin me p
  obtain ⟨known, allThreads, hk, ha⟩ := p
  simp only [settle, hr]
  cases h.traced.get? me.ident with
  | some a => exact ⟨rfl, .mk known allThreads hk ha⟩
  | none =>
    dsimp only
    split
    · exact ⟨rfl, .mk known allThreads hk ha⟩
    · cases arriving h me <;> exact ⟨rfl, .mk known allThreads hk ha⟩

theorem planCall_akin (p : Akin h k) (isSink : String → Bool) (me : Caller) (f : Frame)
    (stack : List Frame) :
    (planCall isSink me f stack k).2 = (planCall isSink me f stack h).2 ∧
      Akin (planCall isSink me f stack h).1 (planCall isSink me f stack k).1 := by
  obtain ⟨hown, hhost⟩ := settle_akin me p
  simp only [planCall]
  generalize settle me k = y at hown hhost
  generalize settle me h = x at hown hhost
  obtain ⟨own, g⟩ := x
  obtain ⟨own', g'⟩ := y
  obtain rfl : own' = own := hown
  obtain ⟨known, allThreads, hk, ha⟩ := hhost
  cases own' with
  | none => exact ⟨rfl, .mk known allThreads hk ha⟩
  | some a =>
    refine ⟨rfl, ?_⟩
    dsimp only
    split <;> exact .mk known allThreads hk ha

theorem planReturn_akin (p : Akin h k) (me : Caller) (f : Frame) (caller : Option Frame) :
    (planReturn me f caller k).2 = (planReturn me f caller h).2 ∧
      Akin (planReturn me f caller h).1 (planReturn me f caller k).1 := by
  obtain ⟨known, allThreads, hk, ha⟩ := p
  unfold planReturn planEnd
  cases caller <;> cases h.traced.get? me.ident <;> exact ⟨rfl, .mk known allThreads hk ha⟩

theorem plan_akin (p : Akin h k) (isSink : String → Bool) (me : Caller) (what : Signal) (f : Frame)
    (below : List Frame) :
    (plan isSink me what f below k).2 = (plan isSink me what f below h).2 ∧
      Akin (plan isSink me what f below h).1 (plan isSink me what f below k).1 := by
  have hactive : k.active = h.active := by
    cases p
    rfl
  simp only [plan, hactive]
  split
  · cases what with
    | call => exact planCall_akin p isSink me f (f :: below)
    | ret => exact planReturn_akin p me f below.head?
    | other => exact ⟨rfl, p⟩
  · exact ⟨rfl, p⟩

end Hook

theorem Hook.plan_installed (isSink : String → Bool) (me : Caller) (what : Signal) (f : Frame)
    (below : List Frame) (h : ProfileHost) :
    (plan isSink me what f below h).1.installed = h.installed ∧
      (plan isSink me what f below h).1.allThreads = h.allThreads := by
  unfold plan
  split
  · cases what with
    | other => exact ⟨rfl, rfl⟩
    | call =>
      obtain ⟨last, he⟩ := planCall_host isSink me f (f :: below) h
      obtain ⟨traced, pending, hooked, ignored, hs⟩ := settle_others me h
      simp only [he, hs, and_self]
    | ret =>
      obtain ⟨traced, hooked, ignored, -, he⟩ := planReturn_host me f below.head? h
      simp only [he, and_self]
  · exact ⟨rfl, rfl⟩

inductive HookState.Akin {σ : Type} : HookState σ → HookState σ → Prop
  | mk {h k : ProfileHost} (p : h.Akin k) (o : σ) : Akin ⟨h, o⟩ ⟨k, o⟩

namespace Hook

variable {σ : Type} (c : HookEnv σ) {s u : HookState σ}

theorem act_akin (d : Effect) (p : s.Akin u) :
    ((d.act c).on u).1 = ((d.act c).on s).1 ∧ ((d.act c).on s).2.Akin ((d.act c).on u).2 := by
  obtain ⟨p, o⟩ := p
  cases d with
  | pass child a =>
    have hp := p.map (f := Hook.pass child a) (fun _ _ => rfl) (fun hr => hr) (fun hi => hi) rfl rfl
    exact ⟨rfl, hp, o⟩
  | report ident a e =>
    rw [report_on, report_on]
    generalize stamp c a.flags o = x
    simp only [emit]
    split
    · exact ⟨rfl, p, x.2⟩
    · cases a.target.route (.int ident) with
      | error f => exact ⟨rfl, p, x.2⟩
      | ok w =>
        cases w with
        | none => exact ⟨rfl, p.forget a.target, c.dropped a.target x.2⟩
        | some w =>
          cases ho : (c.offer w { e with timestamp := x.1 } x.2).1 with
          | true =>
            simp only [offer, ho, Act.on_bind, Act.on_result, Act.on_get, Act.on_set]
            exact ⟨rfl, p, _⟩
          | false =>
            simp only [offer, ho, Act.on_bind, Act.on_result, Act.on_get, Act.on_set]
            exact ⟨rfl, p.forget a.target, _⟩

theorem actAll_akin (ds : List Effect) (p : s.Akin u) :
    ((actAll c ds).on u).1 = ((actAll c ds).on s).1 ∧
      ((actAll c ds).on s).2.Akin ((actAll c ds).on u).2 := by
  induction ds generalizing s u with
  | nil => exact ⟨rfl, p⟩
  | cons d ds ih =>
    obtain ⟨hr, hs⟩ := act_akin c d p
    simp only [actAll, Act.on_bind]
    generalize (d.act c).on u = y at hr hs
    generalize (d.act c).on s = x at hr hs
    obtain ⟨r, s⟩ := x
    obtain ⟨r', u⟩ := y
    obtain rfl : r' = r := hr
    cases r' with
    | error f => exact ⟨rfl, hs⟩
    | ok _ => exact ih hs

theorem fire_akin (isSink : String → Bool) (me : Caller) (what : Signal) (f : Frame)
    (below : List Frame) (p : s.Akin u) :
    ((fire c isSink me what f below).on u).1 = ((fire c isSink me what f below).on s).1 ∧
      ((fire c isSink me what f below).on s).2.Akin ((fire c isSink me what f below).on u).2 := by
  obtain ⟨p, o⟩ := p
  obtain ⟨hds, hh⟩ := plan_akin p isSink me what f below
  rw [fire_on, fire_on, hds]
  exact actAll_akin c _ ⟨hh, o⟩

end Hook

inductive Observed.Akin : Observed → Observed → Prop
  | mk {h k : ProfileHost} (p : h.Akin k) (ts : Threads) : Akin ⟨h, ts⟩ ⟨k, ts⟩

namespace Observed

open ProfileHost

variable {o u : Observed} (a : Attachment)

theorem observable_akin (p : o.Akin u) (t : Thread) : u.observable t = o.observable t := by
  obtain ⟨⟨known, allThreads, -, -⟩, ts⟩ := p
  rfl

theorem attachListed_akin (p : o.Akin u) (ts : List Thread) (traced : Table Nat Attachment)
    (unreached : List String) :
    u.attachListed a traced unreached ts = o.attachListed a traced unreached ts := by
  induction ts generalizing traced unreached with
  | nil => rfl
  | cons t ts ih => simp only [attachListed, observable_akin p, ih]

theorem attachRunning_akin (p : o.Akin u) (t : Thread) (n : Nat) :
    (u.attachRunning t n a).2 = (o.attachRunning t n a).2 ∧
      (o.attachRunning t n a).1.Akin (u.attachRunning t n a).1 := by
  simp only [attachRunning, observable_akin p]
  obtain ⟨⟨known, allThreads, hk, ha⟩, ts⟩ := p
  split <;> exact ⟨rfl, .mk known allThreads hk ha⟩

theorem attachExisting_akin (p : o.Akin u) :
    (u.attachExisting a).2 = (o.attachExisting a).2 ∧
      (o.attachExisting a).1.Akin (u.attachExisting a).1 := by
  simp only [attachExisting, attachListed_akin a p]
  obtain ⟨⟨known, allThreads, hk, ha⟩, ts⟩ := p
  exact ⟨rfl, .mk known allThreads hk ha⟩

theorem attachArrivals_akin (p : o.Akin u) :
    (o.attachArrivals a).Akin (u.attachArrivals a) := by
  obtain ⟨⟨known, allThreads, hk, ha⟩, ts⟩ := p
  rename_i h
  cases hr : h.arrivals with
  | none =>
    simp only [attachArrivals, hr]
    exact .mk _ allThreads (fun _ => rfl) ha
  | some b =>
    obtain rfl : known = h.known := hk (by rw [hr]; rfl)
    simp only [attachArrivals, hr]
    exact .mk _ allThreads (fun _ => rfl) ha

theorem attachSelector_akin (p : o.Akin u) (s : Selector) :
    (u.attachSelector s a).2 = (o.attachSelector s a).2 ∧
      (o.attachSelector s a).1.Akin (u.attachSelector s a).1 := by
  have first : (if s.coversExisting then u.attachExisting a else (u.host, [])).2 =
      (if s.coversExisting then o.attachExisting a else (o.host, [])).2 ∧
      (if s.coversExisting then o.attachExisting a else (o.host, [])).1.Akin
        (if s.coversExisting then u.attachExisting a else (u.host, [])).1 := by
    split
    · exact attachExisting_akin a p
    · obtain ⟨p, ts⟩ := p
      exact ⟨rfl, p⟩
  obtain ⟨p, ts⟩ := p
  simp only [attachSelector]
  refine ⟨first.1, ?_⟩
  split
  · exact attachArrivals_akin a ⟨first.2, ts⟩
  · exact first.2

theorem attachCarrier_akin (p : o.Akin u) (c : Carrier) :
    (u.attachCarrier c a).2 = (o.attachCarrier c a).2 ∧
      (o.attachCarrier c a).1.Akin (u.attachCarrier c a).1 := by
  have running := attachRunning_akin a p
  cases c with
  | selector s => exact attachSelector_akin a p s
  | port handle =>
    obtain ⟨p, ts⟩ := p
    exact ⟨rfl, p⟩
  | thread x =>
    obtain ⟨p, ts⟩ := p
    simp only [attachCarrier, attachThread]
    cases ts.find? x with
    | none => exact ⟨rfl, p⟩
    | some t =>
      dsimp only
      split
      · exact ⟨rfl, p⟩
      · cases t.ident? with
        | none =>
          obtain ⟨known, allThreads, hk, ha⟩ := p
          exact ⟨rfl, .mk known allThreads hk ha⟩
        | some n =>
          dsimp only
          split
          · exact running t n
          · exact ⟨rfl, p⟩
  | ident n =>
    obtain ⟨p, ts⟩ := p
    simp only [attachCarrier, attachIdent]
    cases ts.listed.reverse.find? fun t => t.ident? == some n with
    | none => exact ⟨rfl, p⟩
    | some t =>
      dsimp only
      split
      · exact ⟨rfl, p⟩
      · exact running t n

theorem installHook_akin (p : o.Akin u) : o.installHook.Akin u.installHook := by
  obtain ⟨⟨known, allThreads, hk, -⟩, ts⟩ := p
  rename_i h
  exact ⟨.mk (h := { h with allThreads := ts.reachesRunning, installed := true }) known _ hk
    fun _ => rfl, _⟩

theorem refresh_akin (p : o.Akin u) : o.refresh.Akin u.refresh := by
  obtain ⟨p, ts⟩ := p
  rename_i h k
  have hp : Akin ⟨{ h with active := h.hasAttachments }, ts⟩
      ⟨{ k with active := k.hasAttachments }, ts⟩ :=
    ⟨p.map (f := fun h => { h with active := h.hasAttachments }) (fun _ _ => rfl) (fun hr => hr)
      (fun hi => hi) rfl rfl, ts⟩
  obtain ⟨known, allThreads, hk, ha⟩ := p
  simp only [refresh]
  cases hb : h.hasAttachments with
  | false =>
    have hb' : ({ h with known, allThreads } : ProfileHost).hasAttachments = false := hb
    simp only [hb, hb', Bool.false_and, Bool.false_eq_true, if_false] at hp ⊢
    exact hp
  | true =>
    have hb' : ({ h with known, allThreads } : ProfileHost).hasAttachments = true := hb
    simp only [hb, hb', Bool.true_and] at hp ⊢
    cases hi : h.installed with
    | false =>
      rw [hi] at hp
      exact installHook_akin hp
    | true =>
      rw [hi] at hp
      obtain rfl := ha hi
      simp only [Bool.not_true, Bool.false_eq_true, if_false]
      obtain ⟨hp, -⟩ := hp
      split <;> exact ⟨hp, _⟩

theorem attach_akin (p : o.Akin u) (c : Carrier) :
    (u.attach c a).2 = (o.attach c a).2 ∧ (o.attach c a).1.Akin (u.attach c a).1 := by
  obtain ⟨hn, hh⟩ := attachCarrier_akin a p c
  obtain ⟨p, ts⟩ := p
  refine ⟨hn, refresh_akin ⟨?_, ts⟩⟩
  exact hh.map (f := fun h => { h with ignored := [] }) (fun _ _ => rfl) (fun hr => hr)
    (fun hi => hi) rfl rfl

theorem clear_akin (p : o.Akin u) : o.clear.Akin u.clear := by
  obtain ⟨⟨known, allThreads, hk, ha⟩, ts⟩ := p
  rename_i h
  simp only [clear, uninstallHook]
  cases hx : h.installed with
  | false => exact ⟨.mk known allThreads (by simp) (by simp), ts⟩
  | true =>
    obtain rfl := ha hx
    exact ⟨.mk known _ (by simp) (by simp), _⟩

end Observed

inductive Situation.Akin {σ : Type} : Situation σ → Situation σ → Prop
  | mk {o u : Observed} (p : o.Akin u) (x : σ) : Akin ⟨o, x⟩ ⟨u, x⟩

namespace Situation

variable {σ : Type} (c : HookEnv σ) {s u : Situation σ}

def heard (s : Situation σ) (thread : String) (what : Hook.Signal) (f : Frame)
    (below : List Frame) : Except Fault (List Notice) :=
  match s.threads.find? thread with
  | none => .ok []
  | some t => if t.isAlive then (s.callback c t what f below).1.map fun _ => [] else .ok []

def answer (s : Situation σ) : Move → Except Fault (List Notice)
  | .attach caller carrier a => .ok ((s.calledBy caller).attach carrier a).2
  | .signal thread what f below => s.heard c thread what f below
  | .finish thread (some f) => s.heard c thread .ret f []
  | _ => .ok []

inductive Request
  | attach (caller : String) (carrier : Value) (flags : Flags) (target : Target)
  | install (unit : Value) (spec : MatchSpec) (localOnly : Bool)
  | move (m : Move)

def request (s : Situation σ) : Request → Except Fault (List Notice) × Situation σ
  | .attach caller carrier flags target =>
    match TraceHost.attach (s.calledBy caller) carrier flags target with
    | .ok (observed, notices) => (.ok notices, { s with observed })
    | .error f => (.error f, s)
  | .install unit spec localOnly =>
    match TraceHost.install s.observed unit spec localOnly with
    | .ok (observed, notices) => (.ok notices, { s with observed })
    | .error f => (.error f, s)
  | .move m => (s.answer c m, s.step c m)

/-- What can be seen after a request: its answer, what the host shows of itself, which threads carry
the hook, and all that lies outside. -/
structure View (σ : Type) where
  answer : Except Fault (List Notice)
  traced : List Nat
  filters : Table String MatchSpec
  installed : Bool
  threads : Threads
  outside : σ

def view (s : Situation σ) (answer : Except Fault (List Notice)) : View σ where
  answer := answer
  traced := s.host.traced.keys
  filters := s.host.filters
  installed := s.host.installed
  threads := s.threads
  outside := s.outside

/-- What can be seen after each of some requests. -/
def transcript (s : Situation σ) : List Request → List (View σ)
  | [] => []
  | r :: rs =>
    let (answer, s) := s.request c r
    s.view answer :: transcript s rs

theorem view_akin (p : s.Akin u) (answer : Except Fault (List Notice)) :
    u.view answer = s.view answer := by
  obtain ⟨⟨⟨known, allThreads, -, -⟩, ts⟩, x⟩ := p
  rfl

theorem calledBy_akin (p : s.Akin u) (caller : String) :
    (s.calledBy caller).Akin (u.calledBy caller) := by
  obtain ⟨⟨p, ts⟩, x⟩ := p
  exact ⟨p, _⟩

theorem isIn_of_akin (p : s.Akin u) (thread : String) (states : List ThreadState) :
    u.isIn thread states = s.isIn thread states := by
  obtain ⟨⟨p, ts⟩, x⟩ := p
  rfl

theorem signal_akin (p : s.Akin u) (thread : String) (what : Hook.Signal) (f : Frame)
    (below : List Frame) :
    u.heard c thread what f below = s.heard c thread what f below ∧
      (s.signal c thread what f below).Akin (u.signal c thread what f below) := by
  have hp := p
  obtain ⟨⟨p, ts⟩, x⟩ := p
  simp only [heard, signal, threads]
  cases ts.find? thread with
  | none => exact ⟨rfl, hp⟩
  | some t =>
    dsimp only
    split
    · obtain ⟨hr, hs⟩ := Hook.fire_akin c ts.isSink t.caller what f below (HookState.Akin.mk p x)
      refine ⟨congrArg (Except.map fun _ => []) hr, ?_⟩
      simp only [callback, threads, host]
      revert hs
      generalize ((Hook.fire c ts.isSink t.caller what f below).on ⟨_, x⟩).2 = y
      generalize ((Hook.fire c ts.isSink t.caller what f below).on ⟨_, x⟩).2 = z
      rintro ⟨p, o⟩
      exact ⟨⟨p, _⟩, _⟩
    · exact ⟨rfl, hp⟩

theorem withThreads_akin (p : s.Akin u) (f : Threads → Threads) :
    (s.withThreads (f s.threads)).Akin (u.withThreads (f u.threads)) := by
  obtain ⟨⟨p, ts⟩, x⟩ := p
  exact ⟨⟨p, _⟩, x⟩

theorem withHost_akin (p : s.Akin u) (f : ProfileHost → ProfileHost)
    (hf : s.host.Akin u.host → (f s.host).Akin (f u.host)) :
    (s.withHost (f s.host)).Akin (u.withHost (f u.host)) := by
  obtain ⟨⟨p, ts⟩, x⟩ := p
  exact ⟨⟨hf p, ts⟩, x⟩

theorem withObserved_akin (p : s.Akin u) {o o' : Observed} (h : o.Akin o') :
    Akin { s with observed := o } { u with observed := o' } := by
  obtain ⟨-, x⟩ := p
  exact ⟨h, x⟩

theorem move_akin (p : s.Akin u) (m : Move) :
    u.answer c m = s.answer c m ∧ (s.step c m).Akin (u.step c m) := by
  cases m with
  | attach caller carrier a =>
    obtain ⟨hn, hh⟩ := Observed.attach_akin a (calledBy_akin p caller) carrier
    exact ⟨congrArg Except.ok hn, withObserved_akin p hh⟩
  | install unit spec localOnly =>
    exact ⟨rfl, withHost_akin p (fun h => h.install unit spec localOnly) fun q =>
      q.map (f := fun h => h.install unit spec localOnly) (fun _ _ => rfl) (fun hr => hr)
        (fun hi => hi) rfl rfl⟩
  | forget t => exact ⟨rfl, withHost_akin p (fun h => h.forget t) fun q => q.forget t⟩
  | clear caller =>
    exact ⟨rfl, withObserved_akin p (Observed.clear_akin (calledBy_akin p caller))⟩
  | launch x =>
    refine ⟨rfl, ?_⟩
    simp only [step, isIn_of_akin p]
    split
    · exact withThreads_akin p fun ts => ts.update x fun t => { t with state := .limbo }
    · exact p
  | start x n =>
    refine ⟨rfl, ?_⟩
    simp only [step, isIn_of_akin p]
    split
    · exact withThreads_akin p fun ts => ts.start x (some n)
    · exact p
  | finish x lowest =>
    have ended : ∀ {s u : Situation σ}, s.Akin u →
        (s.withThreads (s.threads.finish x)).Akin (u.withThreads (u.threads.finish x)) :=
      fun p => withThreads_akin p fun ts => ts.finish x
    simp only [answer, step, isIn_of_akin p]
    cases lowest with
    | none =>
      refine ⟨rfl, ?_⟩
      split
      · exact ended p
      · exact p
    | some f =>
      obtain ⟨hr, hs⟩ := signal_akin c p x .ret f []
      refine ⟨hr, ?_⟩
      split
      · exact ended hs
      · exact p
  | signal x what f below => exact signal_akin c p x what f below

theorem request_akin (p : s.Akin u) (r : Request) :
    (u.request c r).1 = (s.request c r).1 ∧ (s.request c r).2.Akin (u.request c r).2 := by
  cases r with
  | move m => exact move_akin c p m
  | attach caller v flags target =>
    simp only [request, TraceHost.attach]
    cases Carrier.ofValue v with
    | error f => exact ⟨rfl, p⟩
    | ok carrier =>
      obtain ⟨hn, hh⟩ := Observed.attach_akin ⟨flags, target⟩ (calledBy_akin p caller) carrier
      exact ⟨congrArg Except.ok hn, withObserved_akin p hh⟩
  | install v spec localOnly =>
    simp only [request, TraceHost.install]
    cases unitOfValue v with
    | error f => exact ⟨rfl, p⟩
    | ok unit => exact ⟨rfl, (move_akin c p (.install unit spec localOnly)).2⟩

theorem transcript_akin (p : s.Akin u) (rs : List Request) :
    u.transcript c rs = s.transcript c rs := by
  induction rs generalizing s u with
  | nil => rfl
  | cons r rs ih =>
    obtain ⟨hr, hs⟩ := request_akin c p r
    simp only [transcript]
    rw [hr, view_akin hs, ih hs]

end Situation

namespace Threads

variable {ts : Threads}

def Bare (ts : Threads) : Prop := ts.startHooked = false ∧ ∀ t ∈ ts.all, t.hooked = false

theorem unhooked_eq_iff : ts.unhooked = ts ↔ ts.Bare := by
  constructor
  · intro h
    rw [← h]
    refine ⟨rfl, fun t ht => ?_⟩
    obtain ⟨u, -, rfl⟩ := List.mem_map.1 ht
    rfl
  · rintro ⟨hs, ht⟩
    have ha : ts.all.map (fun t => { t with hooked := false }) = ts.all := by
      refine (List.map_congr_left fun t hm => ?_).trans (List.map_id ts.all)
      rw [← ht t hm]
      rfl
    rw [unhooked, ha, ← hs]

theorem forall_update {P : Thread → Prop} {x : String} {g : Thread → Thread}
    (h : ∀ t ∈ ts.all, P t) (hg : ∀ t, P t → P (g t)) : ∀ t ∈ (ts.update x g).all, P t := by
  intro t ht
  obtain ⟨u, hu, rfl⟩ := List.mem_map.1 ht
  split
  · exact hg u (h u hu)
  · exact h u hu

def Worn (ts : Threads) : Prop := ∀ t ∈ ts.all, t.hooked = true → t.isListed = true

theorem Worn.hookAll (h : ts.Worn) (on : Bool) : (ts.hookAll on).Worn := by
  intro t ht
  obtain ⟨u, hu, rfl⟩ := List.mem_map.1 ht
  split
  · exact fun _ => ‹_›
  · exact h u hu

theorem Worn.bare (h : ts.Worn) : (ts.hookAll false).Bare := by
  refine ⟨rfl, fun t ht => ?_⟩
  obtain ⟨u, hu, rfl⟩ := List.mem_map.1 ht
  split
  · rfl
  · rename_i hl
    exact Bool.eq_false_iff.2 fun hh => hl (h u hu hh)

end Threads

/-- Where the hook reaches every thread: an installed one is on for all of them, and one that is not
installed is on no thread. -/
structure Observed.Tended (o : Observed) : Prop where
  reaches : o.threads.reachesRunning = true
  all : o.host.installed = true → o.host.allThreads = true
  off : o.host.installed = false → o.threads.Bare
  worn : o.threads.Worn

namespace Observed

variable {o : Observed}

theorem Tended.refresh (h : o.Tended) : o.refresh.Tended := by
  obtain ⟨hr, ha, hf, hw⟩ := h
  simp only [Observed.refresh]
  split
  · exact ⟨by simp only [installHook, hr, if_true]; exact hr, fun _ => hr,
      fun hi => absurd hi Bool.noConfusion,
      by simp only [installHook, hr, if_true]; exact hw.hookAll true⟩
  · rename_i hn
    split
    · rename_i hc
      simp only [Bool.and_eq_true, Bool.not_eq_true'] at hc hn
      have hi : o.host.installed = true := by
        cases hi : o.host.installed with
        | true => rfl
        | false => exact absurd ⟨hc.1, hi⟩ hn
      exact absurd (ha hi) (by rw [hc.2]; exact Bool.false_ne_true)
    · exact ⟨hr, ha, hf, hw⟩

theorem Tended.attach (h : o.Tended) (carrier : Carrier) (a : Attachment) :
    (o.attach carrier a).1.Tended := by
  have hf := attachCarrier_frame o a carrier
  change Tended (Observed.refresh
    { o with host := { (o.attachCarrier carrier a).1 with ignored := [] } })
  rw [hf]
  exact Tended.refresh ⟨h.reaches, h.all, h.off, h.worn⟩

theorem Tended.clear (h : o.Tended) : o.clear.Tended := by
  obtain ⟨hr, ha, hf, hw⟩ := h
  simp only [Observed.clear, uninstallHook]
  cases hi : o.host.installed with
  | false => exact ⟨hr, fun hi => absurd hi Bool.noConfusion, fun _ => hf hi, hw⟩
  | true =>
    simp only [Bool.not_true, Bool.false_eq_true, if_false, ha hi, if_true]
    exact ⟨hr, fun _ => rfl, fun _ => hw.bare, hw.hookAll false⟩

/-- What clearing leaves of a host is what a new one does not read. -/
theorem clear_renewed (o : Observed) :
    ProfileHost.Akin {} o.clear.host ∧ o.clear.host.installed = false := by
  simp only [Observed.clear, uninstallHook]
  cases o.host.installed <;> exact ⟨.mk _ _ (by simp) (by simp), rfl⟩

end Observed

namespace Situation

variable {σ : Type} {c : HookEnv σ} {s : Situation σ}

theorem signal_installed (s : Situation σ) (x : String) (what : Hook.Signal) (f : Frame)
    (below : List Frame) : (s.signal c x what f below).host.installed = s.host.installed ∧
      (s.signal c x what f below).host.allThreads = s.host.allThreads := by
  cases hx : s.threads.find? x with
  | none => simp [signal, hx]
  | some t =>
    cases ha : t.isAlive with
    | false => simp [signal, hx, ha]
    | true =>
      obtain ⟨es, hp⟩ := signal_performed (c := c) hx ha what f below
      exact hp.preserves
        (P := fun g => g.installed = s.host.installed ∧ g.allThreads = s.host.allThreads)
        (fun _ _ hg => hg) (fun _ _ _ _ hg => hg)
        (Hook.plan_installed s.threads.isSink t.caller what f below s.host)

theorem tended_signal (h : s.observed.Tended) (x : String) (what : Hook.Signal) (f : Frame)
    (below : List Frame) : (s.signal c x what f below).observed.Tended := by
  obtain ⟨hr, ha, hf, hw⟩ := h
  obtain ⟨hi, hh⟩ := signal_installed (c := c) s x what f below
  have ht : (s.signal c x what f below).observed.threads = s.observed.threads := signal_threads ..
  constructor
  · rw [ht]
    exact hr
  · exact fun h => hh.trans (ha (hi.symm.trans h))
  · exact fun h => ht ▸ hf (hi.symm.trans h)
  · exact ht ▸ hw

theorem tended_update (h : s.observed.Tended) {x : String} {g : Thread → Thread}
    (hb : s.host.installed = false → ∀ t, t.hooked = false → (g t).hooked = false)
    (hw : ∀ t, (t.hooked = true → t.isListed = true) → (g t).hooked = true → (g t).isListed = true) :
    (s.withThreads (s.threads.update x g)).observed.Tended :=
  ⟨h.reaches, h.all, fun hi => ⟨(h.off hi).1, Threads.forall_update (h.off hi).2 (hb hi)⟩,
    Threads.forall_update h.worn hw⟩

theorem tended_step (h : s.observed.Tended) (m : Move) : (s.step c m).observed.Tended := by
  have called : ∀ x, (s.calledBy x).Tended := fun _ => ⟨h.reaches, h.all, h.off, h.worn⟩
  cases m with
  | attach caller carrier a => exact (called caller).attach carrier a
  | clear caller => exact (called caller).clear
  | install | forget => exact ⟨h.reaches, h.all, h.off, h.worn⟩
  | signal x what f below => exact tended_signal h x what f below
  | launch x =>
    simp only [step]
    split
    · exact tended_update h (fun _ _ hb => hb) fun _ _ _ => rfl
    · exact h
  | start x n =>
    simp only [step]
    split
    · exact tended_update h (fun hi _ _ => (h.off hi).1) fun _ _ _ => rfl
    · exact h
  | finish x lowest =>
    have ended : ∀ {s : Situation σ}, s.observed.Tended →
        (s.withThreads (s.threads.finish x)).observed.Tended :=
      fun h => tended_update h (fun _ _ _ => rfl) fun _ _ hh => absurd hh Bool.false_ne_true
    simp only [step]
    split
    · cases lowest with
      | none => exact ended h
      | some f => exact ended (tended_signal h x .ret f [])
    · exact h

theorem tended_run (h : s.observed.Tended) (ms : List Move) : (s.run c ms).observed.Tended := by
  induction ms generalizing s with
  | nil => exact h
  | cons m ms ih => exact ih (tended_step h m)

variable (c)

/-- A cleared host and a new one, among the same threads without a hook, cannot be told apart: however
the host was used before it was cleared, any requests are answered alike, hand the same events to the
same workers and show the same afterwards. -/
theorem transcript_clear {ts : Threads} (hr : ts.reachesRunning = true) (hu : ts.unhooked = ts)
    (o : σ) (ms : List Move) (caller : String) (rs : List Request) :
    let cleared := ((fresh ts ⟨o, []⟩).run c.journaled ms).step c.journaled (.clear caller)
    cleared.transcript c.journaled rs =
      (fresh cleared.threads.unhooked cleared.outside).transcript c.journaled rs := by
  intro cleared
  have hb := Threads.unhooked_eq_iff.1 hu
  have hf : (fresh ts (⟨o, []⟩ : Journaled σ)).observed.Tended :=
    ⟨hr, fun hi => absurd hi Bool.noConfusion, fun _ => hb,
      fun t ht hh => absurd hh (by rw [hb.2 t ht]; exact Bool.false_ne_true)⟩
  obtain ⟨hh, hi⟩ := Observed.clear_renewed
    (((fresh ts ⟨o, []⟩).run c.journaled ms).calledBy caller)
  have ht : cleared.threads.Bare := (tended_step (tended_run hf ms) (.clear caller)).off hi
  rw [Threads.unhooked_eq_iff.2 ht]
  exact transcript_akin c.journaled ⟨⟨hh, cleared.threads⟩, cleared.outside⟩ rs

def reached : Threads := { Threads.family with reachesRunning := true }

def switches : Attachment := ⟨{ running := true, setOnSpawn := true }, .ofWorkers 0 .trace [0, 1]⟩

def used : List Move :=
  [.attach "main" (.selector .all) switches, .install "app" .passThrough true,
    .signal "main" .call { unit := some "app", function := "run" } []]

def again : List Request :=
  [.attach "main" (.float default) {} default,
    .attach "main" (.selector .new) switches.flags switches.target, .move (.start "child" 7),
    .move (.signal "child" .call { unit := some "app", function := "run" } [])]

theorem transcript_clear_used :
    let c := HookEnv.answering true
    let cleared := ((fresh reached ⟨(), []⟩).run c.journaled used).step c.journaled (.clear "main")
    reached.reachesRunning = true ∧ reached.unhooked = reached ∧
      cleared.host.known = ["main"] ∧ cleared.host.allThreads = true ∧
      (cleared.transcript c.journaled again).map (·.traced) = [[], [], [], [7]] ∧
      (cleared.transcript c.journaled again).map (·.outside.journal.length) = [1, 1, 1, 2] ∧
      cleared.transcript c.journaled again =
        (fresh cleared.threads.unhooked cleared.outside).transcript c.journaled again := by
  intro c cleared
  have hr : reached.reachesRunning = true := rfl
  have hu : reached.unhooked = reached := rfl
  exact ⟨hr, hu, by decide, by decide, by decide, by decide,
    transcript_clear c hr hu () used "main" again⟩

end Situation

end ThreadTrace
