import ThreadTrace.Proofs.Profile.Course
import ThreadTrace.Proofs.Profile.Gathering

namespace ThreadTrace

inductive Switch
  | into (n : Nat)
  | out (n : Nat)
deriving DecidableEq

def Event.switch? (e : Event) : Option Switch :=
  match e.kind with
  | .scheduledIn => some (.into e.carrier.toNat)
  | .scheduledOut => some (.out e.carrier.toNat)
  | _ => none

namespace Hook

variable {σ : Type} (c : HookEnv σ)

def Effect.switch? : Effect → Option Switch
  | .report _ _ e => e.switch?
  | .pass .. => none

theorem switch?_comes (n : Nat) (a : Attachment) :
    (Effect.report n a (plain .scheduledIn n a)).switch? = some (.into n) := rfl

theorem switch?_goes (n : Nat) (a : Attachment) :
    (Effect.report n a (plain .scheduledOut n a)).switch? = some (.out n) := rfl

def attempted : List Effect → HookState σ → List Effect
  | [], _ => []
  | d :: ds, s =>
    d :: match (d.act c).on s with
      | (.ok _, s) => attempted ds s
      | (.error _, _) => []

theorem isPrefix_attempted (ds : List Effect) (s : HookState σ) : attempted c ds s <+: ds := by
  induction ds generalizing s with
  | nil => exact List.prefix_refl _
  | cons d ds ih =>
    refine List.cons_prefix_cons.2 ⟨rfl, ?_⟩
    split
    · exact ih _
    · exact List.nil_prefix

/-- A report ends in a fault only if its target has workers but none for the carrier. -/
theorem report_ok {ident : Nat} {a : Attachment} {e : Event}
    (hr : (a.target.route (.int ident)).isOk = true) (s : HookState σ) :
    (((Effect.report ident a e).act c).on s).1 = .ok () := by
  rw [report_on]
  generalize stamp c a.flags s.outside = x
  simp only [emit]
  split
  · rfl
  · cases hw : a.target.route (.int ident) with
    | error f =>
      rw [hw] at hr
      cases hr
    | ok w =>
      cases w with
      | none => rfl
      | some w =>
        cases ho : (c.offer w { e with timestamp := x.1 } x.2).1 <;> simp [offer, drop, ho]

theorem attempted_report {ident : Nat} {a : Attachment} {e : Event}
    (hr : (a.target.route (.int ident)).isOk = true) (ds : List Effect) (s : HookState σ) :
    ∃ t, attempted c (.report ident a e :: ds) s = .report ident a e :: attempted c ds t := by
  have ho := report_ok c (e := e) hr s
  rw [attempted]
  cases h : ((Effect.report ident a e).act c).on s with
  | mk r t =>
    rw [h] at ho
    obtain rfl : r = .ok () := ho
    exact ⟨t, rfl⟩

variable {me : Caller} {isSink : String → Bool} {what : Signal} {f : Frame} {below : List Frame}
  {h : ProfileHost} {a : Attachment}

def Effect.released : Effect → Bool
  | .report ident a e => e.kind != .scheduledOut || (a.target.route (.int ident)).isOk
  | .pass .. => true

/-- How the effects of a callback begin, and which thread they leave as the one heard of last: either
nothing is reported about scheduling, or that the running thread comes in. -/
inductive Turns (me : Caller) (h : ProfileHost) : List Effect → Option Nat → Prop
  | stays : Turns me h [] h.lastIdent
  | comes (a : Attachment) (hn : h.lastIdent ≠ some me.ident) :
      Turns me h (leaving h ++ [.report me.ident a (plain .scheduledIn me.ident a)]) (some me.ident)

inductive Besides : Signal → Effect → Prop
  | pass {child a} : Besides .call (.pass child a)
  | call {n a e} (hk : e.kind = .call) : Besides .call (.report n a e)
  | ret {n a e} (hk : e.kind = .returnTo ∨ e.kind = .exit) : Besides .ret (.report n a e)

theorem Besides.switch? {d : Effect} (p : Besides what d) : d.switch? = none := by
  cases p with
  | pass => rfl
  | call hk => simp only [Effect.switch?, Event.switch?, hk]
  | ret hk => obtain hk | hk := hk <;> simp only [Effect.switch?, Event.switch?, hk]

theorem leaving_cases (h : ProfileHost) :
    (leaving h = [] ∧ ∀ p b, h.lastIdent = some p → h.traced.get? p = some b →
      b.flags.running = false) ∨
    ∃ p b, h.lastIdent = some p ∧ h.traced.get? p = some b ∧ b.flags.running = true ∧
      leaving h = [.report p b (plain .scheduledOut p b)] := by
  unfold leaving
  cases hp : h.lastIdent with
  | none => exact .inl ⟨rfl, fun p b hl => nomatch hl⟩
  | some p =>
    cases hb : h.traced.get? p with
    | none =>
      refine .inl ⟨by simp [hb], fun q b hq hg => ?_⟩
      cases hq
      rw [hb] at hg
      cases hg
    | some b =>
      cases hr : b.flags.running with
      | false =>
        refine .inl ⟨by simp [hb, hr], fun q b' hq hg => ?_⟩
        cases hq
        rw [hb] at hg
        cases hg
        exact hr
      | true => exact .inr ⟨p, b, rfl, hb, hr, by simp [hb, hr]⟩

theorem leaving_settle (hn : h.lastIdent ≠ some me.ident) : leaving (settle me h).2 = leaving h := by
  have ht := settle_traced me h
  obtain ⟨traced, pending, hooked, ignored, hs⟩ := settle_others me h
  have hl : (settle me h).2.lastIdent = h.lastIdent := by rw [hs]
  simp only [leaving, hl]
  cases hp : h.lastIdent with
  | none => rfl
  | some p =>
    dsimp only
    rw [ht, if_neg fun he : p = me.ident => hn (he ▸ hp)]

theorem planCall_turns (isSink : String → Bool) (me : Caller) (f : Frame) (stack : List Frame)
    (h : ProfileHost) :
    ∃ ds rest, (planCall isSink me f stack h).2 = ds ++ rest ∧ (∀ d ∈ rest, Besides .call d) ∧
      Turns me h ds (planCall isSink me f stack h).1.lastIdent := by
  have hleave : h.lastIdent ≠ some me.ident → leaving (settle me h).2 = leaving h := leaving_settle
  obtain ⟨traced, pending, hooked, ignored, hs⟩ := settle_others me h
  have hl : (settle me h).2.lastIdent = h.lastIdent := by rw [hs]
  rw [planCall]
  generalize settle me h = x at hleave hl
  obtain ⟨own, g⟩ := x
  cases own with
  | none => exact ⟨[], [], rfl, by simp, by rw [hl]; exact .stays⟩
  | some a =>
    refine ⟨_, _, rfl, fun d hd => ?_, ?_⟩
    · obtain hd | hd := List.mem_append.1 hd
      · split at hd
        · obtain ⟨child, -, -, rfl⟩ := mem_passing hd
          exact .pass
        · cases hd
      · split at hd
        · obtain ⟨spec, -, rfl⟩ := mem_calling hd
          exact .call rfl
        · cases hd
    · dsimp only at hl hleave ⊢
      cases a.flags.running with
      | false =>
        simp only [Bool.false_eq_true, if_false, hl]
        exact .stays
      | true =>
        simp only [if_true, switching, hl]
        by_cases hn : h.lastIdent = some me.ident
        · rw [if_pos hn, ← hn]
          exact .stays
        · rw [if_neg hn, hleave hn]
          exact .comes a hn

theorem planReturn_turns (me : Caller) (f : Frame) (caller : Option Frame) (h : ProfileHost) :
    ∀ d ∈ (planReturn me f caller h).2, Besides .ret d := by
  intro d hd
  unfold planReturn at hd
  split at hd
  · unfold planEnd at hd
    split at hd
    · cases hd
    · simp only [endEffects] at hd
      split at hd
      · rw [List.mem_singleton.1 hd]
        exact .ret (.inr rfl)
      · cases hd
  · cases hd
  · simp only [returnEffects] at hd
    split at hd
    · rw [List.mem_singleton.1 hd]
      exact .ret (.inl rfl)
    · cases hd

theorem plan_turns (isSink : String → Bool) (me : Caller) (what : Signal) (f : Frame)
    (below : List Frame) (h : ProfileHost) :
    ∃ ds rest, (plan isSink me what f below h).2 = ds ++ rest ∧ (∀ d ∈ rest, Besides what d) ∧
      Turns me h ds (plan isSink me what f below h).1.lastIdent := by
  unfold plan
  split
  · cases what with
    | other => exact ⟨[], [], rfl, by simp, .stays⟩
    | call => exact planCall_turns isSink me f (f :: below) h
    | ret =>
      obtain ⟨_, _, _, -, he⟩ := planReturn_host me f below.head? h
      exact ⟨[], _, rfl, planReturn_turns me f below.head? h, by rw [he]; exact .stays⟩
  · exact ⟨[], [], rfl, by simp, .stays⟩

/-- What a callback reports about scheduling, and the thread that it leaves as the one heard of last. -/
inductive Turn (h : ProfileHost) : List Switch → Option Nat → Prop
  | stay : Turn h [] h.lastIdent
  | come (n : Nat) (hn : h.lastIdent ≠ some n) (hp : ∀ p b, h.lastIdent = some p →
      h.traced.get? p = some b → b.flags.running = false) : Turn h [.into n] (some n)
  | change (p n : Nat) (hp : h.lastIdent = some p) (hn : p ≠ n) :
      Turn h [.out p, .into n] (some n)

theorem Turns.attempted {ds rest : List Effect} {last : Option Nat} (p : Turns me h ds last)
    (hrest : ∀ d ∈ rest, Besides what d) (s : HookState σ)
    (ho : ∀ d ∈ attempted c (ds ++ rest) s, d.released = true) :
    Turn h ((attempted c (ds ++ rest) s).filterMap Effect.switch?) last := by
  have quiet : ∀ t, (Hook.attempted c rest t).filterMap Effect.switch? = [] := fun t =>
    List.filterMap_eq_nil_iff.2 fun d hd => (hrest d ((isPrefix_attempted c rest t).subset hd)).switch?
  have coming : ∀ a t, (Hook.attempted c (.report me.ident a (plain .scheduledIn me.ident a) :: rest)
      t).filterMap Effect.switch? = [.into me.ident] := by
    intro a t
    rw [Hook.attempted, List.filterMap_cons_some (switch?_comes me.ident a)]
    split
    · rw [quiet]
    · rfl
  cases p with
  | stays =>
    rw [List.nil_append, quiet]
    exact .stay
  | comes a hn =>
    rw [List.append_assoc, List.singleton_append] at ho ⊢
    obtain ⟨hl, hp⟩ | ⟨p, b, hp, -, -, hl⟩ := leaving_cases h
    · rw [hl, List.nil_append, coming]
      exact .come me.ident hn hp
    · rw [hl, List.singleton_append] at ho ⊢
      have hr := ho (.report p b (plain .scheduledOut p b)) List.mem_cons_self
      obtain ⟨t, ht⟩ := attempted_report c (e := plain .scheduledOut p b) hr
        (.report me.ident a (plain .scheduledIn me.ident a) :: rest) s
      rw [ht, List.filterMap_cons_some (switch?_goes p b), coming]
      exact .change p me.ident hp fun he => hn (he ▸ hp)

end Hook

/-- Which in or out event may come after which, where `prev` is the one before and the host is the one
that was called back. -/
def Switch.Follows (h : ProfileHost) : Option Switch → Switch → Prop
  | none, .into _ => True
  | some (.into p), .into n =>
    n ≠ p ∧ ∀ b, h.traced.get? p = some b → b.flags.running = false
  | some (.into p), .out q => q = p
  | some (.out p), .into n => n ≠ p
  | _, .out _ => False

/-- In and out events, each with the host that was called back, that follow one another from `prev` on
and of which the last is no out event. -/
inductive Bracketed : Option Switch → List (Switch × ProfileHost) → Prop
  | nil {prev} (hp : ∀ n, prev ≠ some (.out n)) : Bracketed prev []
  | cons {prev x h l} (hf : x.Follows h prev) (hl : Bracketed (some x) l) :
      Bracketed prev ((x, h) :: l)

theorem Bracketed.last_into {prev : Option Switch} {l : List (Switch × ProfileHost)}
    (p : Bracketed prev l) {n : Nat} : (l.map (·.1)).getLast?.or prev ≠ some (.out n) := by
  induction p with
  | nil hp => exact hp n
  | @cons prev x h l _ _ ih =>
    rw [List.map_cons, List.getLast?_cons]
    cases hl : (l.map (·.1)).getLast? <;> rw [hl] at ih <;> exact ih

theorem Hook.Turn.bracketed {h : ProfileHost} {xs : List Switch} {last : Option Nat}
    (p : Hook.Turn h xs last) {l : List (Switch × ProfileHost)}
    (hl : Bracketed (last.map .into) l) :
    Bracketed (h.lastIdent.map .into) (xs.map (·, h) ++ l) := by
  cases p with
  | stay => exact hl
  | come n hn hp =>
    refine .cons ?_ hl
    cases hq : h.lastIdent with
    | none => trivial
    | some q => exact ⟨fun he => hn (he ▸ hq), fun b hb => hp q b hq hb⟩
  | change q n hq hn =>
    rw [hq]
    exact .cons rfl (.cons hn.symm hl)

namespace Situation

variable {σ : Type} (c : HookEnv σ)

def undertaken (s : Situation σ) (x : String) (what : Hook.Signal) (f : Frame)
    (below : List Frame) : List Hook.Effect :=
  match s.threads.find? x with
  | none => []
  | some t =>
    if t.isAlive then
      let (host, ds) := Hook.plan s.threads.isSink t.caller what f below s.host
      Hook.attempted c ds ⟨host, s.outside⟩
    else []

def attempts (s : Situation σ) : Move → List Hook.Effect
  | .signal x what f below => s.undertaken c x what f below
  | .finish x (some f) => s.undertaken c x .ret f []
  | _ => []

/-- The in and out events that a run hands over, each with the host that was called back. -/
def trail : Situation σ → List Move → List (Switch × ProfileHost)
  | _, [] => []
  | s, m :: ms =>
    ((s.attempts c m).filterMap Hook.Effect.switch?).map (·, s.host) ++ trail (s.step c m) ms

/-- No report of a thread that goes out goes astray. -/
def Released (s : Situation σ) (m : Move) : Prop := ∀ d ∈ s.attempts c m, d.released = true

instance (s : Situation σ) (m : Move) : Decidable (s.Released c m) :=
  inferInstanceAs (Decidable (∀ d ∈ s.attempts c m, d.released = true))

variable {c} {s : Situation σ}

theorem turn_signal (x : String) (what : Hook.Signal) (f : Frame) (below : List Frame)
    (hr : ∀ d ∈ s.undertaken c x what f below, d.released = true) :
    Hook.Turn s.host ((s.undertaken c x what f below).filterMap Hook.Effect.switch?)
      (s.signal c x what f below).host.lastIdent := by
  cases hx : s.threads.find? x with
  | none =>
    simp only [undertaken, signal, hx]
    exact .stay
  | some t =>
    cases ha : t.isAlive with
    | false =>
      simp only [undertaken, signal, hx, ha, Bool.false_eq_true, if_false]
      exact .stay
    | true =>
      obtain ⟨es, hp⟩ := signal_performed (c := c) hx ha what f below
      have hl := hp.preserves
        (P := fun g => g.lastIdent =
          (Hook.plan s.threads.isSink t.caller what f below s.host).1.lastIdent)
        (fun _ _ hg => hg) (fun _ _ _ _ hg => hg) rfl
      obtain ⟨ds, rest, hd, hrest, ht⟩ :=
        Hook.plan_turns s.threads.isSink t.caller what f below s.host
      simp only [undertaken, hx, ha, if_true, hd] at hr ⊢
      rw [hl]
      exact ht.attempted c hrest _ hr

/-- A move but clearing reports what the thread heard of last calls for, and keeps note of it. -/
theorem turn_step {m : Move} (hm : ∀ caller, m ≠ .clear caller) (hr : s.Released c m) :
    Hook.Turn s.host ((s.attempts c m).filterMap Hook.Effect.switch?) (s.step c m).host.lastIdent := by
  cases m with
  | attach caller carrier a =>
    obtain ⟨active, installed, allThreads, hh⟩ := (s.calledBy caller).attach_host a carrier
    have hl : (s.step c (.attach caller carrier a)).host.lastIdent = s.host.lastIdent := by
      change ((s.calledBy caller).attach carrier a).1.host.lastIdent = _
      rw [hh, Observed.attachCarrier_frame]
      rfl
    rw [hl]
    exact .stay
  | clear caller => exact absurd rfl (hm caller)
  | install | forget => exact .stay
  | launch | start =>
    simp only [step]
    split <;> exact .stay
  | signal x what f below => exact turn_signal x what f below hr
  | finish x lowest =>
    cases lowest with
    | none =>
      rw [(finish_unheard s x).1]
      exact .stay
    | some f =>
      rw [(finish_heard s x f).1]
      exact turn_signal x .ret f [] hr

theorem trail_follows {ms : List Move} (hm : ∀ caller, .clear caller ∉ ms)
    (hr : Along c (Released c) s ms) : Bracketed (s.host.lastIdent.map .into) (s.trail c ms) := by
  induction ms generalizing s with
  | nil => cases s.host.lastIdent <;> exact .nil nofun
  | cons m ms ih =>
    obtain ⟨h, hr⟩ := hr
    refine (turn_step (fun caller he => hm caller (he ▸ List.mem_cons_self)) h).bracketed ?_
    exact ih (fun caller hc => hm caller (List.mem_cons_of_mem _ hc)) hr

theorem lastIdent_renewed {ts : Threads} {o : σ} {pre : List Move}
    (hp : pre = [] ∨ ∃ qs caller, pre = qs ++ [.clear caller]) :
    ((fresh ts o).run c pre).host.lastIdent = none := by
  obtain rfl | ⟨qs, caller, rfl⟩ := hp
  · rfl
  · rw [run_concat]
    simp only [step, host, Observed.clear, Observed.uninstallHook]
    split <;> rfl

/-- From the start or since the host was cleared, if no report of a thread that goes out goes astray:
the first of the in and out events that are handed over is an in event; an out event comes directly
between the in event of its thread and that of another; and two in events in a row are of different
threads, of which the first is then not traced for switches any more. -/
theorem trail_bracketed {ts : Threads} {o : σ} {pre ms : List Move}
    (hp : pre = [] ∨ ∃ qs caller, pre = qs ++ [.clear caller]) (hm : ∀ caller, .clear caller ∉ ms)
    (hr : Along c (Released c) ((fresh ts o).run c pre) ms) :
    Bracketed none (((fresh ts o).run c pre).trail c ms) := by
  have h := trail_follows hm hr
  rw [lastIdent_renewed hp] at h
  exact h

def pair : Threads where
  all := [{ name := "main", assigned := 1, state := .alive },
    { name := "other", assigned := 2, state := .alive }]
  reachesRunning := true

def watching : List Move :=
  let a : Attachment := ⟨{ running := true }, .ofWorkers 0 .trace [0, 1]⟩
  [.attach "main" (.thread "main") a, .attach "main" (.thread "other") a,
    .signal "main" .call default []]

def turns : List Move :=
  watching ++ [.signal "other" .call default [],
    .attach "main" (.thread "other") ⟨{}, .ofWorkers 0 .trace [0, 1]⟩,
    .signal "main" .call default []]

theorem trail_bracketed_turns :
    let c := HookEnv.answering true
    let pre := watching ++ [.clear "main"]
    (pre = [] ∨ ∃ qs caller, pre = qs ++ [.clear caller]) ∧ (∀ caller, .clear caller ∉ turns) ∧
      Along c (Released c) ((fresh pair ()).run c pre) turns ∧
      (((fresh pair ()).run c pre).trail c turns).map (·.1) =
        [.into 1, .out 1, .into 2, .into 1] ∧
      Bracketed none (((fresh pair ()).run c pre).trail c turns) := by
  intro c pre
  have hp : pre = [] ∨ ∃ qs caller, pre = qs ++ [.clear caller] := .inr ⟨watching, "main", rfl⟩
  have hm : ∀ caller, Move.clear caller ∉ turns := fun caller hc => by simp [turns, watching] at hc
  have hr : Along c (Released c) ((fresh pair ()).run c pre) turns :=
    ⟨by decide, by decide, by decide, by decide, by decide, by decide, trivial⟩
  exact ⟨hp, hm, hr, by decide, trail_bracketed hp hm hr⟩

def astray : List Move :=
  watching ++
    [.attach "main" (.thread "main") ⟨{ running := true }, { id := 1, sinks := [(7, 0)] }⟩,
      .signal "other" .call default []]

/-- A report that goes astray leaves an out event without the in event that belongs to it. -/
theorem trail_unbracketed : ¬∀ (ts : Threads) (ms : List Move), (∀ caller, .clear caller ∉ ms) →
    Bracketed none ((fresh ts ()).trail (HookEnv.answering true) ms) := by
  intro h
  have hb := h pair astray fun caller hc => by simp [astray, watching] at hc
  have ht : ((fresh pair ()).trail (HookEnv.answering true) astray).map (·.1) =
      [.into 1, .out 1] := by decide
  exact hb.last_into (by rw [ht]; rfl)

end Situation

end ThreadTrace
