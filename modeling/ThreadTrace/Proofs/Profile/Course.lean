import ThreadTrace.Proofs.Profile.Attaching

namespace ThreadTrace

structure Situation (σ : Type) where
  observed : Observed
  outside : σ

/-- A thread that has been launched is listed but has no ident before it starts. The last callback
of a thread that finishes is the return of its lowest frame, if that reaches the hook. -/
inductive Move
  | attach (caller : String) (carrier : Carrier) (a : Attachment)
  | install (unit : String) (spec : MatchSpec) (localOnly : Bool)
  | forget (t : Target)
  | clear (caller : String)
  | launch (thread : String)
  | start (thread : String) (ident : Nat)
  | finish (thread : String) (lowest : Option Frame)
  | signal (thread : String) (what : Hook.Signal) (f : Frame) (below : List Frame)

def Thread.caller (t : Thread) : Caller := ⟨t.assigned, t.name, t.isSink⟩

def HookEnv.answering (taken : Bool) : HookEnv Unit where
  offer _ _ o := (taken, o)
  tick o := (default, o)
  dropped _ o := o

def Threads.family : Threads where
  all := [{ name := "main", assigned := 1, state := .alive }, { name := "child", assigned := 7 }]

def Move.Ends : Move → String → Prop
  | .finish x _, y => y = x
  | _, _ => False

/-- The callback that a move is. -/
inductive Move.Fires : Move → String → Hook.Signal → Frame → List Frame → Prop
  | signal {x what f below} : Fires (.signal x what f below) x what f below
  | finish {x f} : Fires (.finish x (some f)) x .ret f []

theorem Move.Fires.unique {m : Move} {x y : String} {what what' : Hook.Signal} {f g : Frame}
    {below below' : List Frame} (h : m.Fires x what f below) (h' : m.Fires y what' g below') :
    x = y ∧ what = what' ∧ f = g ∧ below = below' := by
  cases h <;> cases h' <;> exact ⟨rfl, rfl, rfl, rfl⟩

namespace Situation

variable {σ : Type} (c : HookEnv σ)

def fresh (ts : Threads) (o : σ) : Situation σ := ⟨{ threads := ts }, o⟩

def host (s : Situation σ) : ProfileHost := s.observed.host

def threads (s : Situation σ) : Threads := s.observed.threads

def withHost (s : Situation σ) (h : ProfileHost) : Situation σ :=
  { s with observed := { s.observed with host := h } }

def withThreads (s : Situation σ) (ts : Threads) : Situation σ :=
  { s with observed := { s.observed with threads := ts } }

def calledBy (s : Situation σ) (caller : String) : Observed :=
  { s.observed with threads := { s.threads with current := caller } }

def isIn (s : Situation σ) (thread : String) (states : List ThreadState) : Bool :=
  (s.threads.find? thread).any fun t => states.contains t.state

def callback (s : Situation σ) (t : Thread) (what : Hook.Signal) (f : Frame) (below : List Frame) :
    Except Fault Unit × HookState σ :=
  (Hook.fire c s.threads.isSink t.caller what f below).on
    ⟨s.host, s.outside⟩

/-- Only live threads make callbacks. -/
def signal (s : Situation σ) (thread : String) (what : Hook.Signal) (f : Frame)
    (below : List Frame) : Situation σ :=
  match s.threads.find? thread with
  | none => s
  | some t =>
    if t.isAlive then
      let after := (s.callback c t what f below).2
      { s.withHost after.host with outside := after.outside }
    else s

def step (s : Situation σ) : Move → Situation σ
  | .attach caller carrier a => { s with observed := ((s.calledBy caller).attach carrier a).1 }
  | .install unit spec localOnly => s.withHost (s.host.install unit spec localOnly)
  | .forget t => { s with observed := s.observed.forget t }
  | .clear caller => { s with observed := (s.calledBy caller).clear }
  | .launch thread =>
    if s.isIn thread [.unstarted] then
      s.withThreads (s.threads.update thread fun t => { t with state := .limbo })
    else s
  | .start thread ident =>
    if s.isIn thread [.unstarted, .limbo] then s.withThreads (s.threads.start thread (some ident))
    else s
  | .finish thread lowest =>
    if s.isIn thread [.alive] then
      let s := match lowest with
        | some f => s.signal c thread .ret f []
        | none => s
      s.withThreads (s.threads.finish thread)
    else s
  | .signal thread what f below => s.signal c thread what f below

def run (s : Situation σ) (ms : List Move) : Situation σ := ms.foldl (step c) s

@[simp] theorem run_nil (s : Situation σ) : s.run c [] = s := rfl

@[simp] theorem run_cons (s : Situation σ) (m : Move) (ms : List Move) :
    s.run c (m :: ms) = (s.step c m).run c ms := rfl

theorem run_append (s : Situation σ) (ms ns : List Move) :
    s.run c (ms ++ ns) = (s.run c ms).run c ns := List.foldl_append ..

theorem run_concat (s : Situation σ) (ms : List Move) (m : Move) :
    s.run c (ms ++ [m]) = (s.run c ms).step c m := run_append c s ms [m]

/-- What holds of every move of a run in the situation in which it is made. -/
def Along (P : Situation σ → Move → Prop) : Situation σ → List Move → Prop
  | _, [] => True
  | s, m :: ms => P s m ∧ Along P (s.step c m) ms

theorem along_append {c : HookEnv σ} {P : Situation σ → Move → Prop} {s : Situation σ}
    {ms ns : List Move} : Along c P s (ms ++ ns) ↔ Along c P s ms ∧ Along c P (s.run c ms) ns := by
  induction ms generalizing s with
  | nil => simp [Along]
  | cons m ms ih => simp [Along, ih, and_assoc]

theorem signal_threads (s : Situation σ) (x : String) (what : Hook.Signal) (f : Frame)
    (below : List Frame) : (s.signal c x what f below).threads = s.threads := by
  unfold signal
  split
  · rfl
  · split <;> rfl

theorem step_evolves {s : Situation σ} (hn : s.threads.names.Nodup) (m : Move) :
    Threads.Evolves s.threads (s.step c m).threads m.Ends := by
  have waiting : ∀ {x states} {t : Thread}, s.isIn x states = true → ThreadState.alive ∉ states →
      t ∈ s.threads.all → t.name = x → t.isAlive = false := by
    intro x states t hx hs ht hname
    rw [isIn, ← hname, Threads.find?_of_mem hn ht] at hx
    cases ha : t.isAlive with
    | false => rfl
    | true =>
      rw [Thread.isAlive, beq_iff_eq] at ha
      exact absurd (by simpa [ha] using hx) hs
  cases m with
  | attach caller carrier a => exact (s.calledBy caller).attach_evolves a carrier _
  | clear caller => exact (s.calledBy caller).clear_evolves _
  | install | forget => exact .of_all rfl
  | launch x =>
    simp only [step]
    split
    · rename_i hx
      refine .update (fun _ => ⟨rfl, rfl⟩) fun t ht hname ha => ?_
      rw [waiting hx (by decide) ht hname] at ha
      cases ha
    · exact .of_all rfl
  | start x ident =>
    simp only [step]
    split
    · rename_i hx
      refine .update (fun _ => ⟨rfl, rfl⟩) fun t ht hname ha => ?_
      rw [waiting hx (by decide) ht hname] at ha
      cases ha
    · exact .of_all rfl
  | signal x what f below => exact .of_all (by rw [step, signal_threads])
  | finish x lowest =>
    have hs : (match lowest with
        | some f => s.signal c x .ret f []
        | none => s).threads = s.threads := by
      cases lowest with
      | none => rfl
      | some f => exact signal_threads ..
    simp only [step]
    split
    · change Threads.Evolves _ (Threads.finish _ x) _
      rw [hs]
      exact .update (fun _ => ⟨rfl, rfl⟩) fun _ _ _ _ hg => absurd rfl hg
    · exact .of_all rfl

theorem names_step {s : Situation σ} (hn : s.threads.names.Nodup) (m : Move) :
    (s.step c m).threads.names.Nodup := (step_evolves c hn m).names ▸ hn

variable {c}

theorem signal_eq {s : Situation σ} {x : String} {t : Thread} (hx : s.threads.find? x = some t)
    (ha : t.isAlive = true) (what : Hook.Signal) (f : Frame) (below : List Frame) :
    s.signal c x what f below = { s.withHost (s.callback c t what f below).2.host with
      outside := (s.callback c t what f below).2.outside } := by
  simp only [signal, hx, ha, if_true]

theorem signal_performed {s : Situation σ} {x : String} {t : Thread}
    (hx : s.threads.find? x = some t) (ha : t.isAlive = true) (what : Hook.Signal) (f : Frame)
    (below : List Frame) :
    ∃ es, Hook.Performed
      (Hook.plan s.threads.isSink t.caller what f below s.host).2
      (Hook.plan s.threads.isSink t.caller what f below s.host).1
      (s.callback c t what f below).1 es (s.signal c x what f below).host := by
  rw [signal_eq hx ha]
  exact Hook.fire_performed c s.threads.isSink t.caller what f below
    ⟨s.host, s.outside⟩

theorem signal_journaled {s : Situation (Journaled σ)} {x : String} {t : Thread}
    (hx : s.threads.find? x = some t) (ha : t.isAlive = true) (what : Hook.Signal) (f : Frame)
    (below : List Frame) :
    ∃ es, Hook.Performed
        (Hook.plan s.threads.isSink t.caller what f below s.host).2
        (Hook.plan s.threads.isSink t.caller what f below s.host).1
        (s.callback c.journaled t what f below).1 es
        (s.signal c.journaled x what f below).host ∧
      (s.signal c.journaled x what f below).outside.journal = s.outside.journal ++ es := by
  rw [signal_eq hx ha]
  exact Hook.fire_journaled c s.threads.isSink t.caller what f below
    ⟨s.host, s.outside⟩

theorem held_signal {s : Situation σ} {x : String} {what : Hook.Signal} {f : Frame}
    {below : List Frame} {b : Attachment}
    (hb : b ∈ (s.signal c x what f below).host.held) : b ∈ s.host.held := by
  cases hx : s.threads.find? x with
  | none =>
    simp only [signal, hx] at hb
    exact hb
  | some t =>
    cases ha : t.isAlive with
    | false =>
      simp only [signal, hx, ha] at hb
      exact hb
    | true =>
      obtain ⟨es, hp⟩ := signal_performed (c := c) hx ha what f below
      obtain hb | ⟨child, hm⟩ := hp.held b hb
      · exact Hook.held_plan hb
      · exact (Hook.mem_plan hm).held

/-- Only attaching brings new attachments into a host. -/
theorem held_step {s : Situation σ} {m : Move} {b : Attachment}
    (hb : b ∈ (s.step c m).host.held) :
    (∃ caller carrier, m = .attach caller carrier b) ∨ b ∈ s.host.held := by
  cases m with
  | attach caller carrier a =>
    obtain rfl | hb := Observed.held_attach hb
    · exact .inl ⟨caller, carrier, rfl⟩
    · exact .inr hb
  | install => exact .inr hb
  | forget t => exact .inr (ProfileHost.mem_held_forget.1 hb).1
  | clear caller =>
    rw [step, host, Observed.held_clear] at hb
    cases hb
  | launch | start =>
    simp only [step] at hb
    split at hb <;> exact .inr hb
  | signal => exact .inr (held_signal hb)
  | finish x lowest =>
    simp only [step] at hb
    split at hb
    · cases lowest with
      | none => exact .inr hb
      | some f => exact .inr (held_signal hb)
    · exact .inr hb

theorem held_run {s : Situation σ} {ms : List Move} {b : Attachment}
    (hb : b ∈ (s.run c ms).host.held) :
    (∃ caller carrier, .attach caller carrier b ∈ ms) ∨ b ∈ s.host.held := by
  induction ms generalizing s with
  | nil => exact .inr hb
  | cons m ms ih =>
    obtain ⟨caller, carrier, hm⟩ | hb := ih hb
    · exact .inl ⟨caller, carrier, List.mem_cons_of_mem _ hm⟩
    · obtain ⟨caller, carrier, rfl⟩ | hb := held_step hb
      · exact .inl ⟨caller, carrier, List.mem_cons_self⟩
      · exact .inr hb

structure Called (s : Situation σ) (t : Thread) (what : Hook.Signal) (f : Frame) (h : ProfileHost) :
    Prop where
  traced : ∀ y ∈ h.traced, y ∈ s.host.traced ∨
    what = .call ∧ y.1 = t.assigned ∧ Hook.own? t.caller .call s.host = some y.2
  pending : ∀ y ∈ h.pending, y ∈ s.host.pending ∨
    what = .call ∧ Hook.own? t.caller .call s.host = some y.2 ∧ y.2.flags.setOnSpawn = true ∧
      Hook.started? f = some y.1 ∧ s.threads.isSink y.1 = false
  arrivals : ∀ a, h.arrivals = some a → s.host.arrivals = some a
  known : h.known = s.host.known
  filters : h.filters = s.host.filters
  listens : Hook.Listens s.host → Hook.Listens h

theorem signal_called {s : Situation σ} {x : String} {t : Thread}
    (hx : s.threads.find? x = some t) (ha : t.isAlive = true) (what : Hook.Signal) (f : Frame)
    (below : List Frame) : s.Called t what f (s.signal c x what f below).host := by
  obtain ⟨es, hp⟩ := signal_performed (c := c) hx ha what f below
  obtain ⟨hq, hr, hk, hf, -⟩ := Hook.plan_others s.threads.isSink t.caller what f below s.host
  constructor
  · intro y hy
    exact Hook.mem_traced_plan (hp.traced y hy)
  · intro y hy
    obtain hy | hm := hp.pending y hy
    · exact .inl (hq y hy)
    · cases Hook.mem_plan hm with
      | pass hw ho hf hs hc => exact .inr ⟨hw, hw ▸ ho, hf, hs, hc⟩
  · intro a ha
    exact hr ▸ hp.arrivals.2 a ha
  · exact hp.arrivals.1.trans hk
  · exact hp.filters.trans hf
  · intro hl
    exact hp.listens (Hook.listens_plan hl)

theorem signal_cases (s : Situation σ) (x : String) (what : Hook.Signal) (f : Frame)
    (below : List Frame) :
    s.signal c x what f below = s ∨
      ∃ t, s.threads.find? x = some t ∧ t.isAlive = true ∧
        s.Called t what f (s.signal c x what f below).host := by
  cases hx : s.threads.find? x with
  | none => exact .inl (by simp only [signal, hx])
  | some t =>
    cases ha : t.isAlive with
    | false => exact .inl (by simp [signal, hx, ha])
    | true => exact .inr ⟨t, rfl, ha, signal_called hx ha what f below⟩

theorem finish_unheard (s : Situation σ) (x : String) :
    (s.step c (.finish x none)).host = s.host ∧
      (s.step c (.finish x none)).outside = s.outside := by
  simp only [step]
  split <;> exact ⟨rfl, rfl⟩

/-- For the host the end of a thread is the return of its lowest frame. -/
theorem finish_heard (s : Situation σ) (x : String) (f : Frame) :
    (s.step c (.finish x (some f))).host = (s.signal c x .ret f []).host ∧
      (s.step c (.finish x (some f))).outside = (s.signal c x .ret f []).outside := by
  simp only [step]
  split
  · exact ⟨rfl, rfl⟩
  · obtain hs | ⟨t, hx, ha, -⟩ := signal_cases (c := c) s x .ret f []
    · rw [hs]
      exact ⟨rfl, rfl⟩
    · rename_i hn
      rw [Thread.isAlive, beq_iff_eq] at ha
      simp [isIn, hx, ha] at hn

theorem step_fires (s : Situation σ) {m : Move} {x : String} {what : Hook.Signal} {f : Frame}
    {below : List Frame} (hm : m.Fires x what f below) :
    (s.step c m).host = (s.signal c x what f below).host ∧
      (s.step c m).outside = (s.signal c x what f below).outside := by
  cases hm with
  | signal => exact ⟨rfl, rfl⟩
  | finish => exact finish_heard s x f

theorem fires_or_outside (s : Situation σ) (m : Move) :
    (∃ x what f below, m.Fires x what f below) ∨ (s.step c m).outside = s.outside := by
  cases m with
  | attach | install | forget | clear => exact .inr rfl
  | launch | start =>
    refine .inr ?_
    simp only [step]
    split <;> rfl
  | signal x what f below => exact .inl ⟨x, what, f, below, .signal⟩
  | finish x lowest =>
    cases lowest with
    | none => exact .inr (finish_unheard s x).2
    | some f => exact .inl ⟨x, .ret, f, [], .finish⟩

theorem listens_step {s : Situation σ} (hl : Hook.Listens s.host) (m : Move) :
    Hook.Listens (s.step c m).host := by
  have signaled : ∀ x what f below, Hook.Listens (s.signal c x what f below).host := by
    intro x what f below
    obtain hs | ⟨t, -, -, hc⟩ := signal_cases (c := c) s x what f below
    · rw [hs]
      exact hl
    · exact hc.listens hl
  cases m with
  | attach caller carrier a =>
    intro hn
    have ha := (s.calledBy caller).attach_active a carrier
    have hb : ((s.calledBy caller).attach carrier a).1.host.traced.isEmpty = false :=
      List.isEmpty_eq_false_iff.2 hn
    exact ha.trans (by rw [ProfileHost.hasAttachments, hb]; rfl)
  | install => exact hl
  | forget t => exact Hook.listens_forget t
  | clear caller =>
    intro hn
    have hh : (s.step c (.clear caller)).host.held = [] := Observed.held_clear
    obtain ⟨y, hy⟩ := List.exists_mem_of_ne_nil _ hn
    have hb : y.2 ∈ (s.step c (.clear caller)).host.held := ProfileHost.mem_held.2 (.inl ⟨y.1, hy⟩)
    rw [hh] at hb
    cases hb
  | launch | start =>
    simp only [step]
    split <;> exact hl
  | signal x what f below => exact signaled x what f below
  | finish x lowest =>
    cases lowest with
    | none =>
      rw [(finish_unheard s x).1]
      exact hl
    | some f =>
      rw [(finish_heard s x f).1]
      exact signaled x .ret f []

theorem journal_step (s : Situation (Journaled σ)) (m : Move) :
    ∃ es, (s.step c.journaled m).outside.journal = s.outside.journal ++ es := by
  obtain ⟨x, what, f, below, hf⟩ | hs := fires_or_outside (c := c.journaled) s m
  · rw [(step_fires s hf).2]
    obtain hs | ⟨t, hx, ha, -⟩ := signal_cases (c := c.journaled) s x what f below
    · rw [hs]
      exact ⟨[], by simp⟩
    · obtain ⟨es, -, hj⟩ := signal_journaled (c := c) hx ha what f below
      exact ⟨es, hj⟩
  · exact ⟨[], by simp [hs]⟩

theorem journal_run (s : Situation (Journaled σ)) (ms : List Move) :
    ∃ es, (s.run c.journaled ms).outside.journal = s.outside.journal ++ es := by
  induction ms generalizing s with
  | nil => exact ⟨[], by simp⟩
  | cons m ms ih =>
    obtain ⟨es, he⟩ := journal_step (c := c) s m
    obtain ⟨fs, hf⟩ := ih (s.step c.journaled m)
    exact ⟨es ++ fs, by rw [run_cons, hf, he, List.append_assoc]⟩

end Situation

end ThreadTrace
