import ThreadTrace.Profile.Hook

namespace ThreadTrace.Hook

variable {σ : Type} (c : HookEnv σ)

/-- A report lacks only its time. An attachment is passed on to a thread that is being started. -/
inductive Effect
  | report (ident : Nat) (a : Attachment) (e : Event)
  | pass (child : String) (a : Attachment)

def Effect.act : Effect → Act (HookState σ) Unit
  | .report ident a e => do emit c ident a.target { e with timestamp := ← time c a.flags }
  | .pass child a => changeHost fun h => { h with pending := h.pending.put child a }

def actAll : List Effect → Act (HookState σ) Unit
  | [] => return
  | d :: ds => do
    d.act c
    actAll ds

def settle (me : Caller) (h : ProfileHost) : Option Attachment × ProfileHost :=
  match h.traced.get? me.ident with
  | some a => (some a, h)
  | none =>
    if h.ignored.contains me.ident then (none, h)
    else
      let hooked := ProfileHost.insertNew me.ident h.hooked
      let pending := h.pending.erase me.thread
      match arriving h me with
      | some a => (some a, { h with hooked, pending, traced := h.traced.put me.ident a })
      | none => (none, { h with hooked, pending, ignored := ProfileHost.insertNew me.ident h.ignored })

def plain (kind : EventKind) (ident : Nat) (a : Attachment) : Event where
  kind := kind
  carrier := ident
  mode := a.target.mode

/-- The thread before goes out if it is still traced. -/
def leaving (h : ProfileHost) : List Effect :=
  match h.lastIdent with
  | none => []
  | some p =>
    match h.traced.get? p with
    | none => []
    | some b => if b.flags.running then [.report p b (plain .scheduledOut p b)] else []

def switching (ident : Nat) (a : Attachment) (h : ProfileHost) : List Effect :=
  if h.lastIdent = some ident then []
  else leaving h ++ [.report ident a (plain .scheduledIn ident a)]

def started? (f : Frame) : Option String :=
  match f.startsThread, f.local? "self" with
  | true, some (.thread child) => some child
  | _, _ => none

def passing (isSink : String → Bool) (a : Attachment) (f : Frame) : List Effect :=
  match started? f with
  | none => []
  | some child => if isSink child then [] else [.pass child a]

def called (ident : Nat) (a : Attachment) (spec : MatchSpec) (f : Frame) (stack : List Frame) :
    Event where
  kind := .call
  carrier := ident
  unit := f.unit
  function := some f.function
  arity := some f.arity
  args := if a.flags.arity then none else some (arguments f)
  dump := if spec == .processDump && a.target.mode == .trace then some (Dump.text stack) else none
  mode := a.target.mode

def calling (ident : Nat) (a : Attachment) (h : ProfileHost) (f : Frame) (stack : List Frame) :
    List Effect :=
  match h.matchUnit f.unit with
  | none => []
  | some spec => [.report ident a (called ident a spec f stack)]

def callEffects (isSink : String → Bool) (ident : Nat) (a : Attachment) (h : ProfileHost) (f : Frame)
    (stack : List Frame) : List Effect :=
  (if a.flags.running then switching ident a h else []) ++
    ((if a.flags.setOnSpawn then passing isSink a f else []) ++
      (if a.flags.call then calling ident a h f stack else []))

def returned (ident : Nat) (a : Attachment) (f caller : Frame) : Event where
  kind := .returnTo
  carrier := ident
  unit := f.unit
  function := some f.function
  caller := some (place caller)
  mode := a.target.mode

def returnEffects (ident : Nat) (a : Attachment) (h : ProfileHost) (f caller : Frame) : List Effect :=
  if a.flags.returnTo ∧ a.flags.call ∧ (h.matchUnit f.unit).isSome then
    [.report ident a (returned ident a f caller)]
  else []

def endEffects (ident : Nat) (a : Attachment) : List Effect :=
  if a.flags.procs then [.report ident a (plain .exit ident a)] else []

def planCall (isSink : String → Bool) (me : Caller) (f : Frame) (stack : List Frame)
    (h : ProfileHost) : ProfileHost × List Effect :=
  match settle me h with
  | (none, h) => (h, [])
  | (some a, h) =>
    (if a.flags.running then { h with lastIdent := some me.ident } else h,
      callEffects isSink me.ident a h f stack)

def planEnd (me : Caller) (h : ProfileHost) : ProfileHost × List Effect :=
  let rest := { h with
    ignored := ProfileHost.remove me.ident h.ignored
    hooked := ProfileHost.remove me.ident h.hooked }
  match h.traced.get? me.ident with
  | none => (rest, [])
  | some a => ({ rest with traced := h.traced.erase me.ident }, endEffects me.ident a)

def planReturn (me : Caller) (f : Frame) (caller : Option Frame) (h : ProfileHost) :
    ProfileHost × List Effect :=
  match caller, h.traced.get? me.ident with
  | none, _ => planEnd me h
  | some _, none => (h, [])
  | some caller, some a => (h, returnEffects me.ident a h f caller)

def plan (isSink : String → Bool) (me : Caller) (signal : Signal) (f : Frame) (below : List Frame)
    (h : ProfileHost) : ProfileHost × List Effect :=
  if h.active then
    match signal with
    | .call => planCall isSink me f (f :: below) h
    | .ret => planReturn me f below.head? h
    | .other => (h, [])
  else (h, [])

@[simp] theorem changeHost_on (f : ProfileHost → ProfileHost) (s : HookState σ) :
    (changeHost f).on s = (.ok (), { s with host := f s.host }) := rfl

theorem actAll_append (ds es : List Effect) (s : HookState σ) :
    (actAll c (ds ++ es)).on s = (do actAll c ds; actAll c es : Act (HookState σ) Unit).on s := by
  induction ds generalizing s with
  | nil => simp [actAll]
  | cons d ds ih =>
    simp only [List.cons_append, actAll, Act.on_bind]
    cases (d.act c).on s with
    | mk r t =>
      cases r with
      | error e => rfl
      | ok _ => simpa only [Act.on_bind] using ih t

theorem attachment_on (me : Caller) (s : HookState σ) :
    (attachment me).on s =
      (.ok (settle me s.host).1, { s with host := (settle me s.host).2 }) := by
  simp only [attachment, settle, Act.on_bind, Act.on_get]
  cases s.host.traced.get? me.ident with
  | some a => rfl
  | none =>
    by_cases hi : s.host.ignored.contains me.ident = true
    · simp only [hi, if_true]
      rfl
    · simp only [hi]
      cases arriving s.host me <;> rfl

theorem actAll_single (d : Effect) (s : HookState σ) : (actAll c [d]).on s = (d.act c).on s := by
  simp only [actAll, Act.on_bind]
  cases (d.act c).on s with
  | mk r t => cases r <;> rfl

def stamp (flags : Flags) (o : σ) : Option Double × σ :=
  if flags.timestamp then (some (c.tick o).1, (c.tick o).2) else (none, o)

@[simp] theorem time_on (flags : Flags) (s : HookState σ) :
    (time c flags).on s =
      (.ok (stamp c flags s.outside).1, { s with outside := (stamp c flags s.outside).2 }) := by
  by_cases h : flags.timestamp = true
  · simp only [time, stamp, h, if_true]
    rfl
  · simp only [time, stamp, h]
    rfl

@[simp] theorem plainEvent_on (kind : EventKind) (ident : Nat) (a : Attachment) (s : HookState σ) :
    (plainEvent c kind ident a).on s =
      (.ok { plain kind ident a with timestamp := (stamp c a.flags s.outside).1 },
        { s with outside := (stamp c a.flags s.outside).2 }) := by
  simp [plainEvent, plain]

theorem report_on (ident : Nat) (a : Attachment) (e : Event) (s : HookState σ) :
    ((Effect.report ident a e).act c).on s =
      (emit c ident a.target { e with timestamp := (stamp c a.flags s.outside).1 }).on
        { s with outside := (stamp c a.flags s.outside).2 } := by
  simp [Effect.act]

theorem checkSwitch_on (ident : Nat) (a : Attachment) (s : HookState σ) :
    (checkSwitch c ident a).on s =
      (actAll c (switching ident a s.host)).on
        { s with host := { s.host with lastIdent := some ident } } := by
  simp only [checkSwitch, switching, Act.on_bind, Act.on_get]
  by_cases hl : s.host.lastIdent = some ident
  · have hs : { s with host := { s.host with lastIdent := some ident } } = s := by
      rw [← hl]
    rw [hs]
    simp [hl, actAll]
  · have hb : (s.host.lastIdent == some ident) = false := by simpa using hl
    rw [hb, if_neg hl]
    cases hp : s.host.lastIdent with
    | none => simp [leaving, hp, actAll, report_on]
    | some p =>
      cases ht : s.host.traced.get? p with
      | none => simp [leaving, hp, ht, actAll, report_on]
      | some b =>
        by_cases hr : b.flags.running = true
        · simp [leaving, hp, ht, hr, actAll, report_on]
        · simp [leaving, hp, ht, hr, actAll, report_on]

theorem inherit_on (isSink : String → Bool) (a : Attachment) (f : Frame) (s : HookState σ) :
    (inherit isSink a f).on s = (actAll c (passing isSink a f)).on s := by
  unfold inherit passing started?
  rcases f.startsThread with _ | _
  · rfl
  · rcases f.local? "self" with _ | v
    · rfl
    · cases v with
      | thread child => cases h : isSink child <;> simp only [h] <;> rfl
      | _ => rfl

theorem emit_filters (ident : Nat) (t : Target) (e : Event) (s : HookState σ) :
    ((emit c ident t e).on s).2.host.filters = s.host.filters := by
  simp only [emit, drop, offer]
  split
  · rfl
  · cases t.route (.int ident) with
    | error f => rfl
    | ok w =>
      cases w with
      | none => rfl
      | some k =>
        cases h : (c.offer k e s.outside).1 with
        | true => simp [h]
        | false =>
          simp [h]
          rfl

theorem act_filters (d : Effect) (s : HookState σ) :
    ((d.act c).on s).2.host.filters = s.host.filters := by
  cases d with
  | pass child a => rfl
  | report ident a e => rw [report_on, emit_filters]

theorem actAll_filters (ds : List Effect) (s : HookState σ) :
    ((actAll c ds).on s).2.host.filters = s.host.filters := by
  induction ds generalizing s with
  | nil => rfl
  | cons d ds ih =>
    have hd := act_filters c d s
    simp only [actAll, Act.on_bind]
    cases h : (d.act c).on s with
    | mk r t =>
      rw [h] at hd
      cases r with
      | error e => exact hd
      | ok _ => exact (ih t).trans hd

theorem matchUnit_congr {h g : ProfileHost} (hf : h.filters = g.filters) (u : Option String) :
    h.matchUnit u = g.matchUnit u := by
  simp only [ProfileHost.matchUnit, hf]

theorem settle_filters (me : Caller) (h : ProfileHost) : (settle me h).2.filters = h.filters := by
  unfold settle
  split
  · rfl
  · split
    · rfl
    · cases arriving h me <;> rfl

theorem actAll_then (ds es : List Effect) (s : HookState σ) (act : Act (HookState σ) Unit)
    (hk : ∀ t : HookState σ, t.host.filters = s.host.filters → act.on t = (actAll c es).on t) :
    (do actAll c ds; act : Act (HookState σ) Unit).on s = (actAll c (ds ++ es)).on s := by
  have hf := actAll_filters c ds s
  rw [actAll_append, Act.on_bind, Act.on_bind]
  cases h : (actAll c ds).on s with
  | mk r t =>
    rw [h] at hf
    cases r with
    | error e => rfl
    | ok _ => exact hk t hf

theorem bind_congr_on {α β : Type} {x y : Act (HookState σ) α} {s t : HookState σ}
    (h : x.on s = y.on t) (k : α → Act (HookState σ) β) : (x >>= k).on s = (y >>= k).on t := by
  rw [Act.on_bind, Act.on_bind, h]

theorem calling_on (ident : Nat) (a : Attachment) (h : ProfileHost) (f : Frame) (stack : List Frame)
    (s : HookState σ) (hf : s.host.filters = h.filters) :
    (if (!a.flags.call) = true then pure () else do
      let some spec := (← get).host.matchUnit f.unit | return
      emit c ident a.target (← callEvent c ident a spec f stack) : Act (HookState σ) Unit).on s =
      (actAll c (if a.flags.call then calling ident a h f stack else [])).on s := by
  by_cases hc : a.flags.call = true
  · simp only [hc, Bool.not_true, Bool.false_eq_true, if_false, if_true, Act.on_bind, Act.on_get,
      matchUnit_congr hf, calling]
    cases h.matchUnit f.unit with
    | none => rfl
    | some spec => simp [actAll_single, report_on, callEvent, called]
  · simp [hc, actAll]

theorem onCall_on (isSink : String → Bool) (me : Caller) (f : Frame) (stack : List Frame)
    (s : HookState σ) :
    (onCall c isSink me f stack).on s =
      (actAll c (planCall isSink me f stack s.host).2).on
        { s with host := (planCall isSink me f stack s.host).1 } := by
  rw [onCall, Act.on_bind, attachment_on, planCall]
  rcases settle me s.host with ⟨_ | a, h⟩
  · rfl
  · simp only [callEffects]
    by_cases hr : a.flags.running = true <;> by_cases hp : a.flags.setOnSpawn = true <;>
      simp only [hr, hp, if_true, if_false, Bool.false_eq_true, List.nil_append]
    · rw [bind_congr_on (checkSwitch_on c me.ident a _)]
      refine actAll_then c _ _ _ _ fun t ht => ?_
      rw [bind_congr_on (inherit_on c isSink a f t)]
      exact actAll_then c _ _ _ _ fun u hu => calling_on c _ a h f stack u (hu.trans ht)
    · rw [bind_congr_on (checkSwitch_on c me.ident a _)]
      exact actAll_then c _ _ _ _ fun t ht => calling_on c _ a h f stack t ht
    · rw [bind_congr_on (inherit_on c isSink a f _)]
      exact actAll_then c _ _ _ _ fun t ht => calling_on c _ a h f stack t ht
    · exact calling_on c _ a h f stack _ rfl

theorem onEnd_on (me : Caller) (s : HookState σ) :
    (onEnd c me).on s = (actAll c (planEnd me s.host).2).on
      { s with host := (planEnd me s.host).1 } := by
  simp only [onEnd, planEnd, Act.on_bind, Act.on_get]
  cases s.host.traced.get? me.ident with
  | none => rfl
  | some a => by_cases hp : a.flags.procs = true <;> simp [hp, endEffects, actAll, report_on]

theorem onReturn_on (me : Caller) (f : Frame) (caller : Option Frame) (s : HookState σ) :
    (onReturn c me f caller).on s = (actAll c (planReturn me f caller s.host).2).on
      { s with host := (planReturn me f caller s.host).1 } := by
  cases caller with
  | none => exact onEnd_on c me s
  | some caller =>
    simp only [onReturn, planReturn, Act.on_bind, Act.on_get]
    cases s.host.traced.get? me.ident with
    | none => rfl
    | some a =>
      simp only [returnEffects]
      by_cases hr : a.flags.returnTo = true <;> by_cases hc : a.flags.call = true <;>
        cases hm : s.host.matchUnit f.unit <;>
        simp [hr, hc, actAll, report_on, returned]

/-- A callback takes notice of what it is told and then does its effects. -/
theorem fire_on (isSink : String → Bool) (me : Caller) (signal : Signal) (f : Frame)
    (below : List Frame) (s : HookState σ) :
    (fire c isSink me signal f below).on s =
      (actAll c (plan isSink me signal f below s.host).2).on
        { s with host := (plan isSink me signal f below s.host).1 } := by
  simp only [fire, plan, Act.on_bind, Act.on_get]
  by_cases ha : s.host.active = true
  · simp only [ha, Bool.not_true, Bool.false_eq_true, if_false, if_true]
    cases signal with
    | call => exact onCall_on c isSink me f _ s
    | ret => exact onReturn_on c me f _ s
    | other => rfl
  · simp only [ha]
    rfl

end ThreadTrace.Hook
