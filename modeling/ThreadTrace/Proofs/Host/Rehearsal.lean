import ThreadTrace.Proofs.Host.Granting
import ThreadTrace.Proofs.World.Deaf

namespace ThreadTrace

variable {H K : Type}

namespace Registration

def request [TraceHost H] (h : H) : Registration → Except Fault (H × List Notice)
  | attach c flags target => TraceHost.attach h c.toValue flags target
  | filter unit spec localOnly => TraceHost.install h (.text unit) spec localOnly

def replay [TraceHost H] (calls : List Registration) (h : H) : Except Fault H :=
  calls.foldlM (fun h x => (x.request h).map (·.1)) h

def IsFit : Registration → Prop
  | attach .. => True
  | filter unit .. => unit.isEmpty = false

theorem unitOfValue_text {v : Value} {unit : String} (h : unitOfValue v = .ok unit) :
    unit.isEmpty = false ∧ unitOfValue (.text unit) = .ok unit := by
  have hu : unit.isEmpty = false := by
    unfold unitOfValue at h
    split at h
    · rename_i s hs
      cases h
      simpa using (Option.filter_eq_some_iff.1 hs).2
    · cases hv : v.shown <;> rw [hv] at h <;> cases h
  exact ⟨hu, by simp [unitOfValue, unitName?, Value.asText?, Option.filter, hu]⟩

variable [TraceHost H] {step : H → Registration → H}

theorem IsFit.request {x : Registration} (hx : x.IsFit) (ht : Takes step) (h : H) :
    (x.request h).map (·.1) = .ok (step h x) := by
  cases x with
  | attach c flags target =>
    have hc : Carrier.ofValue c.toValue = .ok c := by
      rw [Carrier.ofValue, Carrier.read?_toValue]
    rw [Registration.request, ht.attach, hc]
    rfl
  | filter unit spec localOnly =>
    have hu : unitOfValue (.text unit) = .ok unit := by
      have hu : unit.isEmpty = false := hx
      simp [unitOfValue, unitName?, Value.asText?, Option.filter, hu]
    rw [Registration.request, ht.install, hu]
    rfl

theorem replay_fit {calls : List Registration} (hx : ∀ x ∈ calls, x.IsFit) (ht : Takes step)
    (h : H) : replay calls h = .ok (calls.foldl step h) := by
  induction calls generalizing h with
  | nil => rfl
  | cons x calls ih =>
    rw [replay, List.foldlM_cons, (hx x List.mem_cons_self).request ht h]
    exact ih (fun y hy => hx y (List.mem_cons_of_mem _ hy)) (step h x)

end Registration

namespace Dispatch

variable {step : H → Registration → H} {step' : K → Registration → K}

/-- Activities on two hosts that go the same way: each host gets the same registrations, and the
outcome and the world are the same but for reports. What goes well to its end has been demanded. -/
def Lockstep (step : H → Registration → H) (step' : K → Registration → K)
    (ds : List (Except Fault Registration)) (act : Act (Stage H) Unit) (act' : Act (Stage K) Unit) :
    Prop :=
  ∀ (w : World) (ns : List Notice) (h : H) (k : K), ∃ (r : Except Fault Unit)
    (done : List Registration) (v : World) (ms : List Notice),
    (∀ x ∈ done, x.IsFit) ∧ (r = .ok () → ds = done.map .ok) ∧
      act.on ⟨w, h⟩ = (r, ⟨v, done.foldl step h⟩) ∧
      act'.on ⟨w.relog ns, k⟩ = (r, ⟨v.relog ms, done.foldl step' k⟩)

namespace Lockstep

variable {ds es : List (Except Fault Registration)}

theorem done : Lockstep step step' [] (pure ()) (pure ()) :=
  fun w ns _ _ => ⟨.ok (), [], w, ns, by simp, by simp, rfl, rfl⟩

theorem throw (f : Fault) : Lockstep step step' [.error f] (throw f) (throw f) :=
  fun w ns _ _ => ⟨.error f, [], w, ns, by simp, nofun, rfl, rfl⟩

theorem seq {first rest : Act (Stage H) Unit} {first' rest' : Act (Stage K) Unit}
    (h : Lockstep step step' ds first first') (hr : Lockstep step step' es rest rest') :
    Lockstep step step' (ds ++ es) (first >>= fun _ => rest) (first' >>= fun _ => rest') := by
  intro w ns a b
  obtain ⟨r, done, v, ms, hfit, hds, hon, hon'⟩ := h w ns a b
  rw [Act.on_bind, Act.on_bind, hon, hon']
  cases r with
  | error f => exact ⟨.error f, done, v, ms, hfit, nofun, rfl, rfl⟩
  | ok _ =>
    obtain ⟨r, more, u, ls, hmore, hes, hon, hon'⟩ :=
      hr v ms (done.foldl step a) (done.foldl step' b)
    refine ⟨r, done ++ more, u, ls, fun x hx => ?_, fun hk => ?_, ?_, ?_⟩
    · exact (List.mem_append.1 hx).elim (hfit x) (hmore x)
    · rw [hds rfl, hes hk, List.map_append]
    · rw [List.foldl_append]
      exact hon
    · rw [List.foldl_append]
      exact hon'

theorem register_on {request : H → Except Fault (H × List Notice)} {d : Except Fault Registration}
    (h : ∀ host, (request host).map (·.1) = d.map (step host)) (w : World) (host : H) :
    ∃ ns, (register request).on ⟨w, host⟩ = match d with
      | .ok x => (.ok (), ⟨w.relog ns, step host x⟩)
      | .error f => (.error f, ⟨w, host⟩) := by
  have hd := h host
  simp only [register, Act.on_bind, Act.on_get, Act.on_result]
  cases hr : request host with
  | error f =>
    rw [hr] at hd
    cases d with
    | ok x => cases hd
    | error g =>
      obtain rfl := Except.error.inj hd
      exact ⟨[], rfl⟩
  | ok answer =>
    rw [hr] at hd
    cases d with
    | error g => cases hd
    | ok x =>
      obtain ⟨after, notices⟩ := answer
      obtain rfl : after = step host x := Except.ok.inj hd
      exact ⟨w.notices ++ notices, rfl⟩

theorem request {request : H → Except Fault (H × List Notice)}
    {request' : K → Except Fault (K × List Notice)} {d : Except Fault Registration}
    (h : ∀ host, (request host).map (·.1) = d.map (step host))
    (h' : ∀ host, (request' host).map (·.1) = d.map (step' host))
    (hfit : ∀ x, d = .ok x → x.IsFit) :
    Lockstep step step' [d] (register request) (register request') := by
  intro w ns a b
  obtain ⟨ms, hon⟩ := register_on h w a
  obtain ⟨ls, hon'⟩ := register_on h' (w.relog ns) b
  cases d with
  | error f => exact ⟨.error f, [], w, ns, by simp, nofun, hon, hon'⟩
  | ok x =>
    exact ⟨.ok (), [x], w.relog ms, ls, by simpa using hfit x rfl, fun _ => rfl, hon, hon'⟩

theorem loading (unit : String) {act : Act (Stage H) Unit} {act' : Act (Stage K) Unit}
    (h : Lockstep step step' ds act act') :
    Lockstep step step' ds (do let _ ← inWorld (ensureLoaded unit); act)
      (do let _ ← inWorld (ensureLoaded unit); act') := by
  intro w ns a b
  obtain ⟨ms, -, hv⟩ := ensureLoaded_deaf unit w ns
  simp only [inWorld, Act.on_bind, Act.within, Act.on_of, hv]
  cases (ensureLoaded unit).on w with
  | mk r v =>
    cases r with
    | error f =>
      refine ⟨.error f, [], v, ns ++ ms, by simp, ?_, rfl, rfl⟩
      intro he
      cases he
    | ok _ => exact h v (ns ++ ms) a b

end Lockstep

section Apply

variable [TraceHost H] [TraceHost K] (h : Takes step) (h' : Takes step') (o : Options)
  (target : Target)
include h h'

theorem attachAll_lockstep (carriers : List Value) :
    Lockstep step step' (carriers.map (demandOf o.flags target)) (attachAll o.flags target carriers)
      (attachAll o.flags target carriers) := by
  induction carriers with
  | nil => exact .done
  | cons c cs ih =>
    refine Lockstep.seq (.request (d := demandOf o.flags target c) ?_ ?_ ?_) ih
    · intro host
      rw [h.attach, demandOf]
      cases Carrier.ofValue c <;> rfl
    · intro host
      rw [h'.attach, demandOf]
      cases Carrier.ofValue c <;> rfl
    · intro x hx
      rw [demandOf] at hx
      cases hc : Carrier.ofValue c <;> rw [hc] at hx <;> cases hx
      trivial

theorem install_lockstep (entry : Value) :
    Lockstep step step' [do return .filter (← unitOfValue entry) o.matchSpec true]
      (register fun host => TraceHost.install host entry o.matchSpec true)
      (register fun host => TraceHost.install host entry o.matchSpec true) := by
  refine .request ?_ ?_ ?_
  · intro host
    rw [h.install]
    cases unitOfValue entry <;> rfl
  · intro host
    rw [h'.install]
    cases unitOfValue entry <;> rfl
  · intro x hx
    cases hu : unitOfValue entry <;> rw [hu] at hx <;> cases hx
    exact (Registration.unitOfValue_text hu).1

theorem applyEntry_lockstep (entry : Value) :
    Lockstep step step' (demands o.flags o.matchSpec target entry) (applyEntry o target entry)
      (applyEntry o target entry) := by
  have refused : Lockstep step step' [do .error (.badPattern (← entry.shown))]
      (do throw (.badPattern (← Act.result entry.shown)))
      (do throw (.badPattern (← Act.result entry.shown))) := by
    cases entry.shown with
    | error f => exact .throw f
    | ok shown => exact .throw _
  cases entry with
  | scope carriers => exact attachAll_lockstep h h' o target carriers
  | text unit => exact (install_lockstep h h' o (.text unit)).loading unit
  | selector sel => exact (install_lockstep h h' o (.selector sel)).loading sel.text
  | _ => exact refused

theorem apply_lockstep (plan : List Value) :
    Lockstep step step' (plan.flatMap (demands o.flags o.matchSpec target)) (apply o target plan)
      (apply o target plan) := by
  induction plan with
  | nil => exact .done
  | cons entry plan ih => exact (applyEntry_lockstep h h' o target entry).seq ih

theorem apply_outcome (plan : List Value) (w : World) (a : H) (b : K) :
    ((apply o target plan).on ⟨w, a⟩).1 = ((apply o target plan).on ⟨w, b⟩).1 := by
  obtain ⟨r, done, v, ms, -, -, hon, hon'⟩ := apply_lockstep h h' o target plan w w.notices a b
  rw [hon, show (⟨w, b⟩ : Stage K) = ⟨w.relog w.notices, b⟩ from rfl, hon']

end Apply

/-- A place in a plan: the part in front of it, and the part that ends with what stands there. That is
an entry, or a carrier if the entry is a scope. -/
inductive Place : List Value → List Value → List Value → Prop
  | entry (before : List Value) (entry : Value) (after : List Value)
      (h : ∀ carriers, entry ≠ .scope carriers) :
      Place (before ++ entry :: after) before (before ++ [entry])
  | carrier (before front : List Value) (c : Value) (back after : List Value) :
      Place (before ++ .scope (front ++ c :: back) :: after) (before ++ [.scope front])
        (before ++ [.scope (front ++ [c])])

theorem Place.cons {plan front through : List Value} (h : Place plan front through)
    (entry : Value) : Place (entry :: plan) (entry :: front) (entry :: through) := by
  cases h with
  | entry _ e after h => exact .entry (entry :: front) e after h
  | carrier before front c back after => exact .carrier (entry :: before) front c back after

variable [TraceHost H] (o : Options) (target : Target)

/-- A plan ends in a fault at a place: all that stands in front goes well. -/
structure HaltsAt (s : Stage H) (front through : List Value) (f : Fault) : Prop where
  reached : ((apply o target front).on s).1 = .ok ()
  failed : ((apply o target through).on s).1 = .error f

theorem attachAll_halts {carriers : List Value} {s t : Stage H} {f : Fault}
    (h : (attachAll o.flags target carriers).on s = (.error f, t)) :
    ∃ front c back, carriers = front ++ c :: back ∧
      ((attachAll o.flags target front).on s).1 = .ok () ∧
      ((attachAll o.flags target (front ++ [c])).on s).1 = .error f := by
  induction carriers generalizing s with
  | nil => cases h
  | cons c cs ih =>
    simp only [attachAll, Act.on_bind] at h
    cases hc : (register fun host => TraceHost.attach host c o.flags target).on s with
    | mk r u =>
      rw [hc] at h
      cases r with
      | error g =>
        refine ⟨[], c, cs, rfl, rfl, ?_⟩
        simp only [List.nil_append, attachAll, Act.on_bind, hc]
        exact congrArg Prod.fst h
      | ok _ =>
        obtain ⟨front, d, back, rfl, hf, hd⟩ := ih h
        refine ⟨c :: front, d, back, rfl, ?_, ?_⟩ <;>
          simpa only [List.cons_append, attachAll, Act.on_bind, hc]

theorem apply_single (entry : Value) (s : Stage H) :
    (apply o target [entry]).on s = (applyEntry o target entry).on s := by
  simp only [apply, Act.on_bind]
  cases (applyEntry o target entry).on s with
  | mk r t => cases r <;> rfl

theorem apply_halts {plan : List Value} {s t : Stage H} {f : Fault}
    (h : (apply o target plan).on s = (.error f, t)) :
    ∃ front through, Place plan front through ∧ HaltsAt o target s front through f := by
  induction plan generalizing s with
  | nil => cases h
  | cons entry plan ih =>
    simp only [apply, Act.on_bind] at h
    cases he : (applyEntry o target entry).on s with
    | mk r u =>
      rw [he] at h
      cases r with
      | ok _ =>
        obtain ⟨front, through, hp, hr, hf⟩ := ih h
        refine ⟨_, _, hp.cons entry, ?_, ?_⟩ <;> simpa only [apply, Act.on_bind, he]
      | error g =>
        obtain rfl : g = f := Except.error.inj (congrArg Prod.fst h)
        by_cases hs : ∃ carriers, entry = .scope carriers
        · obtain ⟨carriers, rfl⟩ := hs
          obtain ⟨front, c, back, rfl, hr, hf⟩ := attachAll_halts o target he
          exact ⟨_, _, .carrier [] front c back plan, by rw [List.nil_append, apply_single]; exact hr,
            by rw [List.nil_append, apply_single]; exact hf⟩
        · refine ⟨_, _, .entry [] entry plan fun carriers hc => hs ⟨carriers, hc⟩, rfl, ?_⟩
          rw [List.nil_append, apply_single, he]

/-- A dry run of a plan ends as the plan does, by the same fault at the same place; the
worlds that they leave differ in reports alone; and playing back what it has recorded brings a host
to the state in which the plan leaves it. -/
theorem apply_rehearsed (options : Options) (target : Target) (plan : List Value) (w : World)
    (host : Observed) :
    let dry := (apply options target plan).on (⟨w, {}⟩ : Stage Recording)
    let real := (apply options target plan).on (⟨w, host⟩ : Stage Observed)
    real.1 = dry.1 ∧
      (∀ f, real.1 = .error f → ∃ front through, Place plan front through ∧
        HaltsAt options target (⟨w, host⟩ : Stage Observed) front through f ∧
        HaltsAt options target (⟨w, {}⟩ : Stage Recording) front through f) ∧
      (∃ ns, real.2.world = dry.2.world.relog ns) ∧
      Registration.replay dry.2.host.calls host = .ok real.2.host := by
  intro dry real
  have hsame : ∀ plan, ((apply options target plan).on (⟨w, host⟩ : Stage Observed)).1 =
      ((apply options target plan).on (⟨w, {}⟩ : Stage Recording)).1 := fun plan =>
    apply_outcome Observed.enter_takes Recording.record_takes options target plan w host {}
  obtain ⟨r, done, v, ms, hfit, -, hdry, hreal⟩ :=
    apply_lockstep Recording.record_takes Observed.enter_takes options target plan w w.notices {} host
  have hdry : dry = (r, ⟨v, done.foldl Recording.record {}⟩) := hdry
  have hreal : real = (r, ⟨v.relog ms, done.foldl Observed.enter host⟩) := hreal
  refine ⟨hsame plan, fun f hf => ?_, ⟨ms, by rw [hreal, hdry]⟩, ?_⟩
  · obtain ⟨front, through, hp, hr, ht⟩ := apply_halts options target (s := ⟨w, host⟩)
      (t := real.2) (Prod.ext hf rfl)
    exact ⟨front, through, hp, ⟨hr, ht⟩, (hsame _).symm.trans hr, (hsame _).symm.trans ht⟩
  · rw [hreal, hdry, Recording.record_all]
    exact Registration.replay_fit hfit Observed.enter_takes host

end Dispatch

end ThreadTrace
