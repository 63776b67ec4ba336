import ThreadTrace.Proofs.Host.Rehearsal
import ThreadTrace.Proofs.Profile.Gathering

namespace ThreadTrace

theorem ProfileHost.hasAttachments_iff (h : ProfileHost) : h.hasAttachments = true ↔
    (∃ n, (h.traced.get? n).isSome) ∨ (∃ x, (h.pending.get? x).isSome) ∨ h.arrivals.isSome := by
  have held : ∀ {κ : Type} [DecidableEq κ] (t : Table κ Attachment),
      (!t.isEmpty) = true ↔ ∃ k, (t.get? k).isSome := by
    intro κ _ t
    cases t with
    | nil => simp [Table.get?_nil]
    | cons x t =>
      have hx := Table.get?_isSome_of_mem (List.mem_cons_self (a := x) (l := t))
      simp [hx, Exists.intro x.1]
  rw [hasAttachments, Bool.or_eq_true, Bool.or_eq_true, held, held, or_assoc]

theorem Granted.of_ok {α : Type} (xs : List α) : Granted (xs.map Except.ok) xs (.ok ()) := by
  induction xs with
  | nil => exact .all
  | cons x xs ih => exact .next x ih

namespace Registration

def carrier? : Registration → Option Carrier
  | attach c .. => some c
  | filter .. => none

def unit? : Registration → Option String
  | attach .. => none
  | filter unit .. => some unit

def IsFor (a : Attachment) (spec : MatchSpec) (localOnly : Bool) : Registration → Prop
  | attach _ flags target => ⟨flags, target⟩ = a
  | filter _ spec' localOnly' => spec' = spec ∧ localOnly' = localOnly

end Registration

def Value.SameSet (xs ys : List Value) : Prop :=
  (∀ x ∈ xs, ∃ y ∈ ys, x.same y = true) ∧ ∀ y ∈ ys, ∃ x ∈ xs, y.same x = true

namespace Carrier

/-- Carriers that stand for the same threads, as all ports do, which stand for none. -/
def SameAs (c d : Carrier) : Prop := c = d ∨ ∃ x y, c = .port x ∧ d = .port y

namespace SameAs

variable {c d : Carrier}

theorem catches (h : c.SameAs d) (o : Observed) (n : Nat) : o.catches c n = o.catches d n := by
  obtain rfl | ⟨x, y, rfl, rfl⟩ := h <;> rfl

theorem awaits (h : c.SameAs d) (o : Observed) (x : String) : o.awaits c x = o.awaits d x := by
  obtain rfl | ⟨x, y, rfl, rfl⟩ := h <;> rfl

theorem coversNew (h : c.SameAs d) : c.coversNew = d.coversNew := by
  obtain rfl | ⟨x, y, rfl, rfl⟩ := h <;> rfl

end SameAs

theorem toValue_of_read? {v : Value} {c : Carrier} (h : read? v = some c) : v = c.toValue := by
  cases v with
  | int n =>
    simp only [read?] at h
    split at h
    · obtain rfl := Option.some.inj h
      rw [toValue, Int.toNat_of_nonneg ‹_›]
    · cases h
  | selector s | thread name | port handle => cases h; rfl
  | _ => cases h

theorem sameAs_of_same {v w : Value} {c d : Carrier} (hv : read? v = some c) (hw : read? w = some d)
    (h : v.same w = true) : c.SameAs d := by
  obtain rfl := toValue_of_read? hv
  obtain rfl := toValue_of_read? hw
  cases c <;> cases d
  case selector.selector s t =>
    have ht : s.text = t.text := by
      simpa [toValue, Value.same, Value.isSameNan, Value.equal, Value.equalAtom, Value.asInt?,
        Value.asText?] using h
    have hs := Selector.ofText?_text s
    rw [ht, Selector.ofText?_text] at hs
    exact .inl (congrArg _ (Option.some.inj hs).symm)
  case port.port x y => exact .inr ⟨x, y, rfl, rfl⟩
  all_goals
    simp_all [toValue, Value.same, Value.isSameNan, Value.equal, Value.equalAtom, Value.asInt?,
      Value.asText?, SameAs]

def SameSet (cs ds : List Carrier) : Prop :=
  (∀ c ∈ cs, ∃ d ∈ ds, c.SameAs d) ∧ ∀ d ∈ ds, ∃ c ∈ cs, d.SameAs c

namespace SameSet

variable {cs ds : List Carrier}

theorem of_mem (h : ∀ c, c ∈ cs ↔ c ∈ ds) : SameSet cs ds :=
  ⟨fun c hc => ⟨c, (h c).1 hc, .inl rfl⟩, fun d hd => ⟨d, (h d).2 hd, .inl rfl⟩⟩

theorem any {p : Carrier → Bool} (h : SameSet cs ds) (hp : ∀ c d, c.SameAs d → p c = p d) :
    cs.any p = ds.any p := by
  rw [Bool.eq_iff_iff, List.any_eq_true, List.any_eq_true]
  constructor
  · rintro ⟨c, hc, ht⟩
    obtain ⟨d, hd, hcd⟩ := h.1 c hc
    exact ⟨d, hd, hp c d hcd ▸ ht⟩
  · rintro ⟨d, hd, ht⟩
    obtain ⟨c, hc, hdc⟩ := h.2 d hd
    exact ⟨c, hc, hp d c hdc ▸ ht⟩

theorem isEmpty (h : SameSet cs ds) : cs.isEmpty = ds.isEmpty := by
  rw [Bool.eq_iff_iff, List.isEmpty_iff, List.isEmpty_iff]
  constructor
  · rintro rfl
    exact List.eq_nil_iff_forall_not_mem.2 fun d hd => by simpa using h.2 d hd
  · rintro rfl
    exact List.eq_nil_iff_forall_not_mem.2 fun c hc => by simpa using h.1 c hc

end SameSet

end Carrier

structure Reach where
  installed : Bool
  allThreads : Bool
  threads : Threads

namespace Reach

def raised (r : Reach) : Reach :=
  if !r.installed then
    { installed := true
      allThreads := r.threads.reachesRunning
      threads := if r.threads.reachesRunning then r.threads.hookAll true
        else (r.threads.hookStarted true).hookCurrent true }
  else if !r.allThreads then { r with threads := r.threads.hookCurrent true }
  else r

theorem raised_raised (r : Reach) : r.raised.raised = r.raised := by
  obtain ⟨installed, allThreads, ts⟩ := r
  cases installed with
  | false => cases hr : ts.reachesRunning <;> simp [raised, hr, Threads.hookCurrent_hookCurrent]
  | true => cases allThreads <;> simp [raised, Threads.hookCurrent_hookCurrent]

end Reach

namespace Observed

def reach (o : Observed) : Reach := ⟨o.host.installed, o.host.allThreads, o.threads⟩

theorem reach_refresh (o : Observed) :
    o.refresh.reach = if o.host.hasAttachments then o.reach.raised else o.reach := by
  cases hh : o.host.hasAttachments with
  | false => simp [refresh, hh, reach]
  | true =>
    cases hi : o.host.installed with
    | false => simp [refresh, hh, hi, reach, Reach.raised, installHook]
    | true => cases ha : o.host.allThreads <;> simp [refresh, hh, hi, ha, reach, Reach.raised]

theorem reach_attach (o : Observed) (c : Carrier) (a : Attachment) :
    (o.attach c a).1.reach =
      if (o.attachCarrier c a).1.hasAttachments then o.reach.raised else o.reach := by
  have hr : (⟨{ (o.attachCarrier c a).1 with ignored := [] }, o.threads⟩ : Observed).reach =
      o.reach := by
    rw [attachCarrier_frame]
    rfl
  have h := reach_refresh ⟨{ (o.attachCarrier c a).1 with ignored := [] }, o.threads⟩
  rw [hr] at h
  exact h

/-- Hosts that are alike in what is installed: tables that hold the same, and the rest equal. -/
structure Alike (p q : Observed) : Prop where
  traced : ∀ n, p.host.traced.get? n = q.host.traced.get? n
  pending : ∀ x, p.host.pending.get? x = q.host.pending.get? x
  arrivals : p.host.arrivals = q.host.arrivals
  known : p.host.known = q.host.known
  ignored : p.host.ignored = q.host.ignored
  hooked : p.host.hooked = q.host.hooked
  filters : ∀ u, p.host.filters.get? u = q.host.filters.get? u
  localOnly : ∀ u, p.host.localOnly.get? u = q.host.localOnly.get? u
  lastIdent : p.host.lastIdent = q.host.lastIdent
  active : p.host.active = q.host.active
  reach : p.reach = q.reach

/-- What a host has become by attaches to some carriers and filters on some units. -/
structure Gathered (a : Attachment) (spec : MatchSpec) (localOnly : Bool) (cs : List Carrier)
    (us : List String) (o p : Observed) : Prop where
  bare : p.bare = o.bare
  traced : ∀ n, p.host.traced.get? n =
    if cs.any (o.catches · n) then some a else o.host.traced.get? n
  pending : ∀ x, p.host.pending.get? x =
    if cs.any (o.awaits · x) then some a else o.host.pending.get? x
  arrivals : p.host.arrivals = if cs.any (·.coversNew) then some a else o.host.arrivals
  known : p.host.known = if cs.any (·.coversNew) then o.knownAfter else o.host.known
  ignored : p.host.ignored = if cs.isEmpty then o.host.ignored else []
  hooked : p.host.hooked = o.host.hooked
  filters : ∀ u, p.host.filters.get? u = if u ∈ us then some spec else o.host.filters.get? u
  localOnly : ∀ u, p.host.localOnly.get? u =
    if u ∈ us then some localOnly else o.host.localOnly.get? u
  lastIdent : p.host.lastIdent = o.host.lastIdent
  active : p.host.active = if cs.isEmpty then o.host.active else p.host.hasAttachments
  reach : p.reach = if !cs.isEmpty && p.host.hasAttachments then o.reach.raised else o.reach

namespace Gathered

variable {a : Attachment} {spec : MatchSpec} {localOnly : Bool} {cs : List Carrier}
  {us : List String} {o p q : Observed}

theorem start (a : Attachment) (spec : MatchSpec) (localOnly : Bool) (o : Observed) :
    Gathered a spec localOnly [] [] o o := by
  constructor <;> simp

theorem knownAfter (h : Gathered a spec localOnly cs us o p) : p.knownAfter = o.knownAfter := by
  have hl : p.threads.listed.map (·.name) = o.threads.listed.map (·.name) := by
    rw [← listed_bare, h.bare, listed_bare]
  cases hn : cs.any (·.coversNew) with
  | true =>
    have harrivals := h.arrivals
    have hknown := h.known
    rw [hn] at harrivals hknown
    rw [Observed.knownAfter, harrivals]
    exact hknown
  | false =>
    have harrivals := h.arrivals
    have hknown := h.known
    rw [hn] at harrivals hknown
    rw [Observed.knownAfter, Observed.knownAfter, harrivals, hknown, hl]
    rfl

theorem hasAttachments_attachCarrier (p : Observed) (a : Attachment) (c : Carrier)
    (h : p.host.hasAttachments = true) : (p.attachCarrier c a).1.hasAttachments = true := by
  rw [ProfileHost.hasAttachments_iff] at h ⊢
  rcases h with ⟨n, hn⟩ | ⟨x, hx⟩ | ha
  · refine .inl ⟨n, ?_⟩
    rw [get?_traced_attachCarrier]
    split
    · rfl
    · exact hn
  · refine .inr (.inl ⟨x, ?_⟩)
    rw [get?_pending_attachCarrier]
    split
    · rfl
    · exact hx
  · refine .inr (.inr ?_)
    rw [(arrivals_attachCarrier_eq p a c).1]
    split
    · rfl
    · exact ha

theorem attach (h : Gathered a spec localOnly cs us o p) (c : Carrier) :
    Gathered a spec localOnly (cs ++ [c]) us o (p.attach c a).1 := by
  have hreach := reach_attach p c a
  have hactive := attach_active p a c
  obtain ⟨active, installed, allThreads, hh⟩ := attach_host p a c
  have hframe := attachCarrier_frame p a c
  obtain ⟨harrivals, hknown⟩ := arrivals_attachCarrier_eq p a c
  have hhas : (p.attach c a).1.host.hasAttachments = (p.attachCarrier c a).1.hasAttachments := by
    rw [hh]
    rfl
  constructor
  · exact (bare_attach p a c).trans h.bare
  · intro n
    rw [hh]
    refine (get?_traced_attachCarrier p a c n).trans ?_
    rw [h.traced, ← catches_bare p, h.bare, catches_bare, List.any_append, List.any_cons,
      List.any_nil, Bool.or_false]
    cases o.catches c n <;> simp
  · intro x
    rw [hh]
    refine (get?_pending_attachCarrier p a c x).trans ?_
    rw [h.pending, ← awaits_bare p, h.bare, awaits_bare, List.any_append, List.any_cons,
      List.any_nil, Bool.or_false]
    cases o.awaits c x <;> simp
  · rw [hh]
    refine harrivals.trans ?_
    rw [h.arrivals, List.any_append, List.any_cons, List.any_nil, Bool.or_false]
    cases c.coversNew <;> simp
  · rw [hh]
    refine hknown.trans ?_
    rw [h.known, h.knownAfter, List.any_append, List.any_cons, List.any_nil, Bool.or_false]
    cases c.coversNew <;> simp
  · rw [hh]
    simp
  · rw [hh, hframe]
    exact h.hooked
  · intro u
    rw [hh, hframe]
    exact h.filters u
  · intro u
    rw [hh, hframe]
    exact h.localOnly u
  · rw [hh, hframe]
    exact h.lastIdent
  · simpa using hactive
  · rw [hreach, hhas, h.reach]
    cases hp : p.host.hasAttachments with
    | true =>
      rw [hasAttachments_attachCarrier p a c hp]
      cases cs <;> simp [Reach.raised_raised]
    | false => simp

theorem install (h : Gathered a spec localOnly cs us o p) (u : String) :
    Gathered a spec localOnly cs (us ++ [u]) o
      { p with host := p.host.install u spec localOnly } := by
  have put : ∀ {α : Type} (t t' : Table String α) (x : α),
      (∀ v, t.get? v = if v ∈ us then some x else t'.get? v) →
        ∀ v, (t.put u x).get? v = if v ∈ us ++ [u] then some x else t'.get? v := by
    intro α t t' x ht v
    rw [Table.get?_put, ht]
    by_cases hv : v = u <;> by_cases hm : v ∈ us <;> simp [hv, hm]
  exact { h with
    filters := put _ _ spec h.filters
    localOnly := put _ _ localOnly h.localOnly }

theorem run (h : Gathered a spec localOnly cs us o p) {xs : List Registration}
    (hx : ∀ x ∈ xs, x.IsFor a spec localOnly) :
    Gathered a spec localOnly (cs ++ xs.filterMap (·.carrier?)) (us ++ xs.filterMap (·.unit?)) o
      (xs.foldl enter p) := by
  induction xs generalizing cs us p with
  | nil => simpa using h
  | cons x xs ih =>
    have hx' : ∀ y ∈ xs, y.IsFor a spec localOnly := fun y hy => hx y (List.mem_cons_of_mem _ hy)
    cases x with
    | attach c flags target =>
      obtain rfl : Attachment.mk flags target = a := hx _ List.mem_cons_self
      have hr := ih (h.attach c) hx'
      rw [List.append_assoc] at hr
      exact hr
    | filter unit spec' localOnly' =>
      obtain ⟨rfl, rfl⟩ : spec' = spec ∧ localOnly' = localOnly := hx _ List.mem_cons_self
      have hr := ih (h.install unit) hx'
      rw [List.append_assoc] at hr
      exact hr

/-- It only matters which carriers and units there were. -/
theorem alike {cs' : List Carrier} {us' : List String} (h : Gathered a spec localOnly cs us o p)
    (h' : Gathered a spec localOnly cs' us' o q) (hc : Carrier.SameSet cs cs')
    (hu : ∀ u, u ∈ us ↔ u ∈ us') : Alike p q := by
  have htraced : ∀ n, p.host.traced.get? n = q.host.traced.get? n := fun n => by
    rw [h.traced, h'.traced, hc.any fun c d hcd => hcd.catches o n]
  have hpending : ∀ x, p.host.pending.get? x = q.host.pending.get? x := fun x => by
    rw [h.pending, h'.pending, hc.any fun c d hcd => hcd.awaits o x]
  have harrivals : p.host.arrivals = q.host.arrivals := by
    rw [h.arrivals, h'.arrivals, hc.any fun c d hcd => hcd.coversNew]
  have hhas : p.host.hasAttachments = q.host.hasAttachments := by
    rw [Bool.eq_iff_iff, ProfileHost.hasAttachments_iff, ProfileHost.hasAttachments_iff]
    simp only [htraced, hpending, harrivals]
  exact {
    traced := htraced
    pending := hpending
    arrivals := harrivals
    known := by rw [h.known, h'.known, hc.any fun c d hcd => hcd.coversNew]
    ignored := by rw [h.ignored, h'.ignored, hc.isEmpty]
    hooked := h.hooked.trans h'.hooked.symm
    filters := fun u => by
      rw [h.filters, h'.filters, ite_congr (propext (hu u)) (fun _ => rfl) fun _ => rfl]
    localOnly := fun u => by
      rw [h.localOnly, h'.localOnly, ite_congr (propext (hu u)) (fun _ => rfl) fun _ => rfl]
    lastIdent := h.lastIdent.trans h'.lastIdent.symm
    active := by rw [h.active, h'.active, hc.isEmpty, hhas]
    reach := by rw [h.reach, h'.reach, hc.isEmpty, hhas] }

end Gathered

end Observed

namespace Dispatch

open Observed

def carriersOf : Value → List Value
  | .scope carriers => carriers
  | _ => []

/-- An entry that hosts do not refuse. -/
def Accepted : Value → Prop
  | .scope carriers => ∀ v ∈ carriers, (Carrier.read? v).isSome
  | entry => (unitName? entry).isSome

/-- Plans with the same set of carriers and the same set of texts. -/
structure SameContent (plan plan' : List Value) : Prop where
  carriers : Value.SameSet (plan.flatMap carriersOf) (plan'.flatMap carriersOf)
  texts : ∀ s, s ∈ plan.filterMap Value.asText? ↔ s ∈ plan'.filterMap Value.asText?

variable (o : Options) (target : Target)

def registrations : Value → List Registration
  | .scope carriers =>
    (carriers.filterMap Carrier.read?).map fun c => .attach c o.flags target
  | entry => entry.asText?.toList.map fun u => .filter u o.matchSpec true

theorem demands_accepted {entry : Value} (h : Accepted entry) :
    demands o.flags o.matchSpec target entry = (registrations o target entry).map .ok := by
  have text : ∀ v : Value, (unitName? v).isSome → ∃ s, v.asText? = some s ∧
      (do return .filter (← unitOfValue v) o.matchSpec true : Except Fault Registration) =
        .ok (.filter s o.matchSpec true) := by
    intro v hv
    obtain ⟨s, hs⟩ := Option.isSome_iff_exists.1 hv
    refine ⟨s, (Option.filter_eq_some_iff.1 hs).1, ?_⟩
    rw [unitOfValue, hs]
    rfl
  cases entry with
  | scope carriers =>
    replace h : ∀ v ∈ carriers, (Carrier.read? v).isSome := h
    rw [demands, registrations, List.map_map]
    induction carriers with
    | nil => rfl
    | cons v vs ih =>
      obtain ⟨c, hc⟩ := Option.isSome_iff_exists.1 (h v List.mem_cons_self)
      rw [List.map_cons, ih fun v hv => h v (List.mem_cons_of_mem _ hv), List.filterMap_cons_some hc,
        List.map_cons, demandOf, Carrier.ofValue, hc]
      rfl
  | text unit | selector sel =>
    obtain ⟨s, hs, hd⟩ := text _ h
    cases hs
    exact congrArg (fun d => [d]) hd
  | _ => cases h

theorem demands_all_accepted {plan : List Value} (h : ∀ e ∈ plan, Accepted e) :
    plan.flatMap (demands o.flags o.matchSpec target) =
      (plan.flatMap (registrations o target)).map .ok := by
  induction plan with
  | nil => rfl
  | cons entry plan ih =>
    rw [List.flatMap_cons, List.flatMap_cons, List.map_append,
      demands_accepted o target (h entry List.mem_cons_self),
      ih fun e he => h e (List.mem_cons_of_mem _ he)]

theorem isFor_registrations {entry : Value} {x : Registration}
    (hx : x ∈ registrations o target entry) : x.IsFor ⟨o.flags, target⟩ o.matchSpec true := by
  cases entry with
  | scope carriers =>
    obtain ⟨c, -, rfl⟩ := List.mem_map.1 hx
    rfl
  | _ =>
    obtain ⟨u, -, rfl⟩ := List.mem_map.1 hx
    exact ⟨rfl, rfl⟩

theorem carriers_registrations (plan : List Value) :
    (plan.flatMap (registrations o target)).filterMap (·.carrier?) =
      (plan.flatMap carriersOf).filterMap Carrier.read? := by
  induction plan with
  | nil => rfl
  | cons entry plan ih =>
    rw [List.flatMap_cons, List.flatMap_cons, List.filterMap_append, List.filterMap_append, ih]
    congr 1
    cases entry with
    | scope carriers =>
      rw [registrations, List.filterMap_map, carriersOf]
      exact List.filterMap_some
    | _ =>
      simp [registrations, carriersOf, Registration.carrier?, List.filterMap_map]

theorem units_registrations (plan : List Value) :
    (plan.flatMap (registrations o target)).filterMap (·.unit?) = plan.filterMap Value.asText? := by
  induction plan with
  | nil => rfl
  | cons entry plan ih =>
    rw [List.flatMap_cons, List.filterMap_append, ih]
    cases entry with
    | scope carriers =>
      have hn : (registrations o target (.scope carriers)).filterMap (·.unit?) = [] := by
        simp [registrations, Registration.unit?]
      rw [hn]
      rfl
    | _ => rfl

theorem SameContent.registered {plan plan' : List Value} (h : SameContent plan plan')
    (hp : ∀ e ∈ plan, Accepted e) (hp' : ∀ e ∈ plan', Accepted e) :
    Carrier.SameSet ((plan.flatMap (registrations o target)).filterMap (·.carrier?))
      ((plan'.flatMap (registrations o target)).filterMap (·.carrier?)) := by
  rw [carriers_registrations, carriers_registrations]
  have read : ∀ plan : List Value, (∀ e ∈ plan, Accepted e) →
      ∀ v ∈ plan.flatMap carriersOf, ∃ c, Carrier.read? v = some c := by
    intro plan hp v hv
    obtain ⟨e, he, hv⟩ := List.mem_flatMap.1 hv
    cases e with
    | scope carriers => exact Option.isSome_iff_exists.1 (hp _ he v hv)
    | _ => cases hv
  constructor
  · intro c hc
    obtain ⟨v, hv, hvc⟩ := List.mem_filterMap.1 hc
    obtain ⟨u, hu, hs⟩ := h.carriers.1 v hv
    obtain ⟨d, hd⟩ := read plan' hp' u hu
    exact ⟨d, List.mem_filterMap.2 ⟨u, hu, hd⟩, Carrier.sameAs_of_same hvc hd hs⟩
  · intro d hd
    obtain ⟨u, hu, hud⟩ := List.mem_filterMap.1 hd
    obtain ⟨v, hv, hs⟩ := h.carriers.2 u hu
    obtain ⟨c, hc⟩ := read plan hp v hv
    exact ⟨c, List.mem_filterMap.2 ⟨v, hv, hc⟩, Carrier.sameAs_of_same hud hc hs⟩

theorem apply_gathered {plan : List Value} (hp : ∀ e ∈ plan, Accepted e) {w : World}
    {host : Observed} (h : ((apply o target plan).on (⟨w, host⟩ : Stage Observed)).1 = .ok ()) :
    ((apply o target plan).on (⟨w, host⟩ : Stage Observed)).2.host =
      (plan.flatMap (registrations o target)).foldl enter host := by
  obtain ⟨r, done, v, ms, -, hds, hon, -⟩ :=
    apply_lockstep enter_takes enter_takes o target plan w w.notices host host
  rw [hon] at h ⊢
  have hdone := hds h
  rw [demands_all_accepted o target hp] at hdone
  rw [(List.map_inj_right fun _ _ => Except.ok.inj).1 hdone]

theorem apply_accepted {plan : List Value} (hp : ∀ e ∈ plan, Accepted e) {s : Stage Observed}
    (hs : OrdinaryBodies s.world.modules) : ((apply o target plan).on s).1 = .ok () ∧
      ((apply o target plan).on s).2.world.modules = s.world.modules := by
  obtain ⟨done, r, w, hon, hgranted, hm⟩ := apply_grants enter_takes o target plan s hs
  rw [demands_all_accepted o target hp] at hgranted
  rw [hon]
  exact ⟨(hgranted.unique (Granted.of_ok _)).2, hm⟩

/-- Two plans in which nothing is refused, with the same carriers and the same texts in whatever
order, grouping and number, leave a host in the same state; and so does a plan that is applied twice.
If no module ends the program they are applied up to their ends. -/
theorem apply_unordered {plan plan' : List Value} (hp : ∀ e ∈ plan, Accepted e)
    (hp' : ∀ e ∈ plan', Accepted e) (h : SameContent plan plan') (w : World) (host : Observed) :
    let one := (apply o target plan).on (⟨w, host⟩ : Stage Observed)
    let other := (apply o target plan').on (⟨w, host⟩ : Stage Observed)
    let again := (apply o target plan).on one.2
    (OrdinaryBodies w.modules → one.1 = .ok () ∧ other.1 = .ok () ∧ again.1 = .ok ()) ∧
      (one.1 = .ok () → other.1 = .ok () → Alike one.2.host other.2.host) ∧
      (one.1 = .ok () → again.1 = .ok () → Alike one.2.host again.2.host) := by
  intro one other again
  have gathered : ∀ plan : List Value, Gathered ⟨o.flags, target⟩ o.matchSpec true _ _ host
      ((plan.flatMap (registrations o target)).foldl enter host) := fun plan =>
    (Gathered.start _ _ _ host).run fun x hx => by
      obtain ⟨e, -, hx⟩ := List.mem_flatMap.1 hx
      exact isFor_registrations o target hx
  refine ⟨fun hw => ?_, fun hone hother => ?_, fun hone hagain => ?_⟩
  · obtain ⟨hone, hm⟩ := apply_accepted o target hp (s := ⟨w, host⟩) hw
    refine ⟨hone, (apply_accepted o target hp' (s := ⟨w, host⟩) hw).1, ?_⟩
    exact (apply_accepted o target hp (s := one.2) (hm.symm ▸ hw)).1
  · rw [apply_gathered o target hp hone, apply_gathered o target hp' hother]
    refine (gathered plan).alike (gathered plan') (h.registered o target hp hp') fun u => ?_
    rw [List.nil_append, List.nil_append, units_registrations, units_registrations]
    exact h.texts u
  · have htwice := gathered (plan ++ plan)
    rw [List.flatMap_append, List.foldl_append] at htwice
    rw [show again.2.host = _ from apply_gathered o target hp hagain,
      apply_gathered o target hp hone]
    exact (gathered plan).alike htwice (.of_mem fun c => by simp) fun u => by simp

def yard : World where
  modules := [{ name := "m", isPackage := false, body := none, attributes := [] }]
  bundles := .declared []

def crew : Observed where
  threads := { all := [
    { name := "main", assigned := 1, state := .alive },
    { name := "w", assigned := 5, state := .alive }] }

def onceNamed : List Value := [.scope [.selector .all, .int 1], .text "m"]

def oftenNamed : List Value :=
  [.text "m", .scope [.int 1], .scope [.int 1, .selector .all], .text "m"]

theorem apply_unordered_named :
    let one := (apply { poolId := .null } { id := 0 } onceNamed).on (⟨yard, crew⟩ : Stage Observed)
    let other :=
      (apply { poolId := .null } { id := 0 } oftenNamed).on (⟨yard, crew⟩ : Stage Observed)
    one.1 = .ok () ∧ other.1 = .ok () ∧ Alike one.2.host other.2.host ∧
      one.2.host.host.traced.keys = [1] := by
  have accepted : ∀ e ∈ onceNamed, Accepted e := by
    simp [onceNamed, Accepted, Carrier.read?, unitName?, Value.asText?]
  have accepted' : ∀ e ∈ oftenNamed, Accepted e := by
    simp [oftenNamed, Accepted, Carrier.read?, unitName?, Value.asText?]
  have content : SameContent onceNamed oftenNamed := by
    constructor
    · simp [onceNamed, oftenNamed, Value.SameSet, carriersOf, Value.same, Value.isSameNan,
        Value.equal, Value.equalAtom, Value.asInt?, Value.asText?]
    · simp [onceNamed, oftenNamed, Value.asText?]
  obtain ⟨hok, halike, -⟩ :=
    apply_unordered { poolId := .null } { id := 0 } accepted accepted' content yard crew
  obtain ⟨hone, hother, -⟩ := hok (by simp [yard, OrdinaryBodies])
  refine ⟨hone, hother, halike hone hother, ?_⟩
  rw [apply_gathered _ _ accepted hone]
  rfl

end Dispatch

end ThreadTrace
