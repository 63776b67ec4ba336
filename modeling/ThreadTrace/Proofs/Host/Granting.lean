import ThreadTrace.Profile.Attach
import ThreadTrace.Host.Recording
import ThreadTrace.Proofs.Sink.Making
import ThreadTrace.Proofs.World.Mild

namespace ThreadTrace

/-- What options select, of flags and of matches: the base flags in any case, and each of the others
if it is asked for. -/
structure Options.Selects (o : Options) (f : Flags) (spec : MatchSpec) : Prop where
  base : f.call ∧ f.procs ∧ f.timestamp ∧ f.arity ∧ f.returnTo ∧ f.setOnSpawn
  running : f.running = o.running
  send : f.send = o.send
  dump : spec = .processDump ↔ o.processDump

theorem Options.Selects.unique {o : Options} {f g : Flags} {spec spec' : MatchSpec}
    (h : o.Selects f spec) (h' : o.Selects g spec') : f = g ∧ spec = spec' := by
  obtain ⟨⟨hc, hp, ht, ha, hr, hs⟩, hrunning, hsend, hdump⟩ := h
  obtain ⟨⟨hc', hp', ht', ha', hr', hs'⟩, hrunning', hsend', hdump'⟩ := h'
  refine ⟨?_, ?_⟩
  · obtain ⟨call, procs, timestamp, arity, returnTo, setOnSpawn, running, send⟩ := f
    obtain ⟨call', procs', timestamp', arity', returnTo', setOnSpawn', running', send'⟩ := g
    simp_all
  · cases spec <;> cases spec' <;> simp_all

theorem Options.flags_selects (o : Options) : o.Selects o.flags o.matchSpec where
  base := ⟨rfl, rfl, rfl, rfl, rfl, rfl⟩
  running := rfl
  send := rfl
  dump := by cases h : o.processDump <;> simp [matchSpec, h]

/-- Of a list of demands those are granted that stand before the first one that is refused. -/
inductive Granted {α : Type} : List (Except Fault α) → List α → Except Fault Unit → Prop
  | all : Granted [] [] (.ok ())
  | next (a : α) {ds as r} (h : Granted ds as r) : Granted (.ok a :: ds) (a :: as) r
  | refused (f : Fault) (ds : List (Except Fault α)) : Granted (.error f :: ds) [] (.error f)

namespace Granted

variable {α : Type} {ds es : List (Except Fault α)} {as bs : List α} {q r : Except Fault Unit}
  {f : Fault}

theorem unique (h : Granted ds as r) (h' : Granted ds bs q) : as = bs ∧ r = q := by
  induction h generalizing bs with
  | all =>
    cases h'
    exact ⟨rfl, rfl⟩
  | next a h ih =>
    cases h' with
    | next a h' =>
      obtain ⟨rfl, rfl⟩ := ih h'
      exact ⟨rfl, rfl⟩
  | refused f ds =>
    cases h'
    exact ⟨rfl, rfl⟩

theorem blames {P : Fault → Prop} (h : Granted ds as r) (hd : ∀ d ∈ ds, Blames P d) : Blames P r := by
  induction h with
  | all => exact Blames.ok _
  | next a h ih => exact ih fun d hmem => hd d (List.mem_cons_of_mem _ hmem)
  | refused f ds => exact Blames.error (hd _ List.mem_cons_self f rfl)

theorem ok_iff (h : Granted ds as r) : r = .ok () ↔ ds.all Except.isOk = true := by
  induction h with
  | all => exact ⟨fun _ => rfl, fun _ => rfl⟩
  | next a h ih => exact ih.trans (by simp [Except.isOk, Except.toBool])
  | refused f ds => simp [Except.isOk, Except.toBool]

theorem stop (h : Granted ds as (.error f)) (es : List (Except Fault α)) :
    Granted (ds ++ es) as (.error f) := by
  generalize hr : (Except.error f : Except Fault Unit) = r at h ⊢
  induction h with
  | all => cases hr
  | next a h ih => exact .next a (ih hr)
  | refused f ds => exact .refused f (ds ++ es)

theorem append (h : Granted ds as (.ok ())) (h' : Granted es bs r) :
    Granted (ds ++ es) (as ++ bs) r := by
  generalize hq : (Except.ok () : Except Fault Unit) = q at h
  induction h with
  | all => exact h'
  | next a h ih => exact .next a (ih hq)
  | refused f ds => cases hq

end Granted

/-- A host that refuses what is no request, and takes all else by a step of its own. -/
structure Takes {H : Type} [TraceHost H] (step : H → Registration → H) : Prop where
  attach : ∀ h v flags target, (TraceHost.attach h v flags target).map (·.1) =
    (Carrier.ofValue v).map fun c => step h (.attach c flags target)
  install : ∀ h v spec localOnly, (TraceHost.install h v spec localOnly).map (·.1) =
    (unitOfValue v).map fun unit => step h (.filter unit spec localOnly)

namespace Recording

def record (r : Recording) (x : Registration) : Recording := ⟨r.calls ++ [x]⟩

theorem record_takes : Takes record where
  attach r v flags target := by cases hv : Carrier.ofValue v <;> simp [TraceHost.attach, hv] <;> rfl
  install r v spec localOnly := by cases hv : unitOfValue v <;> simp [TraceHost.install, hv] <;> rfl

theorem record_all (xs : List Registration) (r : Recording) :
    xs.foldl record r = ⟨r.calls ++ xs⟩ := by
  induction xs generalizing r with
  | nil => simp
  | cons x xs ih => simp [ih, record]

end Recording

namespace Observed

def enter (o : Observed) : Registration → Observed
  | .attach c flags target => (o.attach c ⟨flags, target⟩).1
  | .filter unit spec localOnly => { o with host := o.host.install unit spec localOnly }

theorem enter_takes : Takes enter where
  attach o v flags target := by cases hv : Carrier.ofValue v <;> simp [TraceHost.attach, hv] <;> rfl
  install o v spec localOnly := by cases hv : unitOfValue v <;> simp [TraceHost.install, hv] <;> rfl

end Observed

namespace Dispatch

open World

variable {H : Type} {step : H → Registration → H}

def demandOf (flags : Flags) (target : Target) (carrier : Value) : Except Fault Registration := do
  return .attach (← Carrier.ofValue carrier) flags target

def demands (flags : Flags) (spec : MatchSpec) (target : Target) :
    Value → List (Except Fault Registration)
  | .scope carriers => carriers.map (demandOf flags target)
  | entry =>
    match entry.asText? with
    | some _ => [do return .filter (← unitOfValue entry) spec true]
    | none => [do .error (.badPattern (← entry.shown))]

/-- The faults by which something is refused that is no request. -/
inductive Rejection : Fault → Prop
  | carrier (shown : String) : Rejection (.badCarrier shown)
  | pattern (shown : String) : Rejection (.badPattern shown)
  | textless (f : Fault) (hf : f.isTextless = true) : Rejection f

theorem refused_blames {α : Type} (v : Value) {fault : String → Fault}
    (hf : ∀ shown, Rejection (fault shown)) :
    Blames Rejection (do .error (fault (← v.shown)) : Except Fault α) := by
  exact (v.shown_blames.mono .textless).bind fun shown => Blames.error (hf shown)

theorem demands_blames (flags : Flags) (spec : MatchSpec) (target : Target) (entry : Value) :
    ∀ d ∈ demands flags spec target entry, Blames Rejection d := by
  have hcarrier : ∀ v, Blames Rejection (demandOf flags target v) := by
    intro v
    refine Blames.bind ?_ fun c => Blames.ok _
    rw [Carrier.ofValue]
    split
    · exact Blames.ok _
    · exact refused_blames v .carrier
  have hunit : ∀ v, Blames Rejection
      (do return .filter (← unitOfValue v) spec true : Except Fault Registration) := by
    intro v
    refine Blames.bind ?_ fun unit => Blames.ok _
    rw [unitOfValue]
    split
    · exact Blames.ok _
    · exact refused_blames v .pattern
  intro d hd
  cases entry with
  | scope carriers =>
    obtain ⟨v, -, rfl⟩ := List.mem_map.1 hd
    exact hcarrier v
  | text unit | selector sel =>
    obtain rfl := List.mem_singleton.1 hd
    exact hunit _
  | _ =>
    obtain rfl := List.mem_singleton.1 hd
    exact refused_blames _ .pattern

/-- An activity in which a host takes what is granted of a list of demands. -/
def Grants (step : H → Registration → H) (act : Act (Stage H) Unit)
    (ds : List (Except Fault Registration)) : Prop :=
  ∀ s : Stage H, OrdinaryBodies s.world.modules →
    ∃ done r w, act.on s = (r, ⟨w, done.foldl step s.host⟩) ∧ Granted ds done r ∧
      w.modules = s.world.modules

namespace Grants

variable {act act' : Act (Stage H) Unit} {ds es : List (Except Fault Registration)}

theorem done : Grants step (pure ()) [] :=
  fun s _ => ⟨[], .ok (), s.world, rfl, .all, rfl⟩

theorem throw {f : Fault} : Grants step (throw f) [.error f] :=
  fun s _ => ⟨[], .error f, s.world, rfl, .refused f [], rfl⟩

theorem seq (h : Grants step act ds) (h' : Grants step act' es) :
    Grants step (act >>= fun _ => act') (ds ++ es) := by
  intro s hs
  obtain ⟨first, r, w, hon, hg, hm⟩ := h s hs
  rw [Act.on_bind, hon]
  cases r with
  | error f => exact ⟨first, .error f, w, rfl, hg.stop es, hm⟩
  | ok u =>
    obtain ⟨rest, r, w', hon', hg', hm'⟩ :=
      h' ⟨w, first.foldl step s.host⟩ (hm.symm ▸ hs : OrdinaryBodies w.modules)
    refine ⟨first ++ rest, r, w', ?_, hg.append hg', hm'.trans hm⟩
    rw [List.foldl_append]
    exact hon'

theorem request {request : H → Except Fault (H × List Notice)} {d : Except Fault Registration}
    (h : ∀ host, (request host).map (·.1) = d.map (step host)) :
    Grants step (register request) [d] := by
  intro s hs
  have hd := h s.host
  simp only [register, Act.on_bind, Act.on_get, Act.on_result]
  cases hr : request s.host with
  | error f =>
    rw [hr] at hd
    cases d with
    | ok x => cases hd
    | error g =>
      obtain rfl := Except.error.inj hd
      exact ⟨[], .error f, s.world, rfl, .refused f [], rfl⟩
  | ok answer =>
    rw [hr] at hd
    cases d with
    | error g => cases hd
    | ok x =>
      obtain ⟨host, notices⟩ := answer
      obtain rfl : host = step s.host x := Except.ok.inj hd
      exact ⟨[x], .ok (), _, rfl, .next x .all, rfl⟩

theorem loading (unit : String) (h : Grants step act ds) :
    Grants step (do let _ ← inWorld (ensureLoaded unit); act) ds := by
  intro s hs
  obtain ⟨loaded, w, hon, hm, -⟩ := ensureLoaded_on unit hs
  obtain ⟨done, r, w', hon', hg, hm'⟩ := h ⟨w, s.host⟩ (hm.symm ▸ hs : OrdinaryBodies w.modules)
  refine ⟨done, r, w', ?_, hg, hm'.trans hm⟩
  rw [Act.on_bind]
  simp only [inWorld, Act.within, Act.on_of, hon]
  exact hon'

end Grants

theorem refusal_grants (entry : Value) :
    Grants step (do throw (.badPattern (← Act.result entry.shown)))
      [do .error (.badPattern (← entry.shown))] := by
  cases entry.shown with
  | error f => exact .throw
  | ok shown => exact .throw

section Apply

variable [TraceHost H] (h : Takes step) (o : Options) (target : Target)
include h

theorem attachAll_grants (carriers : List Value) :
    Grants step (attachAll o.flags target carriers) (carriers.map (demandOf o.flags target)) := by
  induction carriers with
  | nil => exact .done
  | cons c cs ih =>
    have hc : Grants step (register fun host => TraceHost.attach host c o.flags target)
        [demandOf o.flags target c] := by
      apply Grants.request
      intro host
      rw [h.attach, demandOf]
      cases Carrier.ofValue c <;> rfl
    exact hc.seq ih

theorem install_grants (entry : Value) :
    Grants step (register fun host => TraceHost.install host entry o.matchSpec true)
      [do return .filter (← unitOfValue entry) o.matchSpec true] := by
  apply Grants.request
  intro host
  rw [h.install]
  cases unitOfValue entry <;> rfl

theorem applyEntry_grants (entry : Value) :
    Grants step (applyEntry o target entry) (demands o.flags o.matchSpec target entry) := by
  cases entry with
  | scope carriers => exact attachAll_grants h o target carriers
  | text unit => exact (install_grants h o (.text unit)).loading unit
  | selector sel => exact (install_grants h o (.selector sel)).loading sel.text
  | _ => exact refusal_grants _

/-- A plan is applied entry by entry, from left to right. -/
theorem apply_grants (plan : List Value) :
    Grants step (apply o target plan) (plan.flatMap (demands o.flags o.matchSpec target)) := by
  induction plan with
  | nil => exact .done
  | cons entry plan ih => exact (applyEntry_grants h o target entry).seq ih

theorem apply_blames (plan : List Value) {s : Stage H} (hs : OrdinaryBodies s.world.modules) :
    Blames Rejection ((apply o target plan).on s).1 := by
  obtain ⟨done, r, w, hon, hgranted, -⟩ := apply_grants h o target plan s hs
  rw [hon]
  refine hgranted.blames fun d hd => ?_
  obtain ⟨entry, -, hd⟩ := List.mem_flatMap.1 hd
  exact demands_blames o.flags o.matchSpec target entry d hd

end Apply

def loadAll : List String → Act World Unit
  | [] => return
  | unit :: units => do
    let _ ← ensureLoaded unit
    loadAll units

theorem loadAll_append (front back : List String) (w : World) :
    (loadAll (front ++ back)).on w = (loadAll front >>= fun _ => loadAll back).on w := by
  induction front generalizing w with
  | nil => rfl
  | cons unit front ih =>
    simp only [List.cons_append, loadAll, Act.on_bind]
    cases (ensureLoaded unit).on w with
    | mk r v =>
      cases r with
      | error f => rfl
      | ok _ => simpa only [Act.on_bind] using ih v

theorem loadAll_on (units : List String) {w : World} (hw : OrdinaryBodies w.modules) :
    ∃ v, (loadAll units).on w = (.ok (), v) ∧ v.calls = w.calls := by
  induction units generalizing w with
  | nil => exact ⟨w, rfl, rfl⟩
  | cons unit units ih =>
    obtain ⟨loaded, u, hon, hm, hcalls⟩ := ensureLoaded_on unit hw
    obtain ⟨v, hv, hrest⟩ := ih (hm.symm ▸ hw : OrdinaryBodies u.modules)
    refine ⟨v, ?_, hrest.trans hcalls⟩
    rw [loadAll, Act.on_bind, hon]
    exact hv

/-- The units of a plan up to the first entry of which something is refused, that of this entry
included. -/
def reached (asked : Value → List (Except Fault Registration)) : List Value → List String
  | [] => []
  | entry :: plan =>
    entry.asText?.toList ++ if (asked entry).all Except.isOk then reached asked plan else []

structure Silent (H : Type) [TraceHost H] : Prop where
  attach : ∀ (h : H) v flags target a, TraceHost.attach h v flags target = .ok a → a.2 = []
  install : ∀ (h : H) v spec localOnly a, TraceHost.install h v spec localOnly = .ok a → a.2 = []

theorem recording_silent : Silent Recording where
  attach h v flags target a ha := by
    simp only [TraceHost.attach] at ha
    cases hv : Carrier.ofValue v <;> rw [hv] at ha <;> cases ha
    rfl
  install h v spec localOnly a ha := by
    simp only [TraceHost.install] at ha
    cases hv : unitOfValue v <;> rw [hv] at ha <;> cases ha
    rfl

theorem register_world {request : H → Except Fault (H × List Notice)}
    (h : ∀ host a, request host = .ok a → a.2 = []) (s : Stage H) :
    ((register request).on s).2.world = s.world := by
  simp only [register, Act.on_bind, Act.on_get, Act.on_result]
  cases hr : request s.host with
  | error f => rfl
  | ok a =>
    simp only [Act.on_set, h s.host a hr, List.append_nil]

section Loading

variable [TraceHost H] (hs : Silent H) (o : Options) (target : Target)
include hs

theorem attachAll_world (flags : Flags) (carriers : List Value) (s : Stage H) :
    ((attachAll flags target carriers).on s).2.world = s.world := by
  induction carriers generalizing s with
  | nil => rfl
  | cons c cs ih =>
    have hc := register_world (fun host => hs.attach host c flags target) s
    rw [attachAll, Act.on_bind]
    cases hr : (register fun host => TraceHost.attach host c flags target).on s with
    | mk r u =>
      rw [hr] at hc
      cases r with
      | error f => exact hc
      | ok _ => exact (ih u).trans hc

theorem install_world (entry : Value) (unit : String) {s : Stage H}
    (hw : OrdinaryBodies s.world.modules) :
    (loadAll [unit]).on s.world = (.ok (), ((do
      let _ ← inWorld (ensureLoaded unit)
      register fun host => TraceHost.install host entry o.matchSpec true :
        Act (Stage H) Unit).on s).2.world) := by
  obtain ⟨loaded, w, hon, -⟩ := ensureLoaded_on unit hw
  have hi := register_world (fun host => hs.install host entry o.matchSpec true) ⟨w, s.host⟩
  simp only [loadAll, inWorld, Act.on_bind, Act.within, Act.on_of, hon, Act.on_pure]
  rw [hi]

theorem applyEntry_world (entry : Value) {s : Stage H} (hw : OrdinaryBodies s.world.modules) :
    (loadAll entry.asText?.toList).on s.world =
      (.ok (), ((applyEntry o target entry).on s).2.world) := by
  have refused : ((do throw (.badPattern (← Act.result entry.shown)) :
      Act (Stage H) Unit).on s).2.world = s.world := by
    cases entry.shown <;> rfl
  cases entry with
  | scope carriers => exact Prod.ext rfl (attachAll_world hs target o.flags carriers s).symm
  | text unit => exact install_world hs o (.text unit) unit hw
  | selector sel => exact install_world hs o (.selector sel) sel.text hw
  | _ => exact Prod.ext rfl refused.symm

/-- Under a host that has nothing to report, applying a plan does to the world what importing the
units does that it gets to. -/
theorem apply_world (ht : Takes step) (plan : List Value) {s : Stage H}
    (hw : OrdinaryBodies s.world.modules) :
    (loadAll (reached (demands o.flags o.matchSpec target) plan)).on s.world =
      (.ok (), ((apply o target plan).on s).2.world) := by
  induction plan generalizing s with
  | nil => rfl
  | cons entry plan ih =>
    obtain ⟨done, r, w, hon, hgranted, hm⟩ := applyEntry_grants ht o target entry s hw
    have he := applyEntry_world hs o target entry hw
    rw [hon] at he
    have hok := hgranted.ok_iff
    rw [reached, loadAll_append, Act.on_bind, he, apply, Act.on_bind, hon]
    cases r with
    | error f =>
      -- a refused entry is the last one that is reached
      rw [if_neg fun ha => nomatch hok.2 ha]
      rfl
    | ok _ =>
      rw [if_pos (hok.1 rfl)]
      exact ih (s := ⟨w, done.foldl step s.host⟩) (hm.symm ▸ hw : OrdinaryBodies w.modules)

end Loading

end Dispatch

end ThreadTrace
