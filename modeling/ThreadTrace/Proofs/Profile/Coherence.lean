import ThreadTrace.Proofs.Host.Rehearsal
import ThreadTrace.Proofs.Profile.Keeping
import ThreadTrace.Proofs.Profile.Memory

namespace ThreadTrace

namespace Table

variable {κ α : Type} [DecidableEq κ] {t : Table κ α} {k : κ}

theorem keys_put (t : Table κ α) (k : κ) (a : α) :
    (t.put k a).keys = if k ∈ t.keys then t.keys else t.keys ++ [k] := by
  have hk : t.has k = true ↔ k ∈ t.keys := by simp [has, keys]
  by_cases h : t.has k = true
  · rw [put, if_pos h, if_pos (hk.1 h), keys, keys, List.map_map]
    refine List.map_congr_left fun x _ => ?_
    by_cases hx : x.1 = k <;> simp [hx]
  · rw [put, if_neg h, if_neg (mt hk.2 h), keys, List.map_append]
    rfl

theorem mem_keys_put {a : α} {j : κ} (hj : j ∈ (t.put k a).keys) : j = k ∨ j ∈ t.keys := by
  obtain ⟨x, hx, rfl⟩ := List.mem_map.1 hj
  exact (mem_put hx).imp (congrArg Prod.fst) List.mem_map_of_mem

end Table

namespace ProfileHost

/-- How tables and flags fit together. -/
structure Coherent (h : ProfileHost) : Prop where
  installed_of_active : h.active = true → h.installed = true
  installed_of_registered : h.traced ≠ [] ∨ h.pending ≠ [] ∨ h.arrivals ≠ none → h.installed = true
  active_of_traced : h.traced ≠ [] ∨ h.arrivals ≠ none → h.active = true
  untraced : ∀ n ∈ h.ignored, h.traced.get? n = none
  met : ∀ n ∈ h.ignored, n ∈ h.hooked
  units : h.filters.keys = h.localOnly.keys
  named : ∀ u ∈ h.filters.keys, u ≠ ""

variable {h : ProfileHost}

theorem registered_iff :
    h.hasAttachments = true ↔ h.traced ≠ [] ∨ h.pending ≠ [] ∨ h.arrivals ≠ none := by
  simp [hasAttachments, Option.isSome_iff_ne_none, or_assoc]

theorem hasAttachments_forget {t : Target} (ha : (h.forget t).hasAttachments = true) :
    h.hasAttachments = true := by
  rw [registered_iff] at ha ⊢
  refine ha.imp (mt ?_) (Or.imp (mt ?_) (mt ?_))
  all_goals
    intro he
    simp [forget, he]

theorem Coherent.fresh : Coherent {} where
  installed_of_active ha := by cases ha
  installed_of_registered hr := by simp at hr
  active_of_traced hr := by simp at hr
  untraced := by simp
  met := by simp
  units := rfl
  named := by simp [Table.keys]

theorem Coherent.of_active (ha : h.active = h.hasAttachments)
    (hi : h.active = true → h.installed = true) (hu : ∀ n ∈ h.ignored, h.traced.get? n = none)
    (hm : ∀ n ∈ h.ignored, n ∈ h.hooked) (hf : h.filters.keys = h.localOnly.keys)
    (hn : ∀ u ∈ h.filters.keys, u ≠ "") : h.Coherent where
  installed_of_active := hi
  installed_of_registered hr := hi (ha.trans (registered_iff.2 hr))
  active_of_traced hr := ha.trans (registered_iff.2 (hr.imp_right .inr))
  untraced := hu
  met := hm
  units := hf
  named := hn

theorem Coherent.forget (p : h.Coherent) (t : Target) : (h.forget t).Coherent := by
  refine .of_active rfl (fun ha => ?_) (fun n hn => ?_) p.met p.units p.named
  · exact p.installed_of_registered (registered_iff.1 (hasAttachments_forget ha))
  · exact Table.get?_filter_eq_none (p.untraced n hn) _

theorem Coherent.install (p : h.Coherent) {unit : String} (hu : unit ≠ "") (spec : MatchSpec)
    (localOnly : Bool) : (h.install unit spec localOnly).Coherent where
  installed_of_active := p.installed_of_active
  installed_of_registered := p.installed_of_registered
  active_of_traced := p.active_of_traced
  untraced := p.untraced
  met := p.met
  units := by simp only [ProfileHost.install, Table.keys_put, p.units]
  named u hm := by
    obtain rfl | hm := Table.mem_keys_put hm
    · exact hu
    · exact p.named u hm

theorem Coherent.withPending (p : h.Coherent) (hi : h.installed = true)
    (pending : Table String Attachment) : ({ h with pending } : ProfileHost).Coherent :=
  { p with installed_of_registered := fun _ => hi }

theorem Coherent.sorted (p : h.Coherent) (ha : h.active = true) {traced : Table Nat Attachment}
    (pending : Table String Attachment) {ignored hooked : List Nat}
    (hu : ∀ n ∈ ignored, traced.get? n = none) (hm : ∀ n ∈ ignored, n ∈ hooked) :
    ({ h with traced, pending, ignored, hooked } : ProfileHost).Coherent where
  installed_of_active := p.installed_of_active
  installed_of_registered _ := p.installed_of_active ha
  active_of_traced _ := ha
  untraced := hu
  met := hm
  units := p.units
  named := p.named

end ProfileHost

namespace Hook

open ProfileHost

variable {isSink : String → Bool} {me : Caller} {what : Signal} {f : Frame} {below : List Frame}
  {h k : ProfileHost} {ds : List Effect} {es : List Entry} {r : Except Fault Unit}

theorem coherent_settle (p : h.Coherent) (ha : h.active = true) : (settle me h).2.Coherent := by
  unfold settle
  cases ht : h.traced.get? me.ident with
  | some a => exact p
  | none =>
    by_cases hm : h.ignored.contains me.ident = true
    · simp only [if_pos hm]
      exact p
    · have hm' : me.ident ∉ h.ignored := by simpa using hm
      have hooked : ∀ n ∈ h.ignored, n ∈ insertNew me.ident h.hooked :=
        fun n hn => mem_insertNew.2 (.inl (p.met n hn))
      simp only [if_neg hm]
      cases arriving h me with
      | some a =>
        refine p.sorted ha _ (fun n hn => ?_) hooked
        have hne : n ≠ me.ident := fun he => hm' (he ▸ hn)
        exact (Table.get?_put ..).trans ((if_neg hne).trans (p.untraced n hn))
      | none =>
        refine p.sorted ha _ (fun n hn => ?_) (fun n hn => ?_)
        · obtain hn | rfl := mem_insertNew.1 hn
          · exact p.untraced n hn
          · exact ht
        · obtain hn | rfl := mem_insertNew.1 hn
          · exact hooked n hn
          · exact mem_insertNew.2 (.inr rfl)

theorem coherent_planEnd (p : h.Coherent) (ha : h.active = true) : (planEnd me h).1.Coherent := by
  have kept : ∀ {n}, n ∈ remove me.ident h.ignored → n ∈ h.ignored ∧ n ≠ me.ident := by
    intro n hn
    simpa [remove] using hn
  have hooked : ∀ n ∈ remove me.ident h.ignored, n ∈ remove me.ident h.hooked := by
    intro n hn
    exact List.mem_filter.2 ⟨p.met n (kept hn).1, by simpa using (kept hn).2⟩
  unfold planEnd
  cases h.traced.get? me.ident with
  | none => exact p.sorted ha _ (fun n hn => p.untraced n (kept hn).1) hooked
  | some a =>
    refine p.sorted ha _ (fun n hn => ?_) hooked
    rw [Table.get?_erase, if_neg (kept hn).2]
    exact p.untraced n (kept hn).1

theorem coherent_plan (p : h.Coherent) : (plan isSink me what f below h).1.Coherent := by
  unfold plan
  split
  · rename_i ha
    cases what with
    | other => exact p
    | call =>
      obtain ⟨last, he⟩ := planCall_host isSink me f (f :: below) h
      have hs : (settle me h).2.Coherent := coherent_settle p ha
      simp only [he]
      exact { hs with }
    | ret =>
      simp only [planReturn]
      split
      · exact coherent_planEnd p ha
      · exact p
      · exact p
  · exact p

theorem Performed.coherent (p : Performed (plan isSink me what f below h).2
    (plan isSink me what f below h).1 r es k) (hh : h.Coherent) : k.Coherent := by
  cases ha : h.active with
  | false =>
    have idle : plan isSink me what f below h = (h, []) := by simp [plan, ha]
    rw [idle] at p
    cases p
    exact hh
  | true =>
    have hp : (plan isSink me what f below h).1.Coherent := coherent_plan hh
    have hi := hp.installed_of_active ((plan_others isSink me what f below h).2.2.2.2.trans ha)
    refine (p.preserves (P := fun g => g.Coherent ∧ g.installed = true) ?_ ?_ ⟨hp, hi⟩).1
    · intro g t hg
      exact ⟨hg.1.forget t, hg.2⟩
    · intro g child a _ hg
      exact ⟨hg.1.withPending hg.2 _, hg.2⟩

/-- A callback as it would be without an early return. -/
def heed {σ : Type} (c : HookEnv σ) (isSink : String → Bool) (me : Caller) (what : Signal)
    (f : Frame) (below : List Frame) : Act (HookState σ) Unit :=
  match what with
  | .call => onCall c isSink me f (f :: below)
  | .ret => onReturn c me f below.head?
  | .other => return

/-- The running thread is traced, or due to be picked up as one that is new. -/
def Concerned (me : Caller) (h : ProfileHost) : Prop :=
  h.traced.get? me.ident ≠ none ∨ me.isSink = false ∧ me.thread ∉ h.known ∧ h.arrivals ≠ none

theorem Concerned.active (hc : Concerned me h) (p : h.Coherent) : h.active = true := by
  refine p.active_of_traced (hc.imp (fun ht he => ht ?_) fun hd => hd.2.2)
  rw [he]
  rfl

/-- The early return costs no callback of a thread that is traced or due. -/
theorem fire_concerned {σ : Type} (c : HookEnv σ) (p : h.Coherent) (hc : Concerned me h) (o : σ) :
    (fire c isSink me what f below).on ⟨h, o⟩ = (heed c isSink me what f below).on ⟨h, o⟩ := by
  have ha := hc.active p
  simp only [fire, heed, Act.on_bind, Act.on_get, ha]
  rfl

end Hook

namespace Observed

variable {o : Observed}

theorem installed_refresh (ha : o.refresh.host.active = true) :
    o.refresh.host.installed = true := by
  unfold refresh at ha ⊢
  dsimp only at ha ⊢
  split at ha
  · rename_i hn
    rw [if_pos hn]
    rfl
  · rename_i hn
    have hx : o.host.hasAttachments = true := by split at ha <;> exact ha
    have hi : o.host.installed = true := by simpa [hx] using hn
    rw [if_neg hn]
    split <;> exact hi

theorem coherent_attach (p : o.host.Coherent) (c : Carrier) (a : Attachment) :
    (o.attach c a).1.host.Coherent := by
  obtain ⟨active, installed, allThreads, he⟩ := attach_host o a c
  have hf := attachCarrier_frame o a c
  refine .of_active (attach_active o a c) installed_refresh ?_ ?_ ?_ ?_
  · simp [he]
  · simp [he]
  · rw [he, hf]
    exact p.units
  · rw [he, hf]
    exact p.named

theorem coherent_clear : o.clear.host.Coherent := by
  unfold clear uninstallHook
  split <;>
    exact .of_active rfl (fun ha => by cases ha) (by simp) (by simp) rfl (by simp [Table.keys])

end Observed

namespace Situation

variable {σ : Type} {c : HookEnv σ} {s : Situation σ} {m : Move}

theorem coherent_signal (p : s.host.Coherent) (x : String) (what : Hook.Signal) (f : Frame)
    (below : List Frame) : (s.signal c x what f below).host.Coherent := by
  cases hx : s.isIn x [.alive] with
  | false =>
    rw [(signal_unalive (c := c) (l := {}) hx what f below).1]
    exact p
  | true =>
    obtain ⟨t, ht, ha⟩ := (Option.any_eq_true _ _).1 hx
    obtain ⟨es, q⟩ := signal_performed (c := c) ht (by simpa [Thread.isAlive] using ha) what f below
    exact q.coherent p

/-- One move more. Only a filter on a unit without a name would be out of place. -/
theorem coherent_step (p : s.host.Coherent) (hm : ∀ spec l, m ≠ .install "" spec l) :
    (s.step c m).host.Coherent := by
  cases m with
  | attach caller carrier a => exact Observed.coherent_attach (o := s.calledBy caller) p carrier a
  | install unit spec l =>
    refine p.install ?_ spec l
    rintro rfl
    exact hm spec l rfl
  | forget t => exact p.forget t
  | clear caller => exact Observed.coherent_clear
  | launch | start =>
    simp only [step]
    split <;> exact p
  | signal x what f below => exact coherent_signal p x what f below
  | finish x lowest =>
    cases lowest with
    | none =>
      rw [(finish_unheard s x).1]
      exact p
    | some f =>
      rw [(finish_heard s x f).1]
      exact coherent_signal p x .ret f []

def afterRequests (c : HookEnv σ) (s : Situation σ) (rs : List Request) : Situation σ :=
  rs.foldl (fun s r => (s.request c r).2) s

theorem unit_ne_of_move? {r : Request} (hr : r.move? = some m)
    (hu : ∀ spec l, r ≠ .move (.install "" spec l)) (spec : MatchSpec) (l : Bool) :
    m ≠ .install "" spec l := by
  cases r with
  | move m' =>
    obtain rfl := Option.some.inj hr
    rintro rfl
    exact hu spec l rfl
  | attach caller v flags target =>
    obtain ⟨carrier, -, rfl⟩ := Option.map_eq_some_iff.1 hr
    exact Move.noConfusion
  | install v spec' l' =>
    cases hv : unitOfValue v with
    | error f => simp [Request.move?, hv, Except.toOption] at hr
    | ok unit =>
      simp only [Request.move?, hv, Except.toOption, Option.map_some, Option.some.injEq] at hr
      subst hr
      rintro ⟨⟩
      cases (Registration.unitOfValue_text hv).1

theorem coherent_request (p : s.host.Coherent) {r : Request}
    (hu : ∀ spec l, r ≠ .move (.install "" spec l)) : (s.request c r).2.host.Coherent := by
  cases hr : r.move? with
  | none =>
    obtain ⟨f, hf⟩ := request_refused (c := c) (s := s) hr
    rw [hf]
    exact p
  | some m =>
    rw [request_moves hr]
    exact coherent_step p (unit_ne_of_move? hr hu)

theorem coherent_afterRequests {rs : List Request} (p : s.host.Coherent)
    (hu : ∀ spec l, .move (.install "" spec l) ∉ rs) : (s.afterRequests c rs).host.Coherent := by
  induction rs generalizing s with
  | nil => exact p
  | cons r rs ih =>
    refine ih (coherent_request p fun spec l he => hu spec l ?_) fun spec l hm => hu spec l ?_
    · exact he ▸ List.mem_cons_self
    · exact List.mem_cons_of_mem r hm

/-- Whatever a host is asked and told from the start, its tables and flags fit together, and no
callback of a thread that is traced or due to be picked up as new returns early. Callers ask for
filters by values, and none of these gives a unit without a name, so that no such move is made. -/
theorem coherent_always (c : HookEnv σ) (ts : Threads) (o : σ) (rs : List Request)
    (hu : ∀ spec l, .move (.install "" spec l) ∉ rs) :
    let h := ((fresh ts o).afterRequests c rs).host
    h.Coherent ∧ ∀ isSink me what f below o', Hook.Concerned me h →
      h.active = true ∧ (Hook.fire c isSink me what f below).on ⟨h, o'⟩ =
        (Hook.heed c isSink me what f below).on ⟨h, o'⟩ := by
  intro h
  have p : h.Coherent := coherent_afterRequests (s := fresh ts o) .fresh hu
  exact ⟨p, fun isSink me what f below o' hc => ⟨hc.active p, Hook.fire_concerned c p hc o'⟩⟩

def refusedSpawn : List Request :=
  [.attach "main" (.selector .newProcesses) { running := true } (.ofWorkers 1 .trace [1]),
    .install (.text "app") .passThrough true,
    .attach "main" (.thread "main") stopped.flags stopped.target,
    .move (.signal "main" .call (.start (.thread "child")) [])]

theorem coherent_always_spawn :
    let h := ((fresh .family ()).afterRequests (.answering false) refusedSpawn).host
    (∀ spec l, .move (.install "" spec l) ∉ refusedSpawn) ∧ h.Coherent ∧ h.traced = [] ∧
      h.pending = [("child", stopped)] ∧ h.filters.keys = ["app"] ∧
      Hook.Concerned ⟨9, "other", false⟩ h ∧ h.active = true := by
  dsimp only
  have hu : ∀ spec l, .move (.install "" spec l) ∉ refusedSpawn := by simp [refusedSpawn]
  obtain ⟨p, hc⟩ := coherent_always (.answering false) .family () refusedSpawn hu
  have due : Hook.Concerned ⟨9, "other", false⟩
      ((fresh .family ()).afterRequests (.answering false) refusedSpawn).host :=
    .inr ⟨rfl, by decide, by decide⟩
  exact ⟨hu, p, by rfl, by rfl, by rfl, due,
    (hc (fun _ => false) ⟨9, "other", false⟩ .call default [] () due).1⟩

end Situation

end ThreadTrace
