import Mathlib.Data.List.Chain
import Mathlib.Data.List.Nodup
import ThreadTrace.Proofs.Pool.Shared

namespace ThreadTrace

namespace Supervisor

variable {pools : List Pool} {id : Value}

theorem find?_isSome {s : Supervisor} : (s.find? id).isSome ↔ ∃ p ∈ s.pools, p.id.same id = true :=
  List.find?_isSome

theorem mem_without {p : Pool} : p ∈ without pools id ↔ p ∈ pools ∧ p.id.same id = false := by
  simp [without]

theorem without_perm (hk : ∀ p ∈ pools, p.id.IsKey) (hid : id.IsKey)
    (ha : pools.Pairwise fun p q => p.id.key ≠ q.id.key) {p : Pool}
    (hp : pools.find? (·.id.same id) = some p) : pools.Perm (p :: without pools id) := by
  induction pools with
  | nil => cases hp
  | cons q pools ih =>
    obtain ⟨hq, ha⟩ := List.pairwise_cons.1 ha
    obtain ⟨hkq, hk⟩ := List.forall_mem_cons.1 hk
    by_cases hs : q.id.same id = true
    · obtain rfl : q = p := by simpa [hs] using hp
      have hrest : without pools id = pools := by
        apply List.filter_eq_self.2
        intro r hr
        have hne : ¬ r.id.same id = true := by
          rw [Value.same_iff (hk r hr) hid, ← (Value.same_iff hkq hid).1 hs]
          exact Ne.symm (hq r hr)
        simpa using hne
      have hw : without (q :: pools) id = without pools id := by simp [without, hs]
      rw [hw, hrest]
    · have hw : without (q :: pools) id = q :: without pools id := by simp [without, hs]
      rw [hw]
      have hrest := ih hk ha (by simpa [hs] using hp)
      exact (hrest.cons q).trans (List.Perm.swap p q _)

theorem find?_without {s : Supervisor} {other : Value} (hk : ∀ p ∈ s.pools, p.id.IsKey)
    (hid : id.IsKey) (ho : other.IsKey) :
    (({ s with pools := without s.pools id } : Supervisor).find? other).isSome =
      ((s.find? other).isSome && !id.same other) := by
  rw [Bool.eq_iff_iff, find?_isSome]
  simp only [mem_without, Bool.and_eq_true, Bool.not_eq_true', find?_isSome]
  constructor
  · rintro ⟨p, ⟨hp, hne⟩, hs⟩
    refine ⟨⟨p, hp, hs⟩, ?_⟩
    rw [← Bool.not_eq_true] at hne ⊢
    intro hsame
    exact hne (Value.same_trans (hk p hp) ho hid hs (Value.same_symm hid ho hsame))
  · rintro ⟨⟨p, hp, hs⟩, hne⟩
    refine ⟨p, ⟨hp, ?_⟩, hs⟩
    rw [← Bool.not_eq_true] at hne ⊢
    intro hsame
    exact hne (Value.same_trans hid (hk p hp) ho (Value.same_symm (hk p hp) hid hsame) hs)

theorem find?_enroll {s : Supervisor} {other : Value} {text shown : String} {sinks : List Sink}
    {o : Outlets} : ((s.enroll id text shown sinks o).find? other).isSome =
      ((s.find? other).isSome || id.same other) := by
  have hid : (s.nextPool id sinks.length).id = id := rfl
  rw [find?, enroll, List.find?_append]
  cases hf : s.pools.find? (·.id.same other) <;> cases hs : id.same other <;>
    simp [find?, hf, hid, hs]

end Supervisor

/-- What is true of a stop that has been asked for: it stops workers of one pool that was opened, and
if it leaves some of them, they could not be waited for. -/
structure PendingStop.Sound (opened : List Pool) (e : PendingStop) : Prop where
  ids : ∀ id ∈ e.ids, id.IsKey
  owned : e.left ≠ [] → ∃ p ∈ opened, e.pool = some p ∧ ∀ k ∈ e.left, k ∈ p.workers
  ending : e.left ≠ [] → e.outcome = none ∨ ¬ e.limit.Waitable

theorem PendingStop.Sound.mono {opened more : List Pool} {e : PendingStop} (h : e.Sound opened)
    (hm : ∀ p ∈ opened, p ∈ more) : e.Sound more where
  ids := h.ids
  owned hl := by
    obtain ⟨p, hp, hrest⟩ := h.owned hl
    exact ⟨p, hm p hp, hrest⟩
  ending := h.ending

namespace PendingStop

variable {opened : List Pool} {e : PendingStop} {s : Supervisor}

/-- What a stop does next: it takes out a pool, it stops a worker, or it touches neither. -/
inductive Moved (opened : List Pool) (e : PendingStop) (s : Supervisor) :
    PendingStop × Supervisor × List SharedSupervisor.Section → Prop
  | changed (e' : PendingStop) (hl : e'.left = e.left) (he : e'.Sound opened) :
    Moved opened e s (e', s, [])
  | missed (e' : PendingStop) (id : Value) (hl : e'.left = e.left) (he : e'.Sound opened) :
      Moved opened e s (e', s, [.take id none])
  | entered (id : Value) (ids : List Value) (p : Pool) (hids : e.ids = id :: ids)
      (hl : e.left = []) (ha : e.awaited = none) (ho : e.outcome = none)
      (hp : s.find? id = some p) :
      Moved opened e s ({ e with ids, pool := some p, left := p.workers },
        { s with pools := Supervisor.without s.pools id }, [.take id (some p)])
  | marked (k : Nat) (left : List Nat) (w : Worker) (awaited : Option Nat)
      (hl : e.left = k :: left) (hw : s.crew.worker? k = some w)
      (he : ({ e with left, awaited } : PendingStop).Sound opened) :
      Moved opened e s ({ e with left, awaited }, { s with crew := s.crew.putWorker k w.stop }, [])

theorem Sound.fail (h : e.Sound opened) (f : Fault) (hl : e.left ≠ [] → ¬ e.limit.Waitable) :
    (e.fail f).Sound opened where
  ids := h.ids
  owned := h.owned
  ending hne := .inr (hl hne)

theorem enter_moved (h : e.Sound opened) {id : Value} {ids : List Value} (hids : e.ids = id :: ids)
    (hl : e.left = []) (ha : e.awaited = none) (ho : e.outcome = none) :
    Moved opened e s (e.enter id ids s) := by
  have hkeys := h.ids
  rw [hids] at hkeys
  obtain ⟨hid, hrest⟩ := List.forall_mem_cons.1 hkeys
  have hnone : e.left ≠ [] → ¬ e.limit.Waitable := fun hne => absurd hl hne
  rw [enter, Supervisor.takePool_on (Value.unhashable?_of_isKey hid)]
  cases hp : s.find? id with
  | some p => exact .entered id ids p hids hl ha ho hp
  | none =>
    have hs : ({ s with pools := Supervisor.without s.pools id } : Supervisor) = s := by
      rw [Supervisor.without_of_find?_none hp]
    dsimp only
    rw [hs]
    cases id.shown with
    | error f => exact .missed _ id rfl (h.fail f hnone)
    | ok shown =>
      by_cases hlen : e.lenient = true
      · simp only [hlen, if_true]
        exact .missed _ id rfl ⟨hrest, h.owned, h.ending⟩
      · simp only [hlen]
        exact .missed _ id rfl (h.fail _ hnone)

theorem next_moved (h : e.Sound opened) (hl : ∀ k ∈ e.left, s.crew.Runs k) :
    Moved opened e s (e.next s) := by
  rw [next]
  split
  · exact .changed e rfl h
  · have he : ({ e with awaited := none } : PendingStop).Sound opened := ⟨h.ids, h.owned, h.ending⟩
    dsimp only
    split
    · obtain ⟨w, -, haw⟩ := Option.map_eq_some_iff.1 ‹_›
      refine .changed _ rfl (he.fail _ fun _ hw => ?_)
      have hok : w.await e.limit = .ok () := w.await_ok hw
      rw [hok] at haw
      cases haw
    · exact .changed _ rfl he
  · rename_i k left hout haw hleft
    obtain ⟨p, hp, hpool, hsub⟩ := h.owned (by simp [hleft])
    have he : ∀ a, ({ e with left, awaited := a } : PendingStop).Sound opened := by
      intro a
      refine ⟨h.ids, fun _ => ⟨p, hp, hpool, ?_⟩, fun _ => .inl hout⟩
      intro j hj
      exact hsub j (by rw [hleft]; exact List.mem_cons_of_mem _ hj)
    obtain ⟨w, hw, -⟩ := hl k (by rw [hleft]; exact List.mem_cons_self)
    rw [hw]
    exact .marked k left w _ hleft hw (he _)
  · exact enter_moved h ‹_› ‹_› ‹_› ‹_›
  · refine .changed _ rfl ⟨h.ids, h.owned, ?_⟩
    intro hne
    exact absurd ‹e.left = []› hne

end PendingStop

namespace SharedSupervisor

variable {o : SharedSupervisor}

def Section.opened? : Section → Option Pool
  | .start _ _ (.ok p) => some p
  | _ => none

def Section.switch? (id : Value) : Section → Option Bool
  | .start other _ (.ok _) => if other.same id then some true else none
  | .take other (some _) => if other.same id then some false else none
  | _ => none

abbrev pools (o : SharedSupervisor) : List Pool := o.supervisor.pools

abbrev crew (o : SharedSupervisor) : Crew := o.supervisor.crew

def opened (o : SharedSupervisor) : List Pool := o.log.filterMap Section.opened?

def switches (o : SharedSupervisor) (id : Value) : List Bool := o.log.filterMap (Section.switch? id)

/-- The workers of registered pools, and those that stops have still to come to. -/
def held (o : SharedSupervisor) : List Nat :=
  o.pools.flatMap (·.workers) ++ o.pendingStops.flatMap (·.left)

structure Sound (o : SharedSupervisor) : Prop where
  keys : ∀ p ∈ o.opened, p.id.IsKey ∧ p.id.shown.isOk = true
  known : ∀ p ∈ o.pools, p ∈ o.opened
  apart : o.pools.Pairwise fun p q => p.id.key ≠ q.id.key
  owned : (o.opened.flatMap (·.workers)).Nodup
  staffed : ∀ p ∈ o.opened, ∀ (i k : Nat), p.workers[i]? = some k →
    ∃ b, o.crew.posts[k]? = some (.int i, b)
  sized : ∀ (id size : Value) (p : Pool), .start id size (.ok p) ∈ o.log →
    p.id = id ∧ size.asInt? = some (p.size : Int)
  held : o.held.Nodup
  running : ∀ k, o.crew.Runs k ↔ k ∈ o.held
  pendingStops : ∀ e ∈ o.pendingStops, e.Sound o.opened
  switched : ∀ id, id.IsKey → (false :: o.switches id).IsChain (· ≠ ·) ∧
    (false :: o.switches id).getLast? = some (o.supervisor.find? id).isSome

namespace Sound

theorem posts (h : o.Sound) {c : Crew} (hc : c.posts = o.crew.posts) :
    Sound { o with supervisor.crew := c } := by
  have hr : ∀ k, c.Runs k ↔ o.crew.Runs k := by
    intro k
    rw [Crew.runs_iff, Crew.runs_iff, hc]
  refine { h with staffed := ?_, running := fun k => (hr k).trans (h.running k) }
  intro p hp i k hk
  obtain ⟨b, hb⟩ := h.staffed p hp i k hk
  exact ⟨b, by rw [← hb, ← hc]⟩

theorem noted (h : o.Sound) {x : Section} (hx : x.opened? = none)
    (hs : ∀ id, x.switch? id = none) : Sound { o with log := o.log ++ [x] } := by
  have ho : ({ o with log := o.log ++ [x] } : SharedSupervisor).opened = o.opened := by
    simp [SharedSupervisor.opened, hx]
  have hw : ∀ id, ({ o with log := o.log ++ [x] } : SharedSupervisor).switches id = o.switches id := by
    intro id
    simp [SharedSupervisor.switches, hs]
  constructor
  case keys => rw [ho]; exact h.keys
  case known => rw [ho]; exact h.known
  case apart => exact h.apart
  case owned => rw [ho]; exact h.owned
  case staffed => rw [ho]; exact h.staffed
  case sized =>
    intro id size p hp
    rcases List.mem_append.1 hp with hp | hp
    · exact h.sized id size p hp
    · rw [← List.mem_singleton.1 hp] at hx
      cases hx
  case held => exact h.held
  case running => exact h.running
  case pendingStops => rw [ho]; exact h.pendingStops
  case switched =>
    intro id hid
    rw [hw]
    exact h.switched id hid

theorem asked (h : o.Sound) {e : PendingStop} (hl : e.left = []) (hids : ∀ id ∈ e.ids, id.IsKey) :
    Sound { o with pendingStops := o.pendingStops ++ [e] } := by
  have hheld :
      ({ o with pendingStops := o.pendingStops ++ [e] } : SharedSupervisor).held = o.held := by
    simp [SharedSupervisor.held, hl]
  refine { h with held := ?_, running := ?_, pendingStops := ?_ }
  · rw [hheld]; exact h.held
  · rw [hheld]; exact h.running
  · intro d hd
    rcases List.mem_append.1 hd with hd | hd
    · exact h.pendingStops d hd
    · obtain rfl := List.mem_singleton.1 hd
      exact ⟨hids, fun hne => absurd hl hne, fun hne => absurd hl hne⟩

end Sound

theorem left_set {es : List PendingStop} {n : Nat} {e : PendingStop} (h : es[n]? = some e)
    (e' : PendingStop) :
    ((es.set n e').flatMap (·.left) ++ e.left).Perm (es.flatMap (·.left) ++ e'.left) := by
  induction es generalizing n with
  | nil => simp at h
  | cons d es ih =>
    cases n with
    | zero =>
      obtain rfl : d = e := by simpa using h
      apply List.perm_iff_count.2
      intro k
      simp only [List.set_cons_zero, List.flatMap_cons, List.count_append]
      omega
    | succ n =>
      have hrest := ih (by simpa using h)
      simp only [List.set_cons_succ, List.flatMap_cons, List.append_assoc]
      exact hrest.append_left d.left

namespace Sound

variable {n : Nat} {e e' : PendingStop}

theorem set_pendingStop (h : o.Sound) (he' : e'.Sound o.opened) :
    ∀ d ∈ o.pendingStops.set n e', d.Sound o.opened := by
  intro d hd
  rcases List.mem_or_eq_of_mem_set hd with hd | rfl
  · exact h.pendingStops d hd
  · exact he'

theorem changed (h : o.Sound) (hn : o.pendingStops[n]? = some e) (hl : e'.left = e.left)
    (he' : e'.Sound o.opened) : Sound { o with pendingStops := o.pendingStops.set n e' } := by
  have hperm :
      ({ o with pendingStops := o.pendingStops.set n e' } : SharedSupervisor).held.Perm o.held := by
    have hset := left_set hn e'
    rw [hl] at hset
    exact ((List.perm_append_right_iff _).1 hset).append_left _
  refine { h with held := ?_, running := ?_, pendingStops := h.set_pendingStop he' }
  · exact hperm.symm.nodup h.held
  · intro k
    rw [hperm.mem_iff]
    exact h.running k

theorem marked (h : o.Sound) (hn : o.pendingStops[n]? = some e) {k : Nat} {w : Worker}
    (hw : o.crew.worker? k = some w) (hl : e.left = k :: e'.left) (he' : e'.Sound o.opened) :
    Sound { o with
      pendingStops := o.pendingStops.set n e'
      supervisor.crew := o.crew.putWorker k w.stop } := by
  have hposts : (o.crew.putWorker k w.stop).posts = o.crew.posts.set k (w.index, false) := by
    rw [Crew.posts_put, w.stop_post]
  have hperm : o.held.Perm
      (k :: (o.pools.flatMap (·.workers) ++ (o.pendingStops.set n e').flatMap (·.left))) := by
    have hset := left_set hn e'
    rw [hl] at hset
    apply List.perm_iff_count.2
    intro j
    have hj := List.perm_iff_count.1 hset j
    simp only [SharedSupervisor.held, List.count_append, List.count_cons] at hj ⊢
    omega
  obtain ⟨hnot, hnodup⟩ := List.nodup_cons.1 (hperm.nodup h.held)
  refine { h with staffed := ?_, held := hnodup, running := ?_, pendingStops := h.set_pendingStop he' }
  · intro p hp i j hj
    obtain ⟨b, hb⟩ := h.staffed p hp i j hj
    change ∃ b, (o.crew.putWorker k w.stop).posts[j]? = some (.int i, b)
    rw [hposts]
    by_cases hjk : j = k
    · subst hjk
      have hi : o.crew.posts[j]? = some w.post := by rw [Crew.posts_get, hw]; rfl
      obtain ⟨hindex, -⟩ := Prod.mk.inj (Option.some.inj (hb.symm.trans hi))
      have hlen := (List.getElem?_eq_some_iff.1 hb).1
      exact ⟨false, by rw [List.getElem?_set_self hlen, hindex]⟩
    · exact ⟨b, by rw [List.getElem?_set_ne (Ne.symm hjk), hb]⟩
  · intro j
    have hstop : (o.crew.putWorker k w.stop).Runs j ↔ j ≠ k ∧ o.crew.Runs j := by
      rw [Crew.runs_iff, hposts, Crew.runs_set]
    change (o.crew.putWorker k w.stop).Runs j ↔ _
    rw [hstop, h.running j, hperm.mem_iff, List.mem_cons]
    constructor
    · rintro ⟨hne, rfl | hj⟩
      · exact absurd rfl hne
      · exact hj
    · intro hj
      refine ⟨?_, .inr hj⟩
      rintro rfl
      exact hnot hj

end Sound

theorem switched_concat {l : List Bool} {b : Bool} (hc : (false :: l).IsChain (· ≠ ·))
    (hl : (false :: l).getLast? = some (!b)) :
    (false :: (l ++ [b])).IsChain (· ≠ ·) ∧ (false :: (l ++ [b])).getLast? = some b := by
  rw [← List.cons_append]
  refine ⟨List.isChain_append.2 ⟨hc, List.isChain_singleton _, ?_⟩, List.getLast?_concat⟩
  intro x hx y hy
  rw [hl] at hx
  cases hx
  cases hy
  cases b <;> simp

namespace Sound

variable {n : Nat} {e : PendingStop} {id : Value}

theorem pool_keys (h : o.Sound) : ∀ p ∈ o.pools, p.id.IsKey := fun p hp => (h.keys p (h.known p hp)).1

theorem place_lt (h : o.Sound) {p : Pool} (hp : p ∈ o.opened) {k : Nat} (hk : k ∈ p.workers) :
    k < o.supervisor.crew.workers.length := by
  obtain ⟨i, hi⟩ := List.getElem?_of_mem hk
  obtain ⟨b, hb⟩ := h.staffed p hp i k hi
  have hlt := (List.getElem?_eq_some_iff.1 hb).1
  rwa [Crew.posts, List.length_map] at hlt

theorem left_runs (h : o.Sound) (hn : o.pendingStops[n]? = some e) :
    ∀ k ∈ e.left, o.crew.Runs k := by
  intro k hk
  refine (h.running k).2 (List.mem_append_right _ ?_)
  exact List.mem_flatMap.2 ⟨e, List.mem_of_getElem? hn, hk⟩

theorem owner_unique (h : o.Sound) {p q : Pool} (hp : p ∈ o.opened) (hq : q ∈ o.opened)
    (hne : p ≠ q) {k : Nat} (hkp : k ∈ p.workers) (hkq : k ∈ q.workers) : False := by
  have hdis := (List.nodup_flatMap.1 h.owned).2
  have hsymm : Std.Symm (Function.onFun List.Disjoint fun p : Pool => p.workers) :=
    ⟨fun _ _ hd _ h₁ h₂ => hd h₂ h₁⟩
  exact hdis.forall hp hq hne hkp hkq

theorem taken (h : o.Sound) (hn : o.pendingStops[n]? = some e) (hl : e.left = []) {ids : List Value}
    (hids : e.ids = id :: ids) {p : Pool} (hp : o.supervisor.find? id = some p)
    (ho : e.outcome = none) :
    Sound ⟨{ o.supervisor with pools := Supervisor.without o.pools id },
      o.pendingStops.set n { e with ids, pool := some p, left := p.workers },
      o.log ++ [.take id (some p)]⟩ := by
  have hkey := (h.pendingStops e (List.mem_of_getElem? hn)).ids
  rw [hids] at hkey
  obtain ⟨hid, hrest⟩ := List.forall_mem_cons.1 hkey
  have hmem : p ∈ o.pools := List.mem_of_find?_eq_some hp
  have he' : ({ e with ids, pool := some p, left := p.workers } : PendingStop).Sound o.opened :=
    ⟨hrest, fun _ => ⟨p, h.known p hmem, rfl, fun k hk => hk⟩, fun _ => .inl ho⟩
  have hperm : (o.pools.flatMap (·.workers) ++ o.pendingStops.flatMap (·.left)).Perm
      ((Supervisor.without o.pools id).flatMap (·.workers) ++
        (o.pendingStops.set n { e with ids, pool := some p, left := p.workers }).flatMap (·.left)) := by
    have hpools := (Supervisor.without_perm h.pool_keys hid h.apart hp).flatMap_right (·.workers)
    have hset := left_set hn { e with ids, pool := some p, left := p.workers }
    rw [hl] at hset
    apply List.perm_iff_count.2
    intro k
    have hk := List.perm_iff_count.1 hpools k
    have hj := List.perm_iff_count.1 hset k
    simp only [List.flatMap_cons, List.count_append, List.count_nil] at hk hj ⊢
    omega
  have hopened : (o.log ++ [Section.take id (some p)]).filterMap Section.opened? = o.opened := by
    simp [SharedSupervisor.opened, Section.opened?]
  constructor
  case keys =>
    rw [SharedSupervisor.opened, hopened]
    exact h.keys
  case known =>
    intro q hq
    rw [SharedSupervisor.opened, hopened]
    exact h.known q (Supervisor.mem_without.1 hq).1
  case apart =>
    exact h.apart.filter _
  case owned =>
    rw [SharedSupervisor.opened, hopened]
    exact h.owned
  case staffed =>
    rw [SharedSupervisor.opened, hopened]
    exact h.staffed
  case sized =>
    intro other size q hq
    rcases List.mem_append.1 hq with hq | hq
    · exact h.sized other size q hq
    · cases List.mem_singleton.1 hq
  case held =>
    exact hperm.nodup h.held
  case running =>
    intro k
    rw [SharedSupervisor.held, ← hperm.mem_iff]
    exact h.running k
  case pendingStops =>
    rw [SharedSupervisor.opened, hopened]
    exact h.set_pendingStop he'
  case switched =>
    intro other hother
    obtain ⟨hc, hlast⟩ := h.switched other hother
    rw [Supervisor.find?_without h.pool_keys hid hother]
    by_cases hs : id.same other = true
    · have hnew : (o.log ++ [Section.take id (some p)]).filterMap (Section.switch? other) =
          o.switches other ++ [false] := by
        simp [SharedSupervisor.switches, Section.switch?, hs]
      have hwas : (o.supervisor.find? other).isSome = true := by
        have hpid : p.id.same id = true := by simpa using List.find?_some hp
        exact Supervisor.find?_isSome.2 ⟨p, hmem,
          Value.same_trans (h.pool_keys p hmem) hid hother hpid hs⟩
      rw [hwas] at hlast
      rw [SharedSupervisor.switches, hnew, hs, hwas]
      exact switched_concat hc hlast
    · have hnew : (o.log ++ [Section.take id (some p)]).filterMap (Section.switch? other) =
          o.switches other := by
        simp [SharedSupervisor.switches, Section.switch?, hs]
      rw [SharedSupervisor.switches, hnew]
      simpa [hs] using ⟨hc, hlast⟩

section Started

variable {size : Value} {text shown : String} {sinks : List Sink} {out : Outlets}

/-- The workers of a new pool stand behind all others, in the order of their indices. -/
theorem started_staffed (h : o.Sound) {p : Pool}
    (hp : p ∈ o.opened ∨ p = o.supervisor.nextPool id sinks.length) {i k : Nat}
    (hk : p.workers[i]? = some k) :
    ∃ b, (o.supervisor.enroll id text shown sinks out).crew.posts[k]? = some (.int i, b) := by
  rw [Crew.posts_get]
  obtain hp | rfl := hp
  · obtain ⟨b, hb⟩ := h.staffed p hp i k hk
    have hlt := h.place_lt hp (List.mem_of_getElem? hk)
    rw [Supervisor.enroll_old id text shown sinks out hlt, ← Crew.posts_get]
    exact ⟨b, hb⟩
  · obtain ⟨hi, rfl⟩ := List.getElem?_eq_some_iff.1 hk
    rw [Supervisor.nextPool, List.length_range'] at hi
    obtain ⟨w, hw, hindex, -⟩ := Supervisor.enroll_new (s := o.supervisor) id text shown sinks out hi
    simp only [Supervisor.nextPool, List.getElem_range', Nat.one_mul, hw]
    exact ⟨w.running, by rw [← hindex]; rfl⟩

theorem started_switched (h : o.Sound) (hid : id.IsKey) (hfree : o.supervisor.find? id = none)
    {other : Value} (hother : other.IsKey) :
    let switches := o.switches other ++ [Section.start id size
      (.ok (o.supervisor.nextPool id sinks.length))].filterMap (Section.switch? other)
    (false :: switches).IsChain (· ≠ ·) ∧ (false :: switches).getLast? =
      some ((o.supervisor.enroll id text shown sinks out).find? other).isSome := by
  obtain ⟨hc, hlast⟩ := h.switched other hother
  rw [Supervisor.find?_enroll]
  by_cases hs : id.same other = true
  · have hwas : (o.supervisor.find? other).isSome = false := by
      rw [← Bool.not_eq_true]
      intro hsome
      obtain ⟨p, hp, hpo⟩ := Supervisor.find?_isSome.1 hsome
      have hnone := List.find?_eq_none.1 hfree p hp
      exact hnone (Value.same_trans (h.pool_keys p hp) hother hid hpo
        (Value.same_symm hid hother hs))
    rw [hwas] at hlast
    have hsw : [Section.start id size (.ok (o.supervisor.nextPool id sinks.length))].filterMap
        (Section.switch? other) = [true] := by
      simp [Section.switch?, hs]
    rw [hwas, hs, hsw]
    exact switched_concat hc hlast
  · have hsw : [Section.start id size (.ok (o.supervisor.nextPool id sinks.length))].filterMap
        (Section.switch? other) = [] := by
      simp [Section.switch?, hs]
    rw [hsw, List.append_nil]
    simpa [hs] using ⟨hc, hlast⟩

theorem started (h : o.Sound) (hid : id.IsKey) (hfree : o.supervisor.find? id = none)
    (hs : id.shown = .ok shown) (hsize : size.asInt? = some (sinks.length : Int)) :
    Sound { o with
      supervisor := o.supervisor.enroll id text shown sinks out
      log := o.log ++
        [.start id size (.ok (o.supervisor.nextPool id sinks.length))] } := by
  have hopened : (o.log ++ [Section.start id size
      (.ok (o.supervisor.nextPool id sinks.length))]).filterMap Section.opened? =
        o.opened ++ [o.supervisor.nextPool id sinks.length] := by
    simp [SharedSupervisor.opened, Section.opened?]
  have hmem : ∀ p, p ∈ o.opened ++ [o.supervisor.nextPool id sinks.length] ↔
      p ∈ o.opened ∨ p = o.supervisor.nextPool id sinks.length := by simp
  have hplace : ∀ k ∈ (o.supervisor.nextPool id sinks.length).workers,
      o.supervisor.crew.workers.length ≤ k := fun k hk => (List.mem_range'_1.1 hk).1
  have hperm : ((o.pools ++ [o.supervisor.nextPool id sinks.length]).flatMap
      (·.workers) ++ o.pendingStops.flatMap (·.left)).Perm
        (o.held ++ (o.supervisor.nextPool id sinks.length).workers) := by
    apply List.perm_iff_count.2
    intro k
    simp only [SharedSupervisor.held, List.flatMap_append, List.flatMap_singleton, List.count_append]
    omega
  constructor
  case keys =>
    rw [SharedSupervisor.opened, hopened]
    intro p hp
    obtain hp | rfl := (hmem p).1 hp
    · exact h.keys p hp
    · refine ⟨hid, ?_⟩
      change id.shown.isOk = true
      rw [hs]
      rfl
  case known =>
    rw [SharedSupervisor.opened, hopened]
    intro p hp
    rcases List.mem_append.1 hp with hp | hp
    · exact List.mem_append_left _ (h.known p hp)
    · exact List.mem_append_right _ hp
  case apart =>
    refine List.pairwise_append.2 ⟨h.apart, List.pairwise_singleton .., ?_⟩
    intro p hp q hq he
    rw [List.mem_singleton.1 hq] at he
    have hnone := List.find?_eq_none.1 hfree p hp
    exact hnone ((Value.same_iff (h.pool_keys p hp) hid).2 he)
  case owned =>
    rw [SharedSupervisor.opened, hopened, List.flatMap_append, List.flatMap_singleton]
    refine List.nodup_append'.2 ⟨h.owned, List.nodup_range', ?_⟩
    intro k hk hin
    obtain ⟨p, hp, hk⟩ := List.mem_flatMap.1 hk
    have hlt := h.place_lt hp hk
    have hge := hplace k hin
    omega
  case staffed =>
    rw [SharedSupervisor.opened, hopened]
    exact fun p hp i k => h.started_staffed ((hmem p).1 hp)
  case sized =>
    intro other size' p hp
    rcases List.mem_append.1 hp with hp | hp
    · exact h.sized other size' p hp
    · cases List.mem_singleton.1 hp
      exact ⟨rfl, by rw [hsize, Pool.size, Supervisor.nextPool, List.length_range']⟩
  case held =>
    refine hperm.symm.nodup (List.nodup_append'.2 ⟨h.held, List.nodup_range', ?_⟩)
    intro k hk hin
    obtain ⟨w, hw, -⟩ := (h.running k).2 hk
    have hlt : k < o.supervisor.crew.workers.length := (List.getElem?_eq_some_iff.1 hw).1
    have hge := hplace k hin
    omega
  case running =>
    intro k
    change (o.supervisor.enroll id text shown sinks out).crew.Runs k ↔ _ ∈ _ ++ _
    rw [Supervisor.enroll_runs]
    refine Iff.trans ?_ hperm.mem_iff.symm
    rw [List.mem_append, ← h.running k]
  case pendingStops =>
    rw [SharedSupervisor.opened, hopened]
    intro e he
    exact (h.pendingStops e he).mono fun p hp => List.mem_append_left _ hp
  case switched =>
    intro other hother
    rw [SharedSupervisor.switches, List.filterMap_append]
    exact h.started_switched hid hfree hother

end Started

end Sound

def Turn.Keyed : Turn → Prop
  | .start id .. | .stop id _ => id.IsKey
  | _ => True

variable {settings : Settings}

theorem Sound.proceeds (h : o.Sound) (n : Nat) : (o.turn settings (.proceed n)).Sound := by
  rw [turn]
  cases hn : o.pendingStops[n]? with
  | none => exact h
  | some e =>
    have he := h.pendingStops e (List.mem_of_getElem? hn)
    have hm := PendingStop.next_moved he (h.left_runs hn)
    dsimp only
    generalize e.next o.supervisor = r at hm ⊢
    cases hm with
    | changed e' hl he' => simpa using h.changed hn hl he'
    | missed e' id hl he' => exact (h.changed hn hl he').noted rfl fun _ => rfl
    | entered id ids p hids hl ha ho hp => exact h.taken hn hl hids hp ho
    | marked k left w a hl hw he' => simpa using h.marked hn hw hl he'

theorem Sound.turn (h : o.Sound) {t : Turn} (ht : t.Keyed) : (o.turn settings t).Sound := by
  cases t with
  | start id size kind options =>
    have hid : id.IsKey := ht
    have hm := Supervisor.startPool_opened settings id size kind options o.supervisor
    rw [SharedSupervisor.turn]
    generalize (Supervisor.startPool settings id size kind options).on o.supervisor = r at hm ⊢
    cases hm with
    | unhashable type hu =>
      rw [Value.unhashable?_of_isKey hid] at hu
      cases hu
    | occupied p hu hp =>
      cases hs : id.shown <;> exact h.noted rfl fun _ => rfl
    | refused f out hu hn hf =>
      exact (h.posts (c := { o.crew with outlets := out }) rfl).noted rfl fun _ => rfl
    | opened text shown sinks out hu hn hp hs hsize hne => exact h.started hid hn hs hsize
  | stop id timeout =>
    refine h.asked rfl ?_
    intro other hother
    rw [List.mem_singleton.1 hother]
    exact ht
  | stopAll =>
    refine h.asked rfl ?_
    intro id hid
    obtain ⟨p, hp, rfl⟩ : ∃ p ∈ o.pools, p.id = id := by
      simpa [Supervisor.running] using hid
    exact h.pool_keys p hp
  | proceed n => exact h.proceeds n
  | send t e => exact h.posts (Crew.act_posts (by simp))
  | take k => exact h.posts (Crew.act_posts (by simp))

theorem Sound.run (h : o.Sound) {ts : List Turn} (hts : ∀ t ∈ ts, t.Keyed) :
    (o.run settings ts).Sound := by
  induction ts generalizing o with
  | nil => exact h
  | cons t ts ih =>
    obtain ⟨ht, hrest⟩ := List.forall_mem_cons.1 hts
    exact ih (h.turn ht) hrest

theorem Sound.fresh {s : Supervisor} (hp : s.pools = []) (hr : ∀ k, ¬ s.crew.Runs k) :
    Sound ⟨s, [], []⟩ := by
  obtain ⟨crew, pools⟩ := s
  obtain rfl : pools = [] := hp
  have hnone : ∀ k, ¬ (⟨⟨crew, []⟩, [], []⟩ : SharedSupervisor).crew.Runs k := hr
  constructor
  · simp [SharedSupervisor.opened]
  · intro p hp
    cases hp
  · exact List.Pairwise.nil
  · simp [SharedSupervisor.opened]
  · simp [SharedSupervisor.opened]
  · simp
  · exact List.nodup_nil
  · intro k
    exact iff_of_false (hnone k) List.not_mem_nil
  · simp
  · intro id hid
    simp [SharedSupervisor.switches, Supervisor.find?]

end SharedSupervisor

end ThreadTrace
