import ThreadTrace.Thread.Basic

namespace ThreadTrace

namespace Thread

theorem assigned_of_ident? {t : Thread} {n : Nat} (h : t.ident? = some n) : t.assigned = n := by
  unfold ident? at h
  split at h <;> simp_all

theorem isAlive_of_listed {t : Thread} {n : Nat} (hl : t.isListed = true) (h : t.ident? = some n) :
    t.isAlive = true := by
  cases hs : t.state <;> simp_all [ident?, isListed, isAlive]

end Thread

namespace Threads

def names (ts : Threads) : List String := ts.all.map (·.name)

def Apart (ts : Threads) : Prop :=
  ∀ t ∈ ts.all, ∀ u ∈ ts.all, t.isAlive = true → u.isAlive = true → t.assigned = u.assigned →
    t.name = u.name

instance (ts : Threads) : Decidable ts.Apart :=
  inferInstanceAs (Decidable (∀ t ∈ ts.all, ∀ u ∈ ts.all, t.isAlive = true → u.isAlive = true →
    t.assigned = u.assigned → t.name = u.name))

/-- Whether threads have changed into others, where the live ones live on but for some that are
gone. -/
def Evolves (ts us : Threads) (gone : String → Prop) : Prop :=
  ∃ g : Thread → Thread, us.all = ts.all.map g ∧ ∀ t ∈ ts.all,
    (g t).name = t.name ∧ (g t).isSink = t.isSink ∧
      (t.isAlive = true → ¬gone t.name → (g t).isAlive = true ∧ (g t).assigned = t.assigned)

variable {ts us : Threads} {gone : String → Prop} {x : String} {t : Thread}

theorem mem_of_find? (h : ts.find? x = some t) : t ∈ ts.all ∧ t.name = x :=
  ⟨List.mem_of_find?_eq_some h, by simpa using List.find?_some h⟩

theorem mem_listed : t ∈ ts.listed ↔ t ∈ ts.all ∧ t.isListed = true := List.mem_filter

theorem find?_of_mem (hn : ts.names.Nodup) (ht : t ∈ ts.all) : ts.find? t.name = some t := by
  unfold names at hn
  unfold find?
  generalize ts.all = all at hn ht
  induction all with
  | nil => cases ht
  | cons u us ih =>
    rw [List.map_cons, List.nodup_cons] at hn
    obtain rfl | ht := List.mem_cons.1 ht
    · simp
    · have hne : u.name ≠ t.name := fun he => hn.1 (he ▸ List.mem_map_of_mem ht)
      rw [List.find?_cons_of_neg (by simpa using hne)]
      exact ih hn.2 ht

theorem isSink_of_mem (hn : ts.names.Nodup) (ht : t ∈ ts.all) : ts.isSink t.name = t.isSink := by
  simp [isSink, find?_of_mem hn ht]

theorem eq_of_name (hn : ts.names.Nodup) {u : Thread} (ht : t ∈ ts.all) (hu : u ∈ ts.all)
    (h : t.name = u.name) : t = u :=
  Option.some.inj ((find?_of_mem hn ht).symm.trans (h ▸ find?_of_mem hn hu))

namespace Evolves

theorem of_all (h : us.all = ts.all) : Evolves ts us gone :=
  ⟨id, by simp [h], fun _ _ => ⟨rfl, rfl, fun ha _ => ⟨ha, rfl⟩⟩⟩

theorem update {f : Thread → Thread} (hf : ∀ t, (f t).name = t.name ∧ (f t).isSink = t.isSink)
    (hk : ∀ t ∈ ts.all, t.name = x → t.isAlive = true → ¬gone x →
      (f t).isAlive = true ∧ (f t).assigned = t.assigned) : Evolves ts (ts.update x f) gone := by
  refine ⟨fun t => if t.name == x then f t else t, rfl, fun t ht => ?_⟩
  by_cases hx : t.name = x
  · have hb : (t.name == x) = true := by simpa using hx
    simp only [hb, if_true]
    exact ⟨(hf t).1, (hf t).2, fun ha hg => hk t ht hx ha (hx ▸ hg)⟩
  · have hb : (t.name == x) = false := by simpa using hx
    simp only [hb, Bool.false_eq_true, if_false, and_true, true_and]
    exact fun ha _ => ha

theorem hookCurrent (on : Bool) : Evolves ts (ts.hookCurrent on) gone :=
  update (fun _ => ⟨rfl, rfl⟩) fun _ _ _ ha _ => ⟨ha, rfl⟩

theorem hookAll (on : Bool) : Evolves ts (ts.hookAll on) gone := by
  refine ⟨fun t => if t.isListed then { t with hooked := on } else t, rfl, fun t _ => ?_⟩
  dsimp only
  split <;> exact ⟨rfl, rfl, fun ha _ => ⟨ha, rfl⟩⟩

theorem find? (h : Evolves ts us gone) (hx : ts.find? x = some t) :
    ∃ u, us.find? x = some u ∧ u.name = t.name ∧ u.isSink = t.isSink ∧
      (t.isAlive = true → ¬gone t.name → u.isAlive = true ∧ u.assigned = t.assigned) := by
  obtain ⟨g, hg, hk⟩ := h
  refine ⟨g t, ?_, hk t (mem_of_find? hx).1⟩
  unfold Threads.find? at hx ⊢
  rw [hg]
  generalize ts.all = all at hx hk
  induction all with
  | nil => cases hx
  | cons u us ih =>
    have hn : (g u).name = u.name := (hk u List.mem_cons_self).1
    rw [List.map_cons, List.find?_cons, hn]
    rw [List.find?_cons] at hx
    split at hx
    · rw [Option.some.inj hx]
    · exact ih hx fun t ht => hk t (List.mem_cons_of_mem _ ht)

theorem names (h : Evolves ts us gone) : us.names = ts.names := by
  obtain ⟨g, hg, hk⟩ := h
  simp only [Threads.names, hg, List.map_map]
  exact List.map_congr_left fun t ht => (hk t ht).1

theorem mem (h : Evolves ts us gone) {u : Thread} (hu : u ∈ us.all) :
    ∃ t ∈ ts.all, u.name = t.name ∧ u.isSink = t.isSink := by
  obtain ⟨g, hg, hk⟩ := h
  rw [hg] at hu
  obtain ⟨t, ht, rfl⟩ := List.mem_map.1 hu
  exact ⟨t, ht, (hk t ht).1, (hk t ht).2.1⟩

theorem alive (h : Evolves ts us gone) (hn : ts.names.Nodup) (ht : t ∈ ts.all)
    (ha : t.isAlive = true) (hg : ¬gone t.name) :
    ∃ u ∈ us.all, u.name = t.name ∧ u.isSink = t.isSink ∧ u.isAlive = true ∧
      u.assigned = t.assigned := by
  obtain ⟨u, hu, hx, hs, hk⟩ := h.find? (find?_of_mem hn ht)
  exact ⟨u, (mem_of_find? hu).1, hx, hs, hk ha hg⟩

theorem isSink (h : Evolves ts us gone) (x : String) : us.isSink x = ts.isSink x := by
  unfold Threads.isSink
  cases hx : ts.find? x with
  | some t =>
    obtain ⟨u, hu, -, hs, -⟩ := h.find? hx
    simp [hu, hs]
  | none =>
    cases hu : us.find? x with
    | none => rfl
    | some u =>
      obtain ⟨hm, rfl⟩ := mem_of_find? hu
      obtain ⟨t, ht, hn, -⟩ := h.mem hm
      have hf := List.find?_eq_none.1 hx t ht
      simp [hn] at hf

end Evolves

end Threads

end ThreadTrace
