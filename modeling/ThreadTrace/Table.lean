namespace ThreadTrace

abbrev Table (κ α : Type) := List (κ × α)

namespace Table

variable {κ α : Type} [DecidableEq κ]

def get? (t : Table κ α) (k : κ) : Option α := (t.find? fun x => x.1 = k).map (·.2)

def has (t : Table κ α) (k : κ) : Bool := t.any fun x => x.1 = k

def put (t : Table κ α) (k : κ) (a : α) : Table κ α :=
  if t.has k then t.map fun x => if x.1 = k then (k, a) else x else t ++ [(k, a)]

def erase (t : Table κ α) (k : κ) : Table κ α := t.filter fun x => x.1 ≠ k

def keys (t : Table κ α) : List κ := t.map (·.1)

theorem get?_nil (k : κ) : get? ([] : Table κ α) k = none := rfl

theorem get?_cons (x : κ × α) (t : Table κ α) (k : κ) :
    get? (x :: t) k = if x.1 = k then some x.2 else get? t k := by
  by_cases h : x.1 = k <;> simp [get?, h]

theorem get?_append (s t : Table κ α) (k : κ) :
    get? (s ++ t) k = (get? s k).or (get? t k) := by
  induction s with
  | nil => simp [get?_nil]
  | cons x s ih => by_cases h : x.1 = k <;> simp [get?_cons, h, ih]

theorem get?_eq_none (t : Table κ α) (k : κ) : get? t k = none ↔ t.has k = false := by
  induction t with
  | nil => simp [get?_nil, has]
  | cons x t ih => by_cases h : x.1 = k <;> simp_all [get?_cons, has]

theorem get?_update (t : Table κ α) (k j : κ) (a : α) :
    get? (t.map fun x => if x.1 = k then (k, a) else x) j =
      if j = k then (get? t j).map fun _ => a else get? t j := by
  induction t with
  | nil => simp [get?_nil]
  | cons x t ih =>
    rw [List.map_cons, get?_cons, get?_cons, ih]
    by_cases hk : x.1 = k <;> by_cases hj : j = k
    · subst hj; simp [hk]
    · have hn : ¬ k = j := fun h => hj h.symm
      simp [hk, hj, hn]
    · subst hj; simp [hk]
    · simp [hk, hj]

theorem get?_put (t : Table κ α) (k j : κ) (a : α) :
    (t.put k a).get? j = if j = k then some a else t.get? j := by
  by_cases hk : t.has k
  · rw [put, if_pos hk, get?_update]
    by_cases hj : j = k
    · subst hj
      cases hg : t.get? j with
      | none => simp [(get?_eq_none t j).1 hg] at hk
      | some b => simp
    · simp [hj]
  · rw [put, if_neg hk, get?_append, get?_cons, get?_nil]
    by_cases hj : j = k
    · subst hj
      simp [(get?_eq_none t j).2 (by simpa using hk)]
    · have hn : ¬ k = j := fun h => hj h.symm
      simp [hj, hn]

theorem get?_erase (t : Table κ α) (k j : κ) :
    (t.erase k).get? j = if j = k then none else t.get? j := by
  induction t with
  | nil => simp [erase, get?_nil]
  | cons x t ih =>
    by_cases hk : x.1 = k
    · have e : erase (x :: t) k = erase t k := by simp [erase, hk]
      rw [e, ih, get?_cons]
      by_cases hj : j = k
      · simp [hj]
      · have hn : ¬ k = j := fun h => hj h.symm
        simp [hj, hk, hn]
    · have e : erase (x :: t) k = x :: erase t k := by simp [erase, hk]
      rw [e, get?_cons, ih, get?_cons]
      by_cases hj : j = k
      · subst hj; simp [hk]
      · simp [hj]

theorem get?_filter {t : Table κ α} {k : κ} {a : α} {p : κ × α → Bool} (h : t.get? k = some a)
    (hp : p (k, a) = true) : get? (t.filter p) k = some a := by
  induction t with
  | nil => cases h
  | cons x t ih =>
    rw [get?_cons] at h
    by_cases hk : x.1 = k
    · rw [if_pos hk] at h
      have hx : x = (k, a) := Prod.ext hk (Option.some.inj h)
      rw [hx, List.filter_cons_of_pos hp, get?_cons, if_pos rfl]
    · rw [if_neg hk] at h
      by_cases hx : p x = true
      · rw [List.filter_cons_of_pos hx, get?_cons, if_neg hk]
        exact ih h
      · rw [List.filter_cons_of_neg hx]
        exact ih h

theorem mem_put {t : Table κ α} {k : κ} {a : α} {x : κ × α} (h : x ∈ t.put k a) :
    x = (k, a) ∨ x ∈ t := by
  unfold put at h
  split at h
  · obtain ⟨y, hy, he⟩ := List.mem_map.1 h
    split at he
    · exact .inl he.symm
    · exact .inr (he ▸ hy)
  · obtain h | h := List.mem_append.1 h
    · exact .inr h
    · exact .inl (List.mem_singleton.1 h)

theorem mem_erase {t : Table κ α} {k : κ} {x : κ × α} : x ∈ t.erase k ↔ x ∈ t ∧ x.1 ≠ k := by
  simp [erase]

theorem mem_of_get? {t : Table κ α} {k : κ} {a : α} (h : t.get? k = some a) : (k, a) ∈ t := by
  obtain ⟨x, hx, rfl⟩ := Option.map_eq_some_iff.1 h
  have hk : x.1 = k := by simpa using List.find?_some hx
  exact hk ▸ List.mem_of_find?_eq_some hx

theorem get?_isSome_of_mem {t : Table κ α} {x : κ × α} (h : x ∈ t) : (t.get? x.1).isSome := by
  cases hg : t.get? x.1 with
  | some a => rfl
  | none =>
    have hf := (get?_eq_none t x.1).1 hg
    simp only [has, List.any_eq_false, decide_eq_true_eq] at hf
    exact absurd rfl (hf x h)

end Table

end ThreadTrace
