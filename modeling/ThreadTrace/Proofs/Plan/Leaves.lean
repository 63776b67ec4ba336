import ThreadTrace.Proofs.Plan.Canonical

namespace ThreadTrace

namespace Plan

mutual

def leaves : Value → List Value
  | .list items => leavesAll items
  | .tuple items => leavesAll items
  | .store _ events => events.map .event
  | v => [v]

def leavesAll : List Value → List Value
  | [] => []
  | x :: xs => leaves x ++ leavesAll xs

end

section Expanding

variable {σ : Type} (src : Sources σ) {callback : String → String → Act σ (List Value)}

theorem expandAll_append (xs ys : List Value) :
    expandAll src callback (xs ++ ys) = (do
      let front ← expandAll src callback xs
      return front ++ (← expandAll src callback ys)) := by
  induction xs with
  | nil => simp [expandAll]
  | cons x xs ih =>
    simp only [List.cons_append, expandAll, ih, bind_assoc, pure_bind, List.append_assoc]

mutual

theorem expandAll_leaves : ∀ v : Value, expandAll src callback (leaves v) = expand src callback v
  | .list items | .tuple items => expandAll_leavesAll items
  | .store _ events => expandAll_of_flat src (Flat.map (fun _ => rfl) events)
  | .app _ | .callback .. | .moduleObject .. | .null | .bool _ | .int _ | .float _ | .nan _
  | .text _ | .bytes _ | .dict _ | .selector _ | .thread _ | .sealed .. | .scope _ | .port _
  | .options .. | .event _ | .console _ | .workshop .. => expandAll_singleton src _

theorem expandAll_leavesAll : ∀ items : List Value,
    expandAll src callback (leavesAll items) = expandAll src callback items
  | [] => rfl
  | x :: xs => by
    rw [leavesAll, expandAll_append, expandAll_leaves x, expandAll_leavesAll xs, expandAll]

end

theorem leavesAll_itemsOf (v : Value) : leavesAll (itemsOf v) = leaves v := by
  cases v with
  | list items | tuple items => rfl
  | store name events =>
    change leavesAll (events.map .event) = events.map .event
    induction events with
    | nil => rfl
    | cons e events ih => simp [leavesAll, leaves, ih]
  | _ => rfl

end Expanding

section Processing

variable {σ : Type} (src : Sources σ)

/-- What a leaf that is no callback contributes. -/
inductive Contributes : Value → σ → Except Fault (List Value) → σ → Prop
  | unasked {name f s s₁} (h : (src.load name).on s = (.error f, s₁)) :
      Contributes (.app name) s (.error f) s₁
  | known {name s s₁ r s₂} (h : (src.load name).on s = (.ok true, s₁))
      (hu : (src.units name).on s₁ = (r, s₂)) :
      Contributes (.app name) s (r.map (List.map .text)) s₂
  | absent {name s s₁ r s₂} (h : (src.load name).on s = (.ok false, s₁))
      (hu : (src.units name).on (src.missing name s₁) = (r, s₂)) :
      Contributes (.app name) s (r.map (List.map .text)) s₂
  | named {name mark s} : Contributes (.moduleObject name mark) s (.ok [.text name]) s
  | itself {v s} (hv : isStatic v = true) : Contributes v s (.ok [v]) s

/-- How leaves are processed in turn, and how deep callbacks are nested on the way. -/
inductive Processed : Nat → List Value → σ → Except Fault (List Value) → σ → Prop
  | done {s} : Processed 0 [] s (.ok []) s
  | failed {v vs s f s₁} (h : Contributes src v s (.error f) s₁) :
      Processed 0 (v :: vs) s (.error f) s₁
  | passed {d v vs s front s₁ r s₂} (h : Contributes src v s (.ok front) s₁)
      (rest : Processed d vs s₁ r s₂) : Processed d (v :: vs) s (r.map (front ++ ·)) s₂
  | uncalled {unit function vs s f s₁} (h : (src.invoke unit function).on s = (.error f, s₁)) :
      Processed 1 (.callback unit function :: vs) s (.error f) s₁
  | stopped {d unit function vs s v s₁ f s₂}
      (h : (src.invoke unit function).on s = (.ok v, s₁))
      (inner : Processed d (leaves v) s₁ (.error f) s₂) :
      Processed (d + 1) (.callback unit function :: vs) s (.error f) s₂
  | called {d e unit function vs s v s₁ front s₂ r s₃}
      (h : (src.invoke unit function).on s = (.ok v, s₁))
      (inner : Processed d (leaves v) s₁ (.ok front) s₂) (rest : Processed e vs s₂ r s₃) :
      Processed (max (d + 1) e) (.callback unit function :: vs) s (r.map (front ++ ·)) s₃

variable {src} {s s' : σ} {r : Except Fault (List Value)}

theorem Contributes.expands {v : Value} (h : Contributes src v s r s')
    (callback : String → String → Act σ (List Value)) :
    (expand src callback v).on s = (r, s') := by
  cases h with
  | unasked h => simp [expand, h]
  | @known name _ s₁ q _ h hu =>
    cases q <;> simp [expand, h, hu, Except.map]
  | @absent name _ s₁ q _ h hu =>
    cases q <;> simp [expand, h, hu, Except.map]
  | named => rfl
  | itself hv => rw [expand_static src hv, Act.on_pure]

section

variable {callback : String → String → Act σ (List Value)} {x : Value} {s₁ : σ}

theorem expandAll_cons_error {f : Fault} (h : (expand src callback x).on s = (.error f, s₁))
    (xs : List Value) : (expandAll src callback (x :: xs)).on s = (.error f, s₁) := by
  rw [expandAll, Act.on_bind, h]

theorem expandAll_cons_ok {front xs : List Value} {s₂ : σ}
    (h : (expand src callback x).on s = (.ok front, s₁))
    (hr : (expandAll src callback xs).on s₁ = (r, s₂)) :
    (expandAll src callback (x :: xs)).on s = (r.map (front ++ ·), s₂) := by
  rw [expandAll, Act.on_bind, h]
  cases r <;> simp [hr, Except.map]

end

theorem expand_callback {n : Nat} {unit function : String} {v : Value} {s₁ s₂ : σ}
    (h : (src.invoke unit function).on s = (.ok v, s₁))
    (hv : (expandAll src (resolve src n) (leaves v)).on s₁ = (r, s₂)) :
    (expand src (resolve src (n + 1)) (.callback unit function)).on s = (r, s₂) := by
  rw [← leavesAll_itemsOf, expandAll_leavesAll] at hv
  simp [expand, resolve, h, hv]

theorem Processed.expands {d n : Nat} {vs : List Value} (h : Processed src d vs s r s')
    (hn : d ≤ n) : (expandAll src (resolve src n) vs).on s = (r, s') := by
  induction h generalizing n with
  | done => rfl
  | failed h => exact expandAll_cons_error (h.expands _) _
  | passed h _ ih => exact expandAll_cons_ok (h.expands _) (ih hn)
  | uncalled h =>
    obtain ⟨m, rfl⟩ := Nat.exists_eq_succ_of_ne_zero (by omega : n ≠ 0)
    exact expandAll_cons_error (by simp [expand, resolve, h]) _
  | stopped h _ ih =>
    obtain ⟨m, rfl⟩ := Nat.exists_eq_succ_of_ne_zero (by omega : n ≠ 0)
    exact expandAll_cons_error (expand_callback h (ih (Nat.le_of_succ_le_succ hn))) _
  | called h _ _ ih ihr =>
    obtain ⟨m, rfl⟩ := Nat.exists_eq_succ_of_ne_zero (by omega : n ≠ 0)
    exact expandAll_cons_ok (expand_callback h (ih (by omega))) (ihr (by omega))

/-- With enough fuel, flattening comes to what processing the leaves comes to. -/
theorem Processed.flattens {d n : Nat} {items : List Value}
    (h : Processed src d (leavesAll items) s r s') (hn : d ≤ n) :
    (flattenWith src n items).on s = (r, s') := by
  rw [flattenWith, ← expandAll_leavesAll]
  exact h.expands hn

def isLeaf : Value → Bool
  | .list _ | .tuple _ | .store .. => false
  | _ => true

mutual

theorem isLeaf_leaves : ∀ v : Value, ∀ x ∈ leaves v, isLeaf x = true
  | .list items | .tuple items => isLeaf_leavesAll items
  | .store _ events => by
    intro x hx
    obtain ⟨e, -, rfl⟩ := List.mem_map.1 hx
    rfl
  | .app _ | .callback .. | .moduleObject .. | .null | .bool _ | .int _ | .float _ | .nan _
  | .text _ | .bytes _ | .dict _ | .selector _ | .thread _ | .sealed .. | .scope _ | .port _
  | .options .. | .event _ | .console _ | .workshop .. => by
    intro x hx
    obtain rfl := List.mem_singleton.1 hx
    rfl

theorem isLeaf_leavesAll : ∀ items : List Value, ∀ x ∈ leavesAll items, isLeaf x = true
  | [] => by simp [leavesAll]
  | v :: vs => by
    intro x hx
    exact (List.mem_append.1 hx).elim (isLeaf_leaves v x) (isLeaf_leavesAll vs x)

end

theorem leaf_cases (src : Sources σ) {v : Value} (hv : isLeaf v = true) (s : σ) :
    (∃ unit function, v = .callback unit function) ∨ ∃ r s', Contributes src v s r s' := by
  cases v with
  | list | tuple | store => cases hv
  | callback unit function => exact .inl ⟨unit, function, rfl⟩
  | app name =>
    refine .inr ?_
    cases h : (src.load name).on s with
    | mk q s₁ =>
      cases q with
      | error f => exact ⟨_, _, .unasked h⟩
      | ok known =>
        cases known with
        | true => exact ⟨_, _, .known h rfl⟩
        | false => exact ⟨_, _, .absent h rfl⟩
  | moduleObject name mark => exact .inr ⟨_, _, .named⟩
  | _ => exact .inr ⟨_, _, .itself rfl⟩

theorem processed_cons {n : Nat} {v : Value} {vs : List Value} {q : Except Fault (List Value)}
    {s₁ : σ} (hc : Contributes src v s q s₁)
    (hvs : (∃ d r s', d ≤ n ∧ Processed src d vs s₁ r s') ∨
      ∃ s', (expandAll src (resolve src n) vs).on s₁ = (.error .endlessCallback, s')) :
    (∃ d r s', d ≤ n ∧ Processed src d (v :: vs) s r s') ∨
      ∃ s', (expandAll src (resolve src n) (v :: vs)).on s = (.error .endlessCallback, s') := by
  cases q with
  | error f => exact .inl ⟨0, _, _, Nat.zero_le n, .failed hc⟩
  | ok front =>
    obtain ⟨d, r, s', hd, hp⟩ | ⟨s', he⟩ := hvs
    · exact .inl ⟨d, _, s', hd, .passed hc hp⟩
    · exact .inr ⟨s', expandAll_cons_ok (hc.expands _) he⟩

/-- Leaves that cannot be processed without deeper callbacks run out of fuel. -/
theorem processed_or_endless (src : Sources σ) (n : Nat) {vs : List Value}
    (hl : ∀ v ∈ vs, isLeaf v = true) (s : σ) :
    (∃ d r s', d ≤ n ∧ Processed src d vs s r s') ∨
      ∃ s', (expandAll src (resolve src n) vs).on s = (.error .endlessCallback, s') := by
  -- Within a callback's value the fuel is less, behind it the list is shorter.
  induction n generalizing vs s with
  | zero =>
    induction vs generalizing s with
    | nil => exact .inl ⟨0, _, _, Nat.le_refl 0, .done⟩
    | cons v vs ih =>
      obtain ⟨hv, hvs⟩ := List.forall_mem_cons.1 hl
      obtain ⟨unit, function, rfl⟩ | ⟨r, s₁, hc⟩ := leaf_cases src hv s
      · exact .inr ⟨s, expandAll_cons_error rfl vs⟩
      · exact processed_cons hc (ih hvs s₁)
  | succ n ihn =>
    induction vs generalizing s with
    | nil => exact .inl ⟨0, _, _, Nat.zero_le _, .done⟩
    | cons v vs ih =>
      obtain ⟨hv, hvs⟩ := List.forall_mem_cons.1 hl
      obtain ⟨unit, function, rfl⟩ | ⟨r, s₁, hc⟩ := leaf_cases src hv s
      · cases hi : (src.invoke unit function).on s with
        | mk q s₁ =>
          cases q with
          | error f => exact .inl ⟨1, _, _, by omega, .uncalled hi⟩
          | ok v =>
            obtain ⟨d, q, s₂, hd, hp⟩ | ⟨s₂, he⟩ := ihn (isLeaf_leaves v) s₁
            · cases q with
              | error f => exact .inl ⟨d + 1, _, _, by omega, .stopped hi hp⟩
              | ok front =>
                obtain ⟨e, r, s₃, he, hr⟩ | ⟨s₃, he⟩ := ih hvs s₂
                · exact .inl ⟨max (d + 1) e, _, _, by omega, .called hi hp hr⟩
                · exact .inr ⟨s₃, expandAll_cons_ok (expand_callback hi (hp.expands hd)) he⟩
            · exact .inr ⟨s₂, expandAll_cons_error (expand_callback hi he) vs⟩
      · exact processed_cons hc (ih hvs s₁)

end Processing

end Plan

end ThreadTrace
