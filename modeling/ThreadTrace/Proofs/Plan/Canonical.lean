import ThreadTrace.Plan.Normal

namespace ThreadTrace

def Act.Gives {σ α : Type} (P : α → Prop) (act : Act σ α) : Prop :=
  ∀ s a t, act.on s = (.ok a, t) → P a

namespace Act.Gives

variable {σ α β : Type} {P : α → Prop} {Q : β → Prop}

theorem pure {a : α} (ha : P a) : Gives P (Pure.pure a : Act σ α) := by
  rintro s b t ⟨⟩
  exact ha

theorem throw (f : Fault) : Gives P (MonadExcept.throw f : Act σ α) := by
  rintro s b t ⟨⟩

theorem bind {act : Act σ α} {g : α → Act σ β} (ha : Gives P act)
    (hg : ∀ a, P a → Gives Q (g a)) : Gives Q (act >>= g) := by
  intro s b t h
  obtain ⟨a, s₁, hs, hb⟩ := Act.bind_ok h
  exact hg a (ha s a s₁ hs) s₁ b t hb

theorem after {act : Act σ α} {g : α → Act σ β} (hg : ∀ a, Gives Q (g a)) : Gives Q (act >>= g) :=
  bind (P := fun _ => True) (fun _ _ _ _ => trivial) fun a _ => hg a

end Act.Gives

namespace Plan

open Act (Gives)

/-- Entries that flattening keeps. -/
def isStatic : Value → Bool
  | .app _ | .callback .. | .list _ | .tuple _ | .store .. | .moduleObject .. => false
  | _ => true

def Flat (entries : List Value) : Prop := ∀ e ∈ entries, isStatic e = true

section

variable {entries front rest : List Value} {e : Value}

theorem Flat.nil : Flat [] := by simp [Flat]

theorem Flat.append (hf : Flat front) (hr : Flat rest) : Flat (front ++ rest) := by
  intro e he
  exact (List.mem_append.1 he).elim (hf e) (hr e)

theorem Flat.cons (he : isStatic e = true) (hr : Flat rest) : Flat (e :: rest) :=
  List.forall_mem_cons.2 ⟨he, hr⟩

theorem Flat.map {α : Type} {f : α → Value} (hf : ∀ x, isStatic (f x) = true) (xs : List α) :
    Flat (xs.map f) := by
  intro e he
  obtain ⟨x, -, rfl⟩ := List.mem_map.1 he
  exact hf x

end

section Flattening

variable {σ : Type} (src : Sources σ) {callback : String → String → Act σ (List Value)}

mutual

theorem expand_flat (hc : ∀ unit function, Gives Flat (callback unit function)) :
    ∀ v : Value, Gives Flat (expand src callback v)
  | .app name => by
    have rest : Gives Flat (do return (← src.units name).map .text : Act σ (List Value)) :=
      .after fun units => .pure (Flat.map (fun _ => rfl) units)
    refine .after fun known => ?_
    cases known
    · exact .after fun _ => rest
    · exact rest
  | .callback unit function => hc unit function
  | .list items | .tuple items => expandAll_flat hc items
  | .store _ events => .pure (Flat.map (fun _ => rfl) events)
  | .moduleObject name _ => .pure (.cons rfl .nil)
  | .null | .bool _ | .int _ | .float _ | .nan _ | .text _ | .bytes _ | .dict _ | .selector _
  | .thread _ | .sealed .. | .scope _ | .port _ | .options .. | .event _ | .console _
  | .workshop .. => .pure (.cons rfl .nil)

theorem expandAll_flat (hc : ∀ unit function, Gives Flat (callback unit function)) :
    ∀ items : List Value, Gives Flat (expandAll src callback items)
  | [] => .pure .nil
  | x :: xs => (expand_flat hc x).bind fun _ hf =>
      (expandAll_flat hc xs).bind fun _ hr => .pure (hf.append hr)

end

theorem resolve_flat (fuel : Nat) (unit function : String) :
    Gives Flat (resolve src fuel unit function) := by
  induction fuel generalizing unit function with
  | zero => exact .throw _
  | succ fuel ih => exact .after fun v => expandAll_flat src ih (itemsOf v)

theorem flattenWith_flat (fuel : Nat) (items : List Value) :
    Gives Flat (flattenWith src fuel items) := expandAll_flat src (resolve_flat src fuel) items

theorem expand_static {e : Value} (he : isStatic e = true) : expand src callback e = pure [e] := by
  cases e <;> first | rfl | cases he

theorem expandAll_of_flat {entries : List Value} (h : Flat entries) :
    expandAll src callback entries = pure entries := by
  induction entries with
  | nil => rfl
  | cons e entries ih =>
    obtain ⟨he, hr⟩ := List.forall_mem_cons.1 h
    rw [expandAll, expand_static src he, ih hr, pure_bind, pure_bind]
    rfl

theorem expandAll_singleton (v : Value) : expandAll src callback [v] = expand src callback v := by
  simp [expandAll]

theorem expandAll_itemsOf (v : Value) :
    expandAll src callback (itemsOf v) = expandAll src callback [v] := by
  rw [expandAll_singleton]
  cases v with
  | list items | tuple items => rfl
  | store name events =>
    exact expandAll_of_flat src (Flat.map (fun _ => rfl) events)
  | _ => exact expandAll_singleton src _

end Flattening

def defaultScope : Value := .scope [.selector .processes]

section Defaults

variable {f : List Value}

theorem ensurePattern_of_pattern (h : ∃ e ∈ f, Entry.isScope e = false) : ensurePattern f = f := by
  obtain ⟨e, he, hs⟩ := h
  have hall : f.all Entry.isScope ≠ true := by
    intro ha
    have hyes := List.all_eq_true.1 ha e he
    rw [hs] at hyes
    cases hyes
  exact if_neg hall

theorem ensurePattern_of_scopes (h : ∀ e ∈ f, Entry.isScope e = true) :
    ensurePattern f = .text Entry.wildcard :: f := if_pos (List.all_eq_true.2 h)

theorem ensureScope_of_scope (h : ∃ e ∈ f, Entry.isScope e = true) : ensureScope f = f :=
  if_pos (List.any_eq_true.2 h)

theorem ensureScope_of_patterns (h : ∀ e ∈ f, Entry.isScope e = false) :
    ensureScope f = defaultScope :: f := by
  have hany : f.any Entry.isScope ≠ true := by
    intro ha
    obtain ⟨e, he, hyes⟩ := List.any_eq_true.1 ha
    rw [h e he] at hyes
    cases hyes
  exact if_neg hany

end Defaults

/-- What the defaults make of flat entries, by whether there are scopes and others among them. -/
inductive Completed : List Value → List Value → Prop
  | both {f} (hs : ∃ e ∈ f, Entry.isScope e = true) (hp : ∃ e ∈ f, Entry.isScope e = false) :
      Completed f f
  | scopes {f} (hne : f ≠ []) (hs : ∀ e ∈ f, Entry.isScope e = true) :
      Completed f (.text Entry.wildcard :: f)
  | patterns {f} (hne : f ≠ []) (hp : ∀ e ∈ f, Entry.isScope e = false) :
      Completed f (defaultScope :: f)
  | empty : Completed [] [defaultScope, .text Entry.wildcard]

theorem completed (f : List Value) : Completed f (ensureScope (ensurePattern f)) := by
  by_cases hs : ∃ e ∈ f, Entry.isScope e = true
  · by_cases hp : ∃ e ∈ f, Entry.isScope e = false
    · rw [ensurePattern_of_pattern hp, ensureScope_of_scope hs]
      exact .both hs hp
    · have hall : ∀ e ∈ f, Entry.isScope e = true := by
        intro e he
        cases h : Entry.isScope e with
        | true => rfl
        | false => exact absurd ⟨e, he, h⟩ hp
      obtain ⟨e, he, hse⟩ := hs
      rw [ensurePattern_of_scopes hall, ensureScope_of_scope ⟨e, List.mem_cons_of_mem _ he, hse⟩]
      exact .scopes (List.ne_nil_of_mem he) hall
  · have hno : ∀ e ∈ f, Entry.isScope e = false := by
      intro e he
      cases h : Entry.isScope e with
      | true => exact absurd ⟨e, he, h⟩ hs
      | false => rfl
    cases f with
    | nil => exact .empty
    | cons e f =>
      rw [ensurePattern_of_pattern ⟨e, List.mem_cons_self, hno e List.mem_cons_self⟩,
        ensureScope_of_patterns hno]
      exact .patterns (List.cons_ne_nil e f) hno

/-- A plan that can be applied: flat, with a scope and a pattern. -/
structure Canonical (r : List Value) : Prop where
  scope : ∃ e ∈ r, Entry.isScope e = true
  pattern : ∃ e ∈ r, Entry.isScope e = false
  flat : Flat r

theorem Completed.canonical {f r : List Value} (h : Completed f r) (hf : Flat f) : Canonical r := by
  cases h with
  | both hs hp => exact ⟨hs, hp, hf⟩
  | scopes hne hs =>
    obtain ⟨e, he⟩ := List.exists_mem_of_ne_nil f hne
    exact ⟨⟨e, List.mem_cons_of_mem _ he, hs e he⟩, ⟨_, List.mem_cons_self, rfl⟩, .cons rfl hf⟩
  | patterns hne hp =>
    obtain ⟨e, he⟩ := List.exists_mem_of_ne_nil f hne
    exact ⟨⟨_, List.mem_cons_self, rfl⟩, ⟨e, List.mem_cons_of_mem _ he, hp e he⟩, .cons rfl hf⟩
  | empty =>
    exact ⟨⟨defaultScope, by simp, rfl⟩, ⟨.text Entry.wildcard, by simp, rfl⟩,
      .cons rfl (.cons rfl .nil)⟩

theorem Canonical.completed {r : List Value} (h : Canonical r) :
    ensureScope (ensurePattern r) = r := by
  rw [ensurePattern_of_pattern h.pattern, ensureScope_of_scope h.scope]

section Normalizing

variable {σ : Type} (src : Sources σ)

theorem normalizeWith_singleton (fuel : Nat) (v : Value) :
    normalizeWith src fuel v = normalizeWith src fuel (.list [v]) := by
  rw [normalizeWith, flattenWith, expandAll_itemsOf]
  rfl

/-- A canonical plan is its own canonical plan, and nothing is asked for. -/
theorem normalizeWith_of_canonical {r : List Value} (h : Canonical r) (fuel : Nat) :
    normalizeWith src fuel (.list r) = pure r := by
  rw [normalizeWith, flattenWith]
  change (expandAll src _ r >>= _) = _
  rw [expandAll_of_flat src h.flat, pure_bind, h.completed]

theorem normalizeWith_ok {fuel : Nat} {request : Value} {s t : σ} {r : List Value}
    (h : (normalizeWith src fuel request).on s = (.ok r, t)) :
    ∃ f, (flattenWith src fuel (itemsOf request)).on s = (.ok f, t) ∧ Completed f r ∧
      Canonical r := by
  obtain ⟨f, t', hf, hr⟩ := Act.bind_ok h
  obtain ⟨rfl, rfl⟩ : ensureScope (ensurePattern f) = r ∧ t' = t := by simpa using hr
  have hc := completed f
  exact ⟨f, hf, hc, hc.canonical (flattenWith_flat src fuel _ s f t' hf)⟩

end Normalizing

/-- Normalizing, whatever it reads from, gives a canonical plan, which is the flattened request with
the defaults that it lacks; a canonical plan stays as it is and nothing is read or done for it; and a
bare entry is a list of it alone. -/
theorem normalize_canonical :
    (∀ (σ : Type) (src : Sources σ) (fuel : Nat) (request : Value) (s t : σ) (r : List Value),
      (normalizeWith src fuel request).on s = (.ok r, t) →
        (∃ f, (flattenWith src fuel (itemsOf request)).on s = (.ok f, t) ∧ Completed f r) ∧
        Canonical r ∧
        ∀ (τ : Type) (other : Sources τ) (m : Nat) (u : τ),
          (normalizeWith other m (.list r)).on u = (.ok r, u)) ∧
    (∀ (request : Value) (w v : World) (r : List Value),
      (normalize request).on w = (.ok r, v) →
        (∃ f, (flatten (itemsOf request)).on w = (.ok f, v) ∧ Completed f r) ∧ Canonical r ∧
        ∀ u : World, (normalize (.list r)).on u = (.ok r, u)) ∧
    (∀ (σ : Type) (src : Sources σ) (fuel : Nat) (x : Value),
      normalizeWith src fuel x = normalizeWith src fuel (.list [x])) ∧
    ∀ x : Value, normalize x = normalize (.list [x]) := by
  refine ⟨?_, ?_, fun σ src => normalizeWith_singleton src, fun x => ?_⟩
  · intro σ src fuel request s t r h
    obtain ⟨f, hf, hr, hc⟩ := normalizeWith_ok src h
    refine ⟨⟨f, hf, hr⟩, hc, fun τ other m u => ?_⟩
    rw [normalizeWith_of_canonical other hc m, Act.on_pure]
  · intro request w v r h
    obtain ⟨f, hf, hr, hc⟩ := normalizeWith_ok World.sources h
    refine ⟨⟨f, hf, hr⟩, hc, fun u => ?_⟩
    rw [normalize, Act.on_bind, Act.on_get]
    simp only [normalizeWith_of_canonical World.sources hc, Act.on_pure]
  · simp only [normalize, normalizeWith_singleton World.sources _ x]

def station : World where
  modules := [
    { name := "m"
      isPackage := false
      body := none
      attributes := [("f", .function (.ok (.tuple [.app "b", .moduleObject "n" 0])))] }]
  bundles := .declared [("b", ["x", "y"])]

theorem normalize_canonical_callback :
    ∃ r w, r = [defaultScope, .text "x", .text "y", .text "n"] ∧ w.calls = ["m:f"] ∧
      (normalize (.callback "m" "f")).on station = (.ok r, w) ∧ Canonical r ∧
      (∀ u : World, (normalize (.list r)).on u = (.ok r, u)) ∧
      ∀ (m : Nat) (u : World), (normalizeWith World.sources m (.list r)).on u = (.ok r, u) := by
  obtain ⟨hwith, hworld, -, -⟩ := normalize_canonical
  refine ⟨_, _, rfl, ?_, rfl, ?_⟩
  · rfl
  · obtain ⟨-, hc, hagain⟩ := hworld (.callback "m" "f") station _ _ rfl
    obtain ⟨-, -, hother⟩ := hwith World World.sources 1 (.callback "m" "f") station _ _ rfl
    exact ⟨hc, hagain, fun m u => hother World World.sources m u⟩

end Plan

end ThreadTrace
