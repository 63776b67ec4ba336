import Mathlib.Data.Finset.Card
import Mathlib.Data.Finset.Prod
import Mathlib.Order.Interval.Finset.Nat
import ThreadTrace.Proofs.Plan.Leaves
import ThreadTrace.Proofs.World.Mild

namespace ThreadTrace

def ModuleSpec.functions (m : ModuleSpec) : List (String × String) :=
  (m.attributes.filter fun a => match a.2 with
    | .function _ => true
    | .constant _ => false).map fun a => (m.name, a.1)

theorem ModuleSpec.functions_length (m : ModuleSpec) : m.functions.length = m.functionCount := by
  rw [functions, List.length_map]
  rfl

namespace World

variable {w v : World}

def functions (w : World) : List (String × String) := w.modules.flatMap ModuleSpec.functions

theorem functions_length (w : World) : w.functions.length = w.functionCount := by
  have h : ∀ (ms : List ModuleSpec) (n : Nat), ms.foldl (fun n m => n + m.functionCount) n =
      n + (ms.flatMap ModuleSpec.functions).length := by
    intro ms
    induction ms with
    | nil => simp
    | cons m ms ih =>
      intro n
      rw [List.foldl_cons, ih, List.flatMap_cons, List.length_append, m.functions_length,
        Nat.add_assoc]
  rw [functionCount, h, Nat.zero_add, functions]

theorem mem_functions {unit function : String} {m : ModuleSpec} {outcome : Except Fault Value}
    (hm : w.find? unit = some m) (ha : m.attribute? function = some (.function outcome)) :
    (unit, function) ∈ w.functions := by
  obtain ⟨⟨name, a⟩, hfind, rfl⟩ := Option.map_eq_some_iff.1 ha
  have hname : name = function := by simpa using List.find?_some hfind
  have hunit : m.name = unit := by simpa using List.find?_some hm
  subst hname hunit
  refine List.mem_flatMap.2 ⟨m, List.mem_of_find?_eq_some hm, List.mem_map.2 ?_⟩
  exact ⟨_, List.mem_filter.2 ⟨List.mem_of_find?_eq_some hfind, rfl⟩, rfl⟩

theorem Later.length_le (h : w.Later v) :
    w.loaded.length ≤ v.loaded.length ∧ v.loaded.length ≤ w.loaded.length + w.modules.length := by
  obtain ⟨-, ⟨new, hl, hn, hnew⟩, -⟩ := h
  have hle : new.length ≤ (w.modules.map ModuleSpec.name).length :=
    (hn.subperm fun name hname => (hnew name hname).2).length_le
  rw [List.length_map] at hle
  rw [hl, List.length_append]
  omega

theorem Later.agree (h : w.Later v) (hl : v.loaded.length = w.loaded.length) : w.Agree v := by
  obtain ⟨hm, ⟨new, hnew, -, -⟩, hb⟩ := h
  rw [hnew, List.length_append] at hl
  obtain rfl := List.length_eq_zero_iff.1 (Nat.add_eq_left.1 hl)
  exact ⟨hm, by rw [hnew, List.append_nil], hb⟩

end World

theorem leaves_names (names : List String) :
    Plan.leaves (.list (names.map .text)) = names.map .text := by
  rw [Plan.leaves]
  induction names with
  | nil => rfl
  | cons name names ih => simp [Plan.leavesAll, Plan.leaves, ih]

theorem callReserved_leads {m : ModuleSpec} {function : String} {v : Value} {u g : String}
    (h : callReserved w m function = .ok v) : .callback u g ∉ Plan.leaves v := by
  rw [callReserved] at h
  split at h
  · next outcome hr =>
    subst h
    rw [Reserved.call?.eq_def] at hr
    split at hr
    case h_1 =>
      cases hr
      simp [leaves_names]
    case h_2 | h_3 =>
      cases hr
      simp [Plan.leaves]
    all_goals cases hr
  · split at h <;> cases h
  · cases h

theorem callFunction_leads {unit function : String} {w w' : World} {v : Value} {u g : String}
    (h : (callFunction unit function).on w = (.ok v, w')) (hv : .callback u g ∈ Plan.leaves v) :
    (unit, function) ∈ w.functions := by
  rw [callFunction, Act.on_bind, Act.on_get] at h
  cases hm : w.find? unit with
  | none =>
    simp only [hm] at h
    cases h
  | some m =>
    by_cases hl : w.loaded.contains (unit ++ "." ++ function) = true
    · simp only [hm, hl] at h
      cases h
    · cases ha : (if Reserved.isFixed function then none else m.attribute? function) with
      | none =>
        simp only [hm, hl, ha] at h
        exact absurd hv (callReserved_leads (Prod.mk.inj h).1)
      | some a =>
        have hattr : m.attribute? function = some a := by
          by_cases hx : Reserved.isFixed function = true <;> simp [hx] at ha
          exact ha
        cases a with
        | constant c =>
          simp only [hm, hl, ha] at h
          cases h
        | function outcome => exact World.mem_functions hm hattr

theorem callFunction_once (unit function : String) (w : World) :
    ∃ r, (callFunction unit function).on w = (r, w) ∨
      (callFunction unit function).on w =
        (r, { w with calls := w.calls ++ [unit ++ ":" ++ function] }) := by
  rw [callFunction, Act.on_bind, Act.on_get]
  cases hm : w.find? unit with
  | none => exact ⟨_, .inl (by simp only [hm]; rfl)⟩
  | some m =>
    by_cases hl : w.loaded.contains (unit ++ "." ++ function) = true
    · exact ⟨_, .inl (by simp only [hm, hl]; rfl)⟩
    · cases ha : (if Reserved.isFixed function then none else m.attribute? function) with
      | none => exact ⟨_, .inl (by simp only [hm, hl, ha]; rfl)⟩
      | some a =>
        cases a with
        | constant c => exact ⟨_, .inl (by simp only [hm, hl, ha]; rfl)⟩
        | function outcome => exact ⟨_, .inr (by simp only [hm, hl, ha]; rfl)⟩

/-- What a callback comes to. Its module is imported first; only if that is loaded then is the
function called, and once at most. -/
inductive Invoked (unit function : String) (w : World) : Except Fault Value × World → Prop
  | unloaded (f : Fault) (v : World) (h : (importModule unit).on w = (.error f, v))
      (hc : v.calls = w.calls) : Invoked unit function w (.error f, v)
  | uncalled (r : Except Fault Value) (v : World) (h : (importModule unit).on w = (.ok (), v))
      (hl : unit ∈ v.loaded) (hc : v.calls = w.calls) : Invoked unit function w (r, v)
  | called (r : Except Fault Value) (v : World) (h : (importModule unit).on w = (.ok (), v))
      (hl : unit ∈ v.loaded) (hc : v.calls = w.calls) :
      Invoked unit function w (r, { v with calls := v.calls ++ [unit ++ ":" ++ function] })

theorem invoke_invoked (unit function : String) (w : World) :
    Invoked unit function w ((invoke unit function).on w) := by
  rw [invoke, Act.on_bind]
  cases himport : (importModule unit).on w with
  | mk q v =>
    obtain ⟨hc, hl⟩ := importModule_loads himport
    cases q with
    | error f => exact .unloaded f v himport hc
    | ok u =>
      obtain ⟨r, hr | hr⟩ := callFunction_once unit function v
      · simp only [hr]
        exact .uncalled r v himport (hl rfl) hc
      · simp only [hr]
        exact .called r v himport (hl rfl) hc

theorem invoke_leads {unit function : String} {w w' : World} {v : Value} {u g : String}
    (h : (invoke unit function).on w = (.ok v, w')) (hv : .callback u g ∈ Plan.leaves v) :
    (unit, function) ∈ w.functions := by
  obtain ⟨⟨⟩, w₁, himport, hcall⟩ := Act.bind_ok h
  have hm := (importModule_mild unit w).later.modules
  rw [himport] at hm
  have hin := callFunction_leads hcall hv
  rwa [World.functions, hm] at hin

namespace Plan

variable {w w' : World} {r : Except Fault (List Value)} {d : Nat} {vs : List Value}

theorem not_contributes_callback {unit function : String} :
    ¬ Contributes World.sources (.callback unit function) w r w' := by
  intro h
  cases h with
  | itself hv => cases hv

theorem Contributes.expands_mild {v : Value} (h : Contributes World.sources v w r w') :
    w.Later w' ∧ ∀ u q u', w.Agree u → Contributes World.sources v u q u' → q = r ∧ w'.Agree u' := by
  have hm := expand_mild (I := OrdinaryModules) (fun _ _ => .pure []) v w
  have hw := h.expands fun _ _ => pure []
  refine ⟨by simpa [hw] using hm.later, fun u q u' hu hq => ?_⟩
  obtain ⟨hout, hafter⟩ := hm.agrees u hu
  rw [hw, hq.expands fun _ _ => pure []] at hout hafter
  exact ⟨hout, hafter⟩

theorem Processed.later (h : Processed World.sources d vs w r w') : w.Later w' := by
  have hm := expandAll_mild (resolve_mild d) vs w
  have hl := hm.later
  rwa [h.expands (Nat.le_refl d)] at hl

theorem invoke_agree {unit function : String} {x y : Except Fault Value} {w₁ u u₁ : World}
    (h : (World.sources.invoke unit function).on w = (x, w₁)) (hu : w.Agree u)
    (h' : (World.sources.invoke unit function).on u = (y, u₁)) : y = x ∧ w₁.Agree u₁ := by
  have hm := (invoke_mild unit function w).agrees u hu
  change (invoke unit function).on w = _ at h
  change (invoke unit function).on u = _ at h'
  rwa [h, h'] at hm

theorem invoke_later {unit function : String} {x : Except Fault Value} {w₁ : World}
    (h : (World.sources.invoke unit function).on w = (x, w₁)) : w.Later w₁ := by
  have hl := (invoke_mild unit function w).later
  change (invoke unit function).on w = _ at h
  rwa [h] at hl

theorem Processed.agree (h : Processed World.sources d vs w r w') {u u' : World} {e : Nat}
    {q : Except Fault (List Value)} (hu : w.Agree u) (h' : Processed World.sources e vs u q u') :
    e = d ∧ q = r ∧ w'.Agree u' := by
  induction h generalizing u u' e q with
  | done =>
    cases h' with
    | done => exact ⟨rfl, rfl, hu⟩
  | failed h =>
    cases h' with
    | failed h' =>
      obtain ⟨hq, ha⟩ := h.expands_mild.2 _ _ _ hu h'
      exact ⟨rfl, hq, ha⟩
    | passed h' _ => cases (h.expands_mild.2 _ _ _ hu h').1
    | uncalled | stopped | called => exact absurd h not_contributes_callback
  | passed h _ ih =>
    cases h' with
    | failed h' => cases (h.expands_mild.2 _ _ _ hu h').1
    | passed h' rest' =>
      obtain ⟨hq, ha⟩ := h.expands_mild.2 _ _ _ hu h'
      obtain rfl := Except.ok.inj hq
      obtain ⟨rfl, rfl, ha'⟩ := ih ha rest'
      exact ⟨rfl, rfl, ha'⟩
    | uncalled | stopped | called => exact absurd h not_contributes_callback
  | uncalled h =>
    cases h' with
    | failed h' | passed h' => exact absurd h' not_contributes_callback
    | uncalled h' =>
      obtain ⟨hf, ha⟩ := invoke_agree h hu h'
      obtain rfl := Except.error.inj hf
      exact ⟨rfl, rfl, ha⟩
    | stopped h' | called h' => cases (invoke_agree h hu h').1
  | stopped h _ ih =>
    cases h' with
    | failed h' | passed h' => exact absurd h' not_contributes_callback
    | uncalled h' => cases (invoke_agree h hu h').1
    | stopped h' inner' =>
      obtain ⟨hv, ha⟩ := invoke_agree h hu h'
      obtain rfl := Except.ok.inj hv
      obtain ⟨rfl, hf, ha'⟩ := ih ha inner'
      exact ⟨rfl, hf, ha'⟩
    | called h' inner' =>
      obtain ⟨hv, ha⟩ := invoke_agree h hu h'
      obtain rfl := Except.ok.inj hv
      cases (ih ha inner').2.1
  | called h _ _ ih ihr =>
    cases h' with
    | failed h' | passed h' => exact absurd h' not_contributes_callback
    | uncalled h' => cases (invoke_agree h hu h').1
    | stopped h' inner' =>
      obtain ⟨hv, ha⟩ := invoke_agree h hu h'
      obtain rfl := Except.ok.inj hv
      cases (ih ha inner').2.1
    | called h' inner' rest' =>
      obtain ⟨hv, ha⟩ := invoke_agree h hu h'
      obtain rfl := Except.ok.inj hv
      obtain ⟨rfl, hf, ha'⟩ := ih ha inner'
      obtain rfl := Except.ok.inj hf
      obtain ⟨rfl, rfl, ha''⟩ := ihr ha' rest'
      exact ⟨rfl, rfl, ha''⟩

theorem Processed.mem_callback (h : Processed World.sources d vs w r w') (hd : d ≠ 0) :
    ∃ unit function, .callback unit function ∈ vs := by
  induction h with
  | done | failed => exact absurd rfl hd
  | passed _ _ ih =>
    obtain ⟨unit, function, hin⟩ := ih hd
    exact ⟨unit, function, List.mem_cons_of_mem _ hin⟩
  | uncalled | stopped | called => exact ⟨_, _, List.mem_cons_self⟩

/-- Calls under way: each is of a function while so many modules were loaded, and whoever makes it
again with as many loaded needs more than the given depth. -/
def UnderWay (seen : Finset ((String × String) × Nat)) (w : World) (d : Nat) : Prop :=
  ∀ x ∈ seen, ∀ v e q v', w.Later v → v.loaded.length = x.2 →
    Processed World.sources e [.callback x.1.1 x.1.2] v q v' → d < e

theorem UnderWay.mono {seen : Finset ((String × String) × Nat)} {v : World} {e : Nat}
    (h : UnderWay seen w d) (hv : w.Later v) (he : e ≤ d) : UnderWay seen v e := by
  intro x hx u n q u' hu hl hp
  exact Nat.lt_of_le_of_lt he (h x hx u n q u' (hv.trans hu) hl hp)

def callsFrom (w : World) : Finset ((String × String) × Nat) :=
  w.functions.toFinset ×ˢ Finset.Icc w.loaded.length (w.loaded.length + w.modules.length)

/-- One call more is under way while the value of a callback is processed. -/
theorem depth_step {w₀ w₁ : World} {unit function : String} {v : Value} {q : Except Fault (List Value)}
    {seen : Finset ((String × String) × Nat)} (hw : w₀.Later w)
    (h : (World.sources.invoke unit function).on w = (.ok v, w₁))
    (inner : Processed World.sources d (leaves v) w₁ q w')
    (whole : Processed World.sources (d + 1) [.callback unit function] w r w')
    (hseen : UnderWay seen w (d + 1))
    (ih : ∀ seen, UnderWay seen w₁ d → d ≤ (callsFrom w₀ \ seen).card + 1) :
    d + 1 ≤ (callsFrom w₀ \ seen).card + 1 := by
  by_cases hd : d = 0
  · omega
  have hl := invoke_later h
  obtain ⟨u, g, hin⟩ := inner.mem_callback hd
  have hfun := invoke_leads h hin
  -- the same call with no more loaded would be under way inside itself, and deeper than itself
  have hnew : ((unit, function), w.loaded.length) ∉ seen := by
    intro hs
    exact absurd (hseen _ hs w _ _ _ (.refl w) rfl whole) (Nat.lt_irrefl _)
  have hcall : ((unit, function), w.loaded.length) ∈ callsFrom w₀ := by
    refine Finset.mem_product.2 ⟨?_, Finset.mem_Icc.2 hw.length_le⟩
    rw [List.mem_toFinset, World.functions, ← hw.modules]
    exact hfun
  have hunder : UnderWay (insert ((unit, function), w.loaded.length) seen) w₁ d := by
    intro x hx
    rcases Finset.mem_insert.1 hx with rfl | hx
    · intro v' e q' v'' hv hloaded hp
      have heq : v'.loaded.length = w.loaded.length := hloaded
      obtain ⟨rfl, -, -⟩ := whole.agree ((hl.trans hv).agree heq) hp
      exact Nat.lt_succ_self d
    · exact hseen.mono hl (Nat.le_succ d) x hx
  have hle := ih _ hunder
  have hcard : (callsFrom w₀ \ insert ((unit, function), w.loaded.length) seen).card + 1 =
      (callsFrom w₀ \ seen).card := by
    rw [Finset.sdiff_insert]
    exact Finset.card_erase_add_one (Finset.mem_sdiff.2 ⟨hcall, hnew⟩)
  omega

theorem Processed.depth_le {w₀ : World} (h : Processed World.sources d vs w r w')
    (hw : w₀.Later w) {seen : Finset ((String × String) × Nat)} (hseen : UnderWay seen w d) :
    d ≤ (callsFrom w₀ \ seen).card + 1 := by
  induction h generalizing seen with
  | done | failed => exact Nat.zero_le _
  | passed h _ ih => exact ih (hw.trans h.expands_mild.1) (hseen.mono h.expands_mild.1 (Nat.le_refl _))
  | uncalled => omega
  | stopped h inner ih =>
    have hl := invoke_later h
    exact depth_step hw h inner (.stopped h inner) (hseen.mono (.refl _) (Nat.le_refl _))
      fun seen hs => ih (hw.trans hl) hs
  | @called d e unit function vs s v s₁ front s₂ r s₃ h inner rest ih ihr =>
    have hl := invoke_later h
    have hi := depth_step hw h inner (r := .ok (front ++ [])) (.called h inner .done)
      (hseen.mono (.refl _) (Nat.le_max_left _ _)) fun seen hs => ih (hw.trans hl) hs
    have hr := ihr (hw.trans (hl.trans inner.later))
      (hseen.mono (hl.trans inner.later) (Nat.le_max_right _ _))
    exact Nat.max_le.2 ⟨hi, hr⟩

/-- A world's bound on the depth of callbacks. -/
theorem Processed.depth_le_callbackDepth (h : Processed World.sources d vs w r w') :
    d ≤ w.callbackDepth := by
  have hnone : UnderWay ∅ w d := by simp [UnderWay]
  have hle := h.depth_le (.refl w) hnone
  have hcard : (callsFrom w \ ∅).card ≤ w.functionCount * (w.modules.length + 1) := by
    rw [Finset.sdiff_empty, callsFrom, Finset.card_product, Nat.card_Icc]
    refine Nat.mul_le_mul ?_ (by omega)
    rw [← w.functions_length]
    exact List.toFinset_card_le w.functions
  rw [World.callbackDepth]
  omega

theorem flatten_on (items : List Value) (w : World) :
    (flatten items).on w = (flattenWith World.sources w.callbackDepth items).on w := rfl

theorem flattenWith_append {σ : Type} (src : Sources σ) (n : Nat) (xs ys : List Value) :
    flattenWith src n (xs ++ ys) = (do
      let front ← flattenWith src n xs
      return front ++ (← flattenWith src n ys)) := expandAll_append src xs ys

theorem flattenWith_of_leaves {σ : Type} (src : Sources σ) (n : Nat) {xs ys : List Value}
    (h : leavesAll xs = leavesAll ys) : flattenWith src n xs = flattenWith src n ys := by
  rw [flattenWith, ← expandAll_leavesAll, h, expandAll_leavesAll, flattenWith]

theorem flatten_append (xs ys : List Value) (w : World) :
    (flatten (xs ++ ys)).on w = (do
      let front ← flatten xs
      return front ++ (← flatten ys)).on w := by
  have hm : ((flattenWith World.sources w.callbackDepth xs).on w).2.modules = w.modules :=
    (expandAll_mild (resolve_mild w.callbackDepth) xs w).later.modules
  rw [flatten_on, flattenWith_append, Act.on_bind, Act.on_bind, flatten_on]
  cases hx : (flattenWith World.sources w.callbackDepth xs).on w with
  | mk q w₁ =>
    rw [hx] at hm
    cases q with
    | error f => rfl
    | ok front =>
      have hd : w₁.callbackDepth = w.callbackDepth := World.callbackDepth_of_modules hm
      simp only [Act.on_bind, flatten_on, hd]

/-- Flattening processes the leaves of a request one after another: each bundle and each callback where
it stands, once, up to the first leaf that fails. Whatever it reads from, it does so with every fuel
that the depth of callbacks does not exceed, and in a world with the fuel that it takes; with less it
runs out. So requests can be cut in two, and their nesting cannot be seen. A callback of the world is
imported before it is called. -/
theorem flatten_processes :
    (∀ (σ : Type) (src : Sources σ) (d n : Nat) (items : List Value) (s t : σ)
        (r : Except Fault (List Value)), Processed src d (leavesAll items) s r t → d ≤ n →
      (flattenWith src n items).on s = (r, t)) ∧
    (∀ (d : Nat) (items : List Value) (w v : World) (r : Except Fault (List Value)),
      Processed World.sources d (leavesAll items) w r v → (flatten items).on w = (r, v)) ∧
    (∀ (σ : Type) (src : Sources σ) (n : Nat) (items : List Value) (s : σ),
      (∃ d r t, d ≤ n ∧ Processed src d (leavesAll items) s r t) ∨
        ∃ t, (flattenWith src n items).on s = (.error .endlessCallback, t)) ∧
    (∀ (σ : Type) (src : Sources σ) (n : Nat) (xs ys : List Value),
      flattenWith src n (xs ++ ys) = do
        let front ← flattenWith src n xs
        return front ++ (← flattenWith src n ys)) ∧
    (∀ (xs ys : List Value) (w : World), (flatten (xs ++ ys)).on w = (do
      let front ← flatten xs
      return front ++ (← flatten ys)).on w) ∧
    (∀ (σ : Type) (src : Sources σ) (n : Nat) (xs ys : List Value),
      leavesAll xs = leavesAll ys → flattenWith src n xs = flattenWith src n ys) ∧
    (∀ xs ys : List Value, leavesAll xs = leavesAll ys → flatten xs = flatten ys) ∧
    ∀ (unit function : String) (w : World),
      Invoked unit function w ((World.sources.invoke unit function).on w) := by
  refine ⟨fun σ src d n items s t r h => h.flattens, fun d items w v r h => ?_,
    fun σ src n items s => ?_, fun σ src => flattenWith_append src, flatten_append,
    fun σ src n xs ys => flattenWith_of_leaves src n, fun xs ys h => ?_, invoke_invoked⟩
  · rw [flatten_on]
    exact h.flattens h.depth_le_callbackDepth
  · rw [flattenWith, ← expandAll_leavesAll]
    exact processed_or_endless src n (isLeaf_leavesAll items) s
  · simp only [flatten, flattenWith_of_leaves World.sources _ h]

def called : World := { station with loaded := ["m"], imports := ["m"], calls := ["m:f"] }

def nested : List Value := [.tuple [.text "a", .callback "m" "f"], .app "z"]

theorem flatten_processes_nested :
    ∃ w, w.imports = ["m"] ∧ w.calls = ["m:f"] ∧ w.notices = [.bundleMissing "z"] ∧
      (flatten nested).on station = (.ok [.text "a", .text "x", .text "y", .text "n"], w) ∧
      (flattenWith World.sources 1 nested).on station = (flatten nested).on station ∧
      flatten nested = flatten [.text "a", .callback "m" "f", .app "z"] := by
  obtain ⟨hwith, hworld, -, -, -, -, hleaves, -⟩ := flatten_processes
  have inner : Processed World.sources 0 (leaves (.tuple [.app "b", .moduleObject "n" 0]))
      called _ called :=
    .passed (.known (r := .ok ["x", "y"]) rfl rfl) (.passed .named .done)
  have rest : Processed World.sources 0 [.app "z"] called _ _ :=
    .passed (.absent (r := .ok []) rfl rfl) .done
  have hp : Processed World.sources 1 (leavesAll nested) station _ _ :=
    .passed (.itself rfl) (.called rfl inner rest)
  refine ⟨_, ?_, ?_, ?_, hworld 1 nested station _ _ hp, ?_, hleaves _ _ rfl⟩
  · rfl
  · rfl
  · rfl
  · rw [hworld 1 nested station _ _ hp]
    exact hwith World World.sources 1 1 nested station _ _ hp (Nat.le_refl 1)

end Plan

end ThreadTrace
