import ThreadTrace.Proofs.Plan.Depth

namespace ThreadTrace

namespace BundleSource

/-- What a source has under a name: modules, nothing, or a fault. -/
def lookup (s : BundleSource) (name : String) : Except Fault (Option (List String)) :=
  match s with
  | declared bundles => .ok (bundles.get? name)
  | installed ds found => (answer ds found name).map fun d => d.map (·.units)

def modules? (s : BundleSource) (name : String) : Option (List String) :=
  (s.lookup name).toOption.join

/-- Whether a source fails when it is asked for a name. -/
def Declines (s : BundleSource) (name : String) : Prop := s.lookup name = .error .emptyBundleName

variable {s s' : BundleSource} {name : String}

theorem Same.lookup (h : s.Same s') : s'.lookup = s.lookup := by
  funext name
  cases h with
  | declared => rfl
  | installed h => rw [BundleSource.lookup, BundleSource.lookup, h]

theorem Same.modules (h : s.Same s') : s'.modules? = s.modules? := by
  funext name
  rw [modules?, modules?, h.lookup]

theorem declines_iff : s.Declines name ↔
    name = "" ∧ ∃ ds found, s = installed ds found ∧ found.get? "" = none := by
  cases s with
  | declared bundles => simp [Declines, lookup]
  | installed ds found =>
    simp only [Declines, lookup, answer]
    constructor
    · intro h
      cases hf : found.get? name with
      | some d => simp [hf, Except.map] at h
      | none =>
        by_cases he : name = ""
        · subst he
          exact ⟨rfl, ds, found, rfl, hf⟩
        · simp [hf, he, Except.map] at h
    · rintro ⟨rfl, ds', found', he, hf⟩
      cases he
      simp [hf, Except.map]

theorem lookup_of_not_declines (h : ¬s.Declines name) : s.lookup name = .ok (s.modules? name) := by
  cases hl : s.lookup name with
  | ok us => simp [modules?, hl, Except.toOption]
  | error f =>
    refine absurd ?_ h
    cases s with
    | declared bundles => cases hl
    | installed ds found =>
      rw [Declines, hl]
      simp only [lookup, answer] at hl
      split at hl
      · cases hl
      · split at hl
        · exact hl.symm
        · cases hl

theorem load_eq (s : BundleSource) (name : String) :
    ∃ s', s.Same s' ∧ s.load name = (s.lookup name).map fun us => (us.isSome, s') := by
  cases s with
  | declared bundles =>
    refine ⟨_, .refl _, ?_⟩
    cases hg : bundles.get? name with
    | none => simp [load, lookup, hg, (Table.get?_eq_none bundles name).1 hg, Except.map]
    | some us =>
      have hh : bundles.has name = true := by
        by_contra hn
        rw [(Table.get?_eq_none bundles name).2 (by simpa using hn)] at hg
        cases hg
      simp [load, lookup, hg, hh, Except.map]
  | installed ds found =>
    obtain ⟨found', hs, hl, -⟩ := load_installed ds found name
    refine ⟨_, .installed hs, ?_⟩
    rw [hl, lookup]
    cases answer ds found name with
    | error f => rfl
    | ok d => cases d <;> rfl

theorem units_eq (s : BundleSource) (name : String) :
    ∃ s', s.Same s' ∧ s.units name = (s.lookup name).map fun us => (us.getD [], s') := by
  cases s with
  | declared bundles => exact ⟨_, .refl _, rfl⟩
  | installed ds found =>
    obtain ⟨found', hs, hl, hd⟩ := load_installed ds found name
    refine ⟨_, .installed hs, ?_⟩
    rw [units, hl, lookup]
    cases ha : answer ds found name with
    | error f => rfl
    | ok d => simp [Except.map, bind, Except.bind, hd d ha]

def entriesOf (s : BundleSource) : Value → List Value
  | .app name => ((s.modules? name).getD []).map .text
  | .moduleObject name _ => [.text name]
  | v => [v]

def noticesOf (s : BundleSource) : Value → List Notice
  | .app name => if (s.modules? name).isNone then [.bundleMissing name] else []
  | _ => []

/-- Whether a request does not get past a leaf. -/
def Balks (s : BundleSource) : Value → Prop
  | .app name => s.Declines name
  | _ => False

theorem Same.entriesOf (h : s.Same s') : s'.entriesOf = s.entriesOf := by
  funext v
  cases v <;> simp only [BundleSource.entriesOf, h.modules]

theorem Same.noticesOf (h : s.Same s') : s'.noticesOf = s.noticesOf := by
  funext v
  cases v <;> simp only [BundleSource.noticesOf, h.modules]

theorem Same.balks (h : s.Same s') : s'.Balks = s.Balks := by
  funext v
  cases v <;> simp only [Balks, Declines, h.lookup]

theorem missing_of_noticed {v : Value} (h : s.noticesOf v ≠ []) :
    ∃ name, v = .app name ∧ s.modules? name = none ∧ s.noticesOf v = [.bundleMissing name] ∧
      s.entriesOf v = [] := by
  cases v with
  | app name =>
    cases hm : s.modules? name with
    | none => exact ⟨name, rfl, hm, by simp [noticesOf, hm], by simp [BundleSource.entriesOf, hm]⟩
    | some us => simp [noticesOf, hm] at h
  | _ => exact absurd rfl h

/-- Leaves without the bundles that are missing. -/
def present (s : BundleSource) (vs : List Value) : List Value :=
  vs.filter fun v => (s.noticesOf v).isEmpty

theorem entries_present (s : BundleSource) (vs : List Value) :
    (s.present vs).flatMap s.entriesOf = vs.flatMap s.entriesOf := by
  induction vs with
  | nil => rfl
  | cons v vs ih =>
    rw [present, List.filter_cons]
    cases hn : (s.noticesOf v).isEmpty with
    | true =>
      rw [if_pos rfl, List.flatMap_cons, List.flatMap_cons, ← ih]
      rfl
    | false =>
      obtain ⟨name, -, -, -, he⟩ := missing_of_noticed (s := s) (v := v) (by simpa using hn)
      rw [if_neg (by simp), List.flatMap_cons, he, List.nil_append, ← ih]
      rfl

theorem notices_present (s : BundleSource) (vs : List Value) :
    (s.present vs).flatMap s.noticesOf = [] := by
  rw [List.flatMap_eq_nil_iff]
  intro v hv
  simpa using (List.mem_filter.1 hv).2

end BundleSource

def World.asked (w : World) (bundles : BundleSource) (notices : List Notice) : World :=
  { w with bundles, notices := w.notices ++ notices }

namespace Plan

variable (callback : String → String → Act World (List Value)) {w : World} {v : Value}
  {vs : List Value}

def IsCallback : Value → Prop
  | .callback .. => True
  | _ => False

theorem expand_balked (h : w.bundles.Balks v) :
    (expand World.sources callback v).on w = (.error .emptyBundleName, w) := by
  cases v with
  | app name =>
    obtain ⟨b, -, hl⟩ := w.bundles.load_eq name
    rw [show w.bundles.lookup name = .error .emptyBundleName from h] at hl
    simp [expand, World.sources, loadBundle, hl, Except.map]
  | _ => exact h.elim

theorem expand_asked (hl : isLeaf v = true) (hc : ¬IsCallback v) (h : ¬w.bundles.Balks v) :
    ∃ b, w.bundles.Same b ∧ (expand World.sources callback v).on w =
      (.ok (w.bundles.entriesOf v), w.asked b (w.bundles.noticesOf v)) := by
  cases v with
  | list | tuple | store => cases hl
  | callback unit function => exact absurd trivial hc
  | app name =>
    have hm := BundleSource.lookup_of_not_declines h
    obtain ⟨b, hb, hload⟩ := w.bundles.load_eq name
    obtain ⟨b', hb', hunits⟩ := b.units_eq name
    rw [hb.lookup] at hunits
    rw [hm] at hload hunits
    refine ⟨b', hb.trans hb', ?_⟩
    cases hu : w.bundles.modules? name with
    | some us =>
      simp [expand, World.sources, loadBundle, bundleUnits, hload, hunits, hu, Except.map,
        BundleSource.entriesOf, BundleSource.noticesOf, World.asked]
    | none =>
      simp [expand, World.sources, loadBundle, bundleUnits, hload, hunits, hu, Except.map,
        BundleSource.entriesOf, BundleSource.noticesOf, World.asked]
  | _ =>
    refine ⟨_, .refl _, ?_⟩
    simp [expand, BundleSource.entriesOf, BundleSource.noticesOf, World.asked]

/-- Leaves are gone through in order, and each is answered as if it were the first. -/
theorem expandAll_asked (hl : ∀ v ∈ vs, isLeaf v = true) (hc : ∀ v ∈ vs, ¬IsCallback v)
    (h : ∀ v ∈ vs, ¬w.bundles.Balks v) :
    ∃ b, w.bundles.Same b ∧ (expandAll World.sources callback vs).on w =
      (.ok (vs.flatMap w.bundles.entriesOf), w.asked b (vs.flatMap w.bundles.noticesOf)) := by
  induction vs generalizing w with
  | nil => exact ⟨_, .refl _, by simp [expandAll, World.asked]⟩
  | cons v vs ih =>
    rw [List.forall_mem_cons] at hl hc h
    obtain ⟨b, hb, he⟩ := expand_asked callback hl.1 hc.1 h.1
    have hrest : ∀ v ∈ vs, ¬(w.asked b (w.bundles.noticesOf v)).bundles.Balks v := by
      intro v hv
      change ¬b.Balks v
      rw [hb.balks]
      exact h.2 v hv
    obtain ⟨b', hb', he'⟩ := ih (w := w.asked b (w.bundles.noticesOf v)) hl.2 hc.2 hrest
    change b.Same b' at hb'
    refine ⟨b', hb.trans hb', ?_⟩
    rw [expandAll_cons_ok he he']
    simp [World.asked, Except.map, hb.entriesOf, hb.noticesOf]

theorem expandAll_balked {front : List Value} (rest : List Value)
    (hl : ∀ v ∈ front, isLeaf v = true) (hc : ∀ v ∈ front, ¬IsCallback v)
    (h : ∀ v ∈ front, ¬w.bundles.Balks v) (hv : w.bundles.Balks v) :
    ∃ b, w.bundles.Same b ∧ (expandAll World.sources callback (front ++ v :: rest)).on w =
      (.error .emptyBundleName, w.asked b (front.flatMap w.bundles.noticesOf)) := by
  obtain ⟨b, hb, he⟩ := expandAll_asked callback hl hc h
  refine ⟨b, hb, ?_⟩
  have hv' : (w.asked b (front.flatMap w.bundles.noticesOf)).bundles.Balks v := by
    change b.Balks v
    rw [hb.balks]
    exact hv
  rw [expandAll_append, Act.on_bind, he]
  dsimp only
  rw [Act.on_bind, expandAll_cons_error (expand_balked callback hv')]

theorem flatten_itemsOf (request : Value) (w : World) : (flatten (itemsOf request)).on w =
    (expandAll World.sources (resolve World.sources w.callbackDepth) (leaves request)).on w := by
  rw [flatten_on, flattenWith, ← expandAll_leavesAll, leavesAll_itemsOf]

theorem normalize_of_flatten {request : Value} {u : World} {r : Except Fault (List Value)}
    (h : (flatten (itemsOf request)).on w = (r, u)) :
    (normalize request).on w = (r.map fun f => ensureScope (ensurePattern f), u) := by
  rw [flatten_on] at h
  rw [normalize, Act.on_bind, Act.on_get]
  dsimp only
  rw [normalizeWith, Act.on_bind, h]
  cases r <;> rfl

/-- A request without callbacks stands for its leaves in order, with one report for each bundle that
is missing and nothing else of it, as if it had not been asked for. It fails only at the empty name,
if a source of installed distributions is asked for it; what stands in front is reported before. -/
theorem missing_tolerated (w : World) (request : Value)
    (hc : ∀ v ∈ leaves request, ¬IsCallback v) :
    let s := w.bundles
    let vs := leaves request
    let entries := vs.flatMap s.entriesOf
    ((∀ v ∈ vs, ¬s.Balks v) →
      (∃ b, s.Same b ∧
        (flatten (itemsOf request)).on w = (.ok entries, w.asked b (vs.flatMap s.noticesOf)) ∧
        (normalize request).on w =
          (.ok (ensureScope (ensurePattern entries)), w.asked b (vs.flatMap s.noticesOf))) ∧
      ∀ without, leaves without = s.present vs → ∃ b, s.Same b ∧
        (flatten (itemsOf without)).on w = (.ok entries, w.asked b []) ∧
        (normalize without).on w = (.ok (ensureScope (ensurePattern entries)), w.asked b [])) ∧
    (∀ front v rest, vs = front ++ v :: rest → (∀ u ∈ front, ¬s.Balks u) → s.Balks v →
      ∃ b, s.Same b ∧
        (flatten (itemsOf request)).on w =
          (.error .emptyBundleName, w.asked b (front.flatMap s.noticesOf)) ∧
        (normalize request).on w =
          (.error .emptyBundleName, w.asked b (front.flatMap s.noticesOf))) ∧
    ∀ v, s.Balks v ↔
      v = .app "" ∧ ∃ ds found, s = .installed ds found ∧ found.get? "" = none := by
  intro s vs entries
  have hl : ∀ v ∈ vs, isLeaf v = true := isLeaf_leaves request
  -- for the request and for the one without the missing bundles at once
  have answered : ∀ r us, leaves r = us → (∀ v ∈ us, v ∈ vs) → (∀ v ∈ us, ¬s.Balks v) →
      ∃ b, s.Same b ∧
        (flatten (itemsOf r)).on w =
          (.ok (us.flatMap s.entriesOf), w.asked b (us.flatMap s.noticesOf)) ∧
        (normalize r).on w = (.ok (ensureScope (ensurePattern (us.flatMap s.entriesOf))),
          w.asked b (us.flatMap s.noticesOf)) := by
    rintro r us rfl hsub hb
    obtain ⟨b, hs, he⟩ := expandAll_asked (resolve World.sources w.callbackDepth)
      (fun v hv => hl v (hsub v hv)) (fun v hv => hc v (hsub v hv)) hb
    rw [← flatten_itemsOf] at he
    exact ⟨b, hs, he, normalize_of_flatten he⟩
  refine ⟨fun hb => ⟨answered request vs rfl (fun _ hv => hv) hb, fun without hw => ?_⟩, ?_, ?_⟩
  · have hsub : ∀ v ∈ s.present vs, v ∈ vs := fun v hv => (List.mem_filter.1 hv).1
    have h := answered without _ hw hsub fun v hv => hb v (hsub v hv)
    rw [s.entries_present, s.notices_present] at h
    exact h
  · intro front v rest hvs hb hv
    have hsub : ∀ u ∈ front, u ∈ vs := fun u hu => hvs ▸ List.mem_append_left _ hu
    obtain ⟨b, hs, he⟩ := expandAll_balked (resolve World.sources w.callbackDepth) rest
      (fun u hu => hl u (hsub u hu)) (fun u hu => hc u (hsub u hu)) hb hv
    rw [← hvs, ← flatten_itemsOf] at he
    exact ⟨b, hs, he, normalize_of_flatten he⟩
  · intro v
    cases v with
    | app name => simpa [BundleSource.Balks, and_assoc] using BundleSource.declines_iff (s := s)
    | _ => simp [BundleSource.Balks]

def shelf : World where
  modules := []
  bundles := .installed [{ name := "Kit", files := some ["kit.py"], topLevel := none }] []

def order : Value := .list [.app "nope", .list [.app "kit", .app "Nope"], .text "x"]

theorem missing_tolerated_order : (∀ v ∈ leaves order, ¬IsCallback v) ∧
    (∀ v ∈ leaves order, ¬shelf.bundles.Balks v) ∧
    ∃ b, (normalize order).on shelf = (.ok [defaultScope, .text "kit", .text "x"],
      shelf.asked b [.bundleMissing "nope", .bundleMissing "Nope"]) := by
  have hc : ∀ v ∈ leaves order, ¬IsCallback v := by
    simp [leaves, leavesAll, order, IsCallback]
  obtain ⟨hok, -, hbalk⟩ := missing_tolerated shelf order hc
  have hb : ∀ v ∈ leaves order, ¬shelf.bundles.Balks v := by
    intro v hv h
    rw [((hbalk v).1 h).1] at hv
    simp [leaves, leavesAll, order] at hv
  obtain ⟨⟨b, -, -, hn⟩, -⟩ := hok hb
  exact ⟨hc, hb, b, hn.trans (by rfl)⟩

theorem unnamed_untolerated : ¬∀ (w : World) (request : Value),
    (∀ v ∈ leaves request, ¬IsCallback v) →
      ∃ r u, (flatten (itemsOf request)).on w = (.ok r, u) := by
  intro h
  obtain ⟨r, u, hr⟩ := h { modules := [], bundles := .installed [] [] }
    (.list [.text "x", .app "", .text "y"]) (by simp [leaves, leavesAll, IsCallback])
  cases hr

end Plan

end ThreadTrace
