import ThreadTrace.Pool.Crew

namespace ThreadTrace

namespace Sink

def closeFault? (s : Sink) : Option Fault :=
  match s.outlet with
  | .made w _ _ => w.closeRaises.map (.raised "RuntimeError")
  | _ => none

def slot? (s : Sink) : Option Nat :=
  match s.outlet with
  | .made _ slot _ => some slot
  | _ => none

theorem close_outcome (s : Sink) (o : Outlets) :
    (s.close o).1 = match s.closeFault? with
      | some f => .error f
      | none => .ok () := by
  unfold close closeFault?
  cases s.outlet with
  | memory | console => rfl
  | file =>
    dsimp only
    split <;> rfl
  | made w slot box => cases hw : w.closeRaises <;> simp [hw]

end Sink

namespace Outlets

def closings (o : Outlets) (slot : Nat) : Option Nat := o.made[slot]?.map Made.closings

theorem close_made (s : Sink) (o : Outlets) :
    (s.slot? = none ∧ (s.close o).2.2.made = o.made) ∨
      ∃ slot f, s.slot? = some slot ∧ (s.close o).2.2.made = o.made.modify slot f ∧
        ∀ x, (f x).closings = x.closings + 1 := by
  unfold Sink.close Sink.slot?
  cases s.outlet with
  | memory | console => exact .inl ⟨rfl, rfl⟩
  | file =>
    dsimp only
    split <;> exact .inl ⟨rfl, rfl⟩
  | made w slot box =>
    cases hw : w.closeRaises
    · exact .inr ⟨slot, fun x => { x with closings := x.closings + 1, closed := true }, rfl,
        by simp [hw], fun _ => rfl⟩
    · exact .inr ⟨slot, fun x => { x with closings := x.closings + 1 }, rfl, by simp [hw],
        fun _ => rfl⟩

theorem closings_close (s : Sink) (o : Outlets) (i : Nat) :
    (s.close o).2.2.closings i = (o.closings i).map (· + if s.slot? = some i then 1 else 0) := by
  obtain ⟨hs, hm⟩ | ⟨slot, f, hs, hm, hf⟩ := close_made s o
  · rw [closings, hm, hs]
    exact Option.map_id'.symm
  · rw [closings, hm, hs, List.getElem?_modify, closings]
    by_cases hi : slot = i <;> cases o.made[i]? <;> simp [hi, hf]

def closeEach (ss : List Sink) (o : Outlets) : Outlets := ss.foldl (fun o s => (s.close o).2.2) o

theorem closings_closeEach (ss : List Sink) (o : Outlets) (i : Nat) :
    (o.closeEach ss).closings i = (o.closings i).map (· + ss.countP fun s => s.slot? = some i) := by
  induction ss generalizing o with
  | nil => exact Option.map_id'.symm
  | cons s ss ih =>
    refine (ih _).trans ?_
    rw [closings_close, Option.map_map, List.countP_cons]
    congr 1
    funext n
    simp only [Function.comp_apply, decide_eq_true_eq]
    omega

/-- What the making of a sink leaves in the slots: a sink whose closings are counted has a new slot
of its own. -/
inductive Slotted (o : Outlets) : Except Fault Sink × Outlets → Prop
  | failed (f : Fault) (o' : Outlets) (hm : o'.made = o.made) : Slotted o (.error f, o')
  | uncounted (s : Sink) (o' : Outlets) (hs : s.slot? = none) (hm : o'.made = o.made) :
      Slotted o (.ok s, o')
  | counted (s : Sink) (o' : Outlets) (x : Made) (hs : s.slot? = some o.made.length)
      (hm : o'.made = o.made ++ [x]) (hx : x.closings = 0) : Slotted o (.ok s, o')

namespace Slotted

theorem of_made {o o₁ : Outlets} (hm : o₁.made = o.made) {y : Except Fault Sink × Outlets}
    (h : o₁.Slotted y) : o.Slotted y := by
  cases h with
  | failed f o' h => exact .failed f o' (h.trans hm)
  | uncounted s o' hs h => exact .uncounted s o' hs (h.trans hm)
  | counted s o' x hs h hx => exact .counted s o' x (hm ▸ hs) (hm ▸ h) hx

theorem bind {act : Act Outlets α} {g : α → Act Outlets Sink} {o : Outlets}
    (ha : (act.on o).2.made = o.made) (hg : ∀ a o, Slotted o ((g a).on o)) :
    o.Slotted ((act >>= g).on o) := by
  rw [Act.on_bind]
  generalize act.on o = y at ha ⊢
  obtain ⟨r, o₁⟩ := y
  cases r with
  | error f => exact .failed f o₁ ha
  | ok a => exact (hg a o₁).of_made ha

end Slotted

end Outlets

theorem Recipe.build_slotted (settings : Settings) (owner : String) (recipe : Recipe)
    (index : Value) (o : Outlets) : o.Slotted ((recipe.build settings owner index).on o) := by
  cases recipe with
  | memory inbox =>
    refine .bind rfl fun tag o => ?_
    cases inbox <;> exact .uncounted _ _ rfl rfl
  | console screen => exact .bind rfl fun tag o => .uncounted _ _ rfl rfl
  | file path =>
    refine .bind rfl fun base o => .bind rfl fun tag o => .bind rfl fun path o => ?_
    exact .bind rfl fun place o => .uncounted _ _ rfl rfl
  | workshop w =>
    refine .bind rfl fun tag o => ?_
    split
    · exact .failed _ _ rfl
    · exact .counted _ _ _ rfl rfl rfl

theorem Recipe.build_closeable {settings : Settings} {owner : String} {recipe : Recipe}
    {index : Value} {o o' : Outlets} {s : Sink}
    (hr : ∀ w, recipe = .workshop w → w.closeRaises = none)
    (h : (recipe.build settings owner index).on o = (.ok s, o')) : s.closeFault? = none := by
  cases recipe with
  | memory inbox =>
    obtain ⟨tag, o₁, -, h⟩ := Act.bind_ok h
    cases inbox <;> cases h <;> rfl
  | console screen =>
    obtain ⟨tag, o₁, -, h⟩ := Act.bind_ok h
    cases h
    rfl
  | file path =>
    obtain ⟨base, o₁, -, h⟩ := Act.bind_ok h
    obtain ⟨tag, o₂, -, h⟩ := Act.bind_ok h
    obtain ⟨path, o₃, -, h⟩ := Act.bind_ok h
    obtain ⟨place, o₄, -, h⟩ := Act.bind_ok h
    cases h
    rfl
  | workshop w =>
    obtain ⟨tag, o₁, -, h⟩ := Act.bind_ok h
    split at h
    · cases h
    · cases h
      simp [Sink.closeFault?, hr w rfl]

namespace Crew

variable {make : Nat → Act Outlets Sink}

/-- Which sinks a maker makes for some indices in turn, and how that ends: with the last of them, or
with the first that cannot be made. -/
inductive Makes (make : Nat → Act Outlets Sink) :
    List Nat → Outlets → List Sink → Except Fault Unit → Outlets → Prop
  | done (o) : Makes make [] o [] (.ok ()) o
  | made {k ks o s o₁ made r o₂} (h : (make k).on o = (.ok s, o₁))
      (rest : Makes make ks o₁ made r o₂) : Makes make (k :: ks) o (s :: made) r o₂
  | failed {k ks o f o₁} (h : (make k).on o = (.error f, o₁)) :
      Makes make (k :: ks) o [] (.error f) o₁

theorem exists_makes (make : Nat → Act Outlets Sink) (ks : List Nat) (o : Outlets) :
    ∃ made r o', Makes make ks o made r o' := by
  induction ks generalizing o with
  | nil => exact ⟨[], _, o, .done o⟩
  | cons k ks ih =>
    cases h : (make k).on o with
    | mk r o₁ =>
      cases r with
      | error f => exact ⟨[], _, o₁, .failed h⟩
      | ok s =>
        obtain ⟨made, r, o', rest⟩ := ih o₁
        exact ⟨s :: made, r, o', .made h rest⟩

theorem Makes.length {ks : List Nat} {o o' : Outlets} {made : List Sink} {r : Except Fault Unit}
    (h : Makes make ks o made r o') (hr : r = .ok ()) : made.length = ks.length := by
  induction h with
  | done => rfl
  | made _ _ ih => simp [ih hr]
  | failed => cases hr

theorem Makes.closeable {settings : Settings} {owner : Nat → String} {recipe : Recipe}
    (hr : ∀ w, recipe = .workshop w → w.closeRaises = none) {ks : List Nat} {o o' : Outlets}
    {made : List Sink} {r : Except Fault Unit}
    (h : Makes (fun k => recipe.build settings (owner k) (.int k)) ks o made r o') :
    ∀ s ∈ made, s.closeFault? = none := by
  induction h with
  | done => simp
  | failed => simp
  | made h _ ih => exact List.forall_mem_cons.2 ⟨Recipe.build_closeable hr h, ih⟩

theorem Makes.slots (hm : ∀ k o, Outlets.Slotted o ((make k).on o)) {ks : List Nat} {o o' : Outlets}
    {made : List Sink} {r : Except Fault Unit} (h : Makes make ks o made r o') :
    ∃ new, o'.made = o.made ++ new ∧ (∀ x ∈ new, x.closings = 0) ∧
      made.filterMap Sink.slot? = List.range' o.made.length new.length := by
  induction h with
  | done o => exact ⟨[], by simp⟩
  | @failed k ks o f o₁ h =>
    have hs := hm k o
    rw [h] at hs
    cases hs with
    | failed _ _ hmade => exact ⟨[], by simp [hmade]⟩
  | @made k ks o s o₁ made r o₂ h _ ih =>
    obtain ⟨new, hnew, hzero, hslots⟩ := ih
    have hs := hm k o
    rw [h] at hs
    cases hs with
    | uncounted _ _ hs hmade =>
      rw [hmade] at hnew hslots
      exact ⟨new, hnew, hzero, by simp [hs, hslots]⟩
    | counted _ _ x hs hmade hx =>
      rw [hmade] at hnew hslots
      refine ⟨x :: new, by simp [hnew], by simpa [hx] using hzero, ?_⟩
      simp [hs, hslots, List.range'_succ]

/-- The sinks that closing some sinks in turn gets to: all up to the first that fails. -/
def reached : List Sink → List Sink
  | [] => []
  | s :: ss => if s.closeFault?.isSome then [s] else s :: reached ss

theorem closeSinks_on (ss : List Sink) (o : Outlets) :
    (closeSinks ss).on o = (match ss.findSome? Sink.closeFault? with
      | some f => .error f
      | none => .ok (), o.closeEach (reached ss)) := by
  induction ss generalizing o with
  | nil => rfl
  | cons s ss ih =>
    have hs := s.close_outcome o
    simp only [closeSinks, Act.on_bind, Act.on_get, Act.on_set, Act.on_result, hs]
    cases hf : s.closeFault? with
    | some f => simp [hf, reached, Outlets.closeEach]
    | none => simp [hf, ih, reached, Outlets.closeEach]

def concluded (made : List Sink) (o : Outlets) :
    Except Fault Unit → Except Fault (List Sink) × Outlets
  | .ok () => (.ok made, o)
  | .error f =>
    if f.isOrdinary then
      (.error ((made.findSome? Sink.closeFault?).getD f), o.closeEach (reached made))
    else (.error f, o)

theorem buildSinks_makes {ks : List Nat} {o o' : Outlets} {made : List Sink}
    {r : Except Fault Unit} (h : Makes make ks o made r o') (built : List Sink) :
    (buildSinks make built ks).on o = concluded (built ++ made) o' r := by
  induction h generalizing built with
  | done o => simp [buildSinks, concluded]
  | @made k ks o s o₁ made r o₂ h _ ih =>
    simpa [buildSinks, Act.attempt, h] using ih (built ++ [s])
  | @failed k ks o f o₁ h =>
    simp only [buildSinks, Act.attempt, Act.on_bind, Act.on_of, h, List.append_nil, concluded]
    by_cases hf : f.isOrdinary = true
    · simp only [hf, if_true, Act.on_bind, closeSinks_on]
      cases built.findSome? Sink.closeFault? <;> rfl
    · simp only [hf]
      rfl

end Crew

end ThreadTrace
