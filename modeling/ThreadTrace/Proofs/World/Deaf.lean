import ThreadTrace.Proofs.World.Mild

namespace ThreadTrace

namespace World

/-- The world `v` that came of `w`, if `ns` had been reported to `w` beforehand. -/
def interject (w : World) (ns : List Notice) (v : World) : World :=
  v.relog (w.notices ++ ns ++ v.notices.drop w.notices.length)

end World

namespace Act

variable {α β : Type}

/-- An activity that adds to the reports and does not depend on those that are there. -/
def Deaf (act : Act World α) : Prop :=
  ∀ w ns, ∃ ms, (act.on w).2.notices = w.notices ++ ms ∧
    act.on (w.relog ns) = ((act.on w).1, (act.on w).2.relog (ns ++ ms))

namespace Deaf

theorem interject {act : Act World α} (ha : Deaf act) (w : World) (ns : List Notice) :
    act.on (w.relog (w.notices ++ ns)) = ((act.on w).1, w.interject ns (act.on w).2) := by
  obtain ⟨ms, hms, h⟩ := ha w (w.notices ++ ns)
  rw [h, World.interject, hms, List.drop_left]

/-- An activity that reports nothing. -/
theorem of_quiet {act : Act World α} (h : ∀ w ns, (act.on w).2.notices = w.notices ∧
    act.on (w.relog ns) = ((act.on w).1, (act.on w).2.relog ns)) : Deaf act := by
  intro w ns
  obtain ⟨hn, hon⟩ := h w ns
  exact ⟨[], by rw [List.append_nil, hn], by rw [List.append_nil, hon]⟩

theorem pure (a : α) : Deaf (Pure.pure a : Act World α) :=
  of_quiet fun _ _ => ⟨rfl, rfl⟩

theorem throw (f : Fault) : Deaf (MonadExcept.throw f : Act World α) :=
  of_quiet fun _ _ => ⟨rfl, rfl⟩

theorem notice (n : Notice) : Deaf (ThreadTrace.notice n) := fun _ _ => ⟨[n], rfl, rfl⟩

theorem bind {act : Act World α} {g : α → Act World β} (ha : Deaf act) (hg : ∀ a, Deaf (g a)) :
    Deaf (act >>= g) := by
  intro w ns
  obtain ⟨ms, hms, h⟩ := ha w ns
  rw [on_bind, on_bind, h]
  cases hr : act.on w with
  | mk r v =>
    rw [hr] at hms
    cases r with
    | error f => exact ⟨ms, hms, rfl⟩
    | ok a =>
      obtain ⟨ls, hls, h'⟩ := hg a v (ns ++ ms)
      refine ⟨ms ++ ls, ?_, ?_⟩
      · rw [hls, hms, List.append_assoc]
      · rw [← List.append_assoc]
        exact h'

theorem attempt {act : Act World α} (ha : Deaf act) : Deaf act.attempt := by
  intro w ns
  obtain ⟨ms, hms, h⟩ := ha w ns
  exact ⟨ms, hms, by simp only [Act.attempt, on_of, h]⟩

end Deaf

end Act

open Act (Deaf)

theorem importOne_deaf (parent : Option String) (name : String) : Deaf (importOne parent name) := by
  refine .of_quiet fun w ns => ?_
  have hw := (World.Agree.refl w).importOne_on parent name
  have hv := (w.agree_relog ns).importOne_on parent name
  rw [hw, hv]
  split
  · exact ⟨rfl, rfl⟩
  · split
    · exact ⟨rfl, rfl⟩
    · split
      · exact ⟨rfl, rfl⟩
      · split <;> exact ⟨rfl, rfl⟩

theorem importModule_deaf (name : String) : Deaf (importModule name) := by
  have chain : ∀ (names : List String) (parent : Option String),
      Deaf (importChain parent names) := by
    intro names
    induction names with
    | nil => exact fun _ => .pure ()
    | cons name names ih => exact fun parent => (importOne_deaf parent name).bind fun _ => ih _
  unfold importModule
  split
  · exact .throw _
  · split
    · exact .throw _
    · exact chain _ none

theorem callFunction_deaf (unit function : String) : Deaf (callFunction unit function) := by
  refine .of_quiet fun w ns => ?_
  simp only [callFunction, Act.on_bind, Act.on_get]
  cases hm : w.find? unit with
  | none =>
    have hm' : (w.relog ns).find? unit = none := hm
    simp only [hm']
    exact ⟨rfl, rfl⟩
  | some m =>
    have hm' : (w.relog ns).find? unit = some m := hm
    by_cases hl : w.loaded.contains (unit ++ "." ++ function) = true
    · have hl' : (w.relog ns).loaded.contains (unit ++ "." ++ function) = true := hl
      simp only [hm', hl, hl']
      exact ⟨rfl, rfl⟩
    · have hl' : ¬(w.relog ns).loaded.contains (unit ++ "." ++ function) = true := hl
      simp only [hm', hl, hl']
      cases (if Reserved.isFixed function then none else m.attribute? function) with
      | none => exact ⟨rfl, rfl⟩
      | some a => cases a <;> exact ⟨rfl, rfl⟩

theorem invoke_deaf (unit function : String) : Deaf (invoke unit function) :=
  (importModule_deaf unit).bind fun _ => callFunction_deaf unit function

theorem consult_deaf {α : Type} {ask : BundleSource → Except Fault (α × BundleSource)}
    {act : Act World α} (hact : ∀ w : World, act.on w = w.consult ask) : Deaf act := by
  refine .of_quiet fun w ns => ?_
  have hb : (w.relog ns).bundles = w.bundles := rfl
  rw [hact, hact, World.consult, World.consult, hb]
  cases ask w.bundles <;> exact ⟨rfl, rfl⟩

namespace Plan

variable {callback : String → String → Act World (List Value)}

mutual

theorem expand_deaf (hc : ∀ unit function, Deaf (callback unit function)) :
    ∀ v : Value, Deaf (expand World.sources callback v)
  | .app name => by
    refine (consult_deaf (loadBundle_on name)).bind fun known => ?_
    have rest : Deaf (do return (← bundleUnits name).map .text : Act World (List Value)) :=
      (consult_deaf (bundleUnits_on name)).bind fun _ => .pure _
    cases known
    · exact (Deaf.notice (.bundleMissing name)).bind fun _ => rest
    · exact rest
  | .callback unit function => hc unit function
  | .list items | .tuple items => expandAll_deaf hc items
  | .store _ events => .pure _
  | .moduleObject name _ => .pure _
  | .null | .bool _ | .int _ | .float _ | .nan _ | .text _ | .bytes _ | .dict _ | .selector _
  | .thread _ | .sealed .. | .scope _ | .port _ | .options .. | .event _ | .console _
  | .workshop .. => .pure _

theorem expandAll_deaf (hc : ∀ unit function, Deaf (callback unit function)) :
    ∀ items : List Value, Deaf (expandAll World.sources callback items)
  | [] => .pure _
  | x :: xs => (expand_deaf hc x).bind fun _ => (expandAll_deaf hc xs).bind fun _ => .pure _

end

theorem resolve_deaf (fuel : Nat) (unit function : String) :
    Deaf (resolve World.sources fuel unit function) := by
  induction fuel generalizing unit function with
  | zero => exact .throw _
  | succ fuel ih => exact (invoke_deaf unit function).bind fun _ => expandAll_deaf ih _

theorem normalize_deaf (request : Value) : Deaf (normalize request) := fun w ns =>
  ((expandAll_deaf (resolve_deaf w.callbackDepth) (itemsOf request)).bind fun _ => .pure _) w ns

end Plan

theorem Dispatch.ensureLoaded_deaf (unit : String) : Deaf (ensureLoaded unit) := by
  intro w ns
  simp only [ensureLoaded, Act.on_bind, Act.on_get]
  by_cases hl : (unit == Entry.wildcard || w.loaded.contains unit) = true
  · have hv : (unit == Entry.wildcard || (w.relog ns).loaded.contains unit) = true := hl
    simp only [hl, hv, if_true]
    exact Deaf.pure true w ns
  · have hv : ¬(unit == Entry.wildcard || (w.relog ns).loaded.contains unit) = true := hl
    simp only [hl, hv]
    refine (Deaf.bind (importModule_deaf unit).attempt fun r => ?_) w ns
    cases r with
    | ok u => exact .pure true
    | error f =>
      dsimp only
      split
      · exact .pure false
      · split
        · exact (Deaf.notice _).bind fun _ => .pure false
        · exact .throw f

end ThreadTrace
