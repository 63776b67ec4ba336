import ThreadTrace.Act

namespace ThreadTrace

variable {P : Fault → Prop} {σ τ α β : Type}

/-- Every fault that an outcome can be is of one sort. -/
def Blames (P : Fault → Prop) (r : Except Fault α) : Prop := ∀ f, r = .error f → P f

namespace Blames

theorem ok (a : α) : Blames P (.ok a) := by
  intro f h
  cases h

theorem error {f : Fault} (hf : P f) : Blames P (.error f : Except Fault α) := by
  rintro _ ⟨⟩
  exact hf

theorem bind {r : Except Fault α} {g : α → Except Fault β} (hr : Blames P r)
    (hg : ∀ a, Blames P (g a)) : Blames P (r >>= g) := by
  cases r with
  | ok a => exact hg a
  | error f => exact error (hr f rfl)

theorem mono {Q : Fault → Prop} {r : Except Fault α} (hr : Blames P r) (h : ∀ f, P f → Q f) :
    Blames Q r := fun f hf => h f (hr f hf)

end Blames

namespace Act

def Raises (P : Fault → Prop) (act : Act σ α) : Prop := ∀ s, Blames P (act.on s).1

namespace Raises

theorem pure (a : α) : Raises P (Pure.pure a : Act σ α) := fun _ => Blames.ok a

theorem get : Raises P (MonadState.get : Act σ σ) := fun s => Blames.ok s

theorem set (s : σ) : Raises P (MonadState.set s : Act σ PUnit) := fun _ => Blames.ok _

theorem change (f : σ → σ) : Raises P (modify f : Act σ PUnit) := fun _ => Blames.ok _

theorem throw {f : Fault} (hf : P f) : Raises P (MonadExcept.throw f : Act σ α) :=
  fun _ => Blames.error hf

theorem result {r : Except Fault α} (hr : Blames P r) : Raises P (Act.result r : Act σ α) :=
  fun _ => hr

theorem within {act : Act σ α} (get : τ → σ) (put : τ → σ → τ) (ha : Raises P act) :
    Raises P (Act.within get put act) := fun t => ha (get t)

theorem bind {act : Act σ α} {g : α → Act σ β} (ha : Raises P act) (hg : ∀ a, Raises P (g a)) :
    Raises P (act >>= g) := by
  intro s
  have hs := ha s
  rw [on_bind]
  cases hr : act.on s with
  | mk r t =>
    rw [hr] at hs
    cases r with
    | ok a => exact hg a t
    | error f => exact Blames.error (hs f rfl)

theorem attempt_bind {act : Act σ α} {g : Except Fault α → Act σ β} (ha : Raises P act)
    (hok : ∀ a, Raises P (g (.ok a))) (herror : ∀ f, P f → Raises P (g (.error f))) :
    Raises P (act.attempt >>= g) := by
  intro s
  rw [on_bind]
  change Blames P ((g (act.on s).1).on (act.on s).2).1
  cases hr : (act.on s).1 with
  | ok a => exact hok a _
  | error f => exact herror f (ha s f hr) _

end Raises

end Act

end ThreadTrace
