import ThreadTrace.Fault

namespace ThreadTrace

abbrev Act (σ α : Type) := ExceptT Fault (StateM σ) α

namespace Act

variable {σ τ α β : Type}

/-- Runs an activity on a state: its outcome, and the state it leaves behind. -/
def on (act : Act σ α) (s : σ) : Except Fault α × σ := act.run s

def of (f : σ → Except Fault α × σ) : Act σ α := ExceptT.mk f

def result (r : Except Fault α) : Act σ α := of fun s => (r, s)

def attempt (act : Act σ α) : Act σ (Except Fault α) := of fun s =>
  let (r, s) := act.on s
  (.ok r, s)

def within (get : τ → σ) (set : τ → σ → τ) (act : Act σ α) : Act τ α := of fun t =>
  let (r, s) := act.on (get t)
  (r, set t s)

@[simp] theorem on_pure (a : α) (s : σ) : (pure a : Act σ α).on s = (.ok a, s) := rfl

@[simp] theorem on_bind (act : Act σ α) (f : α → Act σ β) (s : σ) :
    (act >>= f).on s = match act.on s with
      | (.ok a, s) => (f a).on s
      | (.error e, s) => (.error e, s) := by
  change (ExceptT.bind act f).run s = _
  simp only [ExceptT.bind, ExceptT.mk, on, ExceptT.run, bind, StateT.bind, ExceptT.bindCont]
  cases h : act s with
  | mk r t => cases r <;> rfl

theorem bind_ok {act : Act σ α} {f : α → Act σ β} {s t : σ} {b : β}
    (h : (act >>= f).on s = (.ok b, t)) :
    ∃ a s', act.on s = (.ok a, s') ∧ (f a).on s' = (.ok b, t) := by
  rw [on_bind] at h
  split at h
  · exact ⟨_, _, ‹_›, h⟩
  · cases h

@[simp] theorem on_map (f : α → β) (act : Act σ α) (s : σ) :
    (f <$> act).on s = match act.on s with
      | (.ok a, s) => (.ok (f a), s)
      | (.error e, s) => (.error e, s) := by
  rw [map_eq_pure_bind, on_bind]
  cases act.on s with
  | mk r t => cases r <;> rfl

@[simp] theorem on_get (s : σ) : (get : Act σ σ).on s = (.ok s, s) := rfl

@[simp] theorem on_set (s t : σ) : (set t : Act σ PUnit).on s = (.ok ⟨⟩, t) := rfl

@[simp] theorem on_modify (f : σ → σ) (s : σ) :
    (modify f : Act σ PUnit).on s = (.ok ⟨⟩, f s) := rfl

@[simp] theorem on_throw (e : Fault) (s : σ) : (throw e : Act σ α).on s = (.error e, s) := rfl

@[simp] theorem on_of (f : σ → Except Fault α × σ) (s : σ) : (of f).on s = f s := rfl

@[simp] theorem on_result (r : Except Fault α) (s : σ) : (result r).on s = (r, s) := rfl

end Act

end ThreadTrace
