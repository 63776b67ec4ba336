import ThreadTrace.Command.Reader
import ThreadTrace.Proofs.Value.Sameness

namespace ThreadTrace

theorem outcome_ok {α β : Type} {r : Except Fault α} {g : α → Except Fault β} {b : β}
    (h : (r >>= g) = .ok b) : ∃ a, r = .ok a ∧ g a = .ok b := by
  cases r with
  | error f => cases h
  | ok a => exact ⟨a, rfl, h⟩

namespace Options

theorem coerce_refused {settings : Settings} {v : Value} {f : Fault}
    (h : coerce settings v = .error f) : ∃ problems, f = .invalid modelName problems := by
  have hfields : ∀ fields, ofFields settings fields = .error f →
      ∃ problems, f = .invalid modelName problems := by
    intro fields h
    simp only [ofFields] at h
    split at h
    · cases h
    · exact ⟨_, (Except.error.inj h).symm⟩
  cases v with
  | null | options => cases h
  | dict fields => exact hfields fields h
  | _ => exact ⟨_, (Except.error.inj h).symm⟩

theorem coerce_given {settings : Settings} {fields : List (Value × Value)} {o : Options} {id : Value}
    (h : coerce settings (.dict fields) = .ok o) (hid : Field.find? "pool_id" fields = some id) :
    o.poolId = id := by
  have hf : ofFields settings fields = .ok o := h
  simp only [ofFields, given, hid, Field.hashable] at hf
  split at hf
  · rename_i hp _ _ _ _
    obtain rfl := Except.ok.inj hf
    split at hp
    · exact (Except.ok.inj hp).symm
    · cases hp
  · cases hf

end Options

namespace Job

/-- A job whose options give the id of its pool, which is a text or the configured one. -/
structure Asked (settings : Settings) (job : Job) : Prop where
  options : ∃ fields, job.options = .dict fields ∧
    Field.find? "pool_id" fields = some job.poolId
  poolId : job.poolId = settings.defaultPoolId ∨ ∃ s, job.poolId = .text s

namespace Asked

variable {settings : Settings} {job : Job} (h : Asked settings job)
include h

theorem coerce_poolId {o : Options} (hc : Options.coerce settings job.options = .ok o) :
    o.poolId = job.poolId := by
  obtain ⟨fields, hfields, hid⟩ := h.options
  rw [hfields] at hc
  exact Options.coerce_given hc hid

theorem isKey (hd : settings.defaultPoolId.IsKey) : job.poolId.IsKey := by
  obtain hid | ⟨s, hid⟩ := h.poolId
  · rwa [hid]
  · rw [hid]
    trivial

theorem null (hnull : job.poolId = .null) : settings.defaultPoolId = .null := by
  obtain hid | ⟨s, hid⟩ := h.poolId
  · rw [← hid, hnull]
  · rw [hnull] at hid
    cases hid

end Asked

end Job

namespace Command

variable {settings : Settings} {isScript : String → Bool} {args : List String} {job : Job}

theorem orConfigured_cases (given : Option String) (configured : Value) :
    orConfigured given configured = configured ∨ ∃ s, orConfigured given configured = .text s := by
  cases given with
  | none => exact .inl rfl
  | some s =>
    by_cases hs : s.isEmpty = true
    · exact .inl (by simp [orConfigured, hs])
    · exact .inr ⟨s, by simp [orConfigured, hs]⟩

theorem readRun_asked (h : readRun settings isScript args = .ok (.run job)) :
    job.Asked settings := by
  obtain ⟨a, -, h⟩ := outcome_ok h
  split at h
  · cases h
  obtain ⟨_, -, h⟩ := outcome_ok h
  split at h
  · cases h
  obtain ⟨_, -, h⟩ := outcome_ok h
  split at h
  · cases h
  obtain ⟨mode, -, h⟩ := outcome_ok h
  obtain ⟨size, -, h⟩ := outcome_ok h
  obtain ⟨request, -, h⟩ := outcome_ok h
  obtain rfl := Command.run.inj (Except.ok.inj h)
  exact ⟨⟨_, rfl, rfl⟩, orConfigured_cases _ _⟩

theorem readPlan_ne : readPlan args ≠ .ok (.run job) := by
  intro h
  obtain ⟨a, -, h⟩ := outcome_ok h
  split at h
  · cases h
  split at h
  · cases h
  obtain ⟨_, -, h⟩ := outcome_ok h
  cases h

theorem readSinks_ne : readSinks args ≠ .ok (.run job) := by
  intro h
  obtain ⟨a, -, h⟩ := outcome_ok h
  split at h
  · cases h
  split at h <;> cases h

theorem read_asked (h : read settings isScript args = .ok (.run job)) : job.Asked settings := by
  obtain ⟨top, -, h⟩ := outcome_ok h
  split at h
  · cases h
  split at h
  · cases h
  split at h
  · obtain ⟨a, -, h⟩ := outcome_ok h
    split at h <;> cases h
  · rename_i readArguments hreader
    obtain ⟨_, -, h⟩ := outcome_ok h
    rw [reader?.eq_def] at hreader
    split at hreader
    · obtain rfl := Option.some.inj hreader
      exact absurd h readPlan_ne
    · obtain rfl := Option.some.inj hreader
      exact absurd h readSinks_ne
    · obtain rfl := Option.some.inj hreader
      exact readRun_asked h
    · cases hreader

end Command

end ThreadTrace
