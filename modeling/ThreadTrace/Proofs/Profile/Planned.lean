import ThreadTrace.Proofs.Profile.Effects

namespace ThreadTrace.Hook

def own? (me : Caller) (what : Signal) (h : ProfileHost) : Option Attachment :=
  match what with
  | .call => (settle me h).1
  | _ => h.traced.get? me.ident

/-- The effects that a callback may consist of. -/
inductive Planned (isSink : String → Bool) (me : Caller) (what : Signal) (f : Frame)
    (h : ProfileHost) : Effect → Prop
  | leaving {p b} (hp : p ≠ me.ident) (hb : h.traced.get? p = some b) :
      Planned isSink me what f h (.report p b (plain .scheduledOut p b))
  | own {a} {e : Event} (ha : own? me what h = some a) (hc : e.carrier = me.ident)
      (hk : e.kind.isProfiled = true) : Planned isSink me what f h (.report me.ident a e)
  | pass {a child} (hw : what = .call) (ha : own? me what h = some a)
      (hf : a.flags.setOnSpawn = true) (hs : started? f = some child) (hc : isSink child = false) :
      Planned isSink me what f h (.pass child a)

theorem settle_traced (me : Caller) (h : ProfileHost) (n : Nat) :
    (settle me h).2.traced.get? n = if n = me.ident then (settle me h).1 else h.traced.get? n := by
  unfold settle
  cases ht : h.traced.get? me.ident with
  | some a =>
    by_cases hn : n = me.ident
    · simp [hn, ht]
    · simp [hn]
  | none =>
    by_cases hi : h.ignored.contains me.ident = true
    · by_cases hn : n = me.ident
      · simp only [hi, if_true, hn, ht]
      · simp only [hi, if_true, hn]
        rfl
    · simp only [hi]
      cases arriving h me with
      | some a => exact Table.get?_put ..
      | none => by_cases hn : n = me.ident <;> simp [hn, ht]

variable {isSink : String → Bool} {me : Caller} {f : Frame} {h : ProfileHost} {d : Effect}

theorem mem_leaving (hd : d ∈ leaving h) :
    ∃ p b, h.lastIdent = some p ∧ h.traced.get? p = some b ∧
      d = .report p b (plain .scheduledOut p b) := by
  unfold leaving at hd
  split at hd
  · cases hd
  · rename_i p hp
    split at hd
    · cases hd
    · rename_i b hb
      split at hd
      · exact ⟨p, b, hp, hb, List.mem_singleton.1 hd⟩
      · cases hd

theorem mem_switching {ident : Nat} {a : Attachment} (hd : d ∈ switching ident a h) :
    (∃ p b, p ≠ ident ∧ h.traced.get? p = some b ∧ d = .report p b (plain .scheduledOut p b)) ∨
      d = .report ident a (plain .scheduledIn ident a) := by
  unfold switching at hd
  split at hd
  · cases hd
  · rename_i hl
    obtain hd | hd := List.mem_append.1 hd
    · obtain ⟨p, b, hp, hb, rfl⟩ := mem_leaving hd
      exact .inl ⟨p, b, fun hn => hl (hn ▸ hp), hb, rfl⟩
    · exact .inr (List.mem_singleton.1 hd)

theorem mem_passing {a : Attachment} (hd : d ∈ passing isSink a f) :
    ∃ child, started? f = some child ∧ isSink child = false ∧ d = .pass child a := by
  unfold passing at hd
  split at hd
  · cases hd
  · rename_i child hs
    split at hd
    · cases hd
    · exact ⟨child, hs, by simpa using ‹¬isSink child = true›, List.mem_singleton.1 hd⟩

theorem mem_calling {ident : Nat} {a : Attachment} {stack : List Frame}
    (hd : d ∈ calling ident a h f stack) :
    ∃ spec, h.matchUnit f.unit = some spec ∧ d = .report ident a (called ident a spec f stack) := by
  unfold calling at hd
  split at hd
  · cases hd
  · exact ⟨_, ‹_›, List.mem_singleton.1 hd⟩

theorem mem_planCall {stack : List Frame} (hd : d ∈ (planCall isSink me f stack h).2) :
    Planned isSink me .call f h d := by
  have ht := settle_traced me h
  simp only [planCall] at hd
  cases hs : settle me h with
  | mk own g =>
    rw [hs] at hd ht
    cases own with
    | none => cases hd
    | some a =>
      have ha : own? me .call h = some a := by rw [own?, hs]
      simp only [callEffects, List.mem_append] at hd
      rcases hd with hd | hd | hd
      · split at hd
        · obtain ⟨p, b, hp, hb, rfl⟩ | rfl := mem_switching hd
          · exact .leaving hp (by rw [← hb, ht, if_neg hp])
          · exact .own ha rfl rfl
        · cases hd
      · split at hd
        · obtain ⟨child, hc, hk, rfl⟩ := mem_passing hd
          exact .pass rfl ha ‹_› hc hk
        · cases hd
      · split at hd
        · obtain ⟨spec, -, rfl⟩ := mem_calling hd
          exact .own ha rfl rfl
        · cases hd

theorem mem_planReturn {caller : Option Frame} (hd : d ∈ (planReturn me f caller h).2) :
    Planned isSink me .ret f h d := by
  unfold planReturn at hd
  split at hd
  · unfold planEnd at hd
    split at hd
    · cases hd
    · rename_i a ha
      simp only [endEffects] at hd
      split at hd
      · rw [List.mem_singleton.1 hd]
        exact .own ha rfl rfl
      · cases hd
  · cases hd
  · rename_i a ha
    simp only [returnEffects] at hd
    split at hd
    · rw [List.mem_singleton.1 hd]
      exact .own ha rfl rfl
    · cases hd

theorem mem_plan {what : Signal} {below : List Frame} (hd : d ∈ (plan isSink me what f below h).2) :
    Planned isSink me what f h d := by
  unfold plan at hd
  split at hd
  · cases what with
    | call => exact mem_planCall hd
    | ret => exact mem_planReturn hd
    | other => cases hd
  · cases hd

end ThreadTrace.Hook
