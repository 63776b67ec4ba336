import ThreadTrace.Proofs.Profile.Journal
import ThreadTrace.Proofs.Profile.Planned

namespace ThreadTrace

namespace ProfileHost

theorem insertNew_of_mem {n : Nat} {s : List Nat} (hn : n ∈ s) : insertNew n s = s := by
  rw [insertNew, if_pos (by simpa using hn)]

theorem mem_insertNew {m n : Nat} {s : List Nat} : n ∈ insertNew m s ↔ n ∈ s ∨ n = m := by
  by_cases hm : m ∈ s
  · rw [insertNew_of_mem hm]
    refine ⟨.inl, fun hn => hn.elim id ?_⟩
    rintro rfl
    exact hm
  · simp [insertNew, hm]

def held (h : ProfileHost) : List Attachment :=
  h.traced.map (·.2) ++ h.pending.map (·.2) ++ h.arrivals.toList

theorem mem_held {h : ProfileHost} {b : Attachment} :
    b ∈ h.held ↔ (∃ n, (n, b) ∈ h.traced) ∨ (∃ x, (x, b) ∈ h.pending) ∨ h.arrivals = some b := by
  simp [held]

theorem mem_held_of_traced {h : ProfileHost} {n : Nat} {b : Attachment}
    (hb : h.traced.get? n = some b) : b ∈ h.held :=
  mem_held.2 (.inl ⟨n, Table.mem_of_get? hb⟩)

theorem mem_held_of_pending {h : ProfileHost} {x : String} {b : Attachment}
    (hb : h.pending.get? x = some b) : b ∈ h.held :=
  mem_held.2 (.inr (.inl ⟨x, Table.mem_of_get? hb⟩))

theorem mem_held_of_arrivals {h : ProfileHost} {b : Attachment} (hb : h.arrivals = some b) :
    b ∈ h.held :=
  mem_held.2 (.inr (.inr hb))

theorem hasAttachments_of_held {h : ProfileHost} {b : Attachment} (hb : b ∈ h.held) :
    h.hasAttachments = true := by
  rw [hasAttachments]
  obtain ⟨n, hn⟩ | ⟨x, hx⟩ | ha := mem_held.1 hb
  · simp [List.ne_nil_of_mem hn]
  · simp [List.ne_nil_of_mem hx]
  · simp [ha]

theorem mem_held_forget {h : ProfileHost} {t : Target} {b : Attachment} :
    b ∈ (h.forget t).held ↔ b ∈ h.held ∧ b.target.id ≠ t.id := by
  simp only [mem_held, forget, List.mem_filter, Option.filter_eq_some_iff]
  constructor
  · rintro (⟨n, hn, ht⟩ | ⟨x, hx, ht⟩ | ⟨ha, ht⟩)
    · exact ⟨.inl ⟨n, hn⟩, by simpa using ht⟩
    · exact ⟨.inr (.inl ⟨x, hx⟩), by simpa using ht⟩
    · exact ⟨.inr (.inr ha), by simpa using ht⟩
  · rintro ⟨⟨n, hn⟩ | ⟨x, hx⟩ | ha, ht⟩
    · exact .inl ⟨n, hn, by simpa using ht⟩
    · exact .inr (.inl ⟨x, hx, by simpa using ht⟩)
    · exact .inr (.inr ⟨ha, by simpa using ht⟩)

end ProfileHost

namespace Hook

open ProfileHost

variable {isSink : String → Bool} {me : Caller} {what : Signal} {f : Frame} {below : List Frame}
  {h k : ProfileHost} {ds : List Effect} {es : List Entry} {r : Except Fault Unit}

theorem mem_held_pass {child : String} {a b : Attachment} (hb : b ∈ (pass child a h).held) :
    b = a ∨ b ∈ h.held := by
  rw [mem_held] at hb ⊢
  rcases hb with hb | ⟨x, hx⟩ | hb
  · exact .inr (.inl hb)
  · obtain he | hx := Table.mem_put hx
    · exact .inl (congrArg Prod.snd he)
    · exact .inr (.inr (.inl ⟨x, hx⟩))
  · exact .inr (.inr (.inr hb))

theorem arriving_cases {a : Attachment} (ha : arriving h me = some a) :
    h.pending.get? me.thread = some a ∨
      me.isSink = false ∧ me.thread ∉ h.known ∧ h.arrivals = some a := by
  unfold arriving at ha
  split at ha
  · exact .inl (ha ▸ ‹_›)
  · split at ha
    · cases ha
    · rename_i hn
      have hs : me.isSink = false ∧ me.thread ∉ h.known := by simpa using hn
      exact .inr ⟨hs.1, hs.2, ha⟩

theorem arriving_mem_held {a : Attachment} (ha : arriving h me = some a) : a ∈ h.held := by
  obtain ha | ⟨-, -, ha⟩ := arriving_cases ha
  · exact mem_held_of_pending ha
  · exact mem_held_of_arrivals ha

theorem own?_cases {a : Attachment} (ha : own? me what h = some a) :
    h.traced.get? me.ident = some a ∨
      what = .call ∧ h.traced.get? me.ident = none ∧ arriving h me = some a := by
  cases what with
  | ret | other => exact .inl ha
  | call =>
    simp only [own?, settle] at ha
    split at ha
    · exact .inl (ha ▸ ‹_›)
    · split at ha
      · cases ha
      · cases hr : arriving h me with
        | none => simp [hr] at ha
        | some b =>
          rw [hr] at ha
          exact .inr ⟨rfl, ‹_›, ha⟩

theorem own?_of_traced {a : Attachment} (ha : h.traced.get? me.ident = some a) :
    own? me what h = some a := by
  cases what with
  | call => simp only [own?, settle, ha]
  | ret | other => exact ha

theorem own?_of_arriving (hn : h.traced.get? me.ident = none) (hi : me.ident ∉ h.ignored) :
    own? me .call h = arriving h me := by
  have hi : ¬h.ignored.contains me.ident = true := by simpa using hi
  simp only [own?, settle, hn, if_neg hi]
  cases arriving h me <;> rfl

theorem own?_mem_held {a : Attachment} (ha : own? me what h = some a) : a ∈ h.held := by
  obtain ha | ⟨-, -, ha⟩ := own?_cases ha
  · exact mem_held_of_traced ha
  · exact arriving_mem_held ha

theorem mem_traced_settle {x : Nat × Attachment} (hx : x ∈ (settle me h).2.traced) :
    x ∈ h.traced ∨ x.1 = me.ident ∧ own? me .call h = some x.2 := by
  cases ht : h.traced.get? me.ident with
  | some a =>
    simp only [settle, ht] at hx
    exact .inl hx
  | none =>
    by_cases hi : h.ignored.contains me.ident = true
    · simp only [settle, ht, if_pos hi] at hx
      exact .inl hx
    · cases hr : arriving h me with
      | none =>
        simp only [settle, ht, if_neg hi, hr] at hx
        exact .inl hx
      | some a =>
        simp only [settle, ht, if_neg hi, hr] at hx
        obtain rfl | hx := Table.mem_put hx
        · exact .inr ⟨rfl, by simp only [own?, settle, ht, if_neg hi, hr]⟩
        · exact .inl hx

theorem mem_pending_settle {x : String × Attachment} (hx : x ∈ (settle me h).2.pending) :
    x ∈ h.pending := by
  unfold settle at hx
  split at hx
  · exact hx
  · split at hx
    · exact hx
    · cases hr : arriving h me <;> rw [hr] at hx <;> exact (Table.mem_erase.1 hx).1

theorem settle_others (me : Caller) (h : ProfileHost) :
    ∃ traced pending hooked ignored,
      (settle me h).2 = { h with traced, pending, hooked, ignored } := by
  unfold settle
  split
  · exact ⟨_, _, _, _, rfl⟩
  · split
    · exact ⟨_, _, _, _, rfl⟩
    · cases arriving h me <;> exact ⟨_, _, _, _, rfl⟩

theorem planCall_host (isSink : String → Bool) (me : Caller) (f : Frame) (stack : List Frame)
    (h : ProfileHost) :
    ∃ last, (planCall isSink me f stack h).1 = { (settle me h).2 with lastIdent := last } := by
  simp only [planCall]
  rcases settle me h with ⟨_ | a, g⟩
  · exact ⟨_, rfl⟩
  · by_cases hr : a.flags.running = true
    · exact ⟨some me.ident, by simp only [hr, if_true]⟩
    · exact ⟨g.lastIdent, by simp only [hr]; rfl⟩

theorem planReturn_host (me : Caller) (f : Frame) (caller : Option Frame) (h : ProfileHost) :
    ∃ traced hooked ignored, (∀ x ∈ traced, x ∈ h.traced) ∧
      (planReturn me f caller h).1 = { h with traced, hooked, ignored } := by
  unfold planReturn
  split
  · unfold planEnd
    split
    · exact ⟨_, _, _, fun x hx => hx, rfl⟩
    · exact ⟨_, _, _, fun x hx => (Table.mem_erase.1 hx).1, rfl⟩
  · exact ⟨_, _, _, fun x hx => hx, rfl⟩
  · exact ⟨_, _, _, fun x hx => hx, rfl⟩

theorem mem_traced_plan {x : Nat × Attachment}
    (hx : x ∈ (plan isSink me what f below h).1.traced) :
    x ∈ h.traced ∨ what = .call ∧ x.1 = me.ident ∧ own? me .call h = some x.2 := by
  unfold plan at hx
  split at hx
  · cases what with
    | other => exact .inl hx
    | call =>
      obtain ⟨last, he⟩ := planCall_host isSink me f (f :: below) h
      simp only [he] at hx
      exact (mem_traced_settle hx).imp_right fun hx => ⟨rfl, hx⟩
    | ret =>
      obtain ⟨_, _, _, ht, he⟩ := planReturn_host me f below.head? h
      simp only [he] at hx
      exact .inl (ht x hx)
  · exact .inl hx

theorem plan_others (isSink : String → Bool) (me : Caller) (what : Signal) (f : Frame)
    (below : List Frame) (h : ProfileHost) :
    (∀ x ∈ (plan isSink me what f below h).1.pending, x ∈ h.pending) ∧
      (plan isSink me what f below h).1.arrivals = h.arrivals ∧
      (plan isSink me what f below h).1.known = h.known ∧
      (plan isSink me what f below h).1.filters = h.filters ∧
      (plan isSink me what f below h).1.active = h.active := by
  unfold plan
  split
  · cases what with
    | other => exact ⟨fun x hx => hx, rfl, rfl, rfl, rfl⟩
    | call =>
      obtain ⟨last, he⟩ := planCall_host isSink me f (f :: below) h
      obtain ⟨traced, pending, hooked, ignored, hs⟩ := settle_others me h
      have hp : ∀ x ∈ pending, x ∈ h.pending := fun x hx =>
        mem_pending_settle (by rw [hs]; exact hx : x ∈ (settle me h).2.pending)
      simp only [he, hs, and_true]
      exact hp
    | ret =>
      obtain ⟨_, _, _, -, he⟩ := planReturn_host me f below.head? h
      simp only [he, and_true]
      exact fun x hx => hx
  · exact ⟨fun x hx => hx, rfl, rfl, rfl, rfl⟩

/-- A callback settles who is traced, and nobody gets what was not held before. -/
theorem held_plan {b : Attachment} (hb : b ∈ (plan isSink me what f below h).1.held) :
    b ∈ h.held := by
  obtain ⟨hp, ha, -⟩ := plan_others isSink me what f below h
  rw [mem_held] at hb
  rcases hb with ⟨n, hn⟩ | ⟨x, hx⟩ | hb
  · obtain hn | ⟨-, -, hn⟩ := mem_traced_plan hn
    · exact mem_held.2 (.inl ⟨n, hn⟩)
    · exact own?_mem_held hn
  · exact mem_held.2 (.inr (.inl ⟨x, hp _ hx⟩))
  · exact mem_held_of_arrivals (ha ▸ hb)

def Effect.attachment : Effect → Attachment
  | .report _ a _ => a
  | .pass _ a => a

theorem Planned.held {d : Effect} (p : Planned isSink me what f h d) : d.attachment ∈ h.held := by
  cases p with
  | leaving _ hb => exact mem_held_of_traced hb
  | own ha | pass _ ha => exact own?_mem_held ha

theorem Reported.host {ident : Nat} {a : Attachment} {e : Event} (p : Reported ident a e h r es k) :
    k = h ∨ k = h.forget a.target ∧ .dropped a.target ∈ es := by
  cases p with
  | withheld | astray | taken => exact .inl rfl
  | unserved | refused => exact .inr ⟨rfl, by simp⟩

/-- What neither dropping a target that the journal says was dropped, nor passing one of the effects'
attachments on can end, effects leave alone. -/
theorem Performed.preserves_of_dropped {P : ProfileHost → Prop} (p : Performed ds h r es k)
    (hf : ∀ g t, .dropped t ∈ es → P g → P (ProfileHost.forget g t))
    (hp : ∀ g child a, .pass child a ∈ ds → P g → P (Hook.pass child a g)) (hh : P h) : P k := by
  have reported : ∀ {ident a e h r es k}, Reported ident a e h r es k →
      (∀ g t, .dropped t ∈ es → P g → P (ProfileHost.forget g t)) → P h → P k := by
    intro ident a e h r es k first hf hh
    obtain rfl | ⟨rfl, hm⟩ := first.host
    · exact hh
    · exact hf _ _ hm hh
  induction p with
  | done => exact hh
  | report first _ ih =>
    refine ih (fun g t hm => hf g t (List.mem_append_right _ hm))
      (fun g child a hm => hp g child a (List.mem_cons_of_mem _ hm)) ?_
    exact reported first (fun g t hm => hf g t (List.mem_append_left _ hm)) hh
  | failed first => exact reported first hf hh
  | pass _ ih =>
    exact ih hf (fun g child a hm => hp g child a (List.mem_cons_of_mem _ hm))
      (hp _ _ _ List.mem_cons_self hh)

theorem Performed.preserves {P : ProfileHost → Prop} (p : Performed ds h r es k)
    (hf : ∀ g t, P g → P (ProfileHost.forget g t))
    (hp : ∀ g child a, .pass child a ∈ ds → P g → P (Hook.pass child a g)) (hh : P h) : P k :=
  p.preserves_of_dropped (fun g t _ => hf g t) hp hh

theorem Performed.held (p : Performed ds h r es k) :
    ∀ b ∈ k.held, b ∈ h.held ∨ ∃ child, .pass child b ∈ ds := by
  refine p.preserves (P := fun g => ∀ b ∈ g.held, b ∈ h.held ∨ ∃ child, .pass child b ∈ ds) ?_ ?_
    fun b hb => .inl hb
  · intro g t hg b hb
    exact hg b (mem_held_forget.1 hb).1
  · intro g child a hm hg b hb
    obtain rfl | hb := mem_held_pass hb
    · exact .inr ⟨child, hm⟩
    · exact hg b hb

theorem Performed.traced (p : Performed ds h r es k) : ∀ x ∈ k.traced, x ∈ h.traced := by
  refine p.preserves (P := fun g => ∀ x ∈ g.traced, x ∈ h.traced) ?_ ?_ fun x hx => hx
  · intro g t hg x hx
    exact hg x (List.mem_filter.1 hx).1
  · intro g child a _ hg
    exact hg

theorem Performed.pending (p : Performed ds h r es k) :
    ∀ x ∈ k.pending, x ∈ h.pending ∨ .pass x.1 x.2 ∈ ds := by
  refine p.preserves (P := fun g => ∀ x ∈ g.pending, x ∈ h.pending ∨ .pass x.1 x.2 ∈ ds) ?_ ?_
    fun x hx => .inl hx
  · intro g t hg x hx
    exact hg x (List.mem_filter.1 hx).1
  · intro g child a hm hg x hx
    obtain rfl | hx := Table.mem_put hx
    · exact .inr hm
    · exact hg x hx

theorem Performed.arrivals (p : Performed ds h r es k) :
    k.known = h.known ∧ ∀ a, k.arrivals = some a → h.arrivals = some a := by
  refine p.preserves
    (P := fun g => g.known = h.known ∧ ∀ a, g.arrivals = some a → h.arrivals = some a) ?_ ?_
    ⟨rfl, fun a ha => ha⟩
  · intro g t hg
    exact ⟨hg.1, fun a ha => hg.2 a (Option.filter_eq_some_iff.1 ha).1⟩
  · intro g child a _ hg
    exact hg

theorem Performed.filters (p : Performed ds h r es k) : k.filters = h.filters :=
  p.preserves (P := fun g => g.filters = h.filters) (fun _ _ hg => hg) (fun _ _ _ _ hg => hg) rfl

def Listens (h : ProfileHost) : Prop := h.traced ≠ [] → h.active = true

theorem listens_forget (t : Target) : Listens (h.forget t) := by
  intro hn
  have hb : (h.forget t).traced.isEmpty = false := by simpa using hn
  change (h.forget t).hasAttachments = true
  rw [ProfileHost.hasAttachments, hb]
  rfl

theorem Performed.listens (p : Performed ds h r es k) (hh : Listens h) : Listens k :=
  p.preserves (fun _ t _ => listens_forget t) (fun _ _ _ _ hg => hg) hh

theorem listens_plan (hh : Listens h) : Listens (plan isSink me what f below h).1 := by
  intro hn
  obtain ⟨-, -, -, -, ha⟩ := plan_others isSink me what f below h
  rw [ha]
  cases hb : h.active with
  | true => rfl
  | false =>
    simp only [plan, hb, Bool.false_eq_true, if_false] at hn
    exact hb.symm.trans (hh hn)

theorem untraced_plan_end (hh : Listens h) {x : Nat × Attachment}
    (hx : x ∈ (plan isSink me .ret f [] h).1.traced) : x.1 ≠ me.ident := by
  cases ha : h.active with
  | false =>
    simp only [plan, ha, Bool.false_eq_true, if_false] at hx
    have ht := hh (List.ne_nil_of_mem hx)
    rw [ha] at ht
    cases ht
  | true =>
    simp only [plan, ha, if_true, planReturn, List.head?_nil, planEnd] at hx
    cases ht : h.traced.get? me.ident with
    | some a =>
      rw [ht] at hx
      exact (Table.mem_erase.1 hx).2
    | none =>
      rw [ht] at hx
      intro he
      have hs := Table.get?_isSome_of_mem hx
      rw [he, ht] at hs
      cases hs

end Hook

end ThreadTrace
