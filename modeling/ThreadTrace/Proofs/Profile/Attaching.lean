import ThreadTrace.Profile.Attach
import ThreadTrace.Proofs.Profile.Held
import ThreadTrace.Proofs.Thread.Evolution

namespace ThreadTrace

def Carrier.selects : Carrier → Thread → Prop
  | .selector s, _ => s.coversExisting = true
  | .port _, _ => False
  | .thread name, t => name = t.name
  | .ident n, t => n = t.assigned

def Table.putAll {κ α : Type} [DecidableEq κ] (t : Table κ α) (ks : List κ) (a : α) : Table κ α :=
  ks.foldl (fun t k => t.put k a) t

theorem Table.get?_putAll {κ α : Type} [DecidableEq κ] (t : Table κ α) (ks : List κ) (a : α)
    (j : κ) : (t.putAll ks a).get? j = if j ∈ ks then some a else t.get? j := by
  induction ks generalizing t with
  | nil => rfl
  | cons k ks ih =>
    have h := ih (t.put k a)
    rw [get?_put] at h
    rw [putAll, List.foldl_cons]
    refine h.trans ?_
    by_cases hj : j = k <;> by_cases hm : j ∈ ks <;> simp [hj, hm]

theorem Table.mem_putAll {κ α : Type} [DecidableEq κ] {t : Table κ α} {ks : List κ} {a : α}
    {x : κ × α} (hx : x ∈ t.putAll ks a) : x ∈ t ∨ x.2 = a ∧ x.1 ∈ ks := by
  induction ks generalizing t with
  | nil => exact .inl hx
  | cons k ks ih =>
    obtain hx | ⟨ha, hk⟩ := ih hx
    · obtain rfl | hx := mem_put hx
      · exact .inr ⟨rfl, List.mem_cons_self⟩
      · exact .inl hx
    · exact .inr ⟨ha, List.mem_cons_of_mem _ hk⟩

namespace Observed

variable (o : Observed) (a : Attachment)

/-- The thread that an attach by the given carrier reaches under an ident. -/
def Reaches (c : Carrier) (n : Nat) : Prop :=
  ∃ t ∈ o.threads.all, t.isAlive = true ∧ t.assigned = n ∧ t.isSink = false ∧ c.selects t

/-- What attaching a carrier makes of the tables of a host: some threads are traced that the carrier
stands for, a thread may wait for its start, or else new threads are waited for. -/
inductive Attached (c : Carrier) : ProfileHost → Prop
  | named (ns : List Nat) (xs : List String) (hn : ∀ n ∈ ns, o.Reaches c n)
      (hx : ∀ x ∈ xs, c = .thread x ∧ o.threads.isSink x = false) :
      Attached c { o.host with
        traced := o.host.traced.putAll ns a
        pending := o.host.pending.putAll xs a }
  | armed (ns : List Nat) (s : Selector) (hn : ∀ n ∈ ns, o.Reaches c n) (hc : c = .selector s)
      (hs : s.coversNew = true) :
      Attached c { o.host with
        traced := o.host.traced.putAll ns a
        known := if o.host.arrivals.isNone then o.threads.listed.map (·.name) else o.host.known
        arrivals := some a }

theorem Attached.unchanged (c : Carrier) : o.Attached a c o.host :=
  .named [] [] (by simp) (by simp)

theorem attachListed_eq (ts : List Thread) (traced : Table Nat Attachment)
    (unreached : List String) :
    ∃ ns, (∀ n ∈ ns, ∃ t ∈ ts, t.ident? = some n ∧ t.isSink = false) ∧
      (o.attachListed a traced unreached ts).1 = traced.putAll ns a := by
  induction ts generalizing traced unreached with
  | nil => exact ⟨[], by simp, rfl⟩
  | cons t ts ih =>
    have later : ∀ table names, ∃ ns,
        (∀ n ∈ ns, ∃ u ∈ t :: ts, u.ident? = some n ∧ u.isSink = false) ∧
          (o.attachListed a table names ts).1 = table.putAll ns a := by
      intro table names
      obtain ⟨ns, hn, he⟩ := ih table names
      refine ⟨ns, fun n hm => ?_, he⟩
      obtain ⟨u, hu, h⟩ := hn n hm
      exact ⟨u, List.mem_cons_of_mem _ hu, h⟩
    rw [attachListed]
    cases hi : t.ident? with
    | none => exact later _ _
    | some m =>
      cases hs : t.isSink with
      | true => exact later _ _
      | false =>
        simp only [Bool.false_eq_true, if_false]
        split
        · obtain ⟨ns, hn, he⟩ := later (traced.put m a) unreached
          refine ⟨m :: ns, fun n hm => ?_, he⟩
          rcases List.mem_cons.1 hm with rfl | hm
          · exact ⟨t, List.mem_cons_self, hi, hs⟩
          · exact hn n hm
        · exact later _ _

theorem attachRunning_attached {c : Carrier} {t : Thread} {n : Nat} (hr : o.Reaches c n) :
    o.Attached a c (o.attachRunning t n a).1 := by
  rw [attachRunning]
  split
  · exact .named [n] [] (by simpa using hr) (by simp)
  · exact .unchanged ..

theorem attachSelector_attached (s : Selector) :
    o.Attached a (.selector s) (o.attachSelector s a).1 := by
  have hx : ∃ ns, (∀ n ∈ ns, o.Reaches (.selector s) n) ∧
      (if s.coversExisting = true then o.attachExisting a else (o.host, [])).1 =
        { o.host with traced := o.host.traced.putAll ns a } := by
    split
    · obtain ⟨ns, hn, he⟩ := attachListed_eq o a o.threads.listed o.host.traced []
      refine ⟨ns, fun n hm => ?_, by rw [← he]; rfl⟩
      obtain ⟨t, ht, hi, hs⟩ := hn n hm
      obtain ⟨ht, hl⟩ := Threads.mem_listed.1 ht
      exact ⟨t, ht, Thread.isAlive_of_listed hl hi, Thread.assigned_of_ident? hi, hs, ‹_›⟩
    · exact ⟨[], by simp, rfl⟩
  obtain ⟨ns, hn, he⟩ := hx
  simp only [attachSelector, attachArrivals, he]
  split
  · exact .armed ns s hn rfl ‹_›
  · exact .named ns [] hn (by simp)

theorem attachThread_attached (x : String) :
    o.Attached a (.thread x) (o.attachThread x a).1 := by
  rw [attachThread]
  split
  · exact .unchanged ..
  · rename_i t ht
    obtain ⟨hm, hx⟩ := Threads.mem_of_find? ht
    cases hs : t.isSink with
    | true => exact .unchanged ..
    | false =>
      simp only [Bool.false_eq_true, if_false]
      split
      · exact .named [] [x] (by simp) (by simp [Threads.isSink, ht, hs])
      · rename_i n hi
        split
        · exact attachRunning_attached o a ⟨t, hm, ‹_›, Thread.assigned_of_ident? hi, hs, hx.symm⟩
        · exact .unchanged ..

theorem attachIdent_attached (n : Nat) : o.Attached a (.ident n) (o.attachIdent n a).1 := by
  rw [attachIdent]
  split
  · exact .unchanged ..
  · rename_i t ht
    have hi : t.ident? = some n := by simpa using List.find?_some ht
    obtain ⟨ht, hl⟩ := Threads.mem_listed.1 (List.mem_reverse.1 (List.mem_of_find?_eq_some ht))
    have hassigned := Thread.assigned_of_ident? hi
    cases hs : t.isSink with
    | true => exact .unchanged ..
    | false =>
      exact attachRunning_attached o a
        ⟨t, ht, Thread.isAlive_of_listed hl hi, hassigned, hs, hassigned.symm⟩

theorem attachCarrier_attached (c : Carrier) : o.Attached a c (o.attachCarrier c a).1 := by
  cases c with
  | selector s => exact attachSelector_attached o a s
  | port handle => exact .unchanged ..
  | thread x => exact attachThread_attached o a x
  | ident n => exact attachIdent_attached o a n

theorem traced_attachCarrier (c : Carrier) (n : Nat) :
    (o.attachCarrier c a).1.traced.get? n = o.host.traced.get? n ∨
      (o.attachCarrier c a).1.traced.get? n = some a ∧ o.Reaches c n := by
  have put : ∀ ns : List Nat, (∀ n ∈ ns, o.Reaches c n) →
      (o.host.traced.putAll ns a).get? n = o.host.traced.get? n ∨
        (o.host.traced.putAll ns a).get? n = some a ∧ o.Reaches c n := by
    intro ns hn
    rw [Table.get?_putAll]
    by_cases hm : n ∈ ns
    · rw [if_pos hm]
      exact .inr ⟨rfl, hn n hm⟩
    · rw [if_neg hm]
      exact .inl rfl
  have h := attachCarrier_attached o a c
  generalize (o.attachCarrier c a).1 = k at h ⊢
  cases h with
  | named ns xs hn => exact put ns hn
  | armed ns s hn => exact put ns hn

theorem pending_attachCarrier (c : Carrier) {x : String} (hx : c ≠ .thread x) :
    (o.attachCarrier c a).1.pending.get? x = o.host.pending.get? x := by
  have h := attachCarrier_attached o a c
  generalize (o.attachCarrier c a).1 = k at h ⊢
  cases h with
  | named ns xs hn hw =>
    rw [Table.get?_putAll, if_neg fun hm => hx (hw x hm).1]
  | armed => rfl

theorem arrivals_attachCarrier (c : Carrier) :
    ((o.attachCarrier c a).1.arrivals = o.host.arrivals ∧
        (o.attachCarrier c a).1.known = o.host.known) ∨
      (o.attachCarrier c a).1.arrivals = some a ∧
        (o.attachCarrier c a).1.known =
          (if o.host.arrivals.isNone then o.threads.listed.map (·.name) else o.host.known) ∧
        ∃ s, c = .selector s ∧ s.coversNew = true := by
  have h := attachCarrier_attached o a c
  generalize (o.attachCarrier c a).1 = k at h ⊢
  cases h with
  | named => exact .inl ⟨rfl, rfl⟩
  | armed ns s hn hc hs => exact .inr ⟨rfl, rfl, s, hc, hs⟩

theorem filters_attachCarrier (c : Carrier) :
    (o.attachCarrier c a).1.filters = o.host.filters := by
  have h := attachCarrier_attached o a c
  generalize (o.attachCarrier c a).1 = k at h ⊢
  cases h <;> rfl

theorem attach_host (c : Carrier) :
    ∃ active installed allThreads, (o.attach c a).1.host = { (o.attachCarrier c a).1 with
      ignored := [], active, installed, allThreads } := by
  unfold attach refresh
  dsimp only
  split
  · exact ⟨_, _, _, rfl⟩
  · split <;> exact ⟨_, _, _, rfl⟩

theorem installHook_evolves (gone : String → Prop) :
    Threads.Evolves o.threads o.installHook.threads gone := by
  unfold installHook
  dsimp only
  split
  · exact .hookAll true
  · exact .hookCurrent true

theorem attach_evolves (c : Carrier) (gone : String → Prop) :
    Threads.Evolves o.threads (o.attach c a).1.threads gone := by
  unfold attach refresh
  dsimp only
  split
  · exact installHook_evolves _ gone
  · split
    · exact .hookCurrent true
    · exact .of_all rfl

theorem clear_evolves (gone : String → Prop) : Threads.Evolves o.threads o.clear.threads gone := by
  unfold clear uninstallHook
  dsimp only
  split
  · exact .of_all rfl
  · split
    · exact .hookAll false
    · exact .hookCurrent false

theorem attach_active (c : Carrier) :
    (o.attach c a).1.host.active = (o.attach c a).1.host.hasAttachments := by
  unfold attach refresh
  dsimp only
  split
  · rfl
  · split <;> rfl

variable {o a}

theorem mem_traced_attachCarrier {c : Carrier} {x : Nat × Attachment}
    (hx : x ∈ (o.attachCarrier c a).1.traced) : x ∈ o.host.traced ∨ x.2 = a ∧ o.Reaches c x.1 := by
  have h := attachCarrier_attached o a c
  generalize (o.attachCarrier c a).1 = k at h hx
  cases h with
  | named ns xs hn => exact (Table.mem_putAll hx).imp_right fun h => h.imp_right (hn _)
  | armed ns s hn => exact (Table.mem_putAll hx).imp_right fun h => h.imp_right (hn _)

theorem mem_pending_attachCarrier {c : Carrier} {x : String × Attachment}
    (hx : x ∈ (o.attachCarrier c a).1.pending) :
    x ∈ o.host.pending ∨ x.2 = a ∧ c = .thread x.1 ∧ o.threads.isSink x.1 = false := by
  have h := attachCarrier_attached o a c
  generalize (o.attachCarrier c a).1 = k at h hx
  cases h with
  | named ns xs hn hw => exact (Table.mem_putAll hx).imp_right fun h => h.imp_right (hw _)
  | armed => exact .inl hx

open ProfileHost

theorem held_attachCarrier {c : Carrier} {b : Attachment} (hb : b ∈ (o.attachCarrier c a).1.held) :
    b = a ∨ b ∈ o.host.held := by
  rw [mem_held] at hb
  rcases hb with ⟨n, hn⟩ | ⟨x, hx⟩ | hb
  · obtain hn | ⟨rfl, -⟩ := mem_traced_attachCarrier hn
    · exact .inr (mem_held.2 (.inl ⟨n, hn⟩))
    · exact .inl rfl
  · obtain hx | ⟨rfl, -⟩ := mem_pending_attachCarrier hx
    · exact .inr (mem_held.2 (.inr (.inl ⟨x, hx⟩)))
    · exact .inl rfl
  · obtain ⟨ha, -⟩ | ⟨ha, -⟩ := arrivals_attachCarrier o a c
    · exact .inr (mem_held_of_arrivals (ha ▸ hb))
    · exact .inl (Option.some.inj (hb.symm.trans ha))

theorem held_attach {c : Carrier} {b : Attachment} (hb : b ∈ (o.attach c a).1.host.held) :
    b = a ∨ b ∈ o.host.held := by
  obtain ⟨active, installed, allThreads, h⟩ := attach_host o a c
  rw [h] at hb
  exact held_attachCarrier hb

theorem held_clear : o.clear.host.held = [] := by
  unfold clear uninstallHook
  split <;> rfl

end Observed

end ThreadTrace
