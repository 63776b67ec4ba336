import ThreadTrace.Proofs.Profile.Attaching

namespace ThreadTrace

namespace Threads

def unhooked (ts : Threads) : Threads :=
  { ts with all := ts.all.map fun t => { t with hooked := false }, startHooked := false }

theorem unhooked_hookCurrent (ts : Threads) (on : Bool) :
    (ts.hookCurrent on).unhooked = ts.unhooked := by
  simp only [unhooked, hookCurrent, update, List.map_map]
  congr 1
  refine List.map_congr_left fun t _ => ?_
  dsimp only [Function.comp]
  split <;> rfl

theorem unhooked_hookAll (ts : Threads) (on : Bool) : (ts.hookAll on).unhooked = ts.unhooked := by
  simp only [unhooked, hookAll, List.map_map]
  congr 1
  refine List.map_congr_left fun t _ => ?_
  dsimp only [Function.comp]
  split <;> rfl

theorem find?_unhooked (ts : Threads) (x : String) :
    ts.unhooked.find? x = (ts.find? x).map fun t => { t with hooked := false } := by
  simp only [find?, unhooked, List.find?_map]
  rfl

theorem listed_unhooked (ts : Threads) :
    ts.unhooked.listed = ts.listed.map fun t => { t with hooked := false } := by
  simp only [listed, unhooked, List.filter_map]
  rfl

theorem hookCurrent_hookCurrent (ts : Threads) (on : Bool) :
    (ts.hookCurrent on).hookCurrent on = ts.hookCurrent on := by
  simp only [hookCurrent, update, List.map_map]
  congr 1
  refine List.map_congr_left fun t _ => ?_
  dsimp only [Function.comp]
  split <;> simp_all

end Threads

def Carrier.coversNew : Carrier → Bool
  | .selector s => s.coversNew
  | _ => false

namespace Observed

variable (o : Observed) (a : Attachment)

def admits (t : Thread) (n : Nat) : Bool := t.ident? == some n && !t.isSink && o.observable t

def catches (c : Carrier) (n : Nat) : Bool :=
  match c with
  | .selector s => s.coversExisting && o.threads.listed.any fun t => o.admits t n
  | .port _ => false
  | .thread x => (o.threads.find? x).any fun t => t.isAlive && o.admits t n
  | .ident m => m == n &&
    (o.threads.listed.reverse.find? fun t => t.ident? == some m).any fun t => o.admits t n

def awaits (c : Carrier) (x : String) : Bool :=
  match c with
  | .thread y => y == x && (o.threads.find? y).any fun t => !t.isSink && t.ident?.isNone
  | _ => false

/-- What attaching to arrivals takes for the threads that are known. -/
def knownAfter : List String :=
  if o.host.arrivals.isNone then o.threads.listed.map (·.name) else o.host.known

theorem get?_attachListed (ts : List Thread) (traced : Table Nat Attachment)
    (unreached : List String) (n : Nat) :
    (o.attachListed a traced unreached ts).1.get? n =
      if ts.any fun t => o.admits t n then some a else traced.get? n := by
  induction ts generalizing traced unreached with
  | nil => rfl
  | cons t ts ih =>
    have passed : o.admits t n = false → ∀ names,
        (o.attachListed a traced names ts).1.get? n =
          if (t :: ts).any fun t => o.admits t n then some a else traced.get? n := by
      intro hn names
      rw [ih, List.any_cons, hn, Bool.false_or]
    rw [attachListed]
    cases hi : t.ident? with
    | none => exact passed (by simp [admits, hi]) _
    | some m =>
      cases hs : t.isSink with
      | true => exact passed (by simp [admits, hs]) _
      | false =>
        cases ho : o.observable t with
        | false => exact passed (by simp [admits, ho]) _
        | true =>
          simp only [Bool.false_eq_true, if_false, if_true]
          rw [ih, Table.get?_put, List.any_cons]
          by_cases hm : n = m
          · subst hm
            simp [admits, hi, hs, ho]
          · have hn : o.admits t n = false := by simp [admits, hi, Ne.symm hm]
            simp only [hn, hm, if_false, Bool.false_or]

theorem get?_attachRunning {t : Thread} {m : Nat} (hi : t.ident? = some m) (hs : t.isSink = false)
    (n : Nat) : (o.attachRunning t m a).1.traced.get? n =
      if o.admits t n then some a else o.host.traced.get? n := by
  rw [attachRunning]
  cases ho : o.observable t with
  | false => simp [admits, ho]
  | true =>
    by_cases hm : n = m
    · subst hm
      simp [admits, hi, hs, ho, Table.get?_put]
    · simp [admits, hi, Ne.symm hm, hm, Table.get?_put]

theorem attachSelector_eq (s : Selector) : (o.attachSelector s a).1 =
    { o.host with
      traced := if s.coversExisting then (o.attachListed a o.host.traced [] o.threads.listed).1
        else o.host.traced
      known := if s.coversNew then o.knownAfter else o.host.known
      arrivals := if s.coversNew then some a else o.host.arrivals } := by
  unfold attachSelector
  cases hx : s.coversExisting <;> cases hn : s.coversNew <;> rfl

theorem attachThread_eq {x : String} {t : Thread} (hx : o.threads.find? x = some t)
    (hs : t.isSink = false) : (o.attachThread x a).1 =
      match t.ident? with
      | none => { o.host with pending := o.host.pending.put x a }
      | some n => if t.isAlive then (o.attachRunning t n a).1 else o.host := by
  rw [attachThread, hx]
  dsimp only
  rw [hs, if_neg Bool.false_ne_true]
  cases t.ident? with
  | none => rfl
  | some n => cases t.isAlive <;> rfl

theorem pending_attachRunning (t : Thread) (n : Nat) :
    (o.attachRunning t n a).1.pending = o.host.pending := by
  rw [attachRunning]
  split <;> rfl

theorem get?_traced_attachCarrier (c : Carrier) (n : Nat) :
    (o.attachCarrier c a).1.traced.get? n =
      if o.catches c n then some a else o.host.traced.get? n := by
  cases c with
  | port handle => rfl
  | selector s =>
    rw [attachCarrier, attachSelector_eq, catches]
    cases hx : s.coversExisting with
    | false => rfl
    | true => exact get?_attachListed o a o.threads.listed o.host.traced [] n
  | thread x =>
    rw [attachCarrier, catches]
    cases hx : o.threads.find? x with
    | none => simp [attachThread, hx]
    | some t =>
      cases hs : t.isSink with
      | true => simp [attachThread, hx, admits, hs]
      | false =>
        rw [attachThread_eq o a hx hs]
        cases hi : t.ident? with
        | none => simp [admits, hi]
        | some m =>
          cases ha : t.isAlive with
          | false => simp [ha]
          | true => simpa [ha] using get?_attachRunning o a hi hs n
  | ident m =>
    rw [attachCarrier, attachIdent, catches]
    cases hf : o.threads.listed.reverse.find? fun t => t.ident? == some m with
    | none => simp
    | some t =>
      have hi : t.ident? = some m := by simpa using List.find?_some hf
      cases hs : t.isSink with
      | true => simp [admits, hs]
      | false =>
        dsimp only
        rw [hs, if_neg Bool.false_ne_true]
        refine (get?_attachRunning o a hi hs n).trans ?_
        by_cases hm : m = n
        · simp [hm]
        · have hn : o.admits t n = false := by simp [admits, hi, hm]
          simp [hn]

theorem get?_pending_attachCarrier (c : Carrier) (x : String) :
    (o.attachCarrier c a).1.pending.get? x =
      if o.awaits c x then some a else o.host.pending.get? x := by
  by_cases hc : ∃ y, c = .thread y
  · obtain ⟨y, rfl⟩ := hc
    rw [attachCarrier, awaits]
    cases hy : o.threads.find? y with
    | none => simp [attachThread, hy]
    | some t =>
      cases hs : t.isSink with
      | true => simp [attachThread, hy, hs]
      | false =>
        rw [attachThread_eq o a hy hs]
        cases hi : t.ident? with
        | none =>
          by_cases hx : y = x
          · simp [Table.get?_put, hs, hi, hx]
          · simp [Table.get?_put, hx, Ne.symm hx]
        | some m => cases ha : t.isAlive <;> simp [hi, pending_attachRunning]
  · have hn : o.awaits c x = false := by
      cases c with
      | thread y => exact absurd ⟨y, rfl⟩ hc
      | _ => rfl
    rw [hn, pending_attachCarrier o a c fun h => hc ⟨x, h⟩]
    rfl

theorem arrivals_attachCarrier_eq (c : Carrier) :
    (o.attachCarrier c a).1.arrivals = (if c.coversNew then some a else o.host.arrivals) ∧
      (o.attachCarrier c a).1.known = if c.coversNew then o.knownAfter else o.host.known := by
  by_cases hc : ∃ s, c = .selector s
  · obtain ⟨s, rfl⟩ := hc
    rw [attachCarrier, attachSelector_eq]
    exact ⟨rfl, rfl⟩
  · obtain h | ⟨-, -, s, hs, -⟩ := arrivals_attachCarrier o a c
    · have hn : c.coversNew = false := by
        cases c with
        | selector s => exact absurd ⟨s, rfl⟩ hc
        | _ => rfl
      rw [hn]
      exact h
    · exact absurd ⟨s, hs⟩ hc

theorem attachCarrier_frame (c : Carrier) : (o.attachCarrier c a).1 = { o.host with
    traced := (o.attachCarrier c a).1.traced
    pending := (o.attachCarrier c a).1.pending
    arrivals := (o.attachCarrier c a).1.arrivals
    known := (o.attachCarrier c a).1.known } := by
  have h := attachCarrier_attached o a c
  generalize (o.attachCarrier c a).1 = k at h ⊢
  cases h <;> rfl

theorem unhooked_installHook : o.installHook.threads.unhooked = o.threads.unhooked := by
  simp only [installHook]
  split
  · exact Threads.unhooked_hookAll o.threads true
  · exact Threads.unhooked_hookCurrent (o.threads.hookStarted true) true

theorem unhooked_attach (c : Carrier) :
    (o.attach c a).1.threads.unhooked = o.threads.unhooked := by
  simp only [attach, refresh]
  split
  · exact unhooked_installHook _
  · split
    · exact Threads.unhooked_hookCurrent o.threads true
    · rfl

theorem unhooked_clear : o.clear.threads.unhooked = o.threads.unhooked := by
  simp only [clear, uninstallHook]
  split
  · rfl
  · split
    · exact Threads.unhooked_hookAll o.threads false
    · exact Threads.unhooked_hookCurrent (o.threads.hookStarted false) false

def bare : Observed where
  host := { hooked := o.host.hooked }
  threads := o.threads.unhooked

theorem bare_attach (c : Carrier) : (o.attach c a).1.bare = o.bare := by
  obtain ⟨active, installed, allThreads, h⟩ := attach_host o a c
  have hh : (o.attach c a).1.host.hooked = o.host.hooked := by rw [h, attachCarrier_frame]
  rw [bare, bare, hh, unhooked_attach]

theorem catches_bare (c : Carrier) (n : Nat) : o.bare.catches c n = o.catches c n := by
  have admits : ∀ t : Thread, o.bare.admits { t with hooked := false } n = o.admits t n :=
    fun _ => rfl
  cases c with
  | selector s =>
    rw [catches, catches, bare, Threads.listed_unhooked, List.any_map]
    rfl
  | port handle => rfl
  | thread x =>
    rw [catches, catches, bare, Threads.find?_unhooked, Option.any_map]
    rfl
  | ident m =>
    rw [catches, catches, bare, Threads.listed_unhooked, ← List.map_reverse, List.find?_map,
      Option.any_map]
    rfl

theorem awaits_bare (c : Carrier) (x : String) : o.bare.awaits c x = o.awaits c x := by
  cases c with
  | thread y =>
    rw [awaits, awaits, bare, Threads.find?_unhooked, Option.any_map]
    rfl
  | _ => rfl

theorem listed_bare : o.bare.threads.listed.map (·.name) = o.threads.listed.map (·.name) := by
  rw [bare, Threads.listed_unhooked, List.map_map]
  rfl

end Observed

end ThreadTrace
