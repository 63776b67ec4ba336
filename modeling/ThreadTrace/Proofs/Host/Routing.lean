import ThreadTrace.Host.Target

namespace ThreadTrace

theorem Value.equal_int (m n : Int) : (Value.int m).equal (.int n) = (m == n) := by
  simp [equal, equalAtom, asInt?]

namespace Target

theorem route_int (t : Target) (n : Int) :
    t.route (.int n) =
      if t.sinks.isEmpty then .ok none
      else match t.sinks.find? fun s => n.fmod t.sinks.length == s.1 with
        | some s => .ok (some s.2)
        | none => .error (.noRoute (toString (n.fmod t.sinks.length))) := by
  simp only [route, Value.remainder, Value.asInt?]
  split
  · rfl
  · simp only [bind, Except.bind, Value.equal_int]
    cases t.sinks.find? fun s => n.fmod t.sinks.length == s.1 <;> rfl

theorem route_int_eq_none {t : Target} {n : Int} : t.route (.int n) = .ok none ↔ t.sinks = [] := by
  rw [route_int]
  cases t.sinks with
  | nil => simp
  | cons x xs =>
    simp only [List.isEmpty_cons, Bool.false_eq_true, if_false]
    split <;> simp

theorem find?_zipIdx (ws : List Nat) (i k : Nat) :
    ((ws.zipIdx k).map fun x => ((x.2 : Int), x.1)).find? (fun s => (((k + i : Nat) : Int)) == s.1) =
      ws[i]?.map fun w => (((k + i : Nat) : Int), w) := by
  induction ws generalizing i k with
  | nil => simp
  | cons w ws ih =>
    cases i with
    | zero => simp
    | succ i =>
      have h := ih i (k + 1)
      have he : k + 1 + i = k + (i + 1) := by omega
      rw [he] at h
      have hne : (((k + (i + 1) : Nat) : Int) == (k : Int)) = false := by
        simp only [beq_eq_false_iff_ne, ne_eq, Int.ofNat_inj]
        omega
      simp only [List.zipIdx_cons, List.map_cons, List.find?_cons, hne, h]
      simp

/-- A carrier's events go to the worker whose index is the carrier's remainder by their number. -/
theorem route_ofWorkers (id : Nat) (mode : Mode) {ws : List Nat} (hw : ws ≠ []) (n : Int) :
    ∃ k, ws[(n % ws.length).toNat]? = some k ∧
      (ofWorkers id mode ws).route (.int n) = .ok (some k) := by
  have hl : 0 < ws.length := List.length_pos_iff.2 hw
  have hlt : (n % ws.length).toNat < ws.length := by
    have h1 := Int.emod_nonneg n (b := ws.length) (by omega)
    have h2 := Int.emod_lt_of_pos n (b := ws.length) (by omega)
    omega
  have hn : (((n % ws.length).toNat : Nat) : Int) = n % ws.length :=
    Int.toNat_of_nonneg (Int.emod_nonneg n (by omega))
  refine ⟨ws[(n % ws.length).toNat], List.getElem?_eq_getElem hlt, ?_⟩
  have hf := find?_zipIdx ws (n % ws.length).toNat 0
  rw [List.getElem?_eq_getElem hlt] at hf
  simp only [Nat.zero_add, hn, Option.map_some] at hf
  rw [route_int]
  have he : ((ws.zipIdx.map fun x => ((x.2 : Int), x.1)).isEmpty) = false := by
    cases ws with
    | nil => exact absurd rfl hw
    | cons w ws => rfl
  simp only [ofWorkers, he, Bool.false_eq_true, if_false, List.length_map, List.length_zipIdx]
  rw [Int.fmod_eq_emod_of_nonneg n (by omega), hf]

end Target

end ThreadTrace
