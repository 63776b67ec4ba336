import ThreadTrace.Value.Equality
import ThreadTrace.Value.Printer

namespace ThreadTrace

section Outcomes

variable {ε α β γ : Type}

@[simp] theorem isOk_ok (a : α) : (Except.ok a : Except ε α).isOk = true := rfl

@[simp] theorem isOk_error (e : ε) : (Except.error e : Except ε α).isOk = false := rfl

theorem isOk_bind (x : Except ε α) (f : α → β) : (x >>= fun a => .ok (f a)).isOk = x.isOk := by
  cases x <;> rfl

theorem isOk_bind_bind (x : Except ε α) (y : Except ε β) (f : α → β → γ) :
    (x >>= fun a => y >>= fun b => .ok (f a b)).isOk = (x.isOk && y.isOk) := by
  cases x <;> cases y <;> rfl

end Outcomes

namespace Double

def IsNumber : Double → Prop
  | finite _ m e => m < 2 * normal ∧ -1074 ≤ e ∧ e ≤ 971 ∧ (normal ≤ m ∨ e = -1074)
  | infinite _ => True
  | nan => False

def unsigned : Double → Double
  | finite _ 0 e => finite false 0 e
  | x => x

theorem div_ratio {m a b g : Nat} {e : Int} (he : -(g : Int) ≤ e) (hr : ratio m e = (a, b))
    (hd : a % b = 0) : a / b * Nat.pow 2 g = m * Nat.pow 2 (e + g).toNat := by
  change a / b * 2 ^ g = m * 2 ^ (e + g).toNat
  unfold ratio scaled at hr
  split at hr
  · obtain ⟨rfl, rfl⟩ := Prod.mk.inj hr
    have hn : (e + g).toNat = e.toNat + g := by omega
    rw [hn, Nat.pow_add, Nat.div_one, ← Nat.mul_assoc]
    rfl
  · obtain ⟨rfl, rfl⟩ := Prod.mk.inj hr
    have hn : g = (-e).toNat + (e + g).toNat := by omega
    have hm : m / 2 ^ (-e).toNat * 2 ^ (-e).toNat = m := by
      apply Nat.div_mul_cancel
      apply Nat.dvd_of_mod_eq_zero
      simpa using hd
    calc m / (1 * 2 ^ (-e).toNat) * 2 ^ g
        = m / 2 ^ (-e).toNat * 2 ^ (-e).toNat * 2 ^ (e + g).toNat := by
          rw [Nat.one_mul, Nat.mul_assoc, ← Nat.pow_add, ← hn]
      _ = m * 2 ^ (e + g).toNat := by rw [hm]

theorem toInt?_units {s : Bool} {m g : Nat} {e n : Int} (he : -(g : Int) ≤ e)
    (h : (finite s m e).toInt? = some n) :
    n.natAbs * Nat.pow 2 g = m * Nat.pow 2 (e + g).toNat ∧ (m = 0 ∨ s = decide (n < 0)) := by
  rw [toInt?] at h
  cases hr : ratio m e with
  | mk a b =>
    rw [hr] at h
    by_cases hd : a % b = 0
    · simp only [hd, if_true, Option.some.injEq] at h
      have hw := div_ratio he hr hd
      have hz : a / b = 0 → m = 0 := by
        intro hq
        rw [hq, Nat.zero_mul] at hw
        have hp := Nat.two_pow_pos (e + g).toNat
        exact (Nat.mul_eq_zero.1 hw.symm).resolve_right (Nat.ne_of_gt hp)
      generalize a / b = q at h hw hz
      have ha : n.natAbs = q := by cases s <;> simp [← h]
      refine ⟨by rw [ha, hw], ?_⟩
      by_cases hq : q = 0
      · exact .inl (hz hq)
      · right
        cases s
        · simp [← h]
        · simp [← h]
          omega
    · simp [hd] at h

/-- A double is not so great that it could not be written. -/
theorem isShort_of_toInt? {x : Double} {n : Int} (hx : x.IsNumber) (h : x.toInt? = some n) :
    Numeral.IsShort n := by
  cases x with
  | infinite s => cases h
  | nan => cases h
  | finite s m e =>
    obtain ⟨hm, he, hmost, -⟩ := hx
    have bound : ∀ g : Nat, -(g : Int) ≤ e → 53 + (971 + g) < Numeral.longest →
        n.natAbs < 10 ^ Numeral.longest := by
      intro g hg hlong
      obtain ⟨hu, -⟩ := toInt?_units hg h
      have hm53 : m ≤ 2 ^ 53 := Nat.le_trans (Nat.le_of_lt hm) (by decide)
      have he2 : 2 ^ (e + g).toNat ≤ 2 ^ (971 + g) := Nat.pow_le_pow_right (by decide) (by omega)
      calc n.natAbs ≤ n.natAbs * 2 ^ g := Nat.le_mul_of_pos_right _ (Nat.two_pow_pos g)
        _ = m * 2 ^ (e + g).toNat := hu
        _ ≤ 2 ^ 53 * 2 ^ (971 + g) := Nat.mul_le_mul hm53 he2
        _ = 2 ^ (53 + (971 + g)) := (Nat.pow_add 2 53 (971 + g)).symm
        _ ≤ 10 ^ (53 + (971 + g)) := Nat.pow_le_pow_left (by decide) _
        _ < 10 ^ Numeral.longest := Nat.pow_lt_pow_right (by decide) hlong
    exact (Nat.length_toDigits_le_iff (by decide) (by decide)).2 (bound 1074 he (by decide))

theorem form_unique {m n i j : Nat} (hm : m < 2 * normal) (hn : normal ≤ n ∨ j = 0)
    (hij : i ≤ j) (h : m * Nat.pow 2 i = n * Nat.pow 2 j) :
    m = n ∧ i = j ∨ m = 0 ∧ n = 0 := by
  obtain ⟨d, rfl⟩ := Nat.exists_eq_add_of_le hij
  replace h : m * 2 ^ i = n * 2 ^ (i + d) := h
  have hd : m = n * 2 ^ d := by
    apply Nat.eq_of_mul_eq_mul_right (Nat.two_pow_pos i)
    rw [h, Nat.pow_add, Nat.mul_comm (2 ^ i), Nat.mul_assoc]
  cases d with
  | zero => exact .inl ⟨by simpa using hd, rfl⟩
  | succ d =>
    have h2 : 2 * n ≤ m := by
      have h1 : n * 1 ≤ n * 2 ^ d := Nat.mul_le_mul_left n Nat.one_le_two_pow
      rw [hd, Nat.pow_succ, ← Nat.mul_assoc]
      omega
    have hz : n = 0 := by omega
    exact .inr ⟨by rw [hd, hz, Nat.zero_mul], hz⟩

theorem unsigned_eq_of_toInt? {x y : Double} {n : Int} (hx : x.IsNumber) (hy : y.IsNumber)
    (hxn : x.toInt? = some n) (hyn : y.toInt? = some n) : x.unsigned = y.unsigned := by
  cases x with
  | infinite s => cases hxn
  | nan => cases hxn
  | finite s m e =>
    cases y with
    | infinite t => cases hyn
    | nan => cases hyn
    | finite t k f =>
      obtain ⟨hm, he, -, hme⟩ := hx
      obtain ⟨hk, hf, -, hkf⟩ := hy
      obtain ⟨hu, hs⟩ := toInt?_units (g := 1074) he hxn
      obtain ⟨hv, ht⟩ := toInt?_units (g := 1074) hf hyn
      have huv := hu.symm.trans hv
      have hmk : m = k ∧ e = f ∨ m = 0 ∧ k = 0 := by
        obtain hef | hef := Int.le_total e f
        · have h := form_unique hm (hkf.imp_right (by omega)) (Int.toNat_le_toNat (by omega)) huv
          omega
        · have h := form_unique hk (hme.imp_right (by omega)) (Int.toNat_le_toNat (by omega)) huv.symm
          omega
      obtain ⟨rfl, rfl⟩ | ⟨rfl, rfl⟩ := hmk
      · obtain rfl | hs := hs
        · rfl
        · obtain rfl | ht := ht
          · rfl
          · rw [hs, ht]
      · have hn : normal ≠ 0 := by decide
        obtain rfl : e = -1074 := by omega
        obtain rfl : f = -1074 := by omega
        rfl

@[simp] theorem toInt?_unsigned (x : Double) : x.unsigned.toInt? = x.toInt? := by
  cases x with
  | finite s m e =>
    cases m with
    | zero =>
      by_cases he : 0 ≤ e <;> cases s <;> simp [unsigned, toInt?, ratio, scaled, he]
    | succ m => rfl
  | infinite s => rfl
  | nan => rfl

theorem same_iff {x y : Double} (hx : x.IsNumber) (hy : y.IsNumber) :
    x.same y = true ↔ x.unsigned = y.unsigned := by
  cases x with
  | nan => exact hx.elim
  | infinite s =>
    cases y with
    | nan => exact hy.elim
    | infinite t => simp [same, unsigned]
    | finite t k f => cases k <;> simp [same, unsigned]
  | finite s m e =>
    cases y with
    | nan => exact hy.elim
    | infinite t => cases m <;> simp [same, unsigned]
    | finite t k f =>
      have hn : normal ≠ 0 := by decide
      obtain ⟨-, -, -, he⟩ := hx
      obtain ⟨-, -, -, hf⟩ := hy
      cases m <;> cases k <;> simp_all [same, unsigned, and_assoc]

end Double

namespace Event

def key (e : Event) : Event := { e with timestamp := e.timestamp.map Double.unsigned }

def IsKey (e : Event) : Prop := ∀ x ∈ e.timestamp, x.IsNumber

theorem same_iff {e d : Event} (he : e.IsKey) (hd : d.IsKey) : e.same d = true ↔ e.key = d.key := by
  obtain ⟨k, c, u, f, a, as, cr, t, dp, m⟩ := e
  obtain ⟨k', c', u', f', a', as', cr', t', dp', m'⟩ := d
  cases t with
  | none => cases t' <;> simp [same, key]
  | some x =>
    cases t' with
    | none => simp [same, key]
    | some y =>
      have h := Double.same_iff (he x rfl) (hd y rfl)
      simp [same, key, h, and_assoc, and_comm, and_left_comm]

end Event

namespace Value

mutual

/-- The form of a value as a key. -/
def key : Value → Value
  | bool b => int (if b then 1 else 0)
  | float x => match x.toInt? with
    | some n => int n
    | none => float x.unsigned
  | selector s => text s.text
  | tuple items => tuple (keys items)
  | scope carriers => scope (keys carriers)
  | port handle => port (key handle)
  | options m p n s r d => options m (key p) n s r d
  | event e => event e.key
  | workshop _ mark => workshop default mark
  | v => v

def keys : List Value → List Value
  | [] => []
  | x :: xs => key x :: keys xs

end

mutual

/-- Values that can be keys: nothing in them is a list or a dictionary, and each number in them has
its one form. -/
def IsKey : Value → Prop
  | list _ | dict _ | store .. => False
  | float x => x.IsNumber
  | event e => e.IsKey
  | tuple items | scope items => AreKeys items
  | port handle => IsKey handle
  | options _ p .. => IsKey p
  | _ => True

def AreKeys : List Value → Prop
  | [] => True
  | x :: xs => IsKey x ∧ AreKeys xs

end

def isCompound : Value → Bool
  | tuple _ | scope _ | port _ | options .. => true
  | _ => false

theorem key_float (x : Double) :
    (float x).key = (x.toInt?.map int).getD (float x.unsigned) := by
  rw [key]
  cases x.toInt? <;> rfl

theorem same_floats {x y : Double} (hx : x.IsNumber) (hy : y.IsNumber) :
    (float x).same (float y) = true ↔ (float x).key = (float y).key := by
  have hs : (float x).same (float y) = x.same y := by simp [same, isSameNan, equal, equalAtom]
  rw [hs, Double.same_iff hx hy, key_float, key_float]
  constructor
  · intro h
    rw [← Double.toInt?_unsigned x, h, Double.toInt?_unsigned]
  · intro h
    cases hn : x.toInt? with
    | none =>
      cases hm : y.toInt? <;> simp [hn, hm] at h
      exact h
    | some n =>
      cases hm : y.toInt? <;> simp [hn, hm] at h
      exact Double.unsigned_eq_of_toInt? hx hy hn (h ▸ hm)

theorem same_float {x : Double} {b : Value} (hx : x.IsNumber) (hb : b.IsKey) :
    ((float x).same b = true ↔ (float x).key = b.key) ∧
      (b.same (float x) = true ↔ b.key = (float x).key) := by
  cases b with
  | float y => exact ⟨same_floats hx hb, same_floats hb hx⟩
  | list _ | dict _ | store _ _ => exact hb.elim
  | _ =>
    rw [key_float]
    cases hn : x.toInt? <;>
      simp [same, isSameNan, equal, equalAtom, key, asInt?, Double.sameInt, hn]
    all_goals exact eq_comm

theorem same_iff_atom {a b : Value} (ha : a.IsKey) (hb : b.IsKey) (hc : a.isCompound = false) :
    a.same b = true ↔ a.key = b.key := by
  cases a <;> try (first | exact ha.elim | cases hc)
  case float x => exact (same_float ha hb).1
  all_goals
    cases b <;> try (first | exact hb.elim | exact (same_float hb ha).2)
  case event.refl.event e d => simpa [same, isSameNan, equal, equalAtom, key] using Event.same_iff ha hb
  all_goals simp [same, isSameNan, equal, equalAtom, key, asInt?, asText?]

mutual

theorem same_iff : ∀ {a b : Value}, a.IsKey → b.IsKey → (a.same b = true ↔ a.key = b.key)
  | tuple xs, b, ha, hb => by
    cases b <;> try (first | exact hb.elim | exact (same_float hb ha).2)
    case tuple ys => simpa [same, isSameNan, equal, key] using equalItems_iff ha hb
    all_goals simp [same, isSameNan, equal, equalAtom, key, asInt?, asText?]
  | scope xs, b, ha, hb => by
    cases b <;> try (first | exact hb.elim | exact (same_float hb ha).2)
    case scope ys => simpa [same, isSameNan, equal, key] using equalItems_iff ha hb
    all_goals simp [same, isSameNan, equal, equalAtom, key, asInt?, asText?]
  | port x, b, ha, hb => by
    cases b <;> try (first | exact hb.elim | exact (same_float hb ha).2)
    case port y =>
      have h : x.same y = true ↔ x.key = y.key := same_iff ha hb
      simpa [same, isSameNan, equal, key] using h
    all_goals simp [same, isSameNan, equal, equalAtom, key, asInt?, asText?]
  | options m p n s r d, b, ha, hb => by
    cases b <;> try (first | exact hb.elim | exact (same_float hb ha).2)
    case options m' q n' s' r' d' =>
      have h : p.same q = true ↔ p.key = q.key := same_iff ha hb
      have hs : (options m p n s r d).same (options m' q n' s' r' d') =
        (m == m' && p.same q && n == n' && s == s' && r == r' && d == d') := rfl
      simp only [hs, Bool.and_eq_true, h, beq_iff_eq, key, options.injEq, and_assoc]
    all_goals simp [same, isSameNan, equal, equalAtom, key, asInt?, asText?]
  | null, b, ha, hb | bool _, b, ha, hb | int _, b, ha, hb | float _, b, ha, hb
  | nan _, b, ha, hb | text _, b, ha, hb | bytes _, b, ha, hb | list _, b, ha, hb
  | dict _, b, ha, hb | selector _, b, ha, hb | moduleObject .., b, ha, hb | thread _, b, ha, hb
  | sealed .., b, ha, hb | app _, b, ha, hb | callback .., b, ha, hb | event _, b, ha, hb
  | store .., b, ha, hb | console _, b, ha, hb | workshop .., b, ha, hb => same_iff_atom ha hb rfl

theorem equalItems_iff : ∀ {xs ys : List Value}, AreKeys xs → AreKeys ys →
    (equalItems xs ys = true ↔ keys xs = keys ys)
  | [], ys, hx, hy => by cases ys <;> simp [equalItems, keys]
  | x :: xs, [], hx, hy => by simp [equalItems, keys]
  | x :: xs, y :: ys, hx, hy => by
    have h := same_iff hx.1 hy.1
    have hs := equalItems_iff hx.2 hy.2
    rw [same] at h
    simp only [equalItems, keys, Bool.and_eq_true, h, hs, List.cons.injEq]

end

section Keys

variable {a b c : Value}

theorem isOk_text {n : Int} (hn : Numeral.IsShort n) : (Numeral.text n).isOk = true := by
  rw [Numeral.text, if_pos hn]
  rfl

theorem same_self (ha : a.IsKey) : a.same a = true := (same_iff ha ha).2 rfl

theorem same_symm (ha : a.IsKey) (hb : b.IsKey) (h : a.same b = true) : b.same a = true :=
  (same_iff hb ha).2 ((same_iff ha hb).1 h).symm

theorem same_trans (ha : a.IsKey) (hb : b.IsKey) (hc : c.IsKey) (hab : a.same b = true)
    (hbc : b.same c = true) : a.same c = true :=
  (same_iff ha hc).2 (((same_iff ha hb).1 hab).trans ((same_iff hb hc).1 hbc))

mutual

theorem unhashable?_of_isKey : ∀ {v : Value}, v.IsKey → v.unhashable? = none
  | tuple _, h | scope _, h => unhashableItem?_of_areKeys h
  | port x, h => unhashable?_of_isKey (v := x) h
  | options _ p _ _ _ _, h => unhashable?_of_isKey (v := p) h
  | list _, h | dict _, h | store .., h => h.elim
  | null, _ | bool _, _ | int _, _ | float _, _ | nan _, _ | text _, _ | bytes _, _
  | selector _, _ | moduleObject .., _ | thread _, _ | sealed .., _ | app _, _ | callback .., _
  | event _, _ | console _, _ | workshop .., _ => rfl

theorem unhashableItem?_of_areKeys : ∀ {xs : List Value}, AreKeys xs → unhashableItem? xs = none
  | [], _ => rfl
  | x :: xs, h => by
    rw [unhashableItem?, unhashable?_of_isKey h.1]
    exact unhashableItem?_of_areKeys h.2

end

mutual

theorem isOk_shown_key : ∀ {v : Value}, v.IsKey → v.key.shown.isOk = v.shown.isOk
  | tuple xs, h | scope xs, h => by
    have hs : AreKeys xs := h
    simp only [key, shown, isOk_bind, isOk_shownItems_keys hs]
  | port x, h => by simp only [key, shown, isOk_bind, isOk_shown_key (v := x) h]
  | options _ p _ _ _ _, h => by
    simp only [key, shown, isOk_bind_bind, isOk_shown_key (v := p) h]
  | float x, h => by
    rw [key_float]
    cases hn : x.toInt? with
    | none => rfl
    | some n => exact isOk_text (Double.isShort_of_toInt? h hn)
  | bool b, _ => by cases b <;> rfl
  | event e, _ => by
    have hkey : e.key.IsShort ↔ e.IsShort := Iff.rfl
    by_cases hs : e.IsShort <;> simp [key, shown, hkey, hs]
  | selector _, _ | workshop .., _ => rfl
  | null, _ | int _, _ | nan _, _ | text _, _ | bytes _, _ | moduleObject .., _ | thread _, _
  | sealed .., _ | app _, _ | callback .., _ | console _, _ => by simp only [key]
  | list _, h | dict _, h | store .., h => h.elim

theorem isOk_shownItems_keys : ∀ {xs : List Value}, AreKeys xs →
    (shownItems (keys xs)).isOk = (shownItems xs).isOk
  | [], _ => rfl
  | x :: xs, h => by
    simp only [keys, shownItems, isOk_bind_bind, isOk_shown_key h.1, isOk_shownItems_keys h.2]

end

theorem isOk_shown_of_same (ha : a.IsKey) (hb : b.IsKey) (h : a.same b = true) :
    a.shown.isOk = b.shown.isOk := by
  rw [← isOk_shown_key ha, (same_iff ha hb).1 h, isOk_shown_key hb]

theorem isOk_plain (v : Value) : v.plain.isOk = v.shown.isOk := by
  cases v with
  | event e => by_cases hs : e.IsShort <;> simp [plain, shown, hs]
  | _ => simp only [plain, shown, isOk_bind, isOk_bind_bind, isOk_ok]

end Keys

end Value

end ThreadTrace
