import ThreadTrace.Proofs.Json.Numbers

namespace ThreadTrace.Json

open Numeral (isAsciiDigit isAsciiDigit_toDigits isShort_iff)
open Text.Quoted (hex hexDigit)

variable {fuel : Nat} {done s rest : List Char}

theorem hexValue?_hexDigit {n : Nat} (hn : n < 16) : hexValue? (hexDigit n) = some n := by
  have h : ∀ k : Fin 16, hexValue? (hexDigit k) = some k.val := by decide
  exact h ⟨n, hn⟩

theorem hex4?_hex {n : Nat} (hn : n < 0x10000) : hex4? (hex 4 n ++ s) = some (n, s) := by
  have hd : ∀ k : Nat, hexValue? (hexDigit (k % 16)) = some (k % 16) := fun k =>
    hexValue?_hexDigit (Nat.mod_lt k (by decide))
  simp only [hex, List.nil_append, List.cons_append, hex4?, hd, Option.bind_eq_bind,
    Option.bind_some]
  congr 2
  omega

theorem stringRest_escape (c : Char) :
    stringRest (fuel + 1) done (escape c ++ s) = stringRest fuel (c :: done) s := by
  unfold escape
  split
  · rename_i hc
    rcases Bool.or_eq_true_iff.1 hc with hc | hc <;> rw [eq_of_beq hc] <;> rfl
  iterate 5
    split
    · rename_i hc
      rw [eq_of_beq hc]
      rfl
  rename_i hq _ _ _ _ _
  obtain ⟨hq, hb⟩ : (c == '"') = false ∧ (c == '\\') = false := by simpa using hq
  split
  · rename_i hc
    have hu : unicodeEscape? (hex 4 c.toNat ++ s) = some (c, s) := by
      have hlt : c.toNat < 0x10000 := by omega
      have hlow : c.toNat < 0xd800 := by omega
      simp [unicodeEscape?, hex4?_hex hlt, hlow]
    simp only [List.cons_append, stringRest, hu]
    rfl
  · rename_i hc
    simp [stringRest, hq, hb, hc]

theorem escape_length (c : Char) : 0 < (escape c).length := by
  unfold escape
  repeat' split
  all_goals simp

theorem stringRest_quote (cs : List Char) (hf : (cs.flatMap escape).length < fuel) :
    stringRest fuel done (cs.flatMap escape ++ '"' :: rest) =
      some (String.ofList (done.reverse ++ cs), rest) := by
  induction cs generalizing fuel done with
  | nil =>
    obtain ⟨fuel, rfl⟩ : ∃ k, fuel = k + 1 := ⟨fuel - 1, by simp at hf; omega⟩
    simp [stringRest]
  | cons c cs ih =>
    have hc := escape_length c
    rw [List.flatMap_cons, List.length_append] at hf
    obtain ⟨fuel, rfl⟩ : ∃ k, fuel = k + 1 := ⟨fuel - 1, by omega⟩
    rw [List.flatMap_cons, List.append_assoc, stringRest_escape, ih (by omega)]
    simp

theorem quote_append (t : String) :
    quote t ++ rest = '"' :: (t.toList.flatMap escape ++ '"' :: rest) := by
  simp [quote]

/-- A quoted text is read back, with any fuel that covers it. -/
theorem stringRest_text (t : String) :
    stringRest ((t.toList.flatMap escape ++ '"' :: rest).length + 1) []
      (t.toList.flatMap escape ++ '"' :: rest) = some (t, rest) := by
  have hf : (t.toList.flatMap escape).length <
      (t.toList.flatMap escape ++ '"' :: rest).length + 1 := by
    rw [List.length_append]
    omega
  rw [stringRest_quote _ hf]
  simp

theorem value_text : value (fuel + 1) ('"' :: s) =
    (stringRest (s.length + 1) [] s).map fun (t, r) => (text t, r) := rfl

theorem value_quote (t : String) : value (fuel + 1) (quote t ++ rest) = some (.text t, rest) := by
  rw [quote_append, value_text, stringRest_text]
  rfl

theorem value_digit {c : Char} (hc : isAsciiDigit c = true) :
    value (fuel + 1) (c :: s) = number? false (c :: s) := by
  have hne : ∀ d, isAsciiDigit d = false → (c == d) = false := fun _ => beq_false_of hc
  have hs : skip (c :: s) = c :: s := by
    simp [skip, isSpace, hne ' ' rfl, hne '\n' rfl, hne '\r' rfl, hne '\t' rfl]
  unfold value
  rw [hs]
  simp [hne '"' rfl, hne '[' rfl, hne '\x7b' rfl, hne '-' rfl, hc]

theorem value_minus {c : Char} (hc : isNumeric c = true) :
    value (fuel + 1) ('-' :: c :: s) = number? true (c :: s) := by
  have hI : c ≠ 'I' := by
    rintro rfl
    cases hc
  have hv : value (fuel + 1) ('-' :: c :: s) =
      if (c :: s).head? == some 'I' then word? "Infinity" (real (.infinite true)) (c :: s)
      else number? true (c :: s) := rfl
  rw [hv, if_neg (by simpa using hI)]

theorem write_int (n : Int) :
    write (.int n) = (if n < 0 then ['-'] else []) ++ Nat.toDigits 10 n.natAbs :=
  Numeral.toList_toString n

theorem value_int (n : Int) (hr : Ends rest) :
    value (fuel + 1) (write (.int n) ++ rest) =
      if Numeral.IsShort n then some (.int n, rest) else none := by
  obtain ⟨c, r, hcr⟩ := List.exists_cons_of_ne_nil (Nat.toDigits_ne_nil (n := n.natAbs) (b := 10))
  have hc : isAsciiDigit c = true :=
    isAsciiDigit_toDigits (n := n.natAbs) (hcr ▸ List.mem_cons_self)
  have hd := number?_toDigits n.natAbs (n < 0) hr
  have hv : value (fuel + 1) (write (.int n) ++ rest) =
      number? (n < 0) (Nat.toDigits 10 n.natAbs ++ rest) := by
    rw [write_int, hcr]
    by_cases hn : n < 0
    · rw [if_pos hn, decide_eq_true hn]
      exact value_minus (isNumeric_digit hc)
    · rw [if_neg hn, decide_eq_false hn]
      exact value_digit hc
  rw [hv, hd]
  by_cases hs : Numeral.IsShort n
  · have hn : (if decide (n < 0) = true then -(n.natAbs : Int) else n.natAbs) = n := by
      simp only [decide_eq_true_eq]
      split <;> omega
    rw [if_pos hs, (isShort_iff n).1 hs, hn]
    rfl
  · rw [if_neg hs, if_pos ((Bool.not_eq_false _).mp (mt (isShort_iff n).2 hs))]

theorem skip_numeric (hs : ∀ c ∈ s, isNumeric c = true) : skip s = s := by
  cases s with
  | nil => rfl
  | cons c s =>
    refine List.dropWhile_cons_of_neg fun h => ?_
    have hne : ∀ d, isNumeric d = false → (c == d) = false := fun _ =>
      beq_false_of (hs c List.mem_cons_self)
    simp [isSpace, hne ' ' rfl, hne '\n' rfl, hne '\r' rfl, hne '\t' rfl] at h

theorem value_numeric {cs : List Char} {v : Json} (hcs : ∀ c ∈ cs, isNumeric c = true)
    (h : parse? (String.ofList cs) = some v) (hr : Ends rest) :
    value (fuel + 1) (cs ++ rest) = some (v, rest) := by
  have whole : ∀ {negative s r}, s <:+ cs → number? negative s = some (v, r) → (skip r).isEmpty →
      number? negative (s ++ rest) = some (v, rest) := by
    intro negative s r hs hn hr'
    have hnum : ∀ c ∈ r, isNumeric c = true := fun c hc =>
      hcs c (hs.subset ((number?_suffix hn).subset hc))
    rw [skip_numeric hnum, List.isEmpty_iff] at hr'
    subst hr'
    exact number?_append hr hn
  obtain ⟨r, hv, he⟩ : ∃ r, value (2 * cs.length + 2) cs = some (v, r) ∧ (skip r).isEmpty := by
    rw [parse?, String.toList_ofList] at h
    split at h
    · split at h
      · obtain rfl := Option.some.inj h
        exact ⟨_, ‹_›, ‹_›⟩
      · cases h
    · cases h
  cases cs with
  | nil => cases hv
  | cons c cs =>
    have hc := hcs c List.mem_cons_self
    by_cases hd : isAsciiDigit c = true
    · rw [value_digit hd] at hv
      rw [List.cons_append, value_digit hd]
      exact whole (List.suffix_refl _) hv he
    · obtain rfl | rfl | rfl | rfl : c = '.' ∨ c = 'e' ∨ c = '+' ∨ c = '-' := by
        simpa [isNumeric, hd] using hc
      · cases hv
      · cases hv
      · cases hv
      · cases cs with
        | nil => cases hv
        | cons d cs =>
          have hd := hcs d (List.mem_cons_of_mem _ List.mem_cons_self)
          rw [value_minus hd] at hv
          rw [List.cons_append, List.cons_append, value_minus hd]
          exact whole (List.suffix_cons _ _) hv he

theorem value_real {x : Double} (hx : x.isFinite = true)
    (hp : parse? (render (.real x)) = some (.real x)) (hr : Ends rest) :
    value (fuel + 1) (write (.real x) ++ rest) = some (.real x, rest) :=
  value_numeric (numeric_number hx) hp hr

theorem value_null : value (fuel + 1) (write null ++ rest) = some (null, rest) := rfl

theorem value_bool (b : Bool) :
    value (fuel + 1) (write (bool b) ++ rest) = some (bool b, rest) := by
  cases b <;> rfl

mutual

def numbers : Json → List Json
  | int n => [int n]
  | real x => [real x]
  | array vs => numbersOfItems vs
  | object fs => numbersOfFields fs
  | null | bool _ | text _ => []

def numbersOfItems : List Json → List Json
  | [] => []
  | v :: vs => numbers v ++ numbersOfItems vs

def numbersOfFields : List (String × Json) → List Json
  | [] => []
  | (_, v) :: fs => numbers v ++ numbersOfFields fs

end

def IsShort : Json → Prop
  | int n => Numeral.IsShort n
  | _ => True

instance : DecidablePred IsShort
  | int n => inferInstanceAs (Decidable (Numeral.IsShort n))
  | null | bool _ | real _ | text _ | array _ | object _ => inferInstanceAs (Decidable True)

/-- Whether a double is finite and comes back if it is written and read. -/
def IsKept : Json → Prop
  | real x => x.isFinite = true ∧ parse? (render (real x)) = some (real x)
  | _ => True

theorem write_head (v : Json) (hv : ∀ n ∈ numbers v, n.IsKept) :
    ∃ c s, write v = c :: s ∧ isSpace c = false ∧ c ≠ ']' := by
  have numeric : ∀ c, isNumeric c = true → isSpace c = false ∧ c ≠ ']' := by
    intro c hc
    have hs : skip [c] = [c] := skip_numeric (by simpa using hc)
    refine ⟨Bool.eq_false_iff.2 fun h => ?_, by rintro rfl; cases hc⟩
    rw [skip, List.dropWhile_cons_of_pos h] at hs
    cases hs
  cases v with
  | null => exact ⟨_, _, rfl, rfl, by decide⟩
  | bool b => cases b <;> exact ⟨_, _, rfl, rfl, by decide⟩
  | int n =>
    rw [write_int]
    split
    · exact ⟨_, _, rfl, rfl, by decide⟩
    · obtain ⟨c, r, hcr⟩ :=
        List.exists_cons_of_ne_nil (Nat.toDigits_ne_nil (n := n.natAbs) (b := 10))
      have hc := isAsciiDigit_toDigits (n := n.natAbs) (hcr ▸ List.mem_cons_self)
      exact ⟨c, r, hcr, numeric c (isNumeric_digit hc)⟩
  | real x =>
    obtain ⟨hx, hp⟩ := hv (real x) List.mem_cons_self
    cases hw : write (real x) with
    | nil =>
      rw [render, hw] at hp
      cases hp
    | cons c s =>
      have hm : c ∈ write (real x) := hw ▸ List.mem_cons_self
      exact ⟨c, s, rfl, numeric c (numeric_number hx c hm)⟩
  | text t => exact ⟨_, _, rfl, rfl, by decide⟩
  | array vs => exact ⟨_, _, rfl, rfl, by decide⟩
  | object fs => exact ⟨_, _, rfl, rfl, by decide⟩

theorem writeItems_head {vs : List Json} (hn : vs ≠ []) (hv : ∀ n ∈ numbersOfItems vs, n.IsKept) :
    ∃ c s, writeItems vs = c :: s ∧ isSpace c = false ∧ c ≠ ']' := by
  cases vs with
  | nil => exact absurd rfl hn
  | cons v vs =>
    obtain ⟨c, s, hc, hd⟩ := write_head v fun n hn => hv n (List.mem_append_left _ hn)
    cases vs with
    | nil => exact ⟨c, s, hc, hd⟩
    | cons w r => exact ⟨c, s ++ ',' :: writeItems (w :: r), by rw [writeItems, hc]; rfl, hd⟩

theorem value_bracket : value (fuel + 1) ('[' :: s) = match skip s with
    | ']' :: r => some (array [], r)
    | r => (items fuel r).map fun (vs, r) => (array vs, r) := rfl

theorem value_array {c : Char} (hs : isSpace c = false) (hc : c ≠ ']') :
    value (fuel + 1) ('[' :: c :: s) =
      (items fuel (c :: s)).map fun (vs, r) => (array vs, r) := by
  have hk : skip (c :: s) = c :: s := List.dropWhile_cons_of_neg (by simp [hs])
  rw [value_bracket, hk]
  split
  · exact absurd (List.cons.inj ‹_›).1 hc
  · rfl

theorem writeFields_head (f : String × Json) (fs : List (String × Json)) :
    ∃ s, writeFields (f :: fs) = '"' :: s := by
  cases fs <;> exact ⟨_, rfl⟩

theorem value_object :
    value (fuel + 1) ('\x7b' :: '"' :: s) =
      (members fuel ('"' :: s)).map fun (fs, r) => (object fs, r) := rfl

theorem items_eq : items (fuel + 1) s = (value fuel s).bind fun (v, r) =>
    (match skip r with
      | ',' :: r => (items fuel r).bind fun (vs, r) => some (v :: vs, r)
      | ']' :: r => some ([v], r)
      | _ => none) := rfl

theorem members_text : members (fuel + 1) ('"' :: s) =
    (stringRest (s.length + 1) [] s).bind fun (k, r) =>
      (match skip r with
        | ':' :: r => (value fuel r).bind fun (v, r) =>
          (match skip r with
            | ',' :: r => (members fuel r).bind fun (fs, r) => some ((k, v) :: fs, r)
            | '\x7d' :: r => some ([(k, v)], r)
            | _ => none)
        | _ => none) := rfl

theorem members_eq (k : String) :
    members (fuel + 1) (quote k ++ ':' :: s) = (value fuel s).bind fun (v, r) =>
      (match skip r with
        | ',' :: r => (members fuel r).bind fun (fs, r) => some ((k, v) :: fs, r)
        | '\x7d' :: r => some ([(k, v)], r)
        | _ => none) := by
  rw [quote_append, members_text, stringRest_text]
  rfl

theorem bind_ite {α β : Type} {A B : Prop} [Decidable A] [Decidable B] {a : α} {b : β}
    {next : α → Option β} (h : next a = if B then some b else none) :
    (if A then some a else none).bind next = if A ∧ B then some b else none := by
  by_cases hA : A
  · simp only [hA, if_true, true_and]
    exact h
  · simp only [hA, if_false, false_and]
    rfl

mutual

/-- A document is read back if its numbers are short enough, and is not read otherwise. -/
theorem value_write : ∀ (v : Json) {fuel : Nat} {rest : List Char}, (∀ n ∈ numbers v, n.IsKept) →
    2 * (write v).length ≤ fuel → Ends rest →
      value fuel (write v ++ rest) =
        if ∀ n ∈ numbers v, n.IsShort then some (v, rest) else none
  | v, fuel, rest, hk, hf, hr => by
    obtain ⟨c, s, hc, -, -⟩ := write_head v hk
    -- every value is written with some character, so there is fuel for one step more
    obtain ⟨fuel, rfl⟩ : ∃ k, fuel = k + 1 := ⟨fuel - 1, by rw [hc, List.length_cons] at hf; omega⟩
    cases v with
    | null => exact value_null
    | bool b => exact value_bool b
    | int n =>
      rw [value_int n hr]
      simp [numbers, IsShort]
    | real x =>
      obtain ⟨hx, hp⟩ := hk (real x) List.mem_cons_self
      rw [value_real hx hp hr]
      simp [numbers, IsShort]
    | text t =>
      rw [write, value_quote]
      simp [numbers]
    | array vs =>
      have ih := @items_write vs
      cases vs with
      | nil => rfl
      | cons v vs =>
        obtain ⟨d, t, hd, hb, he⟩ := writeItems_head (List.cons_ne_nil v vs) hk
        have hw : write (array (v :: vs)) ++ rest =
            '[' :: (writeItems (v :: vs) ++ ']' :: rest) := by
          simp [write]
        have hl : (write (array (v :: vs))).length = (writeItems (v :: vs)).length + 2 := by
          simp [write]
        rw [hw, hd, List.cons_append, value_array hb he, ← List.cons_append, ← hd,
          ih (List.cons_ne_nil v vs) hk (by omega), apply_ite (Option.map _)]
        rfl
    | object fs =>
      have ih := @members_write fs
      cases fs with
      | nil => rfl
      | cons f fs =>
        have hw : write (object (f :: fs)) ++ rest =
            '\x7b' :: (writeFields (f :: fs) ++ '\x7d' :: rest) := by
          simp [write]
        have hl : (write (object (f :: fs))).length = (writeFields (f :: fs)).length + 2 := by
          simp [write]
        obtain ⟨t, ht⟩ := writeFields_head f fs
        rw [hw, ht, List.cons_append, value_object, ← List.cons_append, ← ht,
          ih (List.cons_ne_nil f fs) hk (by omega), apply_ite (Option.map _)]
        rfl

theorem items_write : ∀ (vs : List Json) {fuel : Nat} {rest : List Char}, vs ≠ [] →
    (∀ n ∈ numbersOfItems vs, n.IsKept) → 2 * (writeItems vs).length + 1 ≤ fuel →
      items fuel (writeItems vs ++ ']' :: rest) =
        if ∀ n ∈ numbersOfItems vs, n.IsShort then some (vs, rest) else none
  | [], _, _, hn, _, _ => absurd rfl hn
  | v :: vs, fuel, rest, _, hk, hf => by
    have hv := @value_write v
    have ih := @items_write vs
    obtain ⟨hkv, hks⟩ := List.forall_mem_append.1 hk
    obtain ⟨fuel, rfl⟩ : ∃ k, fuel = k + 1 := ⟨fuel - 1, by omega⟩
    simp only [numbersOfItems, List.forall_mem_append]
    cases vs with
    | nil =>
      rw [writeItems] at hf ⊢
      rw [items_eq, hv hkv (by omega) (ends_cons (by decide))]
      exact bind_ite (if_pos nofun).symm
    | cons w r =>
      have hl : (writeItems (v :: w :: r)).length =
          (write v).length + (writeItems (w :: r)).length + 1 := by
        simp [writeItems]
        omega
      rw [writeItems, List.append_assoc, List.cons_append, items_eq,
        hv hkv (by omega) (ends_cons (by decide))]
      refine bind_ite ?_
      change (items fuel (writeItems (w :: r) ++ ']' :: rest)).bind _ = _
      rw [ih (List.cons_ne_nil w r) hks (by omega)]
      split <;> rfl

theorem members_write : ∀ (fs : List (String × Json)) {fuel : Nat} {rest : List Char}, fs ≠ [] →
    (∀ n ∈ numbersOfFields fs, n.IsKept) → 2 * (writeFields fs).length + 1 ≤ fuel →
      members fuel (writeFields fs ++ '\x7d' :: rest) =
        if ∀ n ∈ numbersOfFields fs, n.IsShort then some (fs, rest) else none
  | [], _, _, hn, _, _ => absurd rfl hn
  | (k, v) :: fs, fuel, rest, _, hk, hf => by
    have hv := @value_write v
    have ih := @members_write fs
    obtain ⟨hkv, hks⟩ := List.forall_mem_append.1 hk
    obtain ⟨fuel, rfl⟩ : ∃ k, fuel = k + 1 := ⟨fuel - 1, by omega⟩
    simp only [numbersOfFields, List.forall_mem_append]
    cases fs with
    | nil =>
      have hl : (write v).length ≤ (writeFields [(k, v)]).length := by
        simp [writeFields]
        omega
      rw [writeFields, List.append_assoc, List.cons_append, members_eq,
        hv hkv (by omega) (ends_cons (by decide))]
      exact bind_ite (if_pos nofun).symm
    | cons f r =>
      have hl : (write v).length + (writeFields (f :: r)).length + 1 ≤
          (writeFields ((k, v) :: f :: r)).length := by
        simp [writeFields]
        omega
      rw [writeFields, List.append_assoc, List.append_assoc, List.cons_append, List.cons_append,
        members_eq, hv hkv (by omega) (ends_cons (by decide))]
      refine bind_ite ?_
      change (members fuel (writeFields (f :: r) ++ '\x7d' :: rest)).bind _ = _
      rw [ih (List.cons_ne_nil f r) hks (by omega)]
      split <;> rfl

end

theorem parse?_render (v : Json) (hk : ∀ n ∈ numbers v, n.IsKept) :
    parse? (render v) = if ∀ n ∈ numbers v, n.IsShort then some v else none := by
  have h := @value_write v _ [] hk (Nat.le_add_right (2 * (write v).length) 2) nofun
  rw [List.append_nil] at h
  rw [parse?, render, String.toList_ofList]
  split at h
  · rename_i hs
    rw [if_pos hs, h]
    rfl
  · rename_i hs
    rw [if_neg hs, h]

def OneLine (s : List Char) : Prop := ∀ c ∈ s, c ≠ '\n' ∧ c ≠ '\r'

theorem oneLine_append {t : List Char} : OneLine (s ++ t) ↔ OneLine s ∧ OneLine t :=
  List.forall_mem_append

theorem oneLine_cons {c : Char} : OneLine (c :: s) ↔ (c ≠ '\n' ∧ c ≠ '\r') ∧ OneLine s :=
  List.forall_mem_cons

theorem oneLine_hex (width n : Nat) : OneLine (hex width n) := by
  have hd : ∀ k : Fin 16, hexDigit k ≠ '\n' ∧ hexDigit k ≠ '\r' := by decide
  induction width generalizing n with
  | zero => exact nofun
  | succ width ih =>
    exact oneLine_append.2 ⟨ih _, oneLine_cons.2 ⟨hd ⟨n % 16, Nat.mod_lt n (by decide)⟩, nofun⟩⟩

theorem oneLine_escape (c : Char) : OneLine (escape c) := by
  unfold escape
  split
  · rename_i hc
    rcases Bool.or_eq_true_iff.1 hc with hc | hc <;> rw [eq_of_beq hc] <;> simp [OneLine]
  split
  · simp [OneLine]
  split
  · simp [OneLine]
  rename_i hn hr
  iterate 3
    split
    · simp [OneLine]
  split
  · exact oneLine_cons.2 ⟨by decide, oneLine_cons.2 ⟨by decide, oneLine_hex _ _⟩⟩
  · exact oneLine_cons.2 ⟨⟨by simpa using hn, by simpa using hr⟩, nofun⟩

theorem oneLine_quote (t : String) : OneLine (quote t) := by
  refine oneLine_cons.2 ⟨by decide, oneLine_append.2 ⟨fun c hc => ?_, by simp [OneLine]⟩⟩
  obtain ⟨d, -, hd⟩ := List.mem_flatMap.1 hc
  exact oneLine_escape d c hd

theorem oneLine_numeric (hs : ∀ c ∈ s, isNumeric c = true) : OneLine s := by
  refine fun c hc => ⟨?_, ?_⟩ <;> rintro rfl <;> cases hs _ hc

mutual

theorem oneLine_write : ∀ v : Json, OneLine (write v)
  | null => by simp [write, OneLine]
  | bool b => by cases b <;> simp [write, OneLine]
  | int n => by
    rw [write_int]
    exact oneLine_append.2 ⟨by split <;> simp [OneLine],
      oneLine_numeric fun c hc => isNumeric_digit (isAsciiDigit_toDigits hc)⟩
  | real x => by
    by_cases hx : x.isFinite = true
    · exact oneLine_numeric (numeric_number hx)
    · rw [write, number, if_neg hx]
      simp [OneLine]
  | text t => oneLine_quote t
  | array vs =>
    oneLine_cons.2 ⟨by decide, oneLine_append.2 ⟨oneLine_writeItems vs, by simp [OneLine]⟩⟩
  | object fs =>
    oneLine_cons.2 ⟨by decide, oneLine_append.2 ⟨oneLine_writeFields fs, by simp [OneLine]⟩⟩

theorem oneLine_writeItems : ∀ vs : List Json, OneLine (writeItems vs)
  | [] => nofun
  | [v] => oneLine_write v
  | v :: w :: r =>
    oneLine_append.2 ⟨oneLine_write v, oneLine_cons.2 ⟨by decide, oneLine_writeItems (w :: r)⟩⟩

theorem oneLine_writeFields : ∀ fs : List (String × Json), OneLine (writeFields fs)
  | [] => nofun
  | [(k, v)] =>
    oneLine_append.2 ⟨oneLine_quote k, oneLine_cons.2 ⟨by decide, oneLine_write v⟩⟩
  | (k, v) :: f :: r =>
    have hv := oneLine_append.2 ⟨oneLine_quote k, oneLine_cons.2 ⟨by decide, oneLine_write v⟩⟩
    oneLine_append.2 ⟨hv, oneLine_cons.2 ⟨by decide, oneLine_writeFields (f :: r)⟩⟩

end

end ThreadTrace.Json
