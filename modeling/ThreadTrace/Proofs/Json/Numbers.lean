import ThreadTrace.Json.Reader
import Mathlib.Data.List.TakeWhile

namespace ThreadTrace

namespace Numeral

variable {n : Nat}

theorem isAsciiDigit_toDigits {c : Char} (hc : c ∈ Nat.toDigits 10 n) : isAsciiDigit c = true :=
  Nat.isDigit_of_mem_toDigits (by decide) (by decide) hc

theorem natOf_toDigits (n : Nat) : natOf (Nat.toDigits 10 n) = n := Nat.ofDigitChars_ten_toDigits

theorem head?_toDigits (hn : n ≠ 0) : (Nat.toDigits 10 n).head? ≠ some '0' := by
  induction n using Nat.strongRecOn with
  | ind n ih =>
    rw [Nat.toDigits_eq_if (by decide)]
    split
    · simpa using hn
    · have hd : n / 10 ≠ 0 := by omega
      have hne : Nat.toDigits 10 (n / 10) ≠ [] := Nat.toDigits_ne_nil
      obtain ⟨c, r, hr⟩ := List.exists_cons_of_ne_nil hne
      have hc := ih (n / 10) (by omega) hd
      rw [hr] at hc ⊢
      exact hc

theorem toList_toString (n : Int) :
    (toString n).toList = (if n < 0 then ['-'] else []) ++ Nat.toDigits 10 n.natAbs := by
  have hn : ∀ k : Nat, k.repr.toList = Nat.toDigits 10 k := fun _ => Nat.toList_repr
  rw [Int.toString_eq_repr, Int.repr_eq_if]
  split
  · rename_i h
    rw [if_neg (by omega), hn, show n.toNat = n.natAbs by omega]
    rfl
  · rename_i h
    rw [if_pos (by omega), String.toList_append, hn, show (-n).toNat = n.natAbs by omega]
    rfl

theorem isShort_iff (n : Int) : IsShort n ↔ isTooLong (Nat.toDigits 10 n.natAbs) = false := by
  rw [IsShort, isTooLong, decide_eq_false_iff_not, Nat.not_lt]

end Numeral

namespace Json

open Numeral

/-- Whether no number goes on in a text. -/
def Ends (rest : List Char) : Prop :=
  ∀ c ∈ rest.head?, isAsciiDigit c = false ∧ c ≠ '.' ∧ c ≠ 'e' ∧ c ≠ 'E'

theorem ends_cons {c : Char} {s : List Char}
    (hc : isAsciiDigit c = false ∧ c ≠ '.' ∧ c ≠ 'e' ∧ c ≠ 'E') : Ends (c :: s) := by
  rintro _ ⟨⟩
  exact hc

theorem takeWhile_append {s rest : List Char} (hr : Ends rest) :
    (s ++ rest).takeWhile isAsciiDigit = s.takeWhile isAsciiDigit ∧
      (s ++ rest).dropWhile isAsciiDigit = s.dropWhile isAsciiDigit ++ rest := by
  induction s with
  | nil =>
    cases rest with
    | nil => exact ⟨rfl, rfl⟩
    | cons c rest =>
      have hc := (hr c rfl).1
      exact ⟨by simp [hc], by simp [hc]⟩
  | cons c s ih =>
    rw [List.cons_append, List.takeWhile_cons, List.takeWhile_cons, List.dropWhile_cons,
      List.dropWhile_cons, ih.1, ih.2]
    split <;> exact ⟨rfl, rfl⟩

theorem takeWhile_digits {ds : List Char} (hd : ∀ c ∈ ds, isAsciiDigit c = true) :
    ds.takeWhile isAsciiDigit = ds ∧ ds.dropWhile isAsciiDigit = [] :=
  ⟨List.takeWhile_eq_self_iff.2 hd, List.dropWhile_eq_nil_iff.2 hd⟩

theorem fraction?_of_ne {s : List Char} (hs : s.head? ≠ some '.') : fraction? s = some ([], s) := by
  unfold fraction?
  split
  · exact absurd rfl hs
  · rfl

theorem fraction?_append {s r rest ds : List Char} (hr : Ends rest)
    (h : fraction? s = some (ds, r)) : fraction? (s ++ rest) = some (ds, r ++ rest) := by
  by_cases hs : s.head? = some '.'
  · obtain ⟨s, rfl⟩ : ∃ s', s = '.' :: s' := by
      cases s with
      | nil => cases hs
      | cons c s => exact ⟨s, by rw [Option.some.inj hs]⟩
    simp only [fraction?, List.cons_append, (takeWhile_append hr).1, (takeWhile_append hr).2] at h ⊢
    split at h
    · cases h
    · rename_i he
      obtain ⟨rfl, rfl⟩ := Prod.mk.inj (Option.some.inj h)
      rw [if_neg he]
  · rw [fraction?_of_ne hs] at h
    obtain ⟨rfl, rfl⟩ := Prod.mk.inj (Option.some.inj h)
    refine fraction?_of_ne fun he => ?_
    cases s with
    | nil => exact (hr '.' he).2.1 rfl
    | cons c s => exact hs he

theorem sign_append {c : Char} {s : List Char} (rest : List Char) :
    sign (c :: s ++ rest) = ((sign (c :: s)).1, (sign (c :: s)).2 ++ rest) := by
  by_cases hm : c = '-'
  · subst hm
    rfl
  · by_cases hp : c = '+'
    · subst hp
      rfl
    · have h : ∀ t : List Char, sign (c :: t) = (false, c :: t) := by
        intro t
        unfold sign
        split
        · exact absurd (List.cons.inj ‹_›).1 hm
        · exact absurd (List.cons.inj ‹_›).1 hp
        · rfl
      rw [List.cons_append, h, h]
      rfl

theorem exponent?_append {s r rest : List Char} {e : Option Int} (hr : Ends rest)
    (h : exponent? s = some (e, r)) : exponent? (s ++ rest) = some (e, r ++ rest) := by
  cases s with
  | nil =>
    obtain ⟨rfl, rfl⟩ := Prod.mk.inj (Option.some.inj h)
    cases rest with
    | nil => rfl
    | cons c rest =>
      obtain ⟨-, -, he, hE⟩ := hr c rfl
      simp [exponent?, he, hE]
  | cons c s =>
    rw [List.cons_append]
    by_cases hc : (c == 'e' || c == 'E') = true
    · simp only [exponent?, hc, if_true] at h ⊢
      cases s with
      | nil => cases h
      | cons d s =>
        rw [sign_append, (takeWhile_append hr).1, (takeWhile_append hr).2]
        split at h
        · cases h
        · rename_i he
          obtain ⟨rfl, rfl⟩ := Prod.mk.inj (Option.some.inj h)
          rw [if_neg he]
    · simp only [exponent?, hc] at h ⊢
      obtain ⟨rfl, rfl⟩ := Prod.mk.inj (Option.some.inj h)
      rfl

/-- What a number says, given its digits, those of its fraction, and its exponent. -/
def numeral (negative : Bool) (ds frac : List Char) (e : Option Int) : Json :=
  if frac.isEmpty && e.isNone then .int (if negative then -natOf ds else natOf ds)
  else .real (nearest negative (natOf (ds ++ frac)) (e.getD 0 - frac.length)
    (ds.length + frac.length))

def isWhole (ds : List Char) : Bool := !(ds.isEmpty || (ds.length > 1 && ds.head? == some '0'))

theorem number?_eq (negative : Bool) (s : List Char) :
    number? negative s =
      let ds := s.takeWhile isAsciiDigit
      if isWhole ds && !isTooLong ds then
        (fraction? (s.dropWhile isAsciiDigit)).bind fun (frac, r) =>
          (exponent? r).map fun (e, r) => (numeral negative ds frac e, r)
      else none := by
  unfold number?
  dsimp only
  generalize s.takeWhile isAsciiDigit = ds
  generalize s.dropWhile isAsciiDigit = r
  cases hw : ds.isEmpty || (decide (ds.length > 1) && ds.head? == some '0') with
  | true => simp [isWhole, hw]
  | false =>
    cases hl : isTooLong ds with
    | true => simp
    | false =>
      have hd : isWhole ds = true := by rw [isWhole, hw]; rfl
      simp only [hd, Bool.false_eq_true, if_false, Bool.not_false, Bool.and_self, if_true]
      cases fraction? r with
      | none => rfl
      | some x =>
        obtain ⟨frac, r⟩ := x
        simp only [numeral, Option.bind_eq_bind, Option.bind_some]
        cases exponent? r with
        | none => rfl
        | some y =>
          simp only [Option.bind_some, Option.map_some]
          split <;> rfl

theorem number?_eq_some {negative : Bool} {s r : List Char} {v : Json} :
    number? negative s = some (v, r) ↔
      isWhole (s.takeWhile isAsciiDigit) = true ∧
        isTooLong (s.takeWhile isAsciiDigit) = false ∧
          ∃ frac r' e, fraction? (s.dropWhile isAsciiDigit) = some (frac, r') ∧
            exponent? r' = some (e, r) ∧
              numeral negative (s.takeWhile isAsciiDigit) frac e = v := by
  rw [number?_eq]
  cases hw : isWhole (s.takeWhile isAsciiDigit) <;>
    cases hl : isTooLong (s.takeWhile isAsciiDigit) <;>
    simp [hw, hl, Option.bind_eq_some_iff]

/-- A number is read alike whatever stands behind it. -/
theorem number?_append {negative : Bool} {s r rest : List Char} {v : Json} (hr : Ends rest)
    (h : number? negative s = some (v, r)) :
    number? negative (s ++ rest) = some (v, r ++ rest) := by
  obtain ⟨hw, hl, frac, r', e, hf, he, hv⟩ := number?_eq_some.1 h
  rw [number?_eq_some, (takeWhile_append hr).1, (takeWhile_append hr).2]
  exact ⟨hw, hl, frac, _, e, fraction?_append hr hf, exponent?_append hr he, hv⟩

theorem number?_toDigits (n : Nat) (negative : Bool) {rest : List Char} (hr : Ends rest) :
    number? negative (Nat.toDigits 10 n ++ rest) =
      if isTooLong (Nat.toDigits 10 n) then none
      else some (.int (if negative then -n else n), rest) := by
  have hd := takeWhile_digits fun c hc => isAsciiDigit_toDigits (n := n) hc
  split
  · rename_i hl
    rw [number?_eq]
    simp only [(takeWhile_append hr).1, hd.1, hl, Bool.not_true, Bool.and_false]
    rfl
  · rename_i hl
    refine number?_append (r := []) hr (number?_eq_some.2 ?_)
    rw [hd.1, hd.2]
    refine ⟨?_, by simpa using hl, [], [], none, rfl, rfl, ?_⟩
    · rw [isWhole, Bool.not_eq_true', Bool.or_eq_false_iff]
      refine ⟨by simp, ?_⟩
      by_cases hn : n = 0
      · subst hn
        rfl
      · simp [head?_toDigits hn]
    · rw [numeral, natOf_toDigits]
      rfl

def isNumeric (c : Char) : Bool := isAsciiDigit c || ['.', 'e', '+', '-'].contains c

theorem isNumeric_digit {c : Char} (hc : isAsciiDigit c = true) : isNumeric c = true := by
  rw [isNumeric, hc]
  rfl

theorem beq_false_of {p : Char → Bool} {c d : Char} (hc : p c = true) (hd : p d = false) :
    (c == d) = false := by
  refine beq_eq_false_iff_ne.2 ?_
  rintro rfl
  rw [hc] at hd
  cases hd

theorem fraction?_suffix {s r ds : List Char} (h : fraction? s = some (ds, r)) : r <:+ s := by
  unfold fraction? at h
  split at h
  · dsimp only at h
    split at h
    · cases h
    · obtain ⟨-, rfl⟩ := Prod.mk.inj (Option.some.inj h)
      exact (List.dropWhile_suffix _).trans (List.suffix_cons _ _)
  · obtain ⟨-, rfl⟩ := Prod.mk.inj (Option.some.inj h)
    exact List.suffix_refl _

theorem sign_suffix (s : List Char) : (sign s).2 <:+ s := by
  unfold sign
  split
  · exact List.suffix_cons _ _
  · exact List.suffix_cons _ _
  · exact List.suffix_refl _

theorem exponent?_suffix {s r : List Char} {e : Option Int} (h : exponent? s = some (e, r)) :
    r <:+ s := by
  cases s with
  | nil =>
    obtain ⟨-, rfl⟩ := Prod.mk.inj (Option.some.inj h)
    exact List.suffix_refl _
  | cons c s =>
    simp only [exponent?] at h
    split at h
    · split at h
      · cases h
      · obtain ⟨-, rfl⟩ := Prod.mk.inj (Option.some.inj h)
        exact ((List.dropWhile_suffix _).trans (sign_suffix s)).trans (List.suffix_cons _ _)
    · obtain ⟨-, rfl⟩ := Prod.mk.inj (Option.some.inj h)
      exact List.suffix_refl _

theorem number?_suffix {negative : Bool} {s r : List Char} {v : Json}
    (h : number? negative s = some (v, r)) : r <:+ s := by
  obtain ⟨-, -, frac, r', e, hf, he, -⟩ := number?_eq_some.1 h
  exact ((exponent?_suffix he).trans (fraction?_suffix hf)).trans (List.dropWhile_suffix _)

def Numeric (s : String) : Prop := ∀ c ∈ s.toList, isNumeric c = true

theorem numeric_of_all {s : String} (h : s.toList.all isNumeric = true) : Numeric s :=
  List.all_eq_true.1 h

theorem Numeric.append {s t : String} (hs : Numeric s) (ht : Numeric t) : Numeric (s ++ t) := by
  intro c hc
  rw [String.toList_append, List.mem_append] at hc
  exact hc.elim (hs c) (ht c)

theorem numeric_ofList {s : List Char} (h : ∀ c ∈ s, isNumeric c = true) :
    Numeric (String.ofList s) := by
  intro c hc
  rw [String.toList_ofList] at hc
  exact h c hc

theorem numeric_zeros (n : Nat) : Numeric (String.ofList (List.replicate n '0')) :=
  numeric_ofList fun c hc => by rw [List.eq_of_mem_replicate hc]; rfl

theorem numeric_nat (n : Nat) : Numeric (toString n) := by
  intro c hc
  rw [Nat.toString_eq_repr, Nat.toList_repr] at hc
  exact isNumeric_digit (isAsciiDigit_toDigits hc)

theorem numeric_padLeft (width : Nat) {s : String} (hs : Numeric s) :
    Numeric (Double.padLeft width s) :=
  (numeric_zeros _).append hs

theorem numeric_magnitude (l : Double.Layout) (d : Double.Digits) :
    Numeric (Double.magnitudeText l d) := by
  have hd : Numeric (toString d.digits) := numeric_nat _
  unfold Double.magnitudeText
  dsimp only
  split
  · split
    · exact (hd.append (numeric_zeros _)).append (numeric_of_all rfl)
    · split
      · refine Numeric.append (Numeric.append ?_ (numeric_of_all rfl)) ?_
        · exact numeric_ofList fun c hc => hd c (List.mem_of_mem_take hc)
        · exact numeric_ofList fun c hc => hd c (List.mem_of_mem_drop hc)
      · exact (Numeric.append (numeric_of_all rfl) (numeric_zeros _)).append hd
  · refine Numeric.append (Numeric.append (Numeric.append ?_ (numeric_of_all rfl)) ?_)
      (numeric_padLeft _ (numeric_nat _))
    · split
      · rename_i c d r hr
        refine numeric_ofList fun x hx => ?_
        have hm : ∀ y ∈ c :: d :: r, isNumeric y = true := hr ▸ hd
        rcases List.mem_cons.1 hx with rfl | hx
        · exact hm _ List.mem_cons_self
        · rcases List.mem_cons.1 hx with rfl | hx
          · rfl
          · exact hm x (List.mem_cons_of_mem c hx)
      · exact numeric_ofList hd
    · split <;> exact numeric_of_all rfl

theorem numeric_number {x : Double} (hx : x.isFinite = true) : Numeric (number x) := by
  rw [number, if_pos hx]
  cases x with
  | finite s m e =>
    refine Numeric.append ?_ ?_
    · split <;> exact numeric_of_all rfl
    · split
      · exact numeric_of_all rfl
      · exact numeric_magnitude _ _
  | infinite s => cases hx
  | nan => cases hx

end Json

end ThreadTrace
