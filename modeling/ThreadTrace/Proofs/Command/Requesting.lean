import Mathlib.Data.List.Forall2
import Mathlib.Data.List.Induction
import Mathlib.Data.List.TakeWhile
import Mathlib.Data.Nat.Digits.Defs
import ThreadTrace.Command.Request
import ThreadTrace.Value.Printer

namespace ThreadTrace

namespace Text.Digit

variable {cs : List Char} {n : Nat}

/-- That decimal digits, of whatever scripts, write a number. -/
def Writes (cs : List Char) (n : Nat) : Prop :=
  cs ≠ [] ∧ ∃ ds : List Nat, cs.map value? = ds.map some ∧ n = Nat.ofDigits 10 ds.reverse

theorem number?_concat (cs : List Char) (c : Char) :
    number? (cs ++ [c]) = (number? cs).bind fun n => (value? c).map (10 * n + ·) := by
  simp [number?]

theorem number?_eq_some_iff :
    number? cs = some n ↔
      ∃ ds : List Nat, cs.map value? = ds.map some ∧ n = Nat.ofDigits 10 ds.reverse := by
  induction cs using List.reverseRecOn generalizing n with
  | nil =>
    constructor
    · rintro ⟨⟩
      exact ⟨[], rfl, rfl⟩
    · rintro ⟨ds, hds, rfl⟩
      obtain rfl : ds = [] := by simpa using hds.symm
      rfl
  | append_singleton cs c ih =>
    have digits : ∀ (ds : List Nat) d, Nat.ofDigits 10 (ds ++ [d]).reverse =
        10 * Nat.ofDigits 10 ds.reverse + d := by
      intro ds d
      rw [List.reverse_append, List.reverse_singleton, List.singleton_append, Nat.ofDigits_cons,
        Nat.add_comm]
    rw [number?_concat, Option.bind_eq_some_iff]
    constructor
    · rintro ⟨m, hm, hn⟩
      obtain ⟨ds, hds, rfl⟩ := ih.1 hm
      obtain ⟨d, hd, rfl⟩ := Option.map_eq_some_iff.1 hn
      exact ⟨ds ++ [d], by simp [hds, hd], (digits ds d).symm⟩
    · rintro ⟨ds, hds, rfl⟩
      obtain rfl | ⟨es, d, rfl⟩ := List.eq_nil_or_concat' ds
      · simp at hds
      · simp only [List.map_append, List.map_cons, List.map_nil] at hds
        obtain ⟨hes, hd⟩ := List.append_inj' hds rfl
        refine ⟨_, ih.2 ⟨es, hes, rfl⟩, ?_⟩
        rw [List.cons_eq_cons.1 hd |>.1, Option.map_some, digits]

theorem writes_iff : Writes cs n ↔ cs ≠ [] ∧ number? cs = some n := by
  rw [Writes, number?_eq_some_iff]

theorem isSome_of_number? (h : number? cs = some n) : ∀ c ∈ cs, (value? c).isSome = true := by
  obtain ⟨ds, hds, -⟩ := number?_eq_some_iff.1 h
  intro c hc
  have hm : value? c ∈ ds.map some := hds ▸ List.mem_map_of_mem hc
  obtain ⟨d, -, hd⟩ := List.mem_map.1 hm
  rw [← hd]
  rfl

theorem isDigit_of_writes (h : Writes cs n) : ∀ c ∈ cs, isDigit c = true := by
  intro c hc
  rw [isDigit, isSome_of_number? (writes_iff.1 h).2 c hc, Bool.true_or]

end Text.Digit

theorem Selector.eq_text {s : String} {sel : Selector} (h : ofText? s = some sel) :
    s = sel.text := by
  have hs := List.find?_some h
  exact (by simpa using hs : sel.text = s).symm

namespace Entry

variable {cs m f : List Char}

theorem splitColon_eq_some_iff : splitColon cs = some (m, f) ↔ cs = m ++ ':' :: f ∧ ':' ∉ m := by
  unfold splitColon
  constructor
  · intro h
    have whole := List.takeWhile_append_dropWhile (p := (· != ':')) (l := cs)
    have first := List.head?_dropWhile_not (· != ':') cs
    split at h
    · rename_i c r hd
      rw [hd] at whole first
      obtain ⟨rfl, rfl⟩ := Prod.mk.inj (Option.some.inj h)
      have hc : c = ':' := by simpa using first
      refine ⟨hc ▸ whole.symm, fun hm => ?_⟩
      simpa using List.mem_takeWhile_imp hm
    · cases h
  · rintro ⟨rfl, hm⟩
    have before : ∀ c ∈ m, (c != ':') = true := by
      intro c hc
      rw [bne_iff_ne]
      rintro rfl
      exact hm hc
    simp [List.dropWhile_append_of_pos before, List.takeWhile_append_of_pos before]

end Entry

namespace Command

open Text.Digit (Writes isDigit longest number?)

/-- What a text in a scope stands for. -/
inductive Denotes : String → Value → Prop
  | number {s n} (h : Writes s.toList n) : Denotes s (.int n)
  | selector (sel : Selector) : Denotes sel.text (.selector sel)
  | text {s} (hn : ∀ n, ¬Writes s.toList n) (hs : ∀ sel : Selector, s ≠ sel.text) :
    Denotes s (.text s)

/-- A text of digits that no number is read from. -/
def Misread (s : String) : Prop :=
  s ≠ "" ∧ (∀ c ∈ s.toList, isDigit c = true) ∧
    ((∀ n, ¬Writes s.toList n) ∨ longest < s.toList.length)

def IsReference (ref : String) : Prop :=
  ∃ m f, ref.toList = m ++ ':' :: f ∧ ':' ∉ m ∧ m ≠ [] ∧ f ≠ []

/-- A callback that is shown as a reference, which its first colon divides. -/
inductive Calls : String → Value → Prop
  | callback {ref m f} (hm : m ≠ "") (hf : f ≠ "") (hc : ':' ∉ m.toList)
      (h : (Value.callback m f).plain = .ok ref) : Calls ref (.callback m f)

theorem mapM_cases {α β : Type} {g : α → Except Fault β} {Bad : α → Prop}
    {Blamed : α → Fault → Prop} {R : α → β → Prop}
    (h : ∀ x, (Bad x ∧ ∃ f, g x = .error f ∧ Blamed x f) ∨ ¬Bad x ∧ ∃ y, g x = .ok y ∧ R x y)
    (xs : List α) :
    (∃ x ∈ xs, Bad x ∧ ∃ f, xs.mapM g = .error f ∧ Blamed x f) ∨
      (∀ x ∈ xs, ¬Bad x) ∧ ∃ ys, xs.mapM g = .ok ys ∧ List.Forall₂ R xs ys := by
  induction xs with
  | nil => exact .inr ⟨by simp, [], rfl, .nil⟩
  | cons x xs ih =>
    rw [List.mapM_cons]
    obtain ⟨hb, f, hf, hblamed⟩ | ⟨hb, y, hy, hr⟩ := h x
    · rw [hf]
      exact .inl ⟨x, List.mem_cons_self, hb, f, rfl, hblamed⟩
    · rw [hy]
      obtain ⟨z, hz, hbz, f, hf, hblamed⟩ | ⟨hn, ys, hys, hrs⟩ := ih
      · rw [hf]
        exact .inl ⟨z, List.mem_cons_of_mem _ hz, hbz, f, rfl, hblamed⟩
      · rw [hys]
        exact .inr ⟨List.forall_mem_cons.2 ⟨hb, hn⟩, y :: ys, rfl, .cons hr hrs⟩

theorem denotes_carrier {s : String} (hn : ∀ n, ¬Writes s.toList n) :
    Denotes s (Entry.carrier (.text s)) := by
  rw [Entry.carrier]
  cases ho : Selector.ofText? s with
  | some sel =>
    obtain rfl := Selector.eq_text ho
    exact .selector sel
  | none =>
    refine .text hn fun sel hs => ?_
    rw [hs, Selector.ofText?_text] at ho
    cases ho

theorem carrier_cases (s : String) :
    (Misread s ∧ ∃ f, carrier s = .error f ∧ f.kind = "ValueError") ∨
      ¬Misread s ∧ ∃ v, carrier s = .ok v ∧ Denotes s (Entry.carrier v) := by
  unfold carrier
  dsimp only
  split
  · rename_i hd
    -- Either there is no character or one of them is no digit.
    have other : s.toList = [] ∨ ¬∀ c ∈ s.toList, isDigit c = true := by simpa using hd
    refine .inr ⟨fun hm => ?_, _, rfl, denotes_carrier fun n hw => ?_⟩
    · exact other.elim (fun he => hm.1 (by simpa using he)) fun hn => hn hm.2.1
    · exact other.elim hw.1 fun hn => hn (Text.Digit.isDigit_of_writes hw)
  · rename_i hd
    obtain ⟨hne, hall⟩ : s.toList ≠ [] ∧ ∀ c ∈ s.toList, isDigit c = true := by simpa using hd
    have hs : s ≠ "" := by simpa using hne
    have shorter := (List.takeWhile_prefix (l := s.toList)
      (fun c => (Text.Digit.value? c).isSome)).length_le
    split
    · rename_i hl
      exact .inl ⟨⟨hs, hall, .inr (hl.trans_le shorter)⟩, _, rfl, rfl⟩
    · rename_i hl
      cases hnum : number? s.toList with
      | none =>
        refine .inl ⟨⟨hs, hall, .inl fun n hw => ?_⟩, _, rfl, rfl⟩
        rw [(Text.Digit.writes_iff.1 hw).2] at hnum
        cases hnum
      | some n =>
        have hw : Writes s.toList n := Text.Digit.writes_iff.2 ⟨hne, hnum⟩
        rw [List.takeWhile_eq_self_iff.2 (Text.Digit.isSome_of_number? hnum)] at hl
        exact .inr ⟨fun hm => hm.2.2.elim (fun hn => hn n hw) hl, _, rfl, .number hw⟩

theorem callback_cases (ref : String) :
    (¬IsReference ref ∧ ∃ f, callback ref = .error f ∧
        f = .badParameter (Fault.badCallback ref).message) ∨
      ¬¬IsReference ref ∧ ∃ v, callback ref = .ok v ∧ Calls ref v := by
  rw [callback, Entry.parseCallback]
  split
  · rename_i v hv
    split at hv
    · rename_i c m d f hs
      obtain ⟨hr, hc⟩ := Entry.splitColon_eq_some_iff.1 hs
      obtain rfl := Except.ok.inj hv
      refine .inr ⟨not_not.2 ⟨_, _, hr, hc, by simp, by simp⟩, _, rfl, .callback ?_ ?_ ?_ ?_⟩
      · simp
      · simp
      · simpa using hc
      · refine congrArg Except.ok (String.toList_inj.1 ?_)
        simp [hr]
    · cases hv
  · rename_i e hv
    split at hv
    · cases hv
    · rename_i hs
      obtain rfl := Except.error.inj hv
      refine .inl ⟨?_, _, rfl, rfl⟩
      rintro ⟨m, f, hr, hc, hm, hf⟩
      obtain ⟨c, m, rfl⟩ := List.exists_cons_of_ne_nil hm
      obtain ⟨d, f, rfl⟩ := List.exists_cons_of_ne_nil hf
      exact hs c m d f (Entry.splitColon_eq_some_iff.2 ⟨hr, hc⟩)

theorem scopes_cases (texts : List String) :
    (∃ s ∈ texts, Misread s ∧ ∃ f, scopes texts = .error f ∧ f.kind = "ValueError") ∨
      (∀ s ∈ texts, ¬Misread s) ∧ ∃ carriers,
        scopes texts = .ok (if texts = [] then [] else [.scope carriers]) ∧
          List.Forall₂ Denotes texts carriers := by
  cases texts with
  | nil => exact .inr ⟨by simp, [], rfl, .nil⟩
  | cons s texts =>
    have hs : scopes (s :: texts) =
        (s :: texts).mapM carrier >>= fun given => .ok [Entry.scope (.list given)] := rfl
    rw [hs]
    obtain ⟨t, ht, hm, f, hf, hk⟩ | ⟨hm, given, hg, hd⟩ := mapM_cases carrier_cases (s :: texts)
    · rw [hf]
      exact .inl ⟨t, ht, hm, f, rfl, hk⟩
    · rw [hg]
      exact .inr ⟨hm, given.map Entry.carrier, rfl, List.forall₂_map_right_iff.2 hd⟩

theorem request_cases (patterns apps callbacks scopeTexts : List String) :
    let r := request patterns apps callbacks scopeTexts
    (∃ s ∈ scopeTexts, Misread s ∧ ∃ f, r = .error f ∧ f.kind = "ValueError") ∨
      (∀ s ∈ scopeTexts, ¬Misread s) ∧
        ((∃ ref ∈ callbacks, ¬IsReference ref ∧
            r = .error (.badParameter (Fault.badCallback ref).message)) ∨
          (∀ ref ∈ callbacks, IsReference ref) ∧ ∃ carriers calls,
            r = .ok ((if scopeTexts = [] then [] else [.scope carriers]) ++
              patterns.map .text ++ apps.map .app ++ calls) ∧
            List.Forall₂ Denotes scopeTexts carriers ∧ List.Forall₂ Calls callbacks calls) := by
  intro r
  have hr : r = scopes scopeTexts >>= fun scope => callbacks.mapM callback >>= fun calls =>
      .ok (scope ++ patterns.map .text ++ apps.map .app ++ calls) := rfl
  obtain ⟨s, hs, hm, f, hf, hk⟩ | ⟨hm, carriers, hc, hd⟩ := scopes_cases scopeTexts
  · rw [hf] at hr
    exact .inl ⟨s, hs, hm, f, hr, hk⟩
  · rw [hc] at hr
    obtain ⟨ref, href, hb, f, hf, rfl⟩ | ⟨hb, calls, hcalls, hs⟩ :=
      mapM_cases callback_cases callbacks
    · rw [hf] at hr
      exact .inr ⟨hm, .inl ⟨ref, href, hb, hr⟩⟩
    · rw [hcalls] at hr
      exact .inr ⟨hm, .inr ⟨fun ref h => not_not.1 (hb ref h), carriers, calls, hr, hd, hs⟩⟩

/-- A request is read from texts exactly if all digits in scopes form numerals that are not too long
and all callbacks are references. Then each scope text stands for what it denotes, in one scope in
front of all else, and each callback for what it refers to. Otherwise a callback that is no
reference is reported as a mistake on the command line, unless a scope text is misread, which comes
first and is not. -/
theorem request_read (patterns apps callbacks texts : List String) :
    ((∃ entries, request patterns apps callbacks texts = .ok entries) ↔
        (∀ s ∈ texts, ¬Misread s) ∧ ∀ ref ∈ callbacks, IsReference ref) ∧
      ((∃ f, request patterns apps callbacks texts = .error f ∧ f.kind = "BadParameter") ↔
        (∀ s ∈ texts, ¬Misread s) ∧ ¬∀ ref ∈ callbacks, IsReference ref) ∧
      ((∃ f, request patterns apps callbacks texts = .error f ∧ f.kind = "ValueError") ↔
        ¬∀ s ∈ texts, ¬Misread s) ∧
      ((∀ s ∈ texts, ¬Misread s) → ∀ f, request patterns apps callbacks texts = .error f →
        ∃ ref ∈ callbacks, ¬IsReference ref ∧ f = .badParameter (Fault.badCallback ref).message) ∧
      ∀ entries, request patterns apps callbacks texts = .ok entries → ∃ carriers calls,
        entries = (if texts = [] then [] else [.scope carriers]) ++ patterns.map .text ++
          apps.map .app ++ calls ∧
        List.Forall₂ Denotes texts carriers ∧ List.Forall₂ Calls callbacks calls := by
  generalize hreadable : (∀ s ∈ texts, ¬Misread s) = readable
  generalize hreferring : (∀ ref ∈ callbacks, IsReference ref) = referring
  obtain ⟨s, hs, hm, f, hf, hk⟩ | ⟨hm, ⟨ref, href, hb, hf⟩ | ⟨hb, carriers, calls, ho, hd, hc⟩⟩ :=
    request_cases patterns apps callbacks texts
  · have hn : ¬readable := hreadable ▸ fun h => h s hs hm
    simp [hf, hk, hn]
  · have hn : ¬referring := hreferring ▸ fun h => hb (h ref href)
    have hy : readable := hreadable ▸ hm
    simpa [hf, hn, hy, Fault.kind] using ⟨ref, href, hb, rfl⟩
  · have hy : readable := hreadable ▸ hm
    have hb : referring := hreferring ▸ hb
    simp only [ho, hy, hb]
    simpa using ⟨carriers, calls, rfl, hd, hc⟩

/-- A digit that forms no numeral ends a request by another fault than a mistake on the command
line. -/
theorem request_escapes : ¬∀ patterns apps callbacks scopeTexts : List String,
    (∃ entries, request patterns apps callbacks scopeTexts = .ok entries) ∨
      ∃ f, request patterns apps callbacks scopeTexts = .error f ∧ f.kind = "BadParameter" := by
  intro h
  have digit : isDigit '²' = true := by decide +kernel
  have worthless : Text.Digit.value? '²' = none := by decide +kernel
  have hc : carrier "²" = .error (.badNumeral "²") := by
    simp [carrier, digit, worthless, number?]
  have hf : request [] [] [] ["²"] = .error (.badNumeral "²") := by
    simp [request, scopes, hc, bind, Except.bind]
  obtain ⟨entries, he⟩ | ⟨f, he, hk⟩ := h [] [] [] ["²"]
  · rw [hf] at he
    cases he
  · rw [hf] at he
    cases he
    exact absurd hk (by decide)

end Command

end ThreadTrace
