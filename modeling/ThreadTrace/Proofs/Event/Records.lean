import ThreadTrace.Event.Printer
import ThreadTrace.Event.Reader
import ThreadTrace.Proofs.Json.Reading

namespace ThreadTrace.Event

open Json (numbers)

/-- Whether a timestamp is finite and comes back if it is written and read. -/
def IsTimely (e : Event) : Prop := ∀ x ∈ e.timestamp, (Json.real x).IsKept

theorem numbersOfItems_texts (ts : List String) : Json.numbersOfItems (ts.map .text) = [] := by
  induction ts with
  | nil => rfl
  | cons t ts ih => exact ih

theorem numbers_toJson (e : Event) :
    numbers e.toJson =
      .int e.carrier :: ((e.arity.map Json.int).toList ++ (e.timestamp.map Json.real).toList) := by
  obtain ⟨kind, carrier, unit, function, arity, args, caller, timestamp, dump, mode⟩ := e
  have ha : numbers (optional (fun args : List String => .array (args.map .text)) args) = [] := by
    cases args with
    | none => rfl
    | some ts => exact numbersOfItems_texts ts
  have ht : ∀ t : Option String, numbers (optional Json.text t) = [] := by
    rintro (_ | _) <;> rfl
  have hr : numbers (optional Json.real timestamp) = (timestamp.map Json.real).toList := by
    cases timestamp <;> rfl
  have hi : numbers (optional Json.int arity) = (arity.map Json.int).toList := by
    cases arity <;> rfl
  simp [toJson, numbers, Json.numbersOfFields, ha, ht, hr, hi]

theorem depthOfItems_texts (ts : List String) : Json.depthOfItems (ts.map .text) = 0 := by
  induction ts with
  | nil => rfl
  | cons t ts ih =>
    rw [List.map_cons, Json.depthOfItems, ih]
    rfl

theorem depth_toJson (e : Event) : e.toJson.depth ≤ 2 := by
  have plain : ∀ {α : Type} (f : α → Json) (t : Option α), (∀ a, (f a).depth = 0) →
      (optional f t).depth = 0 := by
    intro α f t hf
    cases t with
    | none => rfl
    | some a => exact hf a
  have ha : (optional (fun args : List String => .array (args.map .text)) e.args).depth ≤ 1 := by
    rcases e.args with _ | _ | ⟨t, ts⟩
    · decide
    · decide
    · change max (Json.text t).depth (Json.depthOfItems (ts.map .text)) + 1 ≤ 1
      rw [depthOfItems_texts]
      exact Nat.le_refl 1
  have ht := fun t => plain Json.text t fun _ => rfl
  have hi := plain Json.int e.arity fun _ => rfl
  have hr := plain Json.real e.timestamp fun _ => rfl
  simp [toJson, Json.depth, Json.depthOfFields, ht, hi, hr]
  omega

theorem kindOf_text (k : EventKind) : kindOf (.text k.text) = .ok k := by
  simp [kindOf, Field.member, Field.textOf?, Value.asText?, EventKind.ofText?_text]

theorem mode_text (m : Mode) : Field.mode (.text m.text) = .ok m := by
  simp [Field.mode, Field.member, Field.textOf?, Value.asText?, Mode.ofText?_text]

theorem optional_text (t : Option String) :
    Field.optional Field.text (valueOf (optional Json.text t)) = .ok t := by
  cases t <;> rfl

theorem optional_int (n : Option Int) :
    Field.optional Field.int (valueOf (optional Json.int n)) = .ok n := by
  cases n <;> rfl

theorem optional_time {t : Option Double} (ht : ∀ x ∈ t, x.isFinite = true) :
    Field.optional (timeOf .record) (valueOf (optional Json.real t)) = .ok t := by
  cases t with
  | none => rfl
  | some x =>
    cases x with
    | finite s m e => rfl
    | infinite s => cases ht _ rfl
    | nan => cases ht _ rfl

theorem texts_values (name : String) (position : Nat) (ts : List String) :
    texts name position (valuesOf (ts.map .text)) = .ok ts := by
  induction ts generalizing position with
  | nil => rfl
  | cons t ts ih =>
    rw [List.map_cons, valuesOf, texts, ih]
    rfl

theorem argsOf_array {refusal : Problem.Cause} {fields : List (Value × Value)}
    {args : Option (List String)}
    (h : Field.find? "args" fields =
      some (valueOf (optional (fun args => .array (args.map .text)) args))) :
    argsOf refusal fields = .ok args := by
  cases args with
  | none => rw [argsOf, h]; rfl
  | some ts =>
    have hv : valueOf (optional (fun args : List String => .array (args.map .text)) (some ts)) =
        .list (valuesOf (ts.map .text)) := rfl
    rw [argsOf, h, hv]
    simp [Value.sequence?, texts_values]
    rfl

theorem ofFields_toJson (e : Event) (ht : ∀ x ∈ e.timestamp, x.isFinite = true) :
    ∃ fs, e.toJson = .object fs ∧ ofFields .record (fieldsOf fs) = .ok e := by
  refine ⟨_, rfl, ?_⟩
  have ha := fun fields => @argsOf_array (Origin.refusal .record) fields e.args
  simp [ofFields, fieldsOf, valueOf, required, orElse, Field.find?, Value.asText?, kindOf_text,
    mode_text, optional_text, optional_int, optional_time ht, ha, atField, Field.int]

/-- A record whose timestamp is kept is read back if its whole numbers are short enough. It is
malformed otherwise. -/
theorem parse_record (e : Event) (ht : e.IsTimely) :
    parse e.record =
      if e.IsShort then .ok e else .error (.invalid modelName [⟨[], .malformed⟩]) := by
  obtain ⟨fs, hfs, hread⟩ := ofFields_toJson e fun x hx => (ht x hx).1
  have hk : ∀ n ∈ numbers e.toJson, n.IsKept := by
    intro n hn
    simp only [numbers_toJson, List.mem_cons, List.mem_append, Option.mem_toList,
      Option.map_eq_some_iff] at hn
    rcases hn with rfl | ⟨_, _, rfl⟩ | ⟨x, hx, rfl⟩
    · trivial
    · trivial
    · exact ht x hx
  have hs : (∀ n ∈ numbers e.toJson, n.IsShort) ↔ e.IsShort := by
    simp [numbers_toJson, IsShort, Json.IsShort, or_imp, forall_and]
  have hd : e.toJson.depth ≤ deepest := (depth_toJson e).trans (by decide)
  rw [parse, record, Json.parse?_render _ hk]
  by_cases h : e.IsShort
  · rw [if_pos (hs.2 h), if_pos h, Option.filter_some, if_pos (decide_eq_true hd), hfs]
    exact hread
  · rw [if_neg (mt hs.1 h), if_neg h]
    rfl

def file (es : List Event) : String := String.join (es.map fun e => e.record ++ "\n")

theorem file_append (es ds : List Event) : file (es ++ ds) = file es ++ file ds := by
  rw [file, List.map_append, String.join_append]
  rfl

theorem oneLine_record (e : Event) : Json.OneLine e.record.toList := by
  rw [record, Json.render, String.toList_ofList]
  exact Json.oneLine_write _

theorem cutAtNewlines_line {s : List Char} (hs : Json.OneLine s) (line rest : List Char) :
    Text.Blank.cutAtNewlines line (s ++ '\n' :: rest) =
      (line.reverse ++ s) :: Text.Blank.cutAtNewlines [] rest := by
  induction s generalizing line with
  | nil => simp [Text.Blank.cutAtNewlines]
  | cons c s ih =>
    obtain ⟨⟨hn, hr⟩, hs⟩ := Json.oneLine_cons.1 hs
    rw [List.cons_append, Text.Blank.cutAtNewlines, if_neg (by simp [hn, hr]), ih hs]
    · simp
    · rintro _ rfl
      exact absurd rfl hr

theorem fileLines_file (es : List Event) : Text.Blank.fileLines (file es) = es.map record := by
  unfold Text.Blank.fileLines file
  induction es with
  | nil => rfl
  | cons e es ih =>
    rw [List.map_cons, String.join_cons, String.toList_append, String.toList_append,
      List.append_assoc, show "\n".toList = ['\n'] from rfl, List.cons_append, List.nil_append,
      cutAtNewlines_line (oneLine_record e), List.map_cons, ih]
    simp

theorem trim_record (e : Event) : (Text.Blank.trim e.record).isEmpty = false := by
  obtain ⟨s, hs⟩ : ∃ s, e.record.toList = '\x7b' :: s := ⟨_, String.toList_ofList⟩
  have hb : ¬Text.Blank.isBlank '\x7b' = true := by decide
  refine Bool.eq_false_iff.2 fun h => ?_
  rw [String.isEmpty_iff, Text.Blank.trim, hs, String.ofList_eq_empty_iff, Text.Blank.trimChars,
    List.dropWhile_cons_of_neg hb, List.reverse_eq_nil_iff, List.dropWhile_eq_nil_iff] at h
  exact hb (h _ (List.mem_reverse.2 List.mem_cons_self))

/-- A file of events whose timestamps are kept is read back, in order, if all their whole numbers
are short enough. Nothing of it is read otherwise. -/
theorem parseLines_file (es : List Event) (ht : ∀ e ∈ es, e.IsTimely) :
    parseLines (file es) =
      if ∀ e ∈ es, e.IsShort then .ok es
      else .error (.invalid modelName [⟨[], .malformed⟩]) := by
  have hf : (es.map record).filter (fun l => !(Text.Blank.trim l).isEmpty) = es.map record := by
    refine List.filter_eq_self.2 fun l hl => ?_
    obtain ⟨e, -, rfl⟩ := List.mem_map.1 hl
    rw [trim_record]
    rfl
  rw [parseLines, fileLines_file, hf]
  clear hf
  induction es with
  | nil => rfl
  | cons e es ih =>
    obtain ⟨he, hes⟩ := List.forall_mem_cons.1 ht
    rw [List.map_cons, List.mapM_cons, parse_record e he, ih hes]
    simp only [List.forall_mem_cons]
    by_cases hs : e.IsShort
    · rw [if_pos hs]
      simp only [and_iff_right hs]
      split <;> rfl
    · simp only [hs, false_and, if_false]
      rfl

end ThreadTrace.Event
