import Mathlib.Data.List.DropRight
import Mathlib.Data.List.Forall2
import Mathlib.Data.List.Induction
import ThreadTrace.Proofs.Bundle.Paths
import ThreadTrace.Proofs.Plan.Missing

namespace ThreadTrace

theorem Text.Identifier.of_isIdentifier {cs : List Char} (h : isIdentifier cs = true) :
    cs ≠ [] ∧ '.' ∉ cs ∧ '/' ∉ cs := by
  cases cs with
  | nil => cases h
  | cons c cs =>
    rw [isIdentifier, Bool.and_eq_true, List.all_eq_true] at h
    have absent : ∀ x, isStart x = false → isContinue x = false → x ∉ c :: cs := by
      intro x hs hc hm
      obtain rfl | hm := List.mem_cons.1 hm
      · rw [hs] at h
        exact Bool.noConfusion h.1
      · rw [h.2 x hm] at hc
        cases hc
    exact ⟨List.cons_ne_nil c cs, absent '.' (by decide) isContinue_stop.1,
      absent '/' (by decide) isContinue_stop.2⟩

theorem String.intercalate_concat_append (sep : String) (xs : List String) (x y : String) :
    sep.intercalate (xs ++ [x ++ y]) = sep.intercalate (xs ++ [x]) ++ y := by
  by_cases hx : xs = []
  · simp [hx]
  · rw [String.intercalate_append_of_ne_nil hx (by simp),
      String.intercalate_append_of_ne_nil hx (by simp)]
    simp [String.append_assoc]

namespace Path

variable {cs stem ending : List Char}

theorem splitEnding_append (hs : stem ≠ []) (he : ending ≠ []) (hd : '.' ∉ ending) :
    splitEnding (stem ++ '.' :: ending) = (stem, '.' :: ending) := by
  have plain : ∀ c ∈ ending.reverse, (c != '.') = true := by
    intro c hc
    rw [bne_iff_ne]
    rintro rfl
    exact hd (List.mem_reverse.1 hc)
  obtain ⟨c, r, hr⟩ := List.exists_cons_of_ne_nil (List.reverse_ne_nil_iff.2 hs)
  have hrev : (stem ++ '.' :: ending).reverse = ending.reverse ++ '.' :: c :: r := by
    simp [hr]
  have hstem : stem = (c :: r).reverse := by
    rw [← hr, List.reverse_reverse]
  unfold splitEnding
  dsimp only
  rw [hrev, List.dropWhile_append_of_pos plain, List.takeWhile_append_of_pos plain]
  simp [he, hstem]

theorem eq_append_of_splitEnding (h : splitEnding cs = (stem, '.' :: ending)) :
    stem ≠ [] ∧ cs = stem ++ '.' :: ending := by
  have whole := List.takeWhile_append_dropWhile (p := (· != '.')) (l := cs.reverse)
  unfold splitEnding at h
  dsimp only at h
  split at h
  · rename_i c r hr
    split at h
    · cases h
    · obtain ⟨rfl, he⟩ := Prod.mk.inj h
      obtain rfl := (List.cons.inj he).2
      rw [hr] at whole
      exact ⟨by simp, by simpa using congrArg List.reverse whole.symm⟩
  · cases h

end Path

namespace Bundle

/-- The parts of a dotted name. -/
structure IsDotted (ds : List String) : Prop where
  nonempty : ds ≠ []
  identifiers : ∀ d ∈ ds, Text.Identifier.isIdentifier d.toList = true

def dotted (ds : List String) : String := ".".intercalate ds

def sourceText (ds : List String) : String := "/".intercalate ds ++ ".py"

def packageText (ds : List String) : String := "/".intercalate ds ++ "/__init__.py"

/-- The names that a path gives: that of a source file, which is no initialiser, and that of the
package which an initialiser is in. -/
inductive Gives (p : Path) : String → Prop
  | source {ds} (hd : IsDotted ds) (hl : ds.getLast? ≠ some "__init__") (hr : p.root = 0)
    (ht : p.text = sourceText ds) : Gives p (dotted ds)
  | package {ds} (hd : IsDotted ds) (hr : p.root = 0) (ht : p.text = packageText ds) :
    Gives p (dotted ds)

variable {p : Path} {ds dirs : List String} {u x last : String} {root : Nat}

theorem text_source (dirs : List String) (x : String) :
    (⟨0, dirs ++ [x ++ ".py"]⟩ : Path).text = sourceText (dirs ++ [x]) := by
  simp [Path.text, sourceText, String.intercalate_concat_append]

theorem text_package (h : ds ≠ []) :
    (⟨0, ds ++ ["__init__.py"]⟩ : Path).text = packageText ds := by
  simp [Path.text, packageText, String.intercalate_append_of_ne_nil h, String.append_assoc]

theorem isName_identifier (h : Text.Identifier.isIdentifier x.toList = true) : Path.IsName x := by
  obtain ⟨hne, hdot, hs⟩ := Text.Identifier.of_isIdentifier h
  refine ⟨by simpa using hne, ?_, hs⟩
  rintro rfl
  exact hdot List.mem_cons_self

theorem isName_append {y : String} (h : Text.Identifier.isIdentifier x.toList = true)
    (hy : y ≠ "") (hs : '/' ∉ y.toList) : Path.IsName (x ++ y) := by
  obtain ⟨hne, -, hx⟩ := Text.Identifier.of_isIdentifier h
  obtain ⟨c, cs, hc⟩ := List.exists_cons_of_ne_nil hne
  obtain ⟨d, ds, hd⟩ := List.exists_cons_of_ne_nil (mt String.toList_eq_nil_iff.1 hy)
  refine ⟨by simp [hy], fun h => ?_, by simp [hx, hs]⟩
  have h := congrArg (List.length ∘ String.toList) h
  simp [hc, hd] at h

theorem isNormal_concat (hd : ∀ d ∈ ds, Text.Identifier.isIdentifier d.toList = true)
    (hx : Path.IsName x) : Path.IsNormal ⟨0, ds ++ [x]⟩ := by
  refine ⟨Nat.zero_le 2, fun y hy => ?_⟩
  obtain hy | hy := List.mem_append.1 hy
  · exact isName_identifier (hd y hy)
  · exact List.mem_singleton.1 hy ▸ hx

theorem isDotted_iff : IsDotted ds ↔
    ¬(ds.isEmpty || !ds.all fun d => Text.Identifier.isIdentifier d.toList) = true := by
  constructor
  · rintro ⟨hne, hd⟩
    simpa [hne] using hd
  · intro h
    obtain ⟨hne, hd⟩ : ds ≠ [] ∧ ∀ d ∈ ds, Text.Identifier.isIdentifier d.toList = true := by
      simpa using h
    exact ⟨hne, hd⟩

theorem splitEnding_source_iff : Path.splitEnding last.toList = (x.toList, ['.', 'p', 'y']) ↔
    x ≠ "" ∧ last = x ++ ".py" := by
  have hx : x ≠ "" ↔ x.toList ≠ [] := not_congr String.toList_eq_nil_iff.symm
  rw [hx, ← String.toList_inj, String.toList_append]
  constructor
  · exact Path.eq_append_of_splitEnding
  · rintro ⟨hne, hl⟩
    rw [hl]
    exact Path.splitEnding_append hne (by decide) (by decide)

/-- The last part decides what a path gives. An initialiser stands for what is in front of it. -/
theorem unitOfPath?_concat : unitOfPath? ⟨root, dirs ++ [last]⟩ = some u ↔
    root = 0 ∧ ∃ x ds, last = x ++ ".py" ∧ x ≠ "" ∧
      ds = (if x = "__init__" then dirs else dirs ++ [x]) ∧ IsDotted ds ∧ u = dotted ds := by
  simp only [unitOfPath?, List.getLast?_concat, List.dropLast_concat]
  constructor
  · intro h
    split at h
    · cases h
    · rename_i hy
      obtain ⟨he, rfl⟩ : (Path.splitEnding last.toList).2 = ['.', 'p', 'y'] ∧ root = 0 := by
        simpa using hy
      obtain ⟨x, hs⟩ : ∃ x : String, (Path.splitEnding last.toList).1 = x.toList :=
        ⟨_, String.toList_ofList.symm⟩
      obtain ⟨hne, hl⟩ := splitEnding_source_iff.1 (Prod.ext hs he)
      rw [hs, String.ofList_toList] at h
      simp only [String.toList_inj] at h
      generalize hds : (if x = "__init__" then dirs else dirs ++ [x]) = ds at h
      split at h
      · cases h
      · rename_i hd
        exact ⟨rfl, x, ds, hl, hne, hds.symm, isDotted_iff.2 hd, (Option.some.inj h).symm⟩
  · rintro ⟨rfl, x, ds, rfl, hne, hds, hd, rfl⟩
    simp only [splitEnding_source_iff.2 ⟨hne, rfl⟩, String.toList_inj, String.ofList_toList, ← hds]
    rw [if_neg (by decide), if_neg (isDotted_iff.1 hd)]
    rfl

theorem unitOfPath?_eq_some_iff (h : p.IsNormal) : unitOfPath? p = some u ↔ Gives p u := by
  constructor
  · obtain ⟨root, parts⟩ := p
    obtain rfl | ⟨dirs, last, rfl⟩ := List.eq_nil_or_concat' parts
    · rintro ⟨⟩
    rw [unitOfPath?_concat]
    rintro ⟨rfl, x, ds, rfl, -, hds, hd, rfl⟩
    split at hds
    · rename_i hx
      obtain rfl := hds
      rw [hx]
      exact .package hd rfl (text_package hd.nonempty)
    · rename_i hx
      obtain rfl := hds
      exact .source hd (by simpa using hx) rfl (text_source dirs x)
  · rintro (⟨hd, hl, hr, ht⟩ | ⟨hd, hr, ht⟩)
    · rename_i ds
      obtain rfl | ⟨dirs, x, rfl⟩ := List.eq_nil_or_concat' ds
      · exact absurd rfl hd.nonempty
      have hx := hd.identifiers x (by simp)
      have hdirs : ∀ d ∈ dirs, Text.Identifier.isIdentifier d.toList = true :=
        fun d hm => hd.identifiers d (List.mem_append_left _ hm)
      rw [← text_source] at ht
      obtain rfl := Path.text_injective h
        (isNormal_concat hdirs (isName_append hx (by decide) (by decide))) ht
      refine unitOfPath?_concat.2 ⟨rfl, x, _, rfl, ?_, ?_, hd, rfl⟩
      · exact (isName_identifier hx).1
      · rw [if_neg (by simpa using hl)]
    · rename_i ds
      rw [← text_package hd.nonempty] at ht
      obtain rfl := Path.text_injective h
        (isNormal_concat hd.identifiers ⟨by decide, by decide, by decide⟩) ht
      exact unitOfPath?_concat.2 ⟨rfl, "__init__", ds, rfl, by decide, (if_pos rfl).symm, hd, rfl⟩

theorem dotted_injective {es : List String} (hd : IsDotted ds) (he : IsDotted es)
    (h : dotted ds = dotted es) : ds = es := by
  have parts : ∀ {fs : List String}, IsDotted fs →
      (dotted fs).toList.splitOn '.' = fs.map String.toList := by
    intro fs hf
    rw [dotted, String.toList_intercalate]
    refine List.splitOn_intercalate _ ?_ (by simpa using hf.nonempty)
    intro cs hcs
    obtain ⟨f, hm, rfl⟩ := List.mem_map.1 hcs
    exact (Text.Identifier.of_isIdentifier (hf.identifiers f hm)).2.1
  have hm : ds.map String.toList = es.map String.toList := by
    rw [← parts hd, h, parts he]
  exact List.map_injective_iff.2 (fun _ _ => String.toList_inj.1) hm

theorem gives_twice {q : Path} (hp : p.IsNormal) (hq : q.IsNormal) (hne : p ≠ q) (h : Gives p u)
    (h' : Gives q u) : ∃ ds, u = dotted ds ∧
      (p.text = sourceText ds ∧ q.text = packageText ds ∨
        p.text = packageText ds ∧ q.text = sourceText ds) := by
  have same : ∀ {s : String}, p.text = s → q.text = s → False :=
    fun hps hqs => hne (Path.text_injective hp hq (hps.trans hqs.symm))
  cases h with
  | @source ds hd hl hr ht =>
    generalize hu : dotted ds = u at h'
    cases h' with
    | source hd' hl' hr' ht' =>
      obtain rfl := dotted_injective hd hd' hu
      exact (same ht ht').elim
    | package hd' hr' ht' =>
      obtain rfl := dotted_injective hd hd' hu
      exact ⟨ds, rfl, .inl ⟨ht, ht'⟩⟩
  | @package ds hd hr ht =>
    generalize hu : dotted ds = u at h'
    cases h' with
    | source hd' hl' hr' ht' =>
      obtain rfl := dotted_injective hd hd' hu
      exact ⟨ds, rfl, .inr ⟨ht, ht'⟩⟩
    | package hd' hr' ht' =>
      obtain rfl := dotted_injective hd hd' hu
      exact (same ht ht').elim

variable {α β : Type} {R : α → β → Prop} {xs before after : List α} {us : List β}

/-- One item comes before another: something that gives the one is met before all that gives the
other. -/
def Precedes (R : α → β → Prop) (xs : List α) (u v : β) : Prop :=
  ∃ before x after, xs = before ++ x :: after ∧ R x u ∧ ∀ y ∈ before ++ [x], ¬R y v

/-- What is given in a row, each item once, in the order of the first that give them. -/
structure Names (R : α → β → Prop) (xs : List α) (us : List β) : Prop where
  once : us.Nodup
  all : ∀ u, u ∈ us ↔ ∃ x ∈ xs, R x u
  ordered : us.Pairwise (Precedes R xs)

theorem Precedes.concat {u v : β} {x : α} (h : Precedes R xs u v) :
    Precedes R (xs ++ [x]) u v := by
  obtain ⟨before, y, after, rfl, hy, hn⟩ := h
  exact ⟨before, y, after ++ [x], by simp, hy, hn⟩

theorem Names.concat_known {x : α} (h : Names R xs us) (hx : ∀ u, R x u → u ∈ us) :
    Names R (xs ++ [x]) us := by
  refine ⟨h.once, fun u => ?_, h.ordered.imp Precedes.concat⟩
  rw [h.all]
  constructor
  · rintro ⟨y, hy, hu⟩
    exact ⟨y, List.mem_append_left _ hy, hu⟩
  · rintro ⟨y, hy, hu⟩
    obtain hy | hy := List.mem_append.1 hy
    · exact ⟨y, hy, hu⟩
    · obtain rfl := List.mem_singleton.1 hy
      exact (h.all u).1 (hx u hu)

theorem Names.concat_new {x : α} {v : β} (h : Names R xs us) (hx : ∀ u, R x u ↔ u = v)
    (hv : v ∉ us) : Names R (xs ++ [x]) (us ++ [v]) := by
  refine ⟨?_, fun u => ?_, ?_⟩
  · rw [← List.concat_eq_append, List.nodup_concat]
    exact ⟨hv, h.once⟩
  · simp only [List.mem_append, List.mem_singleton, h.all, ← hx]
    grind
  · rw [List.pairwise_append]
    refine ⟨h.ordered.imp Precedes.concat, List.pairwise_singleton _ _, fun u hu w hw => ?_⟩
    obtain rfl := List.mem_singleton.1 hw
    obtain ⟨y, hy, hyu⟩ := (h.all u).1 hu
    obtain ⟨before, after, rfl⟩ := List.append_of_mem hy
    refine ⟨before, y, after ++ [x], by simp, hyu, fun z hz hzw => hv ((h.all w).2 ⟨z, ?_, hzw⟩)⟩
    obtain hz | hz := List.mem_append.1 hz
    · exact List.mem_append_left _ hz
    · exact List.mem_append_right _ (List.mem_singleton.1 hz ▸ List.mem_cons_self)

theorem distinct_concat [BEq β] (ys : List β) (y : β) : distinct (ys ++ [y]) =
    if (distinct ys).contains y then distinct ys else distinct ys ++ [y] := by
  rw [distinct, List.foldl_append]
  rfl

theorem names_distinct [BEq β] [LawfulBEq β] (f : α → Option β) (xs : List α) :
    Names (fun x u => f x = some u) xs (distinct (xs.filterMap f)) := by
  -- The last item is the last to be looked at, so the induction takes items off the end.
  induction xs using List.reverseRecOn with
  | nil => exact ⟨List.nodup_nil, by simp [distinct], .nil⟩
  | append_singleton xs x ih =>
    cases hx : f x with
    | none =>
      rw [List.filterMap_append, List.filterMap_cons_none hx, List.filterMap_nil, List.append_nil]
      exact ih.concat_known fun u hu => by rw [hx] at hu; cases hu
    | some v =>
      rw [List.filterMap_append, List.filterMap_cons_some hx, List.filterMap_nil, distinct_concat]
      split
      · rename_i hv
        refine ih.concat_known fun u hu => ?_
        rw [hx] at hu
        exact Option.some.inj hu ▸ List.contains_iff_mem.1 hv
      · rename_i hv
        refine ih.concat_new (fun u => ?_) (mt List.contains_iff_mem.2 hv)
        rw [hx, Option.some_inj, eq_comm]

structure Strips (line t : String) : Prop where
  whole : ∃ front back, line.toList = front ++ t.toList ++ back ∧
    ∀ c ∈ front ++ back, Text.Blank.isBlank c = true
  head : ∀ c ∈ t.toList.head?, Text.Blank.isBlank c = false
  last : ∀ c ∈ t.toList.getLast?, Text.Blank.isBlank c = false

theorem trimChars_eq (p : Char → Bool) (cs : List Char) :
    Text.Blank.trimChars p cs = (cs.dropWhile p).rdropWhile p := rfl

theorem strips_trim (line : String) : Strips line (Text.Blank.trim line) := by
  set p := Text.Blank.isBlank
  set rest := line.toList.dropWhile p with hrest
  have hr : (Text.Blank.trim line).toList = rest.rdropWhile p := by
    rw [Text.Blank.trim, String.toList_ofList, trimChars_eq]
  refine ⟨⟨line.toList.takeWhile p, rest.rtakeWhile p, ?_, fun c hc => ?_⟩, fun c hc => ?_,
    fun c hc => ?_⟩
  · rw [hr, List.append_assoc, List.rdropWhile_append_rtakeWhile, List.takeWhile_append_dropWhile]
  · obtain hc | hc := List.mem_append.1 hc
    · exact List.mem_takeWhile_imp hc
    · exact List.mem_rtakeWhile_imp hc
  · rw [hr] at hc
    have first : rest.head? = some c := by
      rw [← List.rdropWhile_append_rtakeWhile (p := p) (l := rest), List.head?_append, hc]
      rfl
    have hd := List.head?_dropWhile_not p line.toList
    rw [← hrest, first] at hd
    exact hd
  · rw [hr] at hc
    obtain ⟨hne, rfl⟩ := List.mem_getLast?_eq_getLast hc
    simpa using List.rdropWhile_last_not p rest hne

def hasText (line : String) : Bool := line.toList.any (!Text.Blank.isBlank ·)

theorem isEmpty_trim (line : String) : (!(Text.Blank.trim line).isEmpty) = hasText line := by
  obtain ⟨⟨front, back, whole, blank⟩, head, -⟩ := strips_trim line
  have hasText_iff : hasText line = true ↔ ∃ c ∈ line.toList, Text.Blank.isBlank c = false := by
    simp [hasText]
  rw [Bool.eq_iff_iff, hasText_iff, Bool.not_eq_true', String.isEmpty_eq_false_iff, Ne,
    ← String.toList_eq_nil_iff]
  cases ht : (Text.Blank.trim line).toList with
  | nil =>
    rw [ht, List.append_nil] at whole
    refine iff_of_false (fun h => h rfl) ?_
    rintro ⟨c, hc, hb⟩
    rw [blank c (whole ▸ hc)] at hb
    cases hb
  | cons c cs =>
    rw [ht] at whole head
    exact iff_of_true (List.cons_ne_nil c cs) ⟨c, by simp [whole], head c rfl⟩

theorem topLevelUnits_strips (d : Distribution) :
    List.Forall₂ Strips ((Text.Blank.lines (d.topLevel.getD "")).filter hasText)
      d.topLevelUnits := by
  rw [Distribution.topLevelUnits, List.filter_map]
  have hp : ((fun t : String => !t.isEmpty) ∘ Text.Blank.trim) = hasText := funext isEmpty_trim
  rw [hp, List.forall₂_map_right_iff, List.forall₂_same]
  exact fun line _ => strips_trim line

/-- The distribution that a name stands for: the one found under it before, or the first that is
installed under this name, case and separators aside. -/
def Knows (ds : List Distribution) (found : Table String Distribution) (name : String)
    (d : Distribution) : Prop :=
  found.get? name = some d ∨ found.get? name = none ∧ name ≠ "" ∧
    ds.find? (fun e => BundleSource.lookupKey e.name == BundleSource.lookupKey name) = some d

theorem answer_known {ds : List Distribution} {found : Table String Distribution} {name : String}
    {d : Distribution} (h : Knows ds found name d) :
    BundleSource.answer ds found name = .ok (some d) := by
  rw [BundleSource.answer]
  obtain h | ⟨h, hn, hd⟩ := h
  · rw [h]
  · rw [h]
    dsimp only
    rw [if_neg (mt String.isEmpty_iff.1 hn), hd]

def FileGives (file : String) : String → Prop := Gives (Path.ofString file)

theorem names_listed (d : Distribution) : Names FileGives (d.files.getD []) d.listedUnits := by
  have h : (fun file u => unitOfPath? (Path.ofString file) = some u) = FileGives := by
    funext file u
    exact propext (unitOfPath?_eq_some_iff (Path.isNormal_ofString file))
  rw [← h]
  exact names_distinct (fun file => unitOfPath? (Path.ofString file)) (d.files.getD [])

theorem units_cases (d : Distribution) :
    (∃ file ∈ d.files.getD [], ∃ u, FileGives file u) ∧ Names FileGives (d.files.getD []) d.units ∨
      (∀ file ∈ d.files.getD [], ∀ u, ¬FileGives file u) ∧
        List.Forall₂ Strips ((Text.Blank.lines (d.topLevel.getD "")).filter hasText) d.units := by
  have h := names_listed d
  rw [Distribution.units]
  split
  · rename_i hl
    rw [hl] at h
    refine .inr ⟨fun file hf u hu => ?_, topLevelUnits_strips d⟩
    cases (h.all u).2 ⟨file, hf, hu⟩
  · rename_i hl
    obtain ⟨u, us, hu⟩ := List.exists_cons_of_ne_nil hl
    obtain ⟨file, hf, hg⟩ := (h.all u).1 (hu ▸ List.mem_cons_self)
    exact .inl ⟨⟨file, hf, u, hg⟩, h⟩

/-- An installed distribution declares each name that its listed files give, once and in their
order, or else its top-level names, and a distribution that is not installed declares nothing. Only
the empty name is not looked up. Two paths give one name only if one is that of a source file and
the other that of a package. -/
theorem units_declared (ds : List Distribution) (found : Table String Distribution)
    (name : String) :
    let s := BundleSource.installed ds found
    (∀ d, Knows ds found name d → ∃ us s', s.units name = .ok (us, s') ∧
      let files := d.files.getD []
      let lines := (Text.Blank.lines (d.topLevel.getD "")).filter hasText
      ((∃ file ∈ files, ∃ u, FileGives file u) → Names FileGives files us) ∧
        ((∀ file ∈ files, ∀ u, ¬FileGives file u) → List.Forall₂ Strips lines us)) ∧
      (found.get? name = none → name ≠ "" →
        (∀ d ∈ ds, BundleSource.lookupKey d.name ≠ BundleSource.lookupKey name) →
        ∃ s', s.units name = .ok ([], s')) ∧
      (found.get? name = none → name = "" → s.units name = .error .emptyBundleName) ∧
      (∀ file file' u, Path.ofString file ≠ Path.ofString file' → FileGives file u →
        FileGives file' u → ∃ es, u = dotted es ∧
          ((Path.ofString file).text = sourceText es ∧
              (Path.ofString file').text = packageText es ∨
            (Path.ofString file).text = packageText es ∧
              (Path.ofString file').text = sourceText es)) ∧
      ∀ x : String, Text.Identifier.isIdentifier x.toList = true →
        '.' ∉ x.toList ∧ '/' ∉ x.toList := by
  intro s
  obtain ⟨s', -, hs⟩ := s.units_eq name
  have hl : s.lookup name = (BundleSource.answer ds found name).map fun d => d.map (·.units) := rfl
  rw [hl] at hs
  refine ⟨fun d hd => ?_, fun hf hn hds => ?_, fun hf hn => ?_, fun file file' u hne h h' => ?_,
    fun x hx => (Text.Identifier.of_isIdentifier hx).2⟩
  · rw [answer_known hd] at hs
    refine ⟨d.units, s', hs, ?_⟩
    obtain ⟨⟨file, hf, u, hu⟩, h⟩ | ⟨hn, h⟩ := units_cases d
    · exact ⟨fun _ => h, fun hn => absurd hu (hn file hf u)⟩
    · exact ⟨fun ⟨file, hf, u, hu⟩ => absurd hu (hn file hf u), fun _ => h⟩
  · have none : ds.find? (fun d => BundleSource.lookupKey d.name == BundleSource.lookupKey name) =
        none := by
      rw [List.find?_eq_none]
      intro d hd
      simpa using hds d hd
    rw [BundleSource.answer, hf] at hs
    dsimp only at hs
    rw [if_neg (mt String.isEmpty_iff.1 hn), none] at hs
    exact ⟨s', hs⟩
  · subst hn
    rw [BundleSource.answer, hf] at hs
    exact hs
  · exact gives_twice (Path.isNormal_ofString file) (Path.isNormal_ofString file') hne h h'

def kit : Distribution where
  name := "Kit"
  files := some ["bin/run.sh", "/kit.py", "kit/core.py", "kit/__init__.py", "./kit//core.py",
    "kit.py", "kit/core/v1.0.py"]
  topLevel := some "kit\n"

def bare : Distribution where
  name := "bare"
  files := none
  topLevel := some " one\t\n\n two\n"

theorem units_declared_kit : ∃ s t u,
    (BundleSource.installed [kit, bare] []).units "KIT" = .ok (["kit.core", "kit"], s) ∧
      Names FileGives (kit.files.getD []) ["kit.core", "kit"] ∧
    (BundleSource.installed [kit, bare] []).units "bare" = .ok (["one", "two"], t) ∧
      List.Forall₂ Strips [" one\t", " two"] ["one", "two"] ∧
    (BundleSource.installed [kit, bare] []).units "nope" = .ok ([], u) ∧
    ∃ es, "kit" = dotted es ∧
      ("kit.py" = sourceText es ∧ "kit/__init__.py" = packageText es ∨
        "kit.py" = packageText es ∧ "kit/__init__.py" = sourceText es) := by
  have gives : ∀ file u, unitOfPath? (Path.ofString file) = some u → FileGives file u :=
    fun file u h => (unitOfPath?_eq_some_iff (Path.isNormal_ofString file)).1 h
  obtain ⟨us, s, hs, hn, -⟩ := (units_declared [kit, bare] [] "KIT").1 kit
    (.inr ⟨rfl, by decide, by rfl⟩)
  obtain ⟨vs, t, ht, -, hl⟩ := (units_declared [kit, bare] [] "bare").1 bare
    (.inr ⟨rfl, by decide, by rfl⟩)
  obtain ⟨u, hu⟩ := (units_declared [kit, bare] [] "nope").2.1 rfl (by decide) (by decide)
  obtain rfl : us = ["kit.core", "kit"] := congrArg Prod.fst (Except.ok.inj hs).symm
  obtain rfl : vs = ["one", "two"] := congrArg Prod.fst (Except.ok.inj ht).symm
  exact ⟨s, t, u, hs, hn ⟨"kit.py", by decide, "kit", gives _ _ rfl⟩, ht, hl (by simp [bare]), hu,
    (units_declared [kit, bare] [] "KIT").2.2.2.1 "kit.py" "kit/__init__.py" "kit" (by decide)
      (gives _ _ rfl) (gives _ _ rfl)⟩

theorem units_nameless : ¬∀ (ds : List Distribution) (name : String),
    (∀ d ∈ ds, BundleSource.lookupKey d.name ≠ BundleSource.lookupKey name) →
      ∃ s, (BundleSource.installed ds []).units name = .ok ([], s) := by
  intro h
  obtain ⟨s, hs⟩ := h [] "" (by simp)
  cases hs

end Bundle

end ThreadTrace
