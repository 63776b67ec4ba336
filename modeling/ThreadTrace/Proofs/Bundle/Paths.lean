import Mathlib.Data.List.TakeWhile
import ThreadTrace.Path

namespace ThreadTrace.Path

/-- A name that can be a part of a normal path. -/
def IsName (x : String) : Prop := x ≠ "" ∧ x ≠ "." ∧ '/' ∉ x.toList

structure IsNormal (p : Path) : Prop where
  root : p.root ≤ 2
  names : ∀ x ∈ p.parts, IsName x

theorem pieces_eq (piece cs : List Char) :
    pieces piece cs = cs.splitOnPPrepend (· == '/') piece := by
  induction cs generalizing piece with
  | nil => rw [pieces, List.splitOnPPrepend_nil]
  | cons c cs ih =>
    rw [pieces, List.splitOnPPrepend_cons_eq_if, ih, ih, List.splitOnPPrepend_nil_right]
    simp only [beq_iff_eq]

theorem parts_ofString (s : String) :
    (ofString s).parts = ((s.toList.splitOn '/').filter isPart).map String.ofList := by
  rw [ofString, pieces_eq, List.splitOnPPrepend_nil_right, List.splitOn_eq_splitOnP]

theorem isPart_iff {cs : List Char} : isPart cs = true ↔ cs ≠ [] ∧ cs ≠ ['.'] := by
  simp [isPart]

theorem not_mem_of_mem_splitOn {a : Char} {cs piece : List Char} (h : piece ∈ cs.splitOn a) :
    a ∉ piece := by
  induction cs generalizing piece with
  | nil =>
    rw [List.splitOn_nil, List.mem_singleton] at h
    rw [h]
    exact List.not_mem_nil
  | cons c cs ih =>
    rw [List.splitOn_cons_eq_if_modifyHead] at h
    split at h
    · obtain rfl | h := List.mem_cons.1 h
      · exact List.not_mem_nil
      · exact ih h
    · rename_i hc
      cases hs : cs.splitOn a with
      | nil => exact absurd hs (List.splitOn_ne_nil a cs)
      | cons q qs =>
        rw [hs] at h ih
        obtain rfl | h := List.mem_cons.1 h
        · rw [List.mem_cons, not_or]
          refine ⟨?_, ih List.mem_cons_self⟩
          rintro rfl
          exact hc (by simp)
        · exact ih (List.mem_cons_of_mem _ h)

theorem isNormal_ofString (s : String) : (ofString s).IsNormal := by
  constructor
  · change rootOf s.toList ≤ 2
    unfold rootOf
    dsimp only
    split
    · assumption
    · decide
  · intro x hx
    rw [parts_ofString] at hx
    obtain ⟨cs, hcs, rfl⟩ := List.mem_map.1 hx
    obtain ⟨hm, hp⟩ := List.mem_filter.1 hcs
    obtain ⟨hne, hdot⟩ := isPart_iff.1 hp
    refine ⟨by simpa using hne, fun hd => hdot ?_, by simpa using not_mem_of_mem_splitOn hm⟩
    simpa using congrArg String.toList hd

def body (p : Path) : List Char := ['/'].intercalate (p.parts.map String.toList)

theorem toList_text {p : Path} (h : ¬(p.root = 0 ∧ p.parts = [])) :
    p.text.toList = List.replicate p.root '/' ++ p.body := by
  have hb : ¬(p.root = 0 && p.parts.isEmpty) = true := by simpa using h
  rw [text, if_neg hb, String.toList_append, String.toList_ofList, String.toList_intercalate]
  rfl

theorem head_body {p : Path} (h : p.IsNormal) : p.body.head? ≠ some '/' := by
  unfold body
  have names := h.names
  generalize p.parts = xs at names ⊢
  cases xs with
  | nil => simp
  | cons x xs =>
    obtain ⟨hne, -, hs⟩ := names x List.mem_cons_self
    cases hx : x.toList with
    | nil => exact absurd (by simpa using hx) hne
    | cons c cs =>
      rw [List.map_cons, hx, List.intercalate_cons_cons_left]
      intro hc
      rw [hx, Option.some.inj hc] at hs
      exact hs List.mem_cons_self

theorem splitOn_replicate (a : Char) (n : Nat) (cs : List Char) :
    (List.replicate n a ++ cs).splitOn a = List.replicate n [] ++ cs.splitOn a := by
  induction n with
  | zero => rfl
  | succ n ih =>
    rw [List.replicate_succ, List.cons_append, List.splitOn_cons_eq_if_modifyHead,
      if_pos (by simp), ih]
    rfl

theorem parts_body {p : Path} (h : p.IsNormal) :
    ((p.body.splitOn '/').filter isPart).map String.ofList = p.parts := by
  have names : ∀ cs ∈ p.parts.map String.toList, isPart cs = true ∧ '/' ∉ cs := by
    intro cs hcs
    obtain ⟨x, hx, rfl⟩ := List.mem_map.1 hcs
    obtain ⟨hne, hdot, hs⟩ := h.names x hx
    refine ⟨isPart_iff.2 ⟨by simpa using hne, fun hd => hdot ?_⟩, hs⟩
    rw [← String.ofList_toList (s := x), hd]
  by_cases hp : p.parts = []
  · rw [body, hp]
    rfl
  · rw [body, List.splitOn_intercalate _ (fun cs hcs => (names cs hcs).2) (by simpa using hp),
      List.filter_eq_self.2 fun cs hcs => (names cs hcs).1, List.map_map]
    simp [Function.comp_def]

theorem ofString_text {p : Path} (h : p.IsNormal) : ofString p.text = p := by
  by_cases he : p.root = 0 ∧ p.parts = []
  · obtain ⟨root, parts⟩ := p
    obtain ⟨rfl, rfl⟩ := he
    rfl
  · have hroot : (ofString p.text).root = p.root := by
      have slashes : ((List.replicate p.root '/' ++ p.body).takeWhile (· == '/')) =
          List.replicate p.root '/' := by
        rw [List.takeWhile_append_of_pos fun c hc => by simp [List.eq_of_mem_replicate hc]]
        cases hb : p.body with
        | nil => simp
        | cons c cs =>
          have hc : c ≠ '/' := fun hc => head_body h (by rw [hb, hc]; rfl)
          simp [hc]
      change rootOf p.text.toList = p.root
      rw [toList_text he, rootOf, slashes, List.length_replicate]
      exact if_pos h.root
    have hparts : (ofString p.text).parts = p.parts := by
      rw [parts_ofString, toList_text he, splitOn_replicate, List.filter_append,
        List.filter_eq_nil_iff.2 fun cs hcs => by simp [List.eq_of_mem_replicate hcs, isPart]]
      exact parts_body h
    cases p
    cases hr : ofString _
    rw [hr] at hroot hparts
    exact congrArg₂ Path.mk hroot hparts

theorem text_injective {p q : Path} (hp : p.IsNormal) (hq : q.IsNormal) (h : p.text = q.text) :
    p = q := by
  rw [← ofString_text hp, h, ofString_text hq]

end ThreadTrace.Path
