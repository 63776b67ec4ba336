import Mathlib.Data.List.Basic
import ThreadTrace.Event.Reader
import ThreadTrace.Sink.Files

namespace ThreadTrace.Files

variable {f g h : Files} {p : Path} {here there q : Place}

def stepTo (here : Place) (name : String) : Place :=
  if name = ".." then here.dropLast else here ++ [name]

def leadTo (f : Files) (p : Path) (names : List String) : Place := names.foldl stepTo (f.begin p)

def placeOf (f : Files) (p : Path) : Place := f.leadTo p p.parts.dropLast ++ [p.name]

def contentAt (f : Files) (q : Place) : String :=
  match f.node? q with
  | some (.file content) => content
  | _ => ""

/-- Whether a path can be that of a file, and leads to one with this content. -/
structure Stands (f : Files) (p : Path) (content : String) : Prop where
  above : checkBytes p.parent = .ok ()
  bytes : checkBytes p = .ok ()
  name : ¬nameLimit < p.name.utf8ByteSize
  follow : f.follow p p.parts.dropLast = .ok (f.leadTo p p.parts.dropLast)
  node : f.node? (f.placeOf p) = some (.file content)

theorem Stands.contentAt {content : String} (hs : f.Stands p content) :
    f.contentAt (f.placeOf p) = content := by
  rw [Files.contentAt, hs.node]

theorem enter_cases {name : String} (he : f.enter here name = .ok there) :
    (name = ".." ∧ there = here.dropLast) ∨
      (name ≠ ".." ∧ ¬nameLimit < name.utf8ByteSize ∧
        f.node? (here ++ [name]) = some .directory ∧ there = here ++ [name]) := by
  unfold enter at he
  split at he
  · exact .inl ⟨‹_›, (Except.ok.inj he).symm⟩
  · split at he
    · cases he
    · split at he
      · cases he
      · cases he
      · exact .inr ⟨‹_›, ‹_›, ‹_›, (Except.ok.inj he).symm⟩

theorem foldlM_cons_ok {name : String} {names : List String}
    (he : (name :: names).foldlM f.enter here = .ok there) :
    ∃ next, f.enter here name = .ok next ∧ names.foldlM f.enter next = .ok there := by
  rw [List.foldlM_cons] at he
  cases hn : f.enter here name with
  | error o =>
    rw [hn] at he
    cases he
  | ok next =>
    rw [hn] at he
    exact ⟨next, rfl, he⟩

theorem follow_ok {names : List String} (hf : f.follow p names = .ok here) :
    here = f.leadTo p names := by
  have run : ∀ {start : Place}, names.foldlM f.enter start = .ok here →
      here = names.foldl stepTo start := by
    clear hf
    induction names with
    | nil => exact fun he => (Except.ok.inj he).symm
    | cons name names ih =>
      intro start he
      obtain ⟨next, hn, he⟩ := foldlM_cons_ok he
      have hs : stepTo start name = next := by
        rcases enter_cases hn with ⟨hu, rfl⟩ | ⟨hu, -, -, rfl⟩
        · exact if_pos hu
        · exact if_neg hu
      rw [List.foldl_cons, hs]
      exact ih he
  unfold follow at hf
  split at hf
  · cases hf
  · exact run hf

/-- A path is followed alike where no directory is missing that was there. -/
theorem follow_mono {names : List String} (hh : g.home = f.home)
    (hd : ∀ q, f.node? q = some .directory → g.node? q = some .directory)
    (hf : f.follow p names = .ok here) : g.follow p names = .ok here := by
  have run : ∀ {start : Place}, names.foldlM f.enter start = .ok here →
      names.foldlM g.enter start = .ok here := by
    clear hf
    induction names with
    | nil => exact id
    | cons name names ih =>
      intro start hs
      obtain ⟨next, hn, hs⟩ := foldlM_cons_ok hs
      have hg : g.enter start name = .ok next := by
        rcases enter_cases hn with ⟨hu, rfl⟩ | ⟨hu, hl, hnode, rfl⟩
        · rw [enter, if_pos hu]
        · rw [enter, if_neg hu, if_neg hl, hd _ hnode]
      rw [List.foldlM_cons, hg]
      exact ih hs
  unfold follow at hf ⊢
  split at hf
  · cases hf
  · rename_i hl
    rw [if_neg hl, begin, hh]
    exact run hf

theorem follow_concat {front : List String} {name : String}
    (hf : f.follow p (front ++ [name]) = .ok here) :
    ∃ there, f.follow p front = .ok there ∧ f.enter there name = .ok here := by
  unfold follow at hf ⊢
  split at hf
  · cases hf
  · rename_i hl
    rw [if_neg hl]
    rw [List.foldlM_append] at hf
    cases hfront : front.foldlM f.enter (f.begin p) with
    | error o =>
      rw [hfront] at hf
      cases hf
    | ok there =>
      rw [hfront] at hf
      obtain ⟨next, hn, hs⟩ := foldlM_cons_ok hf
      obtain rfl := Except.ok.inj hs
      exact ⟨there, rfl, hn⟩

theorem stands_of {content : String} (ha : checkBytes p.parent = .ok ())
    (hb : checkBytes p = .ok ()) (hl : ¬nameLimit < p.name.utf8ByteSize)
    (hf : f.follow p p.parts.dropLast = .ok here)
    (hn : f.node? (here ++ [p.name]) = some (.file content)) :
    here ++ [p.name] = f.placeOf p ∧ f.Stands p content := by
  obtain rfl := follow_ok hf
  exact ⟨rfl, ha, hb, hl, hf, hn⟩

/-- Whether nothing but directories has come to the tree, each where nothing was. -/
structure Grown (f g : Files) : Prop where
  home : g.home = f.home
  node : ∀ q, g.node? q = f.node? q ∨ f.node? q = none ∧ g.node? q = some .directory

theorem Grown.refl (f : Files) : Grown f f := ⟨rfl, fun _ => .inl rfl⟩

theorem Grown.trans (hf : Grown f g) (hg : Grown g h) : Grown f h := by
  refine ⟨hg.home.trans hf.home, fun q => ?_⟩
  rcases hg.node q with hq | ⟨hn, hq⟩
  · rw [hq]
    exact hf.node q
  · rcases hf.node q with hr | ⟨-, hr⟩
    · exact .inr ⟨hr ▸ hn, hq⟩
    · rw [hr] at hn
      cases hn

theorem node?_putNode {n : Node} (hq : f.node? q ≠ some .directory) (r : Place) :
    (f.putNode q n).node? r = if r = q then some n else f.node? r := by
  have hp : q.isPrefixOf f.home = false := by
    refine Bool.eq_false_iff.2 fun hp => hq ?_
    rw [node?, if_pos hp]
  unfold node? putNode
  dsimp only
  rw [Table.get?_put]
  by_cases hr : r = q
  · subst hr
    rw [hp]
    simp
  · simp [hr]

theorem putNode_grown (hq : f.node? q = none) : Grown f (f.putNode q .directory) := by
  refine ⟨rfl, fun r => ?_⟩
  rw [node?_putNode (by rw [hq]; nofun)]
  split
  · rename_i hr
    exact .inr ⟨hr ▸ hq, rfl⟩
  · exact .inl rfl

def makeIn (f : Files) (here : Place) (name : String) : Except Obstacle Files :=
  if name = ".." then .error .taken
  else if nameLimit < name.utf8ByteSize then .error .tooLong
  else match f.node? (here ++ [name]) with
    | none => .ok (f.putNode (here ++ [name]) .directory)
    | some _ => .error .taken

theorem makeOne_nil (hp : p.parts = []) : f.makeOne p ≠ .ok g := by
  unfold makeOne
  rw [hp]
  intro h
  cases hf : f.follow p [] with
  | error o =>
    rw [List.dropLast_nil, hf] at h
    cases h
  | ok here =>
    rw [List.dropLast_nil, hf] at h
    cases h

theorem makeOne_concat {front : List String} {name : String} (hp : p.parts = front ++ [name]) :
    f.makeOne p = (f.follow p front).bind fun here => f.makeIn here name := by
  unfold makeOne
  rw [hp, List.dropLast_concat, List.getLast?_concat]
  cases f.follow p front with
  | error o => rfl
  | ok here =>
    dsimp only [Except.bind, bind]
    unfold makeIn
    split
    · rename_i h
      cases h
    · rename_i h
      rw [if_pos (Option.some.inj h)]
      rfl
    · rename_i hne h
      obtain rfl := Option.some.inj h
      rw [if_neg hne]
      split
      · rfl
      · cases f.node? (here ++ [name]) <;> rfl

theorem makeOne_grown (hm : f.makeOne p = .ok g) : Grown f g := by
  rcases List.eq_nil_or_concat' p.parts with hp | ⟨front, name, hp⟩
  · exact absurd hm (makeOne_nil hp)
  · rw [makeOne_concat hp] at hm
    cases hf : f.follow p front with
    | error o =>
      rw [hf] at hm
      cases hm
    | ok here =>
      rw [hf] at hm
      change f.makeIn here name = .ok g at hm
      unfold makeIn at hm
      split at hm
      · cases hm
      · split at hm
        · cases hm
        · split at hm
          · obtain rfl := Except.ok.inj hm
            exact putNode_grown ‹_›
          · cases hm

def Grows {α : Type} (act : Act Files α) : Prop := ∀ f, Grown f (act.on f).2

theorem Grows.bind {α β : Type} {act : Act Files α} {next : α → Act Files β} (ha : Grows act)
    (hn : ∀ a, Grows (next a)) : Grows (act >>= next) := by
  intro f
  have hf := ha f
  rw [Act.on_bind]
  cases hr : act.on f with
  | mk r g =>
    rw [hr] at hf
    cases r with
    | ok a => exact hf.trans (hn a g)
    | error e => exact hf

theorem Grows.result {α : Type} (r : Except Fault α) : Grows (Act.result r) := .refl

theorem makeBelow_grows (root : Nat) (names : List String) : Grows (makeBelow root names) := by
  induction names with
  | nil => exact .refl
  | cons name above ih =>
    intro f
    rw [makeBelow, Act.on_bind, Act.on_get]
    dsimp only
    split
    · exact makeOne_grown ‹_›
    · refine (ih.bind fun _ => ?_) f
      intro g
      rw [Act.on_bind, Act.on_get]
      dsimp only
      split
      · exact makeOne_grown ‹_›
      · exact (Grows.result _).bind (fun _ => Grows.result _) g
    · exact (Grows.result _).bind (fun _ => Grows.result _) f

theorem Grown.contentAt (hf : Grown f g) (q : Place) : g.contentAt q = f.contentAt q := by
  unfold Files.contentAt
  rcases hf.node q with hq | ⟨hn, hq⟩
  · rw [hq]
  · rw [hn, hq]

/-- A file that is there with other content is found where it was. -/
theorem follow_putNode {content : String} {names : List String} (hq : f.node? q ≠ some .directory)
    (hf : f.follow p names = .ok here) :
    (f.putNode q (.file content)).follow p names = .ok here := by
  refine follow_mono (f := f) rfl (fun r hr => ?_) hf
  have hne : r ≠ q := by
    rintro rfl
    exact hq hr
  rw [node?_putNode hq, if_neg hne]
  exact hr

theorem openFile_ok (ho : (openFile p).on f = (.ok there, g)) :
    there = g.placeOf p ∧ g.Stands p (f.contentAt there) := by
  unfold openFile at ho
  obtain ⟨_, _, h₁, ho⟩ := Act.bind_ok ho
  obtain ⟨ha, rfl⟩ := Prod.mk.inj h₁
  obtain ⟨_, f₁, h₂, ho⟩ := Act.bind_ok ho
  have hf : Grown f f₁ := by
    have hg := makeBelow_grows p.root p.parent.parts.reverse f
    rw [h₂] at hg
    exact hg
  obtain ⟨_, _, h₃, ho⟩ := Act.bind_ok ho
  obtain ⟨hb, rfl⟩ := Prod.mk.inj h₃
  rw [Act.on_bind, Act.on_get] at ho
  dsimp only at ho
  split at ho
  · cases ho
  · rename_i here hfollow
    split at ho
    · cases ho
    · rename_i hl
      split at ho
      · rename_i hn
        obtain ⟨h₁, rfl⟩ := Prod.mk.inj ho
        obtain rfl := Except.ok.inj h₁
        have hd : f₁.node? (here ++ [p.name]) ≠ some .directory := by
          rw [hn]
          nofun
        have hc : f.contentAt (here ++ [p.name]) = "" := by
          rw [← hf.contentAt, contentAt, hn]
        rw [hc]
        exact stands_of ha hb hl (follow_putNode hd hfollow) (by rw [node?_putNode hd, if_pos rfl])
      · rename_i content hn
        obtain ⟨h₁, rfl⟩ := Prod.mk.inj ho
        obtain rfl := Except.ok.inj h₁
        have hc : f.contentAt (here ++ [p.name]) = content := by
          rw [← hf.contentAt, contentAt, hn]
        rw [hc]
        exact stands_of ha hb hl hfollow hn
      · cases ho

theorem parent_text_le (p : Path) : p.parent.text.utf8ByteSize ≤ max 1 p.text.utf8ByteSize := by
  obtain ⟨root, parts⟩ := p
  rcases List.eq_nil_or_concat' parts with rfl | ⟨front, name, rfl⟩
  · exact Nat.le_max_right _ _
  · have hp : Path.parent ⟨root, front ++ [name]⟩ = ⟨root, front⟩ := by
      rw [Path.parent, List.dropLast_concat]
    have ht : Path.text ⟨root, front ++ [name]⟩ =
        String.ofList (List.replicate root '/') ++ "/".intercalate (front ++ [name]) := by
      simp [Path.text]
    rw [hp, ht]
    by_cases hf : front = []
    · subst hf
      by_cases hr : root = 0
      · subst hr
        exact Nat.le_max_left _ _
      · have hq : Path.text ⟨root, []⟩ = String.ofList (List.replicate root '/') := by
          simp [Path.text, hr]
        rw [hq, List.nil_append, String.intercalate_singleton, String.utf8ByteSize_append]
        omega
    · have hq : Path.text ⟨root, front⟩ =
          String.ofList (List.replicate root '/') ++ "/".intercalate front := by
        simp [Path.text, hf]
      rw [hq, String.intercalate_append_of_ne_nil hf (by simp)]
      simp only [String.utf8ByteSize_append]
      omega

theorem follow_parent (hf : f.follow p p.parts.dropLast = .ok here) :
    f.follow p.parent p.parent.parts = .ok here := by
  have hl := parent_text_le p
  unfold follow at hf ⊢
  split at hf
  · cases hf
  · rename_i hn
    rw [if_neg]
    · exact hf
    · have hlimit : pathLimit = 4095 := rfl
      omega

theorem makeOne_taken (hn : p.parts ≠ []) (hf : f.follow p p.parts = .ok here) :
    f.makeOne p = .error .taken := by
  rcases List.eq_nil_or_concat' p.parts with hp | ⟨front, name, hp⟩
  · exact absurd hp hn
  · rw [hp] at hf
    obtain ⟨there, hfront, he⟩ := follow_concat hf
    rw [makeOne_concat hp, hfront]
    change f.makeIn there name = .error .taken
    rcases enter_cases he with ⟨hu, -⟩ | ⟨hu, hl, hnode, -⟩
    · rw [makeIn, if_pos hu]
    · rw [makeIn, if_neg hu, if_neg hl, hnode]

theorem makeBelow_taken (hf : f.follow p p.parts = .ok here) :
    (makeBelow p.root p.parts.reverse).on f = (.ok (), f) := by
  cases hp : p.parts.reverse with
  | nil => rfl
  | cons name above =>
    have hq : (⟨p.root, (name :: above).reverse⟩ : Path) = p := by
      rw [← hp, List.reverse_reverse]
    have hn : p.parts ≠ [] := by
      intro h
      rw [h] at hp
      cases hp
    rw [makeBelow, Act.on_bind, Act.on_get]
    dsimp only
    rw [hq, makeOne_taken hn hf]
    have hsettle : f.settle p .taken = .ok () := by rw [settle, hf]
    dsimp only
    rw [Act.on_bind, Act.on_get]
    dsimp only
    rw [Act.on_result, hsettle]

/-- A file that is there is opened as it is. -/
theorem openFile_again {content : String} (hs : f.Stands p content) :
    (openFile p).on f = (.ok (f.placeOf p), f) := by
  have hn : f.node? (f.leadTo p p.parts.dropLast ++ [p.name]) = some (.file content) := hs.node
  have hm : (makeBelow p.root p.parent.parts.reverse).on f = (.ok (), f) :=
    makeBelow_taken (follow_parent hs.follow)
  unfold openFile
  rw [Act.on_bind, Act.on_result, hs.above]
  dsimp only
  rw [Act.on_bind, hm]
  dsimp only
  rw [Act.on_bind, Act.on_result, hs.bytes]
  dsimp only
  rw [Act.on_bind, Act.on_get]
  dsimp only
  rw [hs.follow]
  dsimp only
  rw [if_neg hs.name, hn]
  rfl

theorem Stands.append {content : String} (hs : f.Stands p content) (more : String) :
    (f.append (f.placeOf p) more).Stands p (content ++ more) := by
  have hd : f.node? (f.placeOf p) ≠ some .directory := by
    rw [hs.node]
    nofun
  have ha : f.append (f.placeOf p) more = f.putNode (f.placeOf p) (.file (content ++ more)) := by
    rw [Files.append, hs.node]
  rw [ha]
  exact ⟨hs.above, hs.bytes, hs.name, follow_putNode hd hs.follow,
    (node?_putNode hd _).trans (if_pos rfl)⟩

def readEvents (f : Files) (p : Path) : Except Fault (List Event) := do
  checkBytes p
  match f.follow p p.parts.dropLast with
  | .error o => .error (o.fault p)
  | .ok here =>
    if nameLimit < p.name.utf8ByteSize then .error (Obstacle.tooLong.fault p)
    else match f.node? (here ++ [p.name]) with
      | none => .error (Obstacle.missing.fault p)
      | some .directory => .error (.isDirectory (Text.Quoted.text p.text))
      | some (.file content) => Event.parseLines content

theorem Stands.readEvents {content : String} (hs : f.Stands p content) :
    f.readEvents p = Event.parseLines content := by
  have hn : f.node? (f.leadTo p p.parts.dropLast ++ [p.name]) = some (.file content) := hs.node
  simp only [Files.readEvents, hs.bytes, hs.follow, if_neg hs.name, hn]
  rfl

end ThreadTrace.Files
