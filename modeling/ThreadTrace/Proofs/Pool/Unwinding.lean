import ThreadTrace.Proofs.Pool.Registry

namespace ThreadTrace

namespace Crew

/-- How the making of a pool's sinks that ended in some way is unwound: which sinks are closed and
which fault the caller gets. -/
inductive Unwinds (id : Value) : List Sink → Except Fault Unit → List Sink → Fault → Prop
  | whole {made cause} (ho : cause.isOrdinary = true) (hc : ∀ s ∈ made, s.closeFault? = none) :
      Unwinds id made (.error cause) made cause
  | broken {before s after cause f} (ho : cause.isOrdinary = true)
      (hc : ∀ x ∈ before, x.closeFault? = none) (hs : s.closeFault? = some f) :
      Unwinds id (before ++ s :: after) (.error cause) (before ++ [s]) f
  | ended {made cause} (ho : cause.isOrdinary = false) :
      Unwinds id made (.error cause) [] cause
  | unnamed {made f} (hp : id.plain = .error f) (hn : made ≠ []) : Unwinds id made (.ok ()) [] f

/-- What is left of a pool that could not be built around the sinks of a maker: nothing has changed
but the outlets, where exactly the given sinks were closed, once each. -/
structure Unwound (id : Value) (make : Nat → Act Outlets Sink) (n : Nat) (c c' : Crew) (f : Fault)
    (made closed : List Sink) : Prop where
  workers : c'.workers = c.workers
  notices : c'.notices = c.notices
  sinks : ∃ r o, Makes make (List.range n) c.outlets made r o ∧ Unwinds id made r closed f ∧
    c'.outlets = o.closeEach closed ∧
    ∀ i, c'.outlets.closings i =
      (o.closings i).map (· + closed.countP fun s => s.slot? = some i)

variable {id : Value} {make : Nat → Act Outlets Sink} {n : Nat} {c c' : Crew} {f : Fault}
  {made closed : List Sink} {r : Except Fault Unit}

theorem Unwinds.sublist (h : Unwinds id made r closed f) : closed.Sublist made := by
  cases h with
  | whole => exact List.Sublist.refl _
  | @broken before s after => exact List.Sublist.append_left (by simp) before
  | ended => exact List.nil_sublist _
  | unnamed => exact List.nil_sublist _

theorem Unwinds.all (h : Unwinds id made r closed f) (hp : id.plain.isOk = true)
    (ho : f.isOrdinary = true) (hc : ∀ s ∈ made, s.closeFault? = none) :
    closed = made ∧ r = .error f := by
  cases h with
  | whole => exact ⟨rfl, rfl⟩
  | @broken before s after cause f _ _ hs =>
    have hn := hc s (List.mem_append_right _ List.mem_cons_self)
    rw [hn] at hs
    cases hs
  | ended he =>
    rw [he] at ho
    cases ho
  | unnamed hn =>
    rw [hn] at hp
    cases hp

theorem Unwound.all (h : Unwound id make n c c' f made closed) (hp : id.plain.isOk = true)
    (ho : f.isOrdinary = true) (hc : ∀ s ∈ made, s.closeFault? = none) :
    closed = made ∧ ∃ o, Makes make (List.range n) c.outlets made (.error f) o := by
  obtain ⟨r, o, hm, hu, -, -⟩ := h.sinks
  obtain ⟨rfl, rfl⟩ := hu.all hp ho hc
  exact ⟨rfl, o, hm⟩

/-- Every new slot is that of a sink that was made; its closings are one or none, depending on whether
that sink is among those that were closed. The slots that were there are left alone. -/
structure Settled (c c' : Crew) (made closed : List Sink) : Prop where
  old : ∀ i x, c.outlets.closings i = some x → c'.outlets.closings i = some x
  new : ∀ i x, c.outlets.closings i = none → c'.outlets.closings i = some x →
    i ∈ made.filterMap Sink.slot? ∧ x = if i ∈ closed.filterMap Sink.slot? then 1 else 0

theorem Unwound.settled (hm : ∀ k o, Outlets.Slotted o ((make k).on o))
    (h : Unwound id make n c c' f made closed) : Settled c c' made closed := by
  obtain ⟨r, o, hmakes, hu, -, hclosings⟩ := h.sinks
  obtain ⟨new, hnew, hzero, hslots⟩ := hmakes.slots hm
  have hsub : (closed.filterMap Sink.slot?).Sublist (made.filterMap Sink.slot?) :=
    hu.sublist.filterMap _
  have hcount : ∀ i, closed.countP (fun s => s.slot? = some i) =
      if i ∈ closed.filterMap Sink.slot? then 1 else 0 := by
    intro i
    have hnodup : (closed.filterMap Sink.slot?).Nodup := by
      refine List.Nodup.sublist hsub ?_
      rw [hslots]
      exact List.nodup_range'
    rw [← hnodup.count, List.count, List.countP_filterMap]
    congr 1
    funext s
    cases s.slot? <;> simp [Bool.beq_eq_decide_eq]
  simp only [hcount] at hclosings
  constructor
  · intro i x hx
    obtain ⟨y, hy, rfl⟩ := Option.map_eq_some_iff.1 hx
    have hlt := (List.getElem?_eq_some_iff.1 hy).1
    have hout : i ∉ closed.filterMap Sink.slot? := by
      intro hi
      have hrange := hsub.subset hi
      rw [hslots, List.mem_range'_1] at hrange
      omega
    rw [hclosings, Outlets.closings, hnew, List.getElem?_append_left hlt, hy]
    simp [hout]
  · intro i x hn hx
    have hge : c.outlets.made.length ≤ i := by simpa [Outlets.closings] using hn
    rw [hclosings, Outlets.closings, hnew, List.getElem?_append_right hge, Option.map_map] at hx
    obtain ⟨y, hy, rfl⟩ := Option.map_eq_some_iff.1 hx
    have hlt := (List.getElem?_eq_some_iff.1 hy).1
    rw [hslots, List.mem_range'_1]
    exact ⟨by omega, by simp [hzero y (List.mem_of_getElem? hy)]⟩

theorem Settled.of_made {o : Outlets} (h : Settled { c with outlets := o } c' made closed)
    (hm : o.made = c.outlets.made) : Settled c c' made closed := by
  have he : o.closings = c.outlets.closings := by
    funext i
    rw [Outlets.closings, hm, Outlets.closings]
  exact ⟨fun i x hx => h.old i x (by rw [he, hx]), fun i x hx => h.new i x (by rw [he, hx])⟩

/-- What is left of a pool that could not be built: its sinks were unwound, or the preparations
failed before there was one. -/
inductive Unbuilt (settings : Settings) (owner : Nat → String) (id size kind options : Value)
    (c c' : Crew) (f : Fault) : Prop
  | unprepared (o : Outlets) (hm : o.made = c.outlets.made) (hc : c' = { c with outlets := o })
      (hp : (prepare settings owner size kind options).on c = (.error f, c'))
  | unwound (n : Nat) (recipe : Recipe) (o : Outlets) (made closed : List Sink)
      (hp : (prepare settings owner size kind options).on c =
        (.ok (n, fun k => recipe.build settings (owner k) (.int k)), { c with outlets := o }))
      (hk : ∀ w, recipe = .workshop w → ∃ mark, kind = .workshop w mark)
      (hu : Unwound id (fun k => recipe.build settings (owner k) (.int k)) n
        { c with outlets := o } c' f made closed)
      (hs : Settled c c' made closed)

theorem reached_cases (made : List Sink) :
    ((∀ s ∈ made, s.closeFault? = none) ∧ reached made = made ∧
        made.findSome? Sink.closeFault? = none) ∨
      ∃ before s after f, made = before ++ s :: after ∧ (∀ x ∈ before, x.closeFault? = none) ∧
        s.closeFault? = some f ∧ reached made = before ++ [s] ∧
        made.findSome? Sink.closeFault? = some f := by
  induction made with
  | nil => exact .inl ⟨by simp, rfl, rfl⟩
  | cons s made ih =>
    cases hs : s.closeFault? with
    | some f => exact .inr ⟨[], s, made, f, rfl, by simp, hs, by simp [reached, hs], by simp [hs]⟩
    | none =>
      obtain ⟨hc, hr, hf⟩ | ⟨before, x, after, f, rfl, hc, hx, hr, hf⟩ := ih
      · exact .inl ⟨by simpa [hs] using hc, by simp [reached, hs, hr], by simp [hs, hf]⟩
      · exact .inr ⟨s :: before, x, after, f, rfl, by simpa [hs] using hc, hx,
          by simp [reached, hs, hr], by simpa [hs] using hf⟩

theorem assemble_unwound (hn : 0 < n) (h : (assemble id make n).on c = (.error f, c')) :
    ∃ made closed, Unwound id make n c c' f made closed := by
  obtain ⟨made, r, o, hm⟩ := exists_makes make (List.range n) c.outlets
  simp only [assemble, Act.on_bind, inOutlets, Act.within, Act.on_of, buildSinks_makes hm,
    List.nil_append] at h
  cases r with
  | ok u =>
    have hne : made ≠ [] := by
      refine List.ne_nil_of_length_pos ?_
      rw [hm.length rfl, List.length_range]
      exact hn
    cases hp : id.plain with
    | ok text =>
      simp only [concluded, addWorkers_on hp] at h
      cases h
    | error g =>
      simp only [concluded, addWorkers_refused hp hne] at h
      obtain ⟨rfl, rfl⟩ : g = f ∧ { c with outlets := o } = c' := by simpa using h
      exact ⟨made, [], rfl, rfl, _, o, hm, .unnamed hp hne, rfl, fun i =>
        o.closings_closeEach [] i⟩
  | error cause =>
    cases ho : cause.isOrdinary with
    | false =>
      simp only [concluded, ho] at h
      obtain ⟨rfl, rfl⟩ : cause = f ∧ { c with outlets := o } = c' := by simpa using h
      exact ⟨made, [], rfl, rfl, _, o, hm, .ended ho, rfl, o.closings_closeEach []⟩
    | true =>
      simp only [concluded, ho, if_true] at h
      obtain ⟨hf, rfl⟩ : (made.findSome? Sink.closeFault?).getD cause = f ∧
        { c with outlets := o.closeEach (reached made) } = c' := by simpa using h
      obtain ⟨hc, hr, hs⟩ | ⟨before, s, after, g, rfl, hc, hs, hr, hg⟩ := reached_cases made
      · rw [hs] at hf
        obtain rfl : cause = f := hf
        rw [hr]
        exact ⟨made, made, rfl, rfl, _, o, hm, .whole ho hc, rfl, o.closings_closeEach made⟩
      · rw [hg] at hf
        obtain rfl : g = f := hf
        rw [hr]
        exact ⟨_, before ++ [s], rfl, rfl, _, o, hm, .broken ho hc hs, rfl,
          o.closings_closeEach _⟩

theorem createPool_unbuilt {settings : Settings} {owner : Nat → String}
    {size kind options : Value}
    (h : (createPool settings owner id size kind options).on c = (.error f, c')) :
    Unbuilt settings owner id size kind options c c' f := by
  have hp := prepare_prepared settings owner size kind options c
  rw [createPool, Act.on_bind] at h
  generalize hy : (prepare settings owner size kind options).on c = y at h hp
  cases hp with
  | refused g o _ ho =>
    obtain ⟨hg, hc⟩ := Prod.mk.inj h
    obtain rfl := Except.error.inj hg
    exact .unprepared o ho hc.symm (by rw [hy, hc])
  | ready n recipe o hpos _ ho hk =>
    obtain ⟨made, closed, hu⟩ := assemble_unwound hpos h
    exact .unwound n recipe o made closed hy hk hu
      ((hu.settled fun k => recipe.build_slotted settings _ _).of_made ho)

def Cause (settings : Settings) (owner : Nat → String) (size kind options : Value) (c : Crew)
    (f : Fault) : Prop :=
  ((prepare settings owner size kind options).on c).1 = .error f ∨
    ∃ n make c₁ made o, (prepare settings owner size kind options).on c = (.ok (n, make), c₁) ∧
      Makes make (List.range n) c₁.outlets made (.error f) o

section Unbuilt

variable {settings : Settings} {owner : Nat → String} {size kind options : Value}

theorem Unbuilt.workers (h : Unbuilt settings owner id size kind options c c' f) :
    c'.workers = c.workers := by
  cases h with
  | unprepared o _ hc => rw [hc]
  | unwound n recipe o made closed _ _ hu => exact hu.workers

/-- All or nothing: every new sink is closed once, and the caller learns what made it fail. -/
theorem Unbuilt.nothing (h : Unbuilt settings owner id size kind options c c' f)
    (hp : id.plain.isOk = true) (ho : f.isOrdinary = true)
    (hk : ∀ w mark, kind = .workshop w mark → w.closeRaises = none) :
    (∀ i x, c.outlets.closings i = none → c'.outlets.closings i = some x → x = 1) ∧
      Cause settings owner size kind options c f := by
  cases h with
  | unprepared o hm hc hprep =>
    refine ⟨fun i x hn hx => ?_, .inl (by rw [hprep])⟩
    rw [hc, Outlets.closings, hm] at hx
    rw [Outlets.closings, hx] at hn
    cases hn
  | unwound n recipe o made closed hprep hfrom hu hs =>
    have hr : ∀ w, recipe = .workshop w → w.closeRaises = none := by
      intro w hw
      obtain ⟨mark, hmark⟩ := hfrom w hw
      exact hk w mark hmark
    obtain ⟨r, o', hmakes, -⟩ := hu.sinks
    obtain ⟨rfl, o₁, hfail⟩ := hu.all hp ho (hmakes.closeable hr)
    refine ⟨fun i x hn hx => ?_, .inr ⟨n, _, _, closed, o₁, hprep, hfail⟩⟩
    obtain ⟨hin, hcount⟩ := hs.new i x hn hx
    simpa [hin] using hcount

end Unbuilt

end Crew

namespace Supervisor

theorem startPool_fails {settings : Settings} {id size kind options : Value} {s s' : Supervisor}
    {f : Fault} (h : (startPool settings id size kind options).on s = (.error f, s')) :
    (id.unhashable?.isSome ∨ (s.find? id).isSome) ∧ s' = s ∨
      s' = { s with crew := s'.crew } ∧
        (Crew.createPool settings (fun _ => labelOf id) id size kind options).on s.crew =
          (.error f, s'.crew) := by
  rw [startPool] at h
  simp only [get?, checkKey, Act.on_bind] at h
  cases hu : id.unhashable? with
  | some type =>
    simp only [hu, Act.on_result] at h
    exact .inl ⟨.inl rfl, (Prod.mk.inj h).2.symm⟩
  | none =>
    simp only [hu, Act.on_result, Act.on_get, Act.on_pure] at h
    cases hn : s.find? id with
    | some p =>
      refine .inl ⟨.inr rfl, ?_⟩
      cases hs : id.shown <;> simp [hn, hs] at h <;> exact h.2.symm
    | none =>
      refine .inr ?_
      have hm := Crew.createPool_created settings (fun _ => labelOf id) id size kind options s.crew
      simp only [hn, inCrew_on, Act.on_bind, Option.isSome_none, Bool.false_eq_true, if_false,
        Act.on_pure] at h
      cases hr : (Crew.createPool settings (fun _ => labelOf id) id size kind options).on s.crew with
      | mk r c =>
        rw [hr] at h hm
        cases hm with
        | refused g o _ =>
          obtain ⟨hg, rfl⟩ := Prod.mk.inj h
          obtain rfl := Except.error.inj hg
          exact ⟨rfl, rfl⟩
        | built text sinks o hp hsize hne =>
          have hstart := Crew.startAll_last Crew.staff_idle
            (rfl : ({ s.crew with
              workers := s.crew.workers ++ Crew.staff text 0 sinks, outlets := o } :
                Crew).workers = s.crew.workers ++ Crew.staff text 0 sinks)
          rw [Crew.staff_length] at hstart
          obtain ⟨shown, hs⟩ := shown_of_plain hp
          simp [hstart, hs, note] at h

/-- The construction of a pool that fails adds no worker and starts none. Whatever makes the sinks, it
is known which of them are closed, once each, and which fault the caller gets: all of them, and the
fault that made it fail, if the workers can be named and no closing fails. A start that fails is a
construction that fails, or has not come to that. -/
theorem construction_unwound (settings : Settings) (id : Value) :
    (∀ make n c c' f, 0 < n → (Crew.assemble id make n).on c = (.error f, c') →
      ∃ made closed, Crew.Unwound id make n c c' f made closed ∧
        (id.plain.isOk = true → f.isOrdinary = true → (∀ s ∈ made, s.closeFault? = none) →
          closed = made ∧ ∃ o, Crew.Makes make (List.range n) c.outlets made (.error f) o)) ∧
    (∀ owner size kind options c c' f,
      (Crew.createPool settings owner id size kind options).on c = (.error f, c') →
      Crew.Unbuilt settings owner id size kind options c c' f ∧ c'.workers = c.workers ∧
        (id.plain.isOk = true → f.isOrdinary = true →
          (∀ w mark, kind = .workshop w mark → w.closeRaises = none) →
          (∀ i x, c.outlets.closings i = none → c'.outlets.closings i = some x → x = 1) ∧
            Crew.Cause settings owner size kind options c f)) ∧
    ∀ size kind options s s' f,
      (startPool settings id size kind options).on s = (.error f, s') →
      (id.unhashable?.isSome ∨ (s.find? id).isSome) ∧ s' = s ∨
        s' = { s with crew := s'.crew } ∧
          (Crew.createPool settings (fun _ => labelOf id) id size kind options).on s.crew =
            (.error f, s'.crew) := by
  refine ⟨?_, ?_, fun _ _ _ _ _ _ h => startPool_fails h⟩
  · intro make n c c' f hn h
    obtain ⟨made, closed, hu⟩ := Crew.assemble_unwound hn h
    exact ⟨made, closed, hu, hu.all⟩
  · intro owner size kind options c c' f h
    have hu := Crew.createPool_unbuilt h
    exact ⟨hu, hu.workers, hu.nothing⟩

def bench (failAt : Option Int) (closeRaises : Option String) : Workshop where
  name := "b"
  failAt := failAt
  acceptRaises := none
  closeRaises := closeRaises
  blocking := false

theorem construction_unwound_third :
    ∃ s', (startPool {} (.text "p") (.int 3) (.workshop (bench (some 2) none) 0) .null).on {} =
        (.error .cannotOpen, s') ∧
      s'.crew.workers = [] ∧ s'.pools = [] ∧
      (∀ i x, s'.crew.outlets.closings i = some x → x = 1) ∧
      s'.crew.outlets.made.map Made.name = ["b[0]", "b[1]"] ∧
      ∃ c' made closed,
        Crew.Unwound (.text "p") (fun _ => throw .cannotOpen) 1 {} c' .cannotOpen made closed := by
  obtain ⟨hassemble, hcreate, hstart⟩ := construction_unwound {} (.text "p")
  refine ⟨_, rfl, ?_⟩
  obtain ⟨hn, -⟩ | ⟨hs, hpool⟩ := hstart (.int 3) (.workshop (bench (some 2) none) 0) .null {} _ _ rfl
  · simp [Value.unhashable?, find?] at hn
  · obtain ⟨-, hworkers, hclosed⟩ := hcreate _ _ _ _ _ _ _ hpool
    obtain ⟨honce, -⟩ := hclosed rfl rfl fun w mark hw => by cases hw; rfl
    obtain ⟨made, closed, hu, -⟩ :=
      hassemble (fun _ => throw .cannotOpen) 1 {} {} .cannotOpen Nat.one_pos rfl
    refine ⟨hworkers, congrArg pools hs, fun i x => honce i x ?_, rfl, _, made, closed, hu⟩
    simp [Outlets.closings]

/-- Two defects. Where the workers cannot be named because the pool's id cannot be shown, no sink is
closed; a closing that fails keeps the others from being closed and hides what made it fail. -/
theorem construction_strands :
    (∃ s', (Value.sealed "X" 0).unhashable? = none ∧
      (startPool {} (.sealed "X" 0) (.int 2) (.workshop (bench none none) 0) .null).on {} =
        (.error .unprintable, s') ∧
      s'.crew.outlets.made.map (fun x => (x.name, x.closings)) = [("b[0]", 0), ("b[1]", 0)]) ∧
    ∃ s', (startPool {} (.text "p") (.int 3) (.workshop (bench (some 2) (some "stuck")) 0) .null).on
        {} = (.error (.raised "RuntimeError" "stuck"), s') ∧
      s'.crew.outlets.made.map (fun x => (x.name, x.closings)) = [("b[0]", 1), ("b[1]", 0)] :=
  ⟨⟨_, rfl, rfl, rfl⟩, _, rfl, rfl⟩

end Supervisor

end ThreadTrace
