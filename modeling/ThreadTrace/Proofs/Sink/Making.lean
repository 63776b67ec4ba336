import ThreadTrace.Pool.Crew
import ThreadTrace.Proofs.Act.Raising

namespace ThreadTrace

def Fault.isOfRegistry : Fault → Bool
  | .alreadyRunning _ | .notRunning _ => true
  | _ => false

abbrev Fault.Outside (f : Fault) : Prop := f.isOfRegistry = false

def Fault.isTextless : Fault → Bool
  | .unprintable | .longInteger => true
  | _ => false

theorem Fault.outside_of_isTextless {f : Fault} (hf : f.isTextless = true) : f.Outside := by
  cases f <;> first | rfl | cases hf

namespace Value

theorem number_blames (n : Int) : Blames (·.isTextless = true) (Numeral.text n) := by
  rw [Numeral.text]
  split
  · exact Blames.ok _
  · exact Blames.error rfl

theorem size_blames (n : Option Int) : Blames (·.isTextless = true) (n.mapM Numeral.text) := by
  cases n with
  | none => exact Blames.ok _
  | some n => exact (number_blames n).bind fun _ => Blames.ok _

mutual

theorem shown_blames : ∀ v : Value, Blames (·.isTextless = true) v.shown
  | list xs | tuple xs | scope xs => (shownItems_blames xs).bind fun _ => Blames.ok _
  | dict xs => (shownFields_blames xs).bind fun _ => Blames.ok _
  | port x => (shown_blames x).bind fun _ => Blames.ok _
  | options _ p n _ _ _ =>
    (shown_blames p).bind fun _ => (size_blames n).bind fun _ => Blames.ok _
  | sealed .. => Blames.error rfl
  | int n => number_blames n
  | event _ | store .. => by
    rw [shown]
    split
    · exact Blames.ok _
    · exact Blames.error rfl
  | null | bool _ | float _ | nan _ | text _ | bytes _ | selector _ | moduleObject .. | thread _
  | app _ | callback .. | console _ | workshop .. => Blames.ok _

theorem shownItems_blames : ∀ xs : List Value, Blames (·.isTextless = true) (shownItems xs)
  | [] => Blames.ok _
  | x :: xs => (shown_blames x).bind fun _ => (shownItems_blames xs).bind fun _ => Blames.ok _

theorem shownFields_blames :
    ∀ xs : List (Value × Value), Blames (·.isTextless = true) (shownFields xs)
  | [] => Blames.ok _
  | (k, v) :: xs =>
    (shown_blames k).bind fun _ => (shown_blames v).bind fun _ =>
      (shownFields_blames xs).bind fun _ => Blames.ok _

end

theorem plain_blames (v : Value) : Blames (·.isTextless = true) v.plain := by
  cases v with
  | text s => exact Blames.ok _
  | selector s => exact Blames.ok _
  | scope xs => exact (shownItems_blames xs).bind fun _ => Blames.ok _
  | app name => exact Blames.ok _
  | callback m f => exact Blames.ok _
  | port x => exact (shown_blames x).bind fun _ => Blames.ok _
  | options m p n s r d =>
    exact (shown_blames p).bind fun _ => (size_blames n).bind fun _ => Blames.ok _
  | event e =>
    rw [plain]
    split
    · exact Blames.ok _
    · exact Blames.error rfl
  | _ => exact shown_blames _

theorem plain_outside (v : Value) : Blames Fault.Outside v.plain :=
  (plain_blames v).mono fun _ => Fault.outside_of_isTextless

end Value

open Act (Raises)

theorem SinkKind.ofValue_outside (v : Value) : Blames Fault.Outside (ofValue v) := by
  unfold ofValue
  split
  · exact Blames.ok _
  · split
    · exact Blames.error rfl
    · exact Blames.ok _
    · exact (v.shown_blames.mono fun _ => Fault.outside_of_isTextless).bind fun _ => Blames.error rfl

theorem refusal_outside (kind : SinkKind) (name : Value) :
    Blames Fault.Outside (refusal kind name) ∧
      ∀ f, refusal kind name = .ok f → f.Outside := by
  unfold refusal
  split
  · exact ⟨Blames.ok _, by rintro _ ⟨⟩; rfl⟩
  · refine ⟨name.plain_outside.bind fun _ => Blames.ok _, ?_⟩
    cases name.plain with
    | ok s => rintro _ ⟨⟩; rfl
    | error f => rintro _ ⟨⟩

theorem sinkOptions_outside (kind : SinkKind) (given : Value) :
    Blames Fault.Outside (sinkOptions kind given) := by
  unfold sinkOptions
  split
  · exact Blames.ok _
  · split
    · split
      · exact Blames.error rfl
      · split
        · exact Blames.error rfl
        · split
          · rename_i x _ _
            obtain ⟨hr, hf⟩ := refusal_outside kind x.1
            intro f h
            cases hx : refusal kind x.1 with
            | ok g =>
              rw [hx] at h
              cases h
              exact hf f hx
            | error g =>
              rw [hx] at h
              cases h
              exact hr f hx
          · exact Blames.ok _
    · exact Blames.error rfl

namespace Recipe

theorem inboxOf_raises (label : String) (v : Value) : Raises Fault.Outside (inboxOf label v) := by
  unfold inboxOf
  split
  · exact .pure _
  · exact (Raises.change _).bind fun _ => .pure _
  · exact Raises.get.bind fun _ => (Raises.set _).bind fun _ => .pure _
  · exact .pure _

theorem ofOptions_raises (label : String) (kind : SinkKind) (given : Value) :
    Raises Fault.Outside (ofOptions label kind given) := by
  refine (Raises.result (sinkOptions_outside kind given)).bind fun _ => ?_
  split
  · exact (inboxOf_raises _ _).bind fun _ => .pure _
  · exact .pure _
  · exact .pure _
  · exact .pure _

theorem inboxOf_made (label : String) (v : Value) (o : Outlets) :
    ((inboxOf label v).on o).2.made = o.made := by
  unfold inboxOf
  split
  · rfl
  · simp only [Act.on_bind, Act.on_modify, Act.on_pure, Outlets.addStore]
    split <;> rfl
  · rfl
  · rfl

theorem ofOptions_made (label : String) (kind : SinkKind) (given : Value) (o : Outlets) :
    ((ofOptions label kind given).on o).2.made = o.made := by
  rw [ofOptions, Act.on_bind, Act.on_result]
  cases sinkOptions kind given with
  | error f => rfl
  | ok options =>
    cases kind with
    | memory =>
      have h := inboxOf_made label
        ((SinkKind.memory.optionName?.bind fun name =>
          (options.find? (·.1 == name)).map (·.2)).getD .null) o
      simp only [Act.on_bind]
      generalize (inboxOf label _).on o = y at h ⊢
      obtain ⟨r, o'⟩ := y
      cases r <;> exact h
    | console | file | workshop w => rfl

/-- Only a caller's factory leads to a recipe that asks for it. -/
theorem ofOptions_workshop {label : String} {kind : SinkKind} {given : Value} {o o' : Outlets}
    {recipe : Recipe} {w : Workshop}
    (h : (ofOptions label kind given).on o = (.ok recipe, o')) (hr : recipe = .workshop w) :
    kind = .workshop w := by
  subst hr
  obtain ⟨options, o₁, -, h⟩ := Act.bind_ok h
  cases kind with
  | memory =>
    obtain ⟨inbox, o₂, -, h⟩ := Act.bind_ok h
    cases h
  | console | file => cases h
  | workshop v =>
    cases h
    rfl

end Recipe

theorem SinkKind.ofValue_workshop {v : Value} {w : Workshop}
    (h : SinkKind.ofValue v = .ok (.workshop w)) : ∃ mark, v = .workshop w mark := by
  unfold ofValue at h
  split at h
  · obtain rfl := SinkKind.workshop.inj (Except.ok.inj h)
    exact ⟨_, rfl⟩
  · split at h
    · cases h
    · next k hk =>
      obtain rfl := Except.ok.inj h
      obtain ⟨s, -, hs⟩ := Option.bind_eq_some_iff.1 hk
      unfold ofText? at hs
      split at hs <;> cases hs
    · cases hs : Value.shown _ <;> rw [hs] at h <;> cases h

theorem Obstacle.fault_outside (o : Obstacle) (p : Path) : (o.fault p).Outside := by
  cases o <;> rfl

namespace Files

theorem checkBytes_outside (p : Path) : Blames Fault.Outside (checkBytes p) := by
  unfold checkBytes
  split
  · exact Blames.error rfl
  · exact Blames.ok _

theorem settle_outside (f : Files) (p : Path) (o : Obstacle) :
    Blames Fault.Outside (f.settle p o) := by
  unfold settle
  split
  · exact Blames.ok _
  · exact Blames.error (Obstacle.fault_outside _ p)
  · exact Blames.error (Obstacle.fault_outside o p)

theorem makeBelow_raises (root : Nat) (names : List String) :
    Raises Fault.Outside (makeBelow root names) := by
  induction names with
  | nil => exact .pure _
  | cons name above ih =>
    refine Raises.get.bind fun f => ?_
    split
    · exact .set _
    · refine ih.bind fun _ => Raises.get.bind fun f => ?_
      split
      · exact .set _
      · exact Raises.get.bind fun f => .result (settle_outside f _ _)
    · exact Raises.get.bind fun f => .result (settle_outside f _ _)

theorem openFile_raises (p : Path) : Raises Fault.Outside (openFile p) := by
  refine (Raises.result (checkBytes_outside _)).bind fun _ => ?_
  refine (makeBelow_raises _ _).bind fun _ => ?_
  refine (Raises.result (checkBytes_outside _)).bind fun _ => Raises.get.bind fun f => ?_
  split
  · exact .throw (Obstacle.fault_outside _ p)
  · split
    · exact .throw (Obstacle.fault_outside .tooLong p)
    · dsimp only
      split
      · exact (Raises.set _).bind fun _ => .pure _
      · exact .pure _
      · exact .throw rfl

end Files

theorem Path.withName_outside (p : Path) (name : String) :
    Blames Fault.Outside (p.withName name) := by
  unfold withName
  split
  · exact Blames.error rfl
  · split
    · exact Blames.error rfl
    · exact Blames.ok _

theorem Sink.close_outside (s : Sink) (o : Outlets) : Blames Fault.Outside (s.close o).1 := by
  unfold close
  split
  · exact Blames.ok _
  · exact Blames.ok _
  · split <;> exact Blames.ok _
  · split
    · exact Blames.error rfl
    · exact Blames.ok _

namespace Recipe

theorem pathOf_outside (settings : Settings) (v : Option Value) :
    Blames Fault.Outside (pathOf settings v) := by
  unfold pathOf
  split
  · exact Blames.ok _
  · exact Blames.ok _
  · exact (Value.plain_outside _).bind fun _ => Blames.ok _
  · exact Blames.error rfl
  · exact Blames.error rfl

theorem build_raises (settings : Settings) (owner : String) (recipe : Recipe) (index : Value) :
    Raises Fault.Outside (recipe.build settings owner index) := by
  have text := Raises.result (σ := Outlets) index.plain_outside
  unfold build
  split
  · refine text.bind fun _ => ?_
    split
    · exact .pure _
    · exact Raises.get.bind fun _ => (Raises.set _).bind fun _ => .pure _
  · exact text.bind fun _ => .pure _
  · refine (Raises.result (pathOf_outside settings _)).bind fun _ => text.bind fun _ => ?_
    refine (Raises.result (Path.withName_outside _ _)).bind fun _ => ?_
    exact (Raises.within _ _ (Files.openFile_raises _)).bind fun _ => .pure _
  · refine text.bind fun _ => ?_
    split
    · exact .throw rfl
    · exact Raises.get.bind fun _ => Raises.get.bind fun _ => (Raises.set _).bind fun _ => .pure _

end Recipe

namespace Crew

theorem closeSinks_raises (sinks : List Sink) : Raises Fault.Outside (closeSinks sinks) := by
  induction sinks with
  | nil => exact .pure _
  | cons s sinks ih =>
    refine Raises.get.bind fun o => (Raises.set _).bind fun _ => ?_
    exact (Raises.result (s.close_outside o)).bind fun _ => ih

theorem buildSinks_raises {make : Nat → Act Outlets Sink}
    (hm : ∀ k, Raises Fault.Outside (make k)) (built : List Sink) (is : List Nat) :
    Raises Fault.Outside (buildSinks make built is) := by
  induction is generalizing built with
  | nil => exact .pure _
  | cons i is ih =>
    refine Raises.attempt_bind (hm i) (fun s => ih _) fun f hf => ?_
    dsimp only
    split
    · exact (closeSinks_raises built).bind fun _ => .throw hf
    · exact .throw hf

theorem checkSize_outside (size : Value) : Blames Fault.Outside (checkSize size) := by
  unfold checkSize
  split
  · split
    · exact Blames.ok _
    · exact (Value.plain_outside _).bind fun _ => Blames.error rfl
  · exact Blames.ok _
  · split
    · split
      · exact Blames.ok _
      · exact (Value.plain_outside _).bind fun _ => Blames.error rfl
    · exact Blames.error rfl

theorem countOf_outside (size : Value) : Blames Fault.Outside (countOf size) := by
  unfold countOf
  split
  · exact Blames.ok _
  · exact Blames.error rfl

end Crew

end ThreadTrace
