import ThreadTrace.Dispatch
import ThreadTrace.Proofs.Act.Raising

namespace ThreadTrace

abbrev Fault.Ordinary (f : Fault) : Prop := f.isOrdinary = true

/-- No body of a module ends in a request to end the program. -/
def OrdinaryBodies (modules : List ModuleSpec) : Prop :=
  ∀ m ∈ modules, ∀ f, m.body = some f → f.Ordinary

def OrdinaryFunctions (modules : List ModuleSpec) : Prop :=
  ∀ m ∈ modules, ∀ name f, (name, Attribute.function (.error f)) ∈ m.attributes → f.Ordinary

namespace BundleSource

def answer (ds : List Distribution) (found : Table String Distribution) (name : String) :
    Except Fault (Option Distribution) :=
  match found.get? name with
  | some d => .ok (some d)
  | none =>
    if name.isEmpty then .error .emptyBundleName
    else .ok (ds.find? fun d => lookupKey d.name == lookupKey name)

/-- Sources that answer alike. -/
inductive Same : BundleSource → BundleSource → Prop
  | declared (bundles) : Same (declared bundles) (declared bundles)
  | installed {ds found found'} (h : ∀ name, answer ds found' name = answer ds found name) :
      Same (installed ds found) (installed ds found')

theorem Same.refl (s : BundleSource) : s.Same s := by
  cases s with
  | declared bundles => exact .declared bundles
  | installed ds found => exact .installed fun _ => rfl

theorem Same.trans {s t u : BundleSource} (h : s.Same t) (h' : t.Same u) : s.Same u := by
  cases h with
  | declared => exact h'
  | installed h =>
    cases h' with
    | installed h' => exact .installed fun name => (h' name).trans (h name)

theorem load_installed (ds : List Distribution) (found : Table String Distribution)
    (name : String) :
    ∃ found', (∀ n, answer ds found' n = answer ds found n) ∧
      (installed ds found).load name =
        (answer ds found name).map (fun d => (d.isSome, installed ds found')) ∧
      ∀ d, answer ds found name = .ok d → found'.get? name = d := by
  cases hf : found.get? name with
  | some d =>
    have hh : found.has name = true := by
      cases hn : found.has name with
      | true => rfl
      | false =>
        rw [(Table.get?_eq_none found name).2 hn] at hf
        cases hf
    refine ⟨found, fun _ => rfl, by simp [load, hh, answer, hf, Except.map], ?_⟩
    intro d' hd
    rw [answer, hf] at hd
    exact hf.trans (Except.ok.inj hd)
  | none =>
    have hh := (Table.get?_eq_none found name).1 hf
    by_cases he : name.isEmpty = true
    · refine ⟨found, fun _ => rfl, by simp [load, hh, answer, hf, he, Except.map], ?_⟩
      intro d hd
      simp [answer, hf, he] at hd
    · cases hd : ds.find? fun d => lookupKey d.name == lookupKey name with
      | none =>
        refine ⟨found, fun _ => rfl, by simp [load, hh, answer, hf, he, hd, Except.map], ?_⟩
        intro d h
        rw [answer, hf] at h
        simp only [he, hd] at h
        exact hf.trans (Except.ok.inj h)
      | some d =>
        refine ⟨found.put name d, fun n => ?_, by simp [load, hh, answer, hf, he, hd, Except.map], ?_⟩
        · rw [answer, Table.get?_put, answer]
          by_cases hn : n = name
          · subst hn
            simp [hf, he, hd]
          · simp [hn]
        · intro d' h
          rw [Table.get?_put, if_pos rfl]
          rw [answer, hf] at h
          simp only [he, hd] at h
          exact Except.ok.inj h

/-- Two sources that answer alike come to the same, and answer alike afterwards. -/
def Asks {α : Type} (ask : BundleSource → Except Fault (α × BundleSource)) : Prop :=
  ∀ s t, s.Same t → (∃ f, ask s = .error f ∧ ask t = .error f) ∨
    ∃ a s' t', ask s = .ok (a, s') ∧ ask t = .ok (a, t') ∧ s.Same s' ∧ s'.Same t'

theorem load_asks (name : String) : Asks fun s => s.load name := by
  intro s t h
  cases h with
  | declared bundles => exact .inr ⟨_, _, _, rfl, rfl, .refl _, .refl _⟩
  | @installed ds found found' h =>
    obtain ⟨g, hg, hl, -⟩ := load_installed ds found name
    obtain ⟨g', hg', hl', -⟩ := load_installed ds found' name
    rw [h name] at hl'
    cases ha : answer ds found name with
    | error f =>
      rw [ha] at hl hl'
      exact .inl ⟨f, hl, hl'⟩
    | ok d =>
      rw [ha] at hl hl'
      refine .inr ⟨d.isSome, _, _, hl, hl', .installed hg, .installed fun n => ?_⟩
      rw [hg', h, hg]

theorem units_asks (name : String) : Asks fun s => s.units name := by
  intro s t h
  cases h with
  | declared bundles => exact .inr ⟨_, _, _, rfl, rfl, .refl _, .refl _⟩
  | @installed ds found found' h =>
    obtain ⟨g, hg, hl, hd⟩ := load_installed ds found name
    obtain ⟨g', hg', hl', hd'⟩ := load_installed ds found' name
    rw [h name] at hl' hd'
    simp only [units, hl, hl']
    cases ha : answer ds found name with
    | error f => exact .inl ⟨f, rfl, rfl⟩
    | ok d =>
      refine .inr ⟨(d.map Distribution.units).getD [], installed ds g, installed ds g', ?_, ?_,
        .installed hg, .installed fun n => ?_⟩
      · simp [Except.map, bind, Except.bind, hd d ha]
      · simp [Except.map, bind, Except.bind, hd' d ha]
      · rw [hg', h, hg]

end BundleSource

namespace World

def relog (w : World) (ns : List Notice) : World := { w with notices := ns }

structure Agree (w v : World) : Prop where
  modules : v.modules = w.modules
  loaded : v.loaded = w.loaded
  bundles : w.bundles.Same v.bundles

/-- A world at a later time: more of its modules may be loaded. -/
structure Later (w v : World) : Prop where
  modules : v.modules = w.modules
  loaded : ∃ new, v.loaded = w.loaded ++ new ∧ new.Nodup ∧
    ∀ name ∈ new, name ∉ w.loaded ∧ name ∈ w.modules.map ModuleSpec.name
  bundles : w.bundles.Same v.bundles

variable {w v u : World}

theorem Agree.refl (w : World) : w.Agree w := ⟨rfl, rfl, .refl _⟩

theorem agree_relog (w : World) (ns : List Notice) : w.Agree (w.relog ns) :=
  ⟨rfl, rfl, .refl _⟩

theorem Agree.find? (h : w.Agree v) (name : String) : v.find? name = w.find? name := by
  rw [World.find?, h.modules, World.find?]

theorem callbackDepth_of_modules (h : v.modules = w.modules) :
    v.callbackDepth = w.callbackDepth := by
  rw [callbackDepth, functionCount, h, callbackDepth, functionCount]

theorem Agree.callReserved (h : w.Agree v) (m : ModuleSpec) (name : String) :
    callReserved v m name = callReserved w m name := by
  rw [ThreadTrace.callReserved, namesOf, inside, h.loaded]
  rfl

theorem Later.refl (w : World) : w.Later w := ⟨rfl, ⟨[], by simp⟩, .refl _⟩

theorem Later.trans (h : w.Later v) (h' : v.Later u) : w.Later u := by
  obtain ⟨hm, ⟨new, hl, hn, hnew⟩, hb⟩ := h
  obtain ⟨hm', ⟨more, hl', hn', hmore⟩, hb'⟩ := h'
  refine ⟨hm'.trans hm, ⟨new ++ more, by rw [hl', hl, List.append_assoc], ?_, ?_⟩, hb.trans hb'⟩
  · refine List.nodup_append.2 ⟨hn, hn', ?_⟩
    rintro name h _ h' rfl
    have hout := (hmore name h').1
    rw [hl] at hout
    exact hout (List.mem_append_right _ h)
  · intro name hname
    rcases List.mem_append.1 hname with h | h
    · exact hnew name h
    · obtain ⟨hout, hin⟩ := hmore name h
      rw [hl] at hout
      rw [hm] at hin
      exact ⟨fun hw => hout (List.mem_append_left _ hw), hin⟩

end World

namespace Act

variable {I J : List ModuleSpec → Prop} {α β : Type} {w : World}

/-- How an activity behaves in a world: its faults are ordinary if the modules are as they should be. -/
structure MildAt (I : List ModuleSpec → Prop) (act : Act World α) (w : World) : Prop where
  later : w.Later (act.on w).2
  agrees : ∀ v, w.Agree v → (act.on v).1 = (act.on w).1 ∧ (act.on w).2.Agree (act.on v).2
  faults : I w.modules → Blames Fault.Ordinary (act.on w).1

def Mild (I : List ModuleSpec → Prop) (act : Act World α) : Prop := ∀ w, MildAt I act w

theorem MildAt.of_still {act : Act World α} {r : Except Fault α} (h : act.on w = (r, w))
    (hv : ∀ v, w.Agree v → act.on v = (r, v)) (hr : I w.modules → Blames Fault.Ordinary r) :
    MildAt I act w := by
  refine ⟨by rw [h]; exact .refl w, fun v hw => ?_, by rw [h]; exact hr⟩
  rw [hv v hw, h]
  exact ⟨rfl, hw⟩

namespace Mild

theorem mono {act : Act World α} (h : Mild I act) (hij : ∀ modules, J modules → I modules) :
    Mild J act := fun w => ⟨(h w).later, (h w).agrees, fun hj => (h w).faults (hij _ hj)⟩

theorem pure (a : α) : Mild I (Pure.pure a : Act World α) :=
  fun _ => .of_still rfl (fun _ _ => rfl) fun _ => Blames.ok a

theorem throw {f : Fault} (hf : f.Ordinary) : Mild I (MonadExcept.throw f : Act World α) :=
  fun _ => .of_still rfl (fun _ _ => rfl) fun _ => Blames.error hf

theorem bind {act : Act World α} {g : α → Act World β} (ha : Mild I act)
    (hg : ∀ a, Mild I (g a)) : Mild I (act >>= g) := by
  intro w
  obtain ⟨hl, hagrees, hf⟩ := ha w
  cases hr : act.on w with
  | mk r w₁ =>
    rw [hr] at hl hagrees hf
    cases r with
    | error f =>
      refine ⟨by rw [on_bind, hr]; exact hl, fun v hv => ?_, fun hi => by
        rw [on_bind, hr]
        exact Blames.error (hf hi f rfl)⟩
      obtain ⟨hout, hafter⟩ := hagrees v hv
      rw [on_bind, on_bind, hr]
      cases hs : act.on v with
      | mk q v₁ =>
        rw [hs] at hout hafter
        obtain rfl : q = .error f := hout
        exact ⟨rfl, hafter⟩
    | ok a =>
      obtain ⟨hl', hagrees', hf'⟩ := hg a w₁
      rw [hl.modules] at hf'
      refine ⟨by rw [on_bind, hr]; exact hl.trans hl', fun v hv => ?_, fun hi => by
        rw [on_bind, hr]
        exact hf' hi⟩
      obtain ⟨hout, hafter⟩ := hagrees v hv
      rw [on_bind, on_bind, hr]
      cases hs : act.on v with
      | mk q v₁ =>
        rw [hs] at hout hafter
        obtain rfl : q = .ok a := hout
        exact hagrees' v₁ hafter

end Mild

end Act

open Act (Mild MildAt)

variable {I : List ModuleSpec → Prop}

theorem World.Agree.importOne_on {w v : World} (h : w.Agree v) (parent : Option String)
    (name : String) :
    (importOne parent name).on v =
      if w.loaded.contains name then (.ok (), v)
      else match parent.filter fun p => !(w.find? p).any (·.holdsModules) with
        | some p => (.error (.notPackage name p), v)
        | none => match w.find? name with
          | none => (.error (.noModule name), v)
          | some m => match m.body with
            | some f => (.error f, { v with imports := v.imports ++ [name] })
            | none => (.ok (), { v with
                imports := v.imports ++ [name]
                loaded := v.loaded ++ [name] }) := by
  rw [importOne]
  by_cases hl : w.loaded.contains name = true
  · simp only [Act.on_bind, Act.on_get, h.loaded, hl, if_true]
    rfl
  simp only [Act.on_bind, Act.on_get, h.loaded, h.find?, hl]
  cases parent with
  | none =>
    cases hm : w.find? name with
    | none => rfl
    | some m => cases hb : m.body <;> simp [hb]
  | some p =>
    cases ha : (w.find? p).any (·.holdsModules) with
    | false => simp [Option.filter, ha]
    | true =>
      cases hm : w.find? name with
      | none => simp [Option.filter, ha]
      | some m => cases hb : m.body <;> simp [Option.filter, ha, hb]

theorem importOne_mild (parent : Option String) (name : String) :
    Mild OrdinaryBodies (importOne parent name) := by
  intro w
  have hv := fun v (h : w.Agree v) => h.importOne_on parent name
  have hw := hv w (.refl w)
  by_cases hl : w.loaded.contains name = true
  · simp only [hl, if_true] at hv hw
    exact .of_still hw hv fun _ => Blames.ok _
  simp only [hl] at hv hw
  cases hp : parent.filter fun p => !(w.find? p).any (·.holdsModules) with
  | some p =>
    simp only [hp] at hv hw
    exact .of_still hw hv fun _ => Blames.error rfl
  | none =>
    cases hm : w.find? name with
    | none =>
      simp only [hp, hm] at hv hw
      exact .of_still hw hv fun _ => Blames.error rfl
    | some m =>
      have hin := List.mem_of_find?_eq_some hm
      have hname : m.name = name := by simpa using List.find?_some hm
      cases hb : m.body with
      | some f =>
        simp only [hp, hm, hb] at hv hw
        refine ⟨by rw [hw]; exact ⟨rfl, ⟨[], by simp⟩, .refl _⟩, fun v h => ?_, fun hi => ?_⟩
        · rw [hv v h, hw]
          exact ⟨rfl, h.modules, h.loaded, h.bundles⟩
        · rw [hw]
          exact Blames.error (hi m hin f hb)
      | none =>
        simp only [hp, hm, hb] at hv hw
        refine ⟨?_, fun v h => ?_, fun _ => by rw [hw]; exact Blames.ok _⟩
        · rw [hw]
          refine ⟨rfl, ⟨[name], rfl, by simp, fun x hx => ?_⟩, .refl _⟩
          obtain rfl := List.mem_singleton.1 hx
          exact ⟨by simpa using hl, List.mem_map.2 ⟨m, hin, hname⟩⟩
        · rw [hv v h, hw]
          exact ⟨rfl, h.modules, congrArg (· ++ [name]) h.loaded, h.bundles⟩

theorem importChain_mild (parent : Option String) (names : List String) :
    Mild OrdinaryBodies (importChain parent names) := by
  induction names generalizing parent with
  | nil => exact .pure _
  | cons name names ih => exact (importOne_mild parent name).bind fun _ => ih _

theorem importModule_mild (name : String) : Mild OrdinaryBodies (importModule name) := by
  rw [importModule]
  split
  · exact .throw rfl
  · split
    · exact .throw rfl
    · exact importChain_mild _ _

theorem importOne_loads {parent : Option String} {name : String} {w v : World}
    {r : Except Fault Unit} (h : (importOne parent name).on w = (r, v)) :
    v.calls = w.calls ∧ (r = .ok () → name ∈ v.loaded) := by
  rw [(World.Agree.refl w).importOne_on] at h
  split at h
  · rename_i hl
    obtain ⟨rfl, rfl⟩ := Prod.mk.inj h
    exact ⟨rfl, fun _ => by simpa using hl⟩
  · split at h
    · obtain ⟨rfl, rfl⟩ := Prod.mk.inj h
      exact ⟨rfl, by simp⟩
    · split at h
      · obtain ⟨rfl, rfl⟩ := Prod.mk.inj h
        exact ⟨rfl, by simp⟩
      · split at h <;> obtain ⟨rfl, rfl⟩ := Prod.mk.inj h
        · exact ⟨rfl, by simp⟩
        · exact ⟨rfl, fun _ => by simp⟩

theorem importChain_loads {parent : Option String} {names : List String} {w v : World}
    {r : Except Fault Unit} (h : (importChain parent names).on w = (r, v)) :
    v.calls = w.calls ∧ (r = .ok () → ∀ name ∈ names, name ∈ v.loaded) := by
  induction names generalizing parent w with
  | nil =>
    obtain ⟨rfl, rfl⟩ := Prod.mk.inj h
    exact ⟨rfl, fun _ => by simp⟩
  | cons name names ih =>
    rw [importChain, Act.on_bind] at h
    cases hone : (importOne parent name).on w with
    | mk q w₁ =>
      obtain ⟨hcalls, hin⟩ := importOne_loads hone
      rw [hone] at h
      cases q with
      | error f =>
        obtain ⟨rfl, rfl⟩ := Prod.mk.inj h
        exact ⟨hcalls, nofun⟩
      | ok u =>
        obtain ⟨hcalls', hrest⟩ := ih h
        refine ⟨hcalls'.trans hcalls, fun hr => List.forall_mem_cons.2 ⟨?_, hrest hr⟩⟩
        obtain ⟨new, hl, -⟩ := (importChain_mild (some name) names w₁).later.loaded
        simp only [h] at hl
        rw [hl]
        exact List.mem_append_left _ (hin rfl)

theorem importModule_loads {name : String} {w v : World} {r : Except Fault Unit}
    (h : (importModule name).on w = (r, v)) :
    v.calls = w.calls ∧ (r = .ok () → name ∈ v.loaded) := by
  rw [importModule] at h
  split at h
  · obtain ⟨rfl, rfl⟩ := Prod.mk.inj h
    exact ⟨rfl, nofun⟩
  · split at h
    · obtain ⟨rfl, rfl⟩ := Prod.mk.inj h
      exact ⟨rfl, nofun⟩
    · obtain ⟨hcalls, hin⟩ := importChain_loads h
      exact ⟨hcalls, fun hr => hin hr name (by simp)⟩

theorem Reserved.call?_ordinary (names : List String) (name : String) {r : Except Fault Value}
    (h : call? names name = some r) : Blames Fault.Ordinary r := by
  have refused : ∀ reason, call?.refused reason = some r → Blames Fault.Ordinary r := by
    rintro reason ⟨⟩
    exact Blames.error rfl
  rw [call?.eq_def] at h
  split at h
  case h_1 | h_2 | h_3 =>
    cases h
    exact Blames.ok _
  all_goals first | exact refused _ h | cases h

theorem callReserved_ordinary (w : World) (m : ModuleSpec) (name : String) :
    Blames Fault.Ordinary (callReserved w m name) := by
  rw [callReserved]
  split
  · exact Reserved.call?_ordinary _ _ ‹_›
  · split <;> exact Blames.error rfl
  · exact Blames.error rfl

theorem callFunction_mild (unit function : String) :
    Mild OrdinaryFunctions (callFunction unit function) := by
  intro w
  cases hm : w.find? unit with
  | none =>
    have hon : ∀ v, w.Agree v →
        (callFunction unit function).on v = (.error (.noAttribute unit function), v) := by
      intro v h
      simp [callFunction, h.find?, hm]
    exact .of_still (hon w (.refl w)) hon fun _ => Blames.error rfl
  | some m =>
    by_cases hl : w.loaded.contains (unit ++ "." ++ function) = true
    · have hon : ∀ v, w.Agree v →
          (callFunction unit function).on v = (.error (.notCallable "module"), v) := by
        intro v h
        simp only [callFunction, Act.on_bind, Act.on_get, h.find?, hm, h.loaded, hl]
        rfl
      exact .of_still (hon w (.refl w)) hon fun _ => Blames.error rfl
    · cases ha : (if Reserved.isFixed function then none else m.attribute? function) with
      | none =>
        have hon : ∀ v, w.Agree v →
            (callFunction unit function).on v = (callReserved w m function, v) := by
          intro v h
          simp only [callFunction, Act.on_bind, Act.on_get, h.find?, hm, h.loaded, hl, ha]
          exact congrArg (·, v) (h.callReserved m function)
        exact .of_still (hon w (.refl w)) hon fun _ => callReserved_ordinary w m function
      | some a =>
        cases a with
        | constant c =>
          have hon : ∀ v, w.Agree v →
              (callFunction unit function).on v = (.error (.notCallable c.typeName), v) := by
            intro v h
            simp only [callFunction, Act.on_bind, Act.on_get, h.find?, hm, h.loaded, hl, ha]
            rfl
          exact .of_still (hon w (.refl w)) hon fun _ => Blames.error rfl
        | function outcome =>
          have hon : ∀ v, w.Agree v → (callFunction unit function).on v =
              (outcome, { v with calls := v.calls ++ [unit ++ ":" ++ function] }) := by
            intro v h
            simp only [callFunction, Act.on_bind, Act.on_get, h.find?, hm, h.loaded, hl, ha]
            rfl
          have hw := hon w (.refl w)
          refine ⟨by rw [hw]; exact ⟨rfl, ⟨[], by simp⟩, .refl _⟩, fun v h => ?_, fun hi => ?_⟩
          · rw [hon v h, hw]
            exact ⟨rfl, h.modules, h.loaded, h.bundles⟩
          · rw [hw]
            rintro f rfl
            have hattr : m.attribute? function = some (.function (.error f)) := by
              by_cases hx : Reserved.isFixed function = true <;> simp [hx] at ha
              exact ha
            obtain ⟨⟨name, a⟩, hfind, rfl⟩ := Option.map_eq_some_iff.1 hattr
            exact hi m (List.mem_of_find?_eq_some hm) name f (List.mem_of_find?_eq_some hfind)

def OrdinaryModules (modules : List ModuleSpec) : Prop :=
  OrdinaryBodies modules ∧ OrdinaryFunctions modules

theorem invoke_mild (unit function : String) : Mild OrdinaryModules (invoke unit function) :=
  ((importModule_mild unit).mono fun _ h => h.1).bind fun _ =>
    (callFunction_mild unit function).mono fun _ h => h.2

theorem BundleSource.load_ordinary (s : BundleSource) (name : String) :
    Blames Fault.Ordinary (s.load name) := by
  cases s with
  | declared bundles => exact Blames.ok _
  | installed ds found =>
    rw [load]
    split
    · exact Blames.ok _
    · split
      · exact Blames.error rfl
      · split <;> exact Blames.ok _

theorem BundleSource.units_ordinary (s : BundleSource) (name : String) :
    Blames Fault.Ordinary (s.units name) := by
  cases s with
  | declared bundles => exact Blames.ok _
  | installed ds found =>
    refine (load_ordinary _ name).bind fun x => ?_
    dsimp only
    split <;> exact Blames.ok _

/-- What a world's bundle source answers, and the world with the source as it is then. -/
def World.consult {α : Type} (ask : BundleSource → Except Fault (α × BundleSource)) (w : World) :
    Except Fault α × World :=
  match ask w.bundles with
  | .error f => (.error f, w)
  | .ok (a, bundles) => (.ok a, { w with bundles })

theorem consult_mild {α : Type} {ask : BundleSource → Except Fault (α × BundleSource)}
    (ha : BundleSource.Asks ask) (ho : ∀ s, Blames Fault.Ordinary (ask s)) {act : Act World α}
    (hact : ∀ w : World, act.on w = w.consult ask) : Mild I act := by
  have hon : ∀ w : World, act.on w = match ask w.bundles with
    | .error f => (.error f, w)
    | .ok (a, bundles) => (.ok a, { w with bundles }) := hact
  intro w
  cases hb : ask w.bundles with
  | error f =>
    refine .of_still (by rw [hon, hb]) (fun v h => ?_) fun _ => Blames.error (ho _ f hb)
    obtain ⟨g, hg, hv⟩ | ⟨a, s', t', hs, -⟩ := ha _ _ h.bundles
    · rw [hb] at hg
      cases hg
      rw [hon, hv]
    · rw [hb] at hs
      cases hs
  | ok x =>
    obtain ⟨a, s⟩ := x
    have still : w.bundles.Same s := by
      obtain ⟨g, hg, -⟩ | ⟨a', s', t', hs, -, hsame, -⟩ := ha _ _ (.refl w.bundles)
      · rw [hb] at hg
        cases hg
      · rw [hb] at hs
        cases hs
        exact hsame
    have hw : act.on w = (.ok a, { w with bundles := s }) := by rw [hon, hb]
    refine ⟨by rw [hw]; exact ⟨rfl, ⟨[], by simp⟩, still⟩, fun v h => ?_, fun _ => by
      rw [hw]
      exact Blames.ok _⟩
    obtain ⟨g, hg, -⟩ | ⟨a', s', t', hs, ht, -, hsame⟩ := ha _ _ h.bundles
    · rw [hb] at hg
      cases hg
    · rw [hb] at hs
      cases hs
      rw [hw, hon, ht]
      exact ⟨rfl, h.modules, h.loaded, hsame⟩

theorem loadBundle_on (name : String) (w : World) :
    (loadBundle name).on w = w.consult fun s => s.load name := by
  rw [loadBundle, Act.on_bind, Act.on_get, World.consult]
  cases hb : w.bundles.load name <;> simp [hb]

theorem bundleUnits_on (name : String) (w : World) :
    (bundleUnits name).on w = w.consult fun s => s.units name := by
  rw [bundleUnits, Act.on_bind, Act.on_get, World.consult]
  cases hb : w.bundles.units name <;> simp [hb]

theorem loadBundle_mild (name : String) : Mild I (loadBundle name) :=
  consult_mild (BundleSource.load_asks name) (fun s => s.load_ordinary name) (loadBundle_on name)

theorem bundleUnits_mild (name : String) : Mild I (bundleUnits name) :=
  consult_mild (BundleSource.units_asks name) (fun s => s.units_ordinary name) (bundleUnits_on name)

theorem missing_mild (name : String) : Mild I (modify (World.sources.missing name)) :=
  fun _ => ⟨⟨rfl, ⟨[], by simp [World.sources]⟩, .refl _⟩,
    fun _ h => ⟨rfl, h.modules, h.loaded, h.bundles⟩, fun _ => Blames.ok _⟩

namespace Plan

variable {callback : String → String → Act World (List Value)}

mutual

theorem expand_mild (hc : ∀ unit function, Mild I (callback unit function)) :
    ∀ v : Value, Mild I (expand World.sources callback v)
  | .app name => by
    refine (loadBundle_mild name).bind fun known => ?_
    have rest : Mild I (do return (← bundleUnits name).map .text : Act World (List Value)) :=
      (bundleUnits_mild name).bind fun _ => .pure _
    cases known
    · exact (missing_mild name).bind fun _ => rest
    · exact rest
  | .callback unit function => hc unit function
  | .list items | .tuple items => expandAll_mild hc items
  | .store _ events => .pure _
  | .moduleObject name _ => .pure _
  | .null | .bool _ | .int _ | .float _ | .nan _ | .text _ | .bytes _ | .dict _ | .selector _
  | .thread _ | .sealed .. | .scope _ | .port _ | .options .. | .event _ | .console _
  | .workshop .. => .pure _

theorem expandAll_mild (hc : ∀ unit function, Mild I (callback unit function)) :
    ∀ items : List Value, Mild I (expandAll World.sources callback items)
  | [] => .pure _
  | x :: xs => (expand_mild hc x).bind fun _ => (expandAll_mild hc xs).bind fun _ => .pure _

end

theorem resolve_mild (fuel : Nat) (unit function : String) :
    Mild OrdinaryModules (resolve World.sources fuel unit function) := by
  induction fuel generalizing unit function with
  | zero => exact .throw rfl
  | succ fuel ih => exact (invoke_mild unit function).bind fun _ => expandAll_mild ih _

/-- A plan does not depend on what was reported before. -/
theorem normalize_mild (request : Value) : Mild OrdinaryModules (normalize request) := by
  intro w
  have hm : Mild OrdinaryModules (normalizeWith World.sources w.callbackDepth request) :=
    (expandAll_mild (resolve_mild w.callbackDepth) _).bind fun _ => .pure _
  refine ⟨(hm w).later, fun v h => ?_, (hm w).faults⟩
  have hv : (normalize request).on v =
      (normalizeWith World.sources w.callbackDepth request).on v := by
    rw [normalize, Act.on_bind, Act.on_get]
    simp only [World.callbackDepth_of_modules h.modules]
  rw [hv]
  exact (hm w).agrees v h

end Plan

/-- If no module ends the program, every unit is either loaded or left out, without a fault. -/
theorem Dispatch.ensureLoaded_on (unit : String) {w : World} (hw : OrdinaryBodies w.modules) :
    ∃ loaded w', (ensureLoaded unit).on w = (.ok loaded, w') ∧ w'.modules = w.modules ∧
      w'.calls = w.calls := by
  rw [ensureLoaded]
  simp only [Act.on_bind, Act.on_get]
  by_cases hl : (unit == Entry.wildcard || w.loaded.contains unit) = true
  · exact ⟨true, w, by simp only [hl, if_true]; rfl, rfl, rfl⟩
  · obtain ⟨⟨hm, -, -⟩, -, hf⟩ := importModule_mild unit w
    have ho := hf hw
    simp only [hl, Act.attempt]
    cases hr : (importModule unit).on w with
    | mk r v =>
      obtain ⟨hcalls, -⟩ := importModule_loads hr
      rw [hr] at hm ho
      cases r with
      | ok u => exact ⟨true, v, by simp [hr], hm, hcalls⟩
      | error f =>
        have hord : f.isOrdinary = true := ho f rfl
        by_cases hi : f.isImportFailure = true
        · exact ⟨false, v, by simp [hr, hi], hm, hcalls⟩
        · exact ⟨false, { v with notices := v.notices ++ [.moduleFailed unit f.shown] },
            by simp [hr, hi, hord, notice], hm, hcalls⟩

end ThreadTrace
