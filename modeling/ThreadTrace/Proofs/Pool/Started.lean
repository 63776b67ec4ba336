import ThreadTrace.Proofs.Pool.Building
import ThreadTrace.Proofs.Pool.Tally
import ThreadTrace.Proofs.Sink.Making

namespace ThreadTrace

def Worker.Idle (w : Worker) (running : Bool) (life : Life) : Prop :=
  w.queue = [] ∧ w.running = running ∧ w.life = life

def Worker.launched (w : Worker) : Worker := { w with running := true, life := .alive }

namespace Crew

def Waits (c : Crew) (running : Bool) (life : Life) (k : Nat) : Prop :=
  ∃ w, c.worker? k = some w ∧ w.Idle running life

/-- Workers that were each started once and have done nothing since. -/
def Started (c : Crew) (ws : List Nat) : Prop := ∀ k ∈ ws, c.Waits true .alive k

variable {c c' : Crew}

theorem Waits.tally {k : Nat} (h : c.Waits true .alive k) :
    ∃ w, c.worker? k = some w ∧ Tally k [] w := by
  obtain ⟨w, hw, hq, hr, hl⟩ := h
  refine ⟨w, hw, ?_, ?_, .running hr hl (by simp [hq]) (by simp) (by simp)⟩
  · simp [accepted, taken, Worker.waiting, hq]
  · intro pre x post he
    simp at he

theorem start_on {k : Nat} {w : Worker} (hw : c.worker? k = some w)
    (h : w.Idle false .unstarted) : (start k).on c = (.ok (), c.putWorker k w.launched) := by
  obtain ⟨hq, -, hl⟩ := h
  have hs : w.start = (.ok (), w.launched) := by simp [Worker.start, Worker.launched, hl]
  have hp := putWorker_worker? hw w.launched
  have he : (c.putWorker k w.launched).settle k = c.putWorker k w.launched := by
    have hq' : w.launched.queue = [] := hq
    simp only [settle, hp, hq', List.length_nil, Worker.drain, List.append_nil]
    rw [set_worker hp]
  simp [start, hw, hs, he]

theorem startAll_on {ws : List Nat} (hn : ws.Nodup) (h : ∀ k ∈ ws, c.Waits false .unstarted k) :
    ∃ c', (startAll ws).on c = (.ok (), c') ∧ c'.Started ws ∧
      ∀ j, j ∉ ws → c'.worker? j = c.worker? j := by
  induction ws generalizing c with
  | nil => exact ⟨c, rfl, by simp [Started], fun _ _ => rfl⟩
  | cons k ws ih =>
    obtain ⟨hk, hn⟩ := List.nodup_cons.1 hn
    obtain ⟨w, hw, hi⟩ := h k List.mem_cons_self
    have he := start_on hw hi
    have hown := putWorker_worker? hw w.launched
    have hother : ∀ j, j ≠ k → (c.putWorker k w.launched).worker? j = c.worker? j := by
      intro j hj
      exact List.getElem?_set_ne (Ne.symm hj)
    have hrest : ∀ j ∈ ws, (c.putWorker k w.launched).Waits false .unstarted j := by
      intro j hj
      have hne : j ≠ k := fun he => hk (he ▸ hj)
      rw [Waits, hother j hne]
      exact h j (List.mem_cons_of_mem _ hj)
    obtain ⟨c₂, he₂, hs, hframe⟩ := ih hn hrest
    refine ⟨c₂, by simp [startAll, he, he₂], ?_, ?_⟩
    · intro j hj
      rcases List.mem_cons.1 hj with rfl | hj
      · rw [Waits, hframe j hk]
        exact ⟨_, hown, hi.1, rfl, rfl⟩
      · exact hs j hj
    · intro j hj
      obtain ⟨hne, hj⟩ := not_or.1 (mt List.mem_cons.2 hj)
      rw [hframe j hj, hother j hne]

theorem startAll_last {old new : List Worker} (h : ∀ w ∈ new, w.Idle false .unstarted)
    (hc : c.workers = old ++ new) :
    (startAll (List.range' old.length new.length)).on c =
      (.ok (), { c with workers := old ++ new.map Worker.launched }) := by
  induction new generalizing c old with
  | nil => simp [startAll, ← hc]
  | cons w new ih =>
    have hw : c.worker? old.length = some w := by simp [worker?, hc]
    have hput : (c.putWorker old.length w.launched).workers = (old ++ [w.launched]) ++ new := by
      simp [putWorker, hc]
    have hrest := ih (fun v hv => h v (List.mem_cons_of_mem _ hv)) hput
    rw [List.length_append, List.length_singleton] at hrest
    rw [List.length_cons, List.range'_succ, startAll, Act.on_bind,
      start_on hw (h w List.mem_cons_self)]
    simp only [hrest]
    simp [putWorker]

def staff (text : String) (index : Nat) : List Sink → List Worker
  | [] => []
  | s :: r =>
    { pool := text, index := .int index, indexText := toString index, sink := s } ::
      staff text (index + 1) r

@[simp] theorem staff_length (text : String) (index : Nat) (sinks : List Sink) :
    (staff text index sinks).length = sinks.length := by
  induction sinks generalizing index with
  | nil => rfl
  | cons s sinks ih => simp [staff, ih]

theorem staff_idle {text : String} {index : Nat} {sinks : List Sink} :
    ∀ w ∈ staff text index sinks, w.Idle false .unstarted := by
  induction sinks generalizing index with
  | nil => simp [staff]
  | cons s sinks ih =>
    intro w hw
    rcases List.mem_cons.1 hw with rfl | hw
    · exact ⟨rfl, rfl, rfl⟩
    · exact ih w hw

theorem staff_index {text : String} {index i : Nat} {sinks : List Sink} {w : Worker}
    (hw : (staff text index sinks)[i]? = some w) : w.index = .int (index + i : Nat) := by
  induction sinks generalizing index i with
  | nil => simp [staff] at hw
  | cons s sinks ih =>
    cases i with
    | zero =>
      obtain rfl : _ = w := by simpa [staff] using hw
      rfl
    | succ i =>
      have hi := ih (by simpa [staff] using hw)
      rw [hi]
      congr 1
      omega

theorem addWorkers_on {id : Value} {text : String} (hp : id.plain = .ok text)
    (sinks : List Sink) (index : Nat) (c : Crew) :
    (addWorkers id index sinks).on c =
      (.ok (List.range' c.workers.length sinks.length),
        { c with workers := c.workers ++ staff text index sinks }) := by
  induction sinks generalizing index c with
  | nil => simp [addWorkers, staff]
  | cons s sinks ih =>
    simp only [addWorkers, addWorker, hp, Act.on_bind, Act.on_result, Act.on_get, Act.on_set, ih,
      Act.on_pure]
    simp [staff, List.range'_succ]

theorem addWorkers_refused {id : Value} {f : Fault} (hp : id.plain = .error f) {sinks : List Sink}
    (hs : sinks ≠ []) (index : Nat) (c : Crew) :
    (addWorkers id index sinks).on c = (.error f, c) := by
  cases sinks with
  | nil => exact absurd rfl hs
  | cons s sinks => simp [addWorkers, hp]

theorem count_pos {size : Value} {n : Nat} (hc : checkSize size = .ok ())
    (hn : countOf size = .ok n) : 0 < n ∧ size.asInt? = some (n : Int) := by
  have hi : ∃ i, size.asInt? = some i ∧ n = i.toNat := by
    rw [countOf] at hn
    split at hn
    · exact ⟨_, ‹_›, by cases hn; rfl⟩
    · cases hn
  obtain ⟨i, hi, rfl⟩ := hi
  by_cases h : 0 < i
  · exact ⟨by omega, by rw [hi, Int.toNat_of_nonneg (by omega)]⟩
  · cases hp : size.plain <;> cases size <;>
      simp_all [checkSize, Value.asInt?, bind, Except.bind] <;> omega

/-- What becomes of the creation of a pool: it is refused, and only sinks have come and gone, or its
workers stand behind those that were there. -/
inductive Created (id size : Value) (c : Crew) : Except Fault Pool × Crew → Prop
  | refused (f : Fault) (o : Outlets) (hf : f.Outside) :
      Created id size c (.error f, { c with outlets := o })
  | built (text : String) (sinks : List Sink) (o : Outlets) (hp : id.plain = .ok text)
      (hn : size.asInt? = some (sinks.length : Int)) (hs : sinks ≠ []) :
      Created id size c (.ok ⟨id, List.range' c.workers.length sinks.length⟩,
        { c with workers := c.workers ++ staff text 0 sinks, outlets := o })

theorem assemble_created {id size : Value} {n : Nat} (hpos : 0 < n)
    (hn : size.asInt? = some (n : Int)) {make : Nat → Act Outlets Sink}
    (hm : ∀ k, Act.Raises Fault.Outside (make k)) (o : Outlets) (c : Crew) :
    Created id size c ((assemble id make n).on { c with outlets := o }) := by
  have hraise := buildSinks_raises hm [] (List.range n) o
  obtain ⟨made, r, o₁, hmade⟩ := exists_makes make (List.range n) o
  rw [buildSinks_makes hmade, List.nil_append] at hraise
  simp only [assemble, Act.on_bind, inOutlets, Act.within, Act.on_of, buildSinks_makes hmade,
    List.nil_append]
  cases r with
  | error f =>
    by_cases ho : f.isOrdinary = true
    · simp only [concluded, ho, if_true] at hraise ⊢
      exact .refused _ _ (hraise _ rfl)
    · simp only [concluded, ho] at hraise ⊢
      exact .refused _ _ (hraise _ rfl)
  | ok u =>
    obtain rfl : made.length = n := by simpa using hmade.length rfl
    have hs : made ≠ [] := List.ne_nil_of_length_pos hpos
    cases hp : id.plain with
    | error f =>
      simp only [concluded, addWorkers_refused hp hs]
      exact .refused f o₁ (id.plain_outside f hp)
    | ok text =>
      simp only [concluded, addWorkers_on hp]
      exact .built text made o₁ hp hn hs

/-- What becomes of the preparations for a pool, none of which makes a sink. A recipe that asks for
a caller's factory comes from that factory. -/
inductive Prepared (settings : Settings) (owner : Nat → String) (size kind : Value) (c : Crew) :
    Except Fault (Nat × (Nat → Act Outlets Sink)) × Crew → Prop
  | refused (f : Fault) (o : Outlets) (hf : f.Outside) (ho : o.made = c.outlets.made) :
      Prepared settings owner size kind c (.error f, { c with outlets := o })
  | ready (n : Nat) (recipe : Recipe) (o : Outlets) (hpos : 0 < n)
      (hn : size.asInt? = some (n : Int)) (ho : o.made = c.outlets.made)
      (hk : ∀ w, recipe = .workshop w → ∃ mark, kind = .workshop w mark) :
      Prepared settings owner size kind c
        (.ok (n, fun k => recipe.build settings (owner k) (.int k)), { c with outlets := o })

theorem prepare_prepared (settings : Settings) (owner : Nat → String)
    (size kind options : Value) (c : Crew) :
    Prepared settings owner size kind c ((prepare settings owner size kind options).on c) := by
  rw [prepare]
  simp only [Act.on_bind, Act.on_result]
  cases hc : checkSize size with
  | error f => exact .refused f c.outlets (checkSize_outside size f hc) rfl
  | ok u =>
    cases hk : SinkKind.ofValue kind with
    | error f => exact .refused f c.outlets (SinkKind.ofValue_outside kind f hk) rfl
    | ok k =>
      cases hn : countOf size with
      | error f => exact .refused f c.outlets (countOf_outside size f hn) rfl
      | ok n =>
        obtain ⟨hpos, hsize⟩ := count_pos hc hn
        have hraise := Recipe.ofOptions_raises (owner 0 ++ "/memory[0]") k options c.outlets
        have hmade := Recipe.ofOptions_made (owner 0 ++ "/memory[0]") k options c.outlets
        simp only [inOutlets, Act.within, Act.on_of]
        cases hr : (Recipe.ofOptions (owner 0 ++ "/memory[0]") k options).on c.outlets with
        | mk r o =>
          rw [hr] at hraise hmade
          cases r with
          | error f => exact .refused f o (hraise f rfl) hmade
          | ok recipe =>
            refine .ready n recipe o hpos hsize hmade fun w hw => ?_
            obtain rfl := Recipe.ofOptions_workshop hr hw
            exact SinkKind.ofValue_workshop hk

theorem createPool_created (settings : Settings) (owner : Nat → String)
    (id size kind options : Value) (c : Crew) :
    Created id size c ((createPool settings owner id size kind options).on c) := by
  have hp := prepare_prepared settings owner size kind options c
  rw [createPool, Act.on_bind]
  generalize (prepare settings owner size kind options).on c = y at hp ⊢
  cases hp with
  | refused f o hf => exact .refused f o hf
  | ready n recipe o hpos hn _ _ =>
    exact assemble_created hpos hn (fun k => recipe.build_raises settings _ _) o c

theorem createPool_on {settings : Settings} {owner : Nat → String} {id size kind options : Value}
    {pool : Pool} (h : (createPool settings owner id size kind options).on c = (.ok pool, c')) :
    pool.workers ≠ [] ∧ pool.workers.Nodup ∧ ∀ k ∈ pool.workers, c'.Waits false .unstarted k := by
  have hm := createPool_created settings owner id size kind options c
  rw [h] at hm
  cases hm with
  | built text sinks o hp hn hs =>
    refine ⟨by simpa using hs, List.nodup_range', ?_⟩
    intro k hk
    obtain ⟨i, hi, rfl⟩ := List.mem_range'.1 hk
    rw [Nat.one_mul]
    have hl : i < (staff text 0 sinks).length := by rwa [staff_length]
    refine ⟨(staff text 0 sinks)[i], ?_, staff_idle _ (List.getElem_mem hl)⟩
    rw [worker?, List.getElem?_append_right (by omega), Nat.add_sub_cancel_left]
    exact List.getElem?_eq_getElem hl

end Crew

end ThreadTrace
