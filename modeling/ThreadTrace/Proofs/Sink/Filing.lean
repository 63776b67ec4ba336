import ThreadTrace.Proofs.Event.Records
import ThreadTrace.Proofs.Sink.Opening
import ThreadTrace.Sink.Recipe

namespace ThreadTrace

inductive Request
  | accept (e : Event)
  | close
deriving DecidableEq

def Request.accepted : List Request → List Event
  | .accept e :: rs => e :: accepted rs
  | .close :: _ | [] => []

namespace Sink

variable {s : Sink} {path : Path} {place : Place} {written : List String}

/-- What a sink does when asked for one thing after another: the events that it accepted, the sink,
and what it has written to. -/
def serve (s : Sink) (o : Outlets) : List Request → List Event × Sink × Outlets
  | [] => ([], s, o)
  | .accept e :: rs =>
    match s.accept e o with
    | (.ok (), s, o) =>
      let (es, r) := s.serve o rs
      (e :: es, r)
    | (.error _, s, o) => s.serve o rs
  | .close :: rs =>
    let (_, s, o) := s.close o
    s.serve o rs

theorem serve_closed (hs : s.outlet = .file path place written) (hc : s.closed = true)
    (o : Outlets) (rs : List Request) : s.serve o rs = ([], s, o) := by
  induction rs with
  | nil => rfl
  | cons r rs ih =>
    cases r with
    | accept e => simp [serve, Sink.accept, hs, hc, ih]
    | close => simp [serve, Sink.close, hs, hc, ih]

/-- An open file sink accepts everything until it is closed, and writes it then. -/
theorem serve_open {rs : List Request} (hs : s.outlet = .file path place written)
    (hc : s.closed = false) (hr : .close ∈ rs) (o : Outlets) :
    s.serve o rs = (Request.accepted rs, ⟨s.name, .file path place [], true⟩,
      { o with
        files := o.files.append place
          (String.join written ++ Event.file (Request.accepted rs)) }) := by
  induction rs generalizing s written with
  | nil => cases hr
  | cons r rs ih =>
    cases r with
    | accept e =>
      have ha : s.accept e o =
          (.ok (), { s with outlet := .file path place (written ++ [e.record ++ "\n"]) }, o) := by
        simp [Sink.accept, hs, hc]
      have hrs := @ih { s with outlet := .file path place (written ++ [e.record ++ "\n"]) } _ rfl hc
        (by simpa using hr)
      rw [serve, ha]
      dsimp only
      rw [hrs]
      simp [Request.accepted, Event.file, String.join_append, String.append_assoc]
    | close =>
      have ha : s.close o = (.ok (), ⟨s.name, .file path place [], true⟩,
          { o with files := o.files.append place (String.join written) }) := by
        simp [Sink.close, hs, hc]
      rw [serve, ha]
      dsimp only
      rw [serve_closed rfl rfl]
      simp [Request.accepted, Event.file]

end Sink

namespace Recipe

variable {settings : Settings} {owner : String} {path : Option Value} {index : Value} {p : Path}
  {place : Place} {f : Files} {o o' : Outlets} {s : Sink} {rs : List Request}
  {rss : List (List Request)}

def pathFor (settings : Settings) (path : Option Value) (index : Value) : Except Fault Path := do
  let base ← pathOf settings path
  let tag ← index.plain
  base.withName (base.name ++ "." ++ tag)

theorem build_file (owner : String) (hp : pathFor settings path index = .ok p)
    (hopen : (Files.openFile p).on o.files = (.ok place, f)) :
    ∃ name, ((file path).build settings owner index).on o =
      (.ok ⟨name, .file p place [], false⟩, { o with files := f }) := by
  unfold pathFor at hp
  cases hbase : pathOf settings path with
  | error e =>
    rw [hbase] at hp
    cases hp
  | ok base =>
    rw [hbase] at hp
    cases htag : index.plain with
    | error e =>
      rw [htag] at hp
      cases hp
    | ok tag =>
      rw [htag] at hp
      have hname : base.withName (base.name ++ "." ++ tag) = .ok p := hp
      refine ⟨"file[" ++ tag ++ "]", ?_⟩
      simp [build, hbase, htag, hname, Act.within, hopen]

theorem build_file_ok (hb : ((file path).build settings owner index).on o = (.ok s, o')) :
    ∃ p place, pathFor settings path index = .ok p ∧
      (Files.openFile p).on o.files = (.ok place, o'.files) ∧ s.outlet = .file p place [] := by
  obtain ⟨base, _, h₁, hb⟩ := Act.bind_ok hb
  obtain ⟨hbase, rfl⟩ := Prod.mk.inj h₁
  obtain ⟨tag, _, h₂, hb⟩ := Act.bind_ok hb
  obtain ⟨htag, rfl⟩ := Prod.mk.inj h₂
  obtain ⟨p, _, h₃, hb⟩ := Act.bind_ok hb
  obtain ⟨hp, rfl⟩ := Prod.mk.inj h₃
  obtain ⟨place, o₁, h₄, hb⟩ := Act.bind_ok hb
  obtain ⟨h₅, rfl⟩ := Prod.mk.inj h₄
  obtain ⟨h₆, rfl⟩ := Prod.mk.inj hb
  obtain rfl := Except.ok.inj h₆
  refine ⟨p, place, ?_, Prod.ext h₅ rfl, rfl⟩
  rw [pathFor, hbase, htag]
  exact hp

def session (settings : Settings) (owner : String) (path : Option Value) (index : Value)
    (rs : List Request) : Act Outlets (List Event) := do
  let s ← (file path).build settings owner index
  Act.of fun o =>
    let (es, _, o) := s.serve o rs
    (.ok es, o)

def sessions (settings : Settings) (owner : String) (path : Option Value) (index : Value) :
    List (List Request) → Act Outlets (List Event)
  | [] => return []
  | rs :: rest => do
    let es ← session settings owner path index rs
    return es ++ (← sessions settings owner path index rest)

theorem session_run (owner : String) (hp : pathFor settings path index = .ok p)
    (hopen : (Files.openFile p).on o.files = (.ok place, f)) (hc : .close ∈ rs) :
    ∃ o', (session settings owner path index rs).on o = (.ok (Request.accepted rs), o') ∧
      o'.files.Stands p (o.files.contentAt place ++ Event.file (Request.accepted rs)) := by
  obtain ⟨name, hb⟩ := build_file owner hp hopen
  obtain ⟨hplace, hstands⟩ := Files.openFile_ok hopen
  have hs := Sink.serve_open (s := ⟨name, .file p place [], false⟩) rfl rfl hc { o with files := f }
  refine ⟨{ o with files := f.append place (Event.file (Request.accepted rs)) }, ?_, ?_⟩
  · rw [session, Act.on_bind, hb]
    dsimp only
    rw [Act.on_of, hs]
    simp
  · rw [hplace] at hstands ⊢
    exact hstands.append (Event.file (Request.accepted rs))

theorem sessions_run (owner : String) (hp : pathFor settings path index = .ok p)
    (hopen : (Files.openFile p).on o.files = (.ok place, f))
    (hn : rss ≠ [] ∨ o.files.Stands p (o.files.contentAt place))
    (hc : ∀ rs ∈ rss, Request.close ∈ rs) :
    ∃ o', (sessions settings owner path index rss).on o = (.ok (rss.flatMap Request.accepted), o') ∧
      o'.files.Stands p (o.files.contentAt place ++ Event.file (rss.flatMap Request.accepted)) := by
  induction rss generalizing o place f with
  | nil =>
    have hs : o.files.Stands p (o.files.contentAt place) := hn.resolve_left fun h => h rfl
    exact ⟨o, rfl, by simpa [Event.file] using hs⟩
  | cons rs rest ih =>
    obtain ⟨hrs, hrest⟩ := List.forall_mem_cons.1 hc
    obtain ⟨o₁, h₁, hstands⟩ := session_run owner hp hopen hrs
    have hthere : o₁.files.Stands p (o₁.files.contentAt (o₁.files.placeOf p)) := by
      rwa [hstands.contentAt]
    obtain ⟨o₂, h₂, hstands₂⟩ := ih (Files.openFile_again hstands) (.inr hthere) hrest
    refine ⟨o₂, ?_, ?_⟩
    · rw [sessions, Act.on_bind, h₁]
      simp [h₂]
    · rw [hstands.contentAt, String.append_assoc, ← Event.file_append] at hstands₂
      exact hstands₂

/-- Sinks that are opened at one path one after another, each closed before the next is opened, file
what they accept. If the file was empty and the timestamps are kept, then all of it is read back in
order unless a whole number has more digits than are read. Without any sink the file has to be there
already. -/
theorem sessions_readEvents {written : List String}
    (hb : ((file path).build settings owner index).on o = (.ok s, o'))
    (hs : s.outlet = .file p place written) (hempty : o.files.contentAt place = "")
    (hn : rss ≠ [] ∨ o.files.Stands p "") (hc : ∀ rs ∈ rss, Request.close ∈ rs)
    (ht : ∀ e ∈ rss.flatMap Request.accepted, e.IsTimely) :
    ∃ o', (sessions settings owner path index rss).on o = (.ok (rss.flatMap Request.accepted), o') ∧
      o'.files.readEvents p =
        if ∀ e ∈ rss.flatMap Request.accepted, e.IsShort then .ok (rss.flatMap Request.accepted)
        else .error (.invalid Event.modelName [⟨[], .malformed⟩]) := by
  obtain ⟨q, there, hp, hopen, hq⟩ := build_file_ok hb
  obtain ⟨rfl, rfl, -⟩ := Outlet.file.inj (hs.symm.trans hq)
  obtain ⟨o', h, hstands⟩ := sessions_run owner hp hopen (by rwa [hempty]) hc
  rw [hempty, String.empty_append] at hstands
  exact ⟨o', h, hstands.readEvents.trans (Event.parseLines_file _ ht)⟩

def knotty : Event where
  kind := .call
  carrier := -140735
  unit := some "a\"b\\c"
  function := some "line\r\n\u0085\u2028\x01"
  arity := some 0
  args := some []
  timestamp := some (.finite false 0x1f440000000000 (-43))
  dump := some "\u00e9 \t 😀"

def twice : List (List Request) :=
  [[.accept knotty, .close, .close],
    [.accept { knotty with mode := .profile }, .accept knotty, .close, .accept knotty]]

theorem sessions_readEvents_twice :
    ∃ o, (sessions {} "" (some (.text "logs/traces.jsonl")) (.int 0) twice).on {} =
        (.ok [knotty, { knotty with mode := .profile }, knotty], o) ∧
      o.files.readEvents ⟨0, ["logs", "traces.jsonl.0"]⟩ =
        .ok [knotty, { knotty with mode := .profile }, knotty] := by
  have hes : twice.flatMap Request.accepted =
      [knotty, { knotty with mode := .profile }, knotty] := rfl
  obtain ⟨o', hb⟩ : ∃ o', ((file (some (.text "logs/traces.jsonl"))).build {} "" (.int 0)).on {} =
      (.ok ⟨"file[0]", .file ⟨0, ["logs", "traces.jsonl.0"]⟩ ["work", "logs", "traces.jsonl.0"] [],
        false⟩, o') := ⟨_, rfl⟩
  have ht : ∀ e ∈ twice.flatMap Request.accepted, e.IsTimely := by
    have hx : (Json.real (.finite false 0x1f440000000000 (-43))).IsKept := ⟨rfl, rfl⟩
    have hk : knotty.IsTimely := by
      rintro _ ⟨⟩
      exact hx
    rw [hes]
    simpa [Event.IsTimely] using hk
  obtain ⟨o, h, hread⟩ := sessions_readEvents hb rfl rfl (.inl (by decide)) (by decide) ht
  rw [hes] at h hread
  exact ⟨o, h, hread.trans (if_pos (by decide))⟩

end Recipe

end ThreadTrace
