import Handover.Proofs.Restart.Counting
import Handover.Proofs.Server.Bearing

namespace Handover

namespace Lifecycle

theorem phase_start (l : Lifecycle) : l.start.2.phase ≠ .initializing := by
  unfold start enter
  cases phase : l.phase <;> simp [phase]

theorem Onward.begun {l l' : Lifecycle} (onward : l.Onward l') (begun : l.phase ≠ .initializing) :
    l'.phase ≠ .initializing := by
  have later := onward.phase
  intro first
  rw [first] at later
  cases phase : l.phase with
  | initializing => exact begun phase
  | running | draining | terminated =>
    rw [phase] at later
    exact absurd later (by decide)

end Lifecycle

namespace Server

/-- On the way the service at the ordinal was stopped, or its listener closed. -/
def WasStopped (first : Server) (o : Nat) (p : Server) : Prop :=
  ∃ q q' m, Reach first q ∧ (∃ s, q.registry.service? o = some s) ∧ q.Stops o m ∧
    (∃ site now, q.move? site now m = some q') ∧ Reach q' p

theorem WasStopped.next {first p p' : Server} {o : Nat} (stopped : WasStopped first o p) {site : Site} {now : Nat}
    {m : Move} (move : p.move? site now m = some p') : WasStopped first o p' := by
  obtain ⟨q, q', m', run, there, stops, step, later⟩ := stopped
  exact ⟨q, q', m', run, there, stops, step, later.next trivial move⟩

/-- What is dead stays dead, whatever moves the process makes. -/
theorem Run.dead {p q : Server} {o : Nat} {s : Service} (later : Reach p q) (claims : p.Claims)
    (there : p.registry.service? o = some s) (dead : s.life.IsDead) :
    ∃ s', q.registry.service? o = some s' ∧ s'.life.IsDead := by
  induction later with
  | start => exact ⟨s, there, dead⟩
  | next earlier _ move ih =>
    obtain ⟨s', there', dead'⟩ := ih
    obtain ⟨s'', there'', bears⟩ := continues_of_move? (earlier.claims claims) there' move
    exact ⟨s'', there'', bears.still_dead dead'⟩

theorem WasStopped.dead {first p : Server} {o : Nat} {s : Service} (stopped : WasStopped first o p)
    (claims : first.Claims) (there : p.registry.service? o = some s) : s.life.IsDead := by
  obtain ⟨q, q', m, run, ⟨s₀, there₀⟩, stops, ⟨site, now, step⟩, later⟩ := stopped
  have claims' := run.claims claims
  obtain ⟨s₁, there₁, bears⟩ := continues_of_move? claims' there₀ step
  obtain ⟨s₂, there₂, dead⟩ := later.dead (claims'.move? step) there₁ (bears.dead stops)
  rw [there] at there₂
  cases there₂
  exact dead

/-- A service that has not started is about to be started by the call that recorded it. -/
def Begun (p : Server) : Prop :=
  ∀ {o : Nat} {s : Service}, p.registry.service? o = some s →
    (∃ (i : Nat) (c : Call), p.calls[i]? = some c ∧ c.place = .attached o) ∨ s.life.phase ≠ .initializing

theorem Advance.of_attached {site : Site} {now o : Nat} {p q : Server} {c : Call} {place : CallPlace}
    (advance : Advance site now p c place q) (atPlace : c.place = .attached o) :
    q = p.alter o fun life => (life.start.2, []) := by
  cases advance with
  | start atPlace' =>
    rw [atPlace] at atPlace'
    cases atPlace'
    rfl
  | refuse other | pass other | repeated other | claim other | unready other | ready other | unbound other | bind other
  | beyond other | unusable other | adopt other | lose other | attach other | count other | countAdoption other
  | complete other | notify other | stop other | stay other | run other | finish other | release other =>
    rw [atPlace] at other
    cases other

theorem Begun.move? {site : Site} {now : Nat} {p p' : Server} {m : Move} (begun : p.Begun) (claims : p.Claims)
    (run : p.move? site now m = some p') : p'.Begun := by
  intro o s' there'
  cases there : p.registry.service? o with
  | none =>
    obtain ⟨i, c, l, _, _, after, _⟩ := appears_of_move? claims there run there'
    exact Or.inl ⟨i, _, after, rfl⟩
  | some s =>
    obtain ⟨s'', same, bears⟩ := continues_of_move? claims there run
    rw [there'] at same
    cases same
    rcases begun there with ⟨i, c, atCall, atPlace⟩ | started
    · rcases call_of_move? run atCall with still | ⟨place, q, rfl, advance, rfl, _⟩
      · exact Or.inl ⟨i, c, still, atPlace⟩
      · right
        change q.registry.service? o = some s' at there'
        rw [advance.of_attached atPlace, service?_alter there, if_pos rfl] at there'
        cases there'
        exact s.life.phase_start
    · exact Or.inr (bears.onward.begun started)

section

variable {markers : Markers} {settings : Settings} {arguments : List OsText} {files : List (Option OpenFile)}
  {parent nextSocket start : Nat} {p : Server} {o : Nat} {s : Service}

theorem Run.begun (run : Reach (Server.start markers settings arguments files parent nextSocket start) p) :
    p.Begun := by
  refine @Run.keep_of_claims _ Begun (fun claims begun move => begun.move? claims move) _ _ run (.start _ _ _ _ _ _ _) ?_
  intro o s there
  rw [(Blank.start _ _ _ _ _ _ _).service] at there
  cases there

/-- What a replacement has adopted and nothing has stopped is alive. -/
theorem Run.live_of_unstopped (run : Reach (Server.start markers settings arguments files parent nextSocket start) p)
    (child : p.role = .child) (there : p.registry.service? o = some s)
    (unstopped : ¬ WasStopped (Server.start markers settings arguments files parent nextSocket start) o p) :
    s.life.IsLive := by
  induction run generalizing s with
  | start =>
    rw [(Blank.start _ _ _ _ _ _ _).service] at there
    cases there
  | @next p p' site now m earlier _ move ih =>
    have claims := earlier.claims (.start _ _ _ _ _ _ _)
    have child' : p.role = .child := (Onward.move? claims move).role ▸ child
    cases before : p.registry.service? o with
    | none =>
      obtain ⟨i, c, l, atCall, atPlace, _, life⟩ := appears_of_move? claims before move there
      rw [life]
      exact Lifecycle.isLive_onListener ((earlier.adopts_of_child child').opened atCall atPlace).2 _
    | some s₀ =>
      obtain ⟨s₁, same, bears⟩ := continues_of_move? claims before move
      rw [there] at same
      cases same
      have going : ¬ p.Stops o m := fun stops =>
        unstopped ⟨p, p', m, earlier, ⟨s₀, before⟩, stops, ⟨site, now, move⟩, .start⟩
      exact bears.live going (ih child' before fun stopped => unstopped (stopped.next move))

end

/-- When the parent is told, everything handed over is adopted, and what of it still serves is what nothing has stopped
since. -/
theorem told_serves_unless_stopped {order : List String} {settings : Settings} {arguments : List OsText}
    {files : List (Option OpenFile)} {parent nextSocket start : Nat} {p : Server} {i o o' : Nat} {c : Call}
    (run : Reach (Server.start (.inherited order) settings arguments files parent nextSocket start) p)
    (atCall : p.calls[i]? = some c) (telling : c.place = .completing o') (inside : o < p.inherited) :
    ∃ s, p.registry.service? o = some s ∧ files[o]?.join = some (.socket s.life.listener.socket) ∧
      (s.life.isClosed = false ∧ s.life.phase = .running ↔
        ¬ WasStopped (Server.start (.inherited order) settings arguments files parent nextSocket start) o p) := by
  have claims := Claims.start (.inherited order) settings arguments files parent nextSocket start
  have child : p.role = .child := (run.onward claims).role
  have adopts := run.adopts_of_child child
  have one : 0 < p.calls.countP (·.place.isCompleting) :=
    List.countP_pos_iff.2 ⟨c, List.mem_of_getElem? atCall, by rw [telling]; rfl⟩
  have full : p.adopted = p.inherited := by
    have told := adopts.told
    by_contra more
    rw [if_neg more] at told
    omega
  have count := adopts.count
  obtain ⟨most, all⟩ := adopts.served_le
  obtain ⟨s, there⟩ := all (by omega) o inside
  -- All that is recorded is counted, so that no service is still to be started.
  have begun : s.life.phase ≠ .initializing := by
    refine (run.begun there).resolve_left ?_
    rintro ⟨j, d, atOther, atPlace⟩
    have some_ : 0 < p.calls.countP (·.place.isUncounted) :=
      List.countP_pos_iff.2 ⟨d, List.mem_of_getElem? atOther, by rw [atPlace]; rfl⟩
    omega
  refine ⟨s, there, (adopts.served there).file, ?_, fun unstopped => ?_⟩
  · rintro ⟨opened, running⟩ stopped
    rcases stopped.dead claims there with closed | past
    · rw [opened] at closed
      cases closed
    · rw [running] at past
      cases past
  · have live := run.live_of_unstopped child there unstopped
    exact ⟨live.opened, live.phase.resolve_left begun⟩

end Server

namespace Sample

/-- The replacement serves its first address, this listener is closed, and it serves the second up to telling the
parent. -/
def half : Server :=
  after heir (serving "127.0.0.1:80" 0 7 ++ [.closeListener 0] ++ serving "127.0.0.1:81" 1 7)

theorem reach_half : Server.Reach heir half :=
  Server.Run.start.moves site 0 (serving "127.0.0.1:80" 0 7 ++ [.closeListener 0] ++ serving "127.0.0.1:81" 1 7) rfl

theorem stopped_half : Server.WasStopped heir 0 half := by
  have before : Server.Reach heir (after heir (serving "127.0.0.1:80" 0 7)) :=
    Server.Run.start.moves site 0 (serving "127.0.0.1:80" 0 7) rfl
  refine ⟨_, _, .closeListener 0, before, ⟨_, rfl⟩, .close, ⟨site, 0, rfl⟩, ?_⟩
  exact Server.Run.start.moves site 0 (serving "127.0.0.1:81" 1 7) rfl

end Sample

/-- With one listener closed, the replacement tells the parent all the same; only the other is served. -/
theorem told_with_one_of_two_serving :
    (∃ c, Sample.half.calls[1]? = some c ∧ c.place = .completing 1) ∧
      (∃ s, Sample.half.registry.service? 0 = some s ∧ Server.WasStopped Sample.heir 0 Sample.half ∧
        ¬ (s.life.isClosed = false ∧ s.life.phase = .running)) ∧
      ∃ s, Sample.half.registry.service? 1 = some s ∧ s.life.isClosed = false ∧ s.life.phase = .running ∧
        ¬ Server.WasStopped Sample.heir 1 Sample.half := by
  refine ⟨⟨_, rfl, rfl⟩, ?_, ?_⟩
  · obtain ⟨s, there, _, serves⟩ :=
      Server.told_serves_unless_stopped (i := 1) (o := 0) Sample.reach_half rfl rfl (by decide)
    exact ⟨s, there, Sample.stopped_half, fun serving => serves.1 serving Sample.stopped_half⟩
  · obtain ⟨s, there, _, serves⟩ :=
      Server.told_serves_unless_stopped (i := 1) (o := 1) Sample.reach_half rfl rfl (by decide)
    cases there
    exact ⟨_, rfl, rfl, rfl, serves.1 ⟨rfl, rfl⟩⟩

/-- The parent is told although the listener that it handed over first is closed. -/
theorem parent_told_after_listener_closed :
    ∃ p q s, Server.Reach Sample.heir p ∧ p.notifications = 0 ∧ p.move? Sample.site 0 (.call 1) = some q ∧ q.tellings = 1 ∧
      p.inherited = 2 ∧ p.registry.service? 0 = some s ∧ s.address = "127.0.0.1:80" ∧ s.life.isClosed = true :=
  ⟨_, _, _, Sample.reach_half, rfl, rfl, rfl, rfl, rfl, rfl, rfl⟩

end Handover
