import Handover.Proofs.Restart.Kinship

namespace Handover

namespace Server

/-- Every listener that was handed over has a service. -/
def HasAll (p : Server) : Prop := ∀ o, o < p.inherited → ∃ s, p.registry.service? o = some s

/-- How a replacement that was started with `r` comes to tell its parent. -/
structure Completes (p : Server) (r : Replacement) : Prop where
  expects : (∀ c ∈ r.captured, ',' ∉ c.address.toList) → p.inherited = r.captured.length
  adopts : ∀ {o : Nat} {c : Restart.Captured} {s : Service}, r.captured[o]? = some c →
    p.registry.service? o = some s → s.life.listener.socket = c.handle.socket
  tells : p.HasAll → (∀ c ∈ p.calls, c.place.unlooked = 0) → p.notifications = 1
  comes : p.HasAll → ∀ site now, ∃ (is : List Nat) (q : Server),
    p.moves? site now (is.map .call) = some q ∧ q.notifications = 1
  full : 0 < p.notifications + p.calls.countP (·.place.isCompleting) → p.HasAll
  once : p.notifications ≤ 1

section

variable {p : Server} {r : Replacement}

/-- A replacement that has everything tells its parent, as soon as every call has looked again. -/
theorem Adopts.notifications_eq_one {files : List (Option OpenFile)} (adopts : p.Adopts files) (all : p.HasAll)
    (looked : ∀ c ∈ p.calls, c.place.unlooked = 0) : p.notifications = 1 := by
  have none_ : ∀ f : CallPlace → Bool, (∀ place, f place = true → 0 < place.unlooked) →
      p.calls.countP (fun c => f c.place) = 0 := by
    intro f early
    rw [List.countP_eq_zero]
    intro c member holds
    have left := early _ holds
    rw [looked c member] at left
    cases left
  have uncounted := none_ CallPlace.isUncounted fun place holds => by
    cases place <;> first | exact Nat.succ_pos _ | cases holds
  have completing := none_ CallPlace.isCompleting fun place holds => by
    cases place <;> first | exact Nat.succ_pos _ | cases holds
  have least := Registry.le_served all
  have most := adopts.served_le.1
  have count := adopts.count
  have told := adopts.told
  rw [if_pos (by omega)] at told
  omega

theorem Inherits.completes (inherits : p.Inherits r) (claims : p.Claims) : p.Completes r := by
  obtain ⟨⟨_, grants⟩, adopts, inherited⟩ := inherits
  have count := adopts.count
  have told := adopts.told
  have once : p.notifications ≤ 1 := by
    split at told <;> omega
  refine ⟨fun free => ?expects, fun atOrdinal there => ?adopts, adopts.notifications_eq_one, fun all site now => ?comes,
    fun some_ => ?full, once⟩
  case expects =>
    have nonempty : r.captured.map (·.address) ≠ [] := fun empty => grants.nonempty (List.map_eq_nil_iff.1 empty)
    rw [inherited, CommandLine.inheritedCount_of_free (Succession.comma_free free) nonempty, List.length_map]
  case adopts =>
    have file := (adopts.served there).file.symm.trans (grants.handed atOrdinal)
    exact OpenFile.socket.inj (Option.some.inj file)
  case comes =>
    obtain ⟨is, q, made, looked⟩ := calls_settle site now p
    have run : Reach p q := Run.start.moves site now _ made
    have onward := run.onward claims
    refine ⟨is, q, made, (run.adopts claims adopts).notifications_eq_one (fun o inside => ?_) looked⟩
    obtain ⟨s, there⟩ := all o (onward.inherited ▸ inside)
    obtain ⟨s', there', _⟩ := onward.service? there
    exact ⟨s', there'⟩
  case full =>
    refine adopts.served_le.2 ?_
    by_cases last : p.adopted = p.inherited
    · have most := adopts.served_le.1
      omega
    · rw [if_neg last] at told
      omega

end

/-- The call that has counted the last adoption tells the parent. -/
theorem move?_of_completing {p : Server} {i o : Nat} {c : Call} (atCall : p.calls[i]? = some c)
    (atPlace : c.place = .completing o) (site : Site) (now : Nat) :
    ∃ q, p.move? site now (.call i) = some q ∧
      q.journal = p.journal ++ [if p.parent ≤ 1 then .notice .parentGone else .told p.parent] := by
  refine ⟨p.notifyParent.moveCall i (.counted o), ?_, p.journal_notifyParent⟩
  rw [Server.move?, stepCall?, atCall]
  dsimp only
  rw [atPlace]

end Server

theorem Server.Hushed.untold {p q : Server} (hushed : p.Hushed q) (number : Nat) :
    (q.journal.drop p.journal.length).any (·.tells number) = false := by
  obtain ⟨records, journal, silent⟩ := hushed
  rw [journal, List.drop_left, List.any_eq_false]
  intro r member tells
  have telling := Record.isNotification_of_tells tells
  rw [silent r member] at telling
  cases telling

theorem Node.hear_update (m : Node) (q : Server) (records : List Record) (here : Prop) [Decidable here] :
    ((if here then { m with process := q } else m).hear records).ended = m.ended ∧
      ((if here then { m with process := q } else m).hear records).summoned =
        (m.summoned || (!m.ended && records.any (·.tells m.number))) := by
  split <;> exact ⟨rfl, rfl⟩

namespace Tree

/-- A stop is on its way to the process at `x`, which runs. -/
def Summoned (t : Tree) (x : Nat) : Prop := ∃ n, t.nodes[x]? = some n ∧ n.ended = false ∧ n.summoned = true

/-- The process at `x` runs under that number. -/
def RunsAs (t : Tree) (x number : Nat) : Prop := ∃ n, t.nodes[x]? = some n ∧ n.ended = false ∧ n.number = number

/-- What comes of it that the replacement `n` at `k`, which `s` at `i` started, tells its parent and becomes `q`. -/
structure Telling (t : Tree) (k : Nat) (n : Node) (i : Nat) (s : Node) (q : Server) : Prop where
  alive : s.ended = false → 1 < s.number → q.journal = n.process.journal ++ [.told s.number] ∧
    ∀ x, (t.become k n q).Summoned x ↔ t.Summoned x ∨ x = i
  first : s.ended = false → s.number ≤ 1 → q.journal = n.process.journal ++ [.notice .parentGone] ∧
    ∀ x, (t.become k n q).Summoned x ↔ t.Summoned x
  gone : s.ended = true →
    q.journal = n.process.journal ++ [if n.process.parent ≤ 1 then .notice .parentGone else .told n.process.parent] ∧
      ∀ x, (t.become k n q).Summoned x ↔ t.Summoned x ∨ 1 < n.process.parent ∧ t.RunsAs x n.process.parent

/-- What becomes of the takeovers in a tree. -/
structure Reports (t : Tree) : Prop where
  completes : ∀ {k i : Nat} {n s : Node} {r : Replacement}, t.Spawned k n i s r → n.process.Completes r
  tells : ∀ {k i j o : Nat} {n s : Node} {r : Replacement} {c : Call}, t.Spawned k n i s r →
    n.process.calls[j]? = some c → c.place = .completing o → ∀ site now,
      ∃ q, n.process.move? site now (.call j) = some q ∧ t.Telling k n i s q
  others : ∀ {t' : Tree} {x : Nat}, Step t t' → t'.Summoned x → t.Summoned x ∨
    ∃ (k j o : Nat) (n : Node) (c : Call) (site : Site) (now : Nat) (q : Server), t.nodes[k]? = some n ∧
      n.ended = false ∧ n.process.calls[j]? = some c ∧ c.place = .completing o ∧
      n.process.move? site now (.call j) = some q ∧ t' = t.become k n q
  reached : ∀ {k i : Nat} {n s : Node} {r : Replacement}, t.Spawned k n i s r → s.ended = false →
    (∀ number, Record.told number ∈ n.process.journal ↔
      0 < n.process.notifications ∧ number = s.number ∧ 1 < number) ∧
      n.process.tellings = (if 1 < s.number then n.process.notifications else 0) ∧
      (0 < n.process.notifications → 1 < s.number → t.Summoned i ∨ s.process.Obeys)
  heeds : ∀ {i : Nat} {s : Node}, t.nodes[i]? = some s → t.Summoned i → s.process.listens = true → ∀ site now,
    ∃ q, s.process.move? site now (.deliver Signal.terminate.number) = some q ∧ Step t (t.receive i q) ∧
      ∀ t', Steps (t.receive i q) t' → ∃ s', t'.nodes[i]? = some s' ∧ s'.process.Obeys

variable {t t' : Tree} {k i x : Nat} {n s : Node} {r : Replacement} {q : Server}

theorem summoned_become : (t.become k n q).Summoned x ↔
    t.Summoned x ∨ ∃ m, t.nodes[x]? = some m ∧ m.ended = false ∧
      (q.journal.drop n.process.journal.length).any (·.tells m.number) = true := by
  unfold Summoned
  rw [become, getElem?_modify_map]
  constructor
  · rintro ⟨m', there', going, summoned⟩
    obtain ⟨m, there, rfl⟩ := Option.map_eq_some_iff.1 there'
    obtain ⟨ended, heard⟩ := m.hear_update q (q.journal.drop n.process.journal.length) (k = x)
    rw [ended] at going
    rw [heard, going, Bool.not_false, Bool.true_and, Bool.or_eq_true] at summoned
    exact summoned.imp (fun before => ⟨m, there, going, before⟩) fun told => ⟨m, there, going, told⟩
  · intro either
    obtain ⟨m, there, going, summoned⟩ : ∃ m, t.nodes[x]? = some m ∧ m.ended = false ∧
        (m.summoned || (!m.ended && (q.journal.drop n.process.journal.length).any (·.tells m.number))) = true := by
      rcases either with ⟨m, there, going, before⟩ | ⟨m, there, going, told⟩
      · exact ⟨m, there, going, by rw [before, Bool.true_or]⟩
      · exact ⟨m, there, going, by rw [going, told, Bool.not_false, Bool.true_and, Bool.or_true]⟩
    obtain ⟨ended, heard⟩ := m.hear_update q (q.journal.drop n.process.journal.length) (k = x)
    exact ⟨_, Option.map_eq_some_iff.2 ⟨m, there, rfl⟩, ended.trans going, heard.trans summoned⟩

/-- Who is told when a process tells its parent. -/
theorem summoned_of_telling
    (journal : q.journal =
      n.process.journal ++ [if n.process.parent ≤ 1 then .notice .parentGone else .told n.process.parent]) :
    (t.become k n q).Summoned x ↔ t.Summoned x ∨ 1 < n.process.parent ∧ t.RunsAs x n.process.parent := by
  rw [summoned_become, journal, List.drop_left]
  refine or_congr_right ?_
  by_cases first : n.process.parent ≤ 1
  · simp [if_pos first, Record.tells, Nat.not_lt.2 first]
  · rw [if_neg first, and_iff_right (Nat.lt_of_not_le first)]
    refine exists_congr fun m => and_congr_right fun _ => and_congr_right fun _ => ?_
    rw [List.any_cons, List.any_nil, Bool.or_false, Record.tells, beq_iff_eq, eq_comm]

namespace Sound

theorem runsAs_iff (sound : t.Sound) (there : t.nodes[i]? = some s) (going : s.ended = false) :
    t.RunsAs x s.number ↔ x = i := by
  constructor
  · rintro ⟨m, there', going', number⟩
    exact sound.distinct there' there going' going number
  · rintro rfl
    exact ⟨s, there, going, rfl⟩

theorem telling (sound : t.Sound) (spawned : t.Spawned k n i s r)
    (journal : q.journal =
      n.process.journal ++ [if n.process.parent ≤ 1 then .notice .parentGone else .told n.process.parent]) :
    t.Telling k n i s q := by
  have told := fun x => summoned_of_telling (t := t) (k := k) (x := x) journal
  refine ⟨fun going several => ?alive, fun going first => ?first, fun _ => ⟨journal, told⟩⟩
  case alive =>
    rw [sound.parent spawned going] at journal told
    refine ⟨journal.trans (by rw [if_neg (Nat.not_le.2 several)]), fun x => ?_⟩
    rw [told, and_iff_right several, sound.runsAs_iff spawned.spawner going]
  case first =>
    rw [sound.parent spawned going] at journal told
    refine ⟨journal.trans (by rw [if_pos first]), fun x => ?_⟩
    rw [told, or_iff_left fun both => absurd both.1 (Nat.not_lt.2 first)]

end Sound

/-- Who is summoned was so before, if the change sends nobody a stop. -/
theorem Summoned.of_map (after : t'.Summoned x) {f : Nat → Node → Node}
    (nodes : ∀ x, t'.nodes[x]? = t.nodes[x]?.map (f x))
    (kept : ∀ x m, (f x m).ended = false → (f x m).summoned = true → m.ended = false ∧ m.summoned = true) :
    t.Summoned x := by
  obtain ⟨m', there', going, summoned⟩ := after
  rw [nodes] at there'
  obtain ⟨m, there, rfl⟩ := Option.map_eq_some_iff.1 there'
  exact ⟨m, there, kept x m going summoned⟩

/-- Nobody is summoned but by a call that tells the parent. -/
theorem summoned_of_step (step : Step t t') (after : t'.Summoned x) : t.Summoned x ∨
    ∃ (k j o : Nat) (n : Node) (c : Call) (site : Site) (now : Nat) (q : Server), t.nodes[k]? = some n ∧
      n.ended = false ∧ n.process.calls[j]? = some c ∧ c.place = .completing o ∧
      n.process.move? site now (.call j) = some q ∧ t' = t.become k n q := by
  cases step with
  | @own k n site now m q there going run =>
    rcases Server.hushed_of_move? run with hushed | ⟨j, c, o, _, rfl, atCall, atPlace, _⟩
    · refine Or.inl ((summoned_become.1 after).resolve_right ?_)
      rintro ⟨m, _, _, told⟩
      rw [hushed.untold] at told
      cases told
    · exact Or.inr ⟨k, j, o, n, c, site, now, q, there, going, atCall, atPlace, run, rfl⟩
  | @arrive k =>
    refine Or.inl (after.of_map (fun x => List.getElem?_modify _ _ _ _) fun x m going summoned => ?_)
    by_cases here : k = x
    · rw [if_pos here] at summoned
      cases summoned
    · rw [if_neg here] at going summoned
      exact ⟨going, summoned⟩
  | begin_ =>
    obtain ⟨m, there, going, summoned⟩ := after
    rw [getElem?_append_last] at there
    split at there
    · cases there
      cases summoned
    · exact Or.inl ⟨m, there, going, summoned⟩
  | @exit k =>
    refine Or.inl (after.of_map (getElem?_modify_map _ _ _ _) fun x m going summoned => ?_)
    by_cases here : k = x
    · rw [if_pos here] at going
      cases going
    · rw [if_neg here] at going summoned
      exact ⟨going, summoned⟩
  | outside => exact Or.inl (after.of_map (fun x => List.getElem?_map) fun x m going summoned => ⟨going, summoned⟩)

/-- A process that listens and to which a stop is on its way stops when this arrives, whatever happens in the tree. -/
theorem Sound.heeds (sound : t.Sound) (there : t.nodes[i]? = some s) (summoned : t.Summoned i)
    (listens : s.process.listens = true) (site : Site) (now : Nat) :
    ∃ q, s.process.move? site now (.deliver Signal.terminate.number) = some q ∧ Step t (t.receive i q) ∧
      ∀ t', Steps (t.receive i q) t' → ∃ s', t'.nodes[i]? = some s' ∧ s'.process.Obeys := by
  obtain ⟨n, same, going, pending⟩ := summoned
  cases there.symm.trans same
  have run : s.process.move? site now (.deliver Signal.terminate.number) =
      some (s.process.trigger { number := Signal.terminate.number }) :=
    (Server.deliver?_terminate _).trans (if_pos listens)
  have step : Step t (t.receive i (s.process.trigger { number := Signal.terminate.number })) :=
    .arrive there going pending run
  refine ⟨_, run, step, fun t' made => ?_⟩
  have sound' := sound.step step
  have received : (t.receive i (s.process.trigger { number := Signal.terminate.number })).nodes[i]? =
      some { s with process := s.process.trigger { number := Signal.terminate.number }, summoned := false } := by
    rw [receive, List.getElem?_modify, there]
    exact congrArg some (if_pos rfl)
  obtain ⟨s', there', yields⟩ := sound'.yields made received (Server.yields_of_deliver? run)
  exact ⟨s', there', yields.obeys ((sound'.steps made).descends there').steady⟩

/-- As long as the process that started a replacement runs, this tells no other. -/
theorem Informed.reached (informed : t.Informed) (sound : t.Sound) (spawned : t.Spawned k n i s r)
    (going : s.ended = false) :
    (∀ number, Record.told number ∈ n.process.journal ↔
      0 < n.process.notifications ∧ number = s.number ∧ 1 < number) ∧
      n.process.tellings = (if 1 < s.number then n.process.notifications else 0) ∧
      (0 < n.process.notifications → 1 < s.number → t.Summoned i ∨ s.process.Obeys) := by
  obtain ⟨notifies, told⟩ := informed k n i s r spawned going
  have parent := sound.parent spawned going
  refine ⟨fun number => parent ▸ notifies.told_iff number, parent ▸ notifies.tellings, fun once several => ?_⟩
  · rcases told once several with summoned | yields
    · exact Or.inl ⟨s, spawned.spawner, going, summoned⟩
    · exact Or.inr (yields.obeys (sound.descends spawned.spawner).steady)

/-- When a replacement tells its parent while the process that started it runs, this process is sent the stop, and no
other, if its number is not the first of all, and nobody is sent it if it is; after the process that started it has
ended, whoever took its place is sent the stop, unless that is the first process of all. A process that has arranged to
handle signals then stops all its services. -/
theorem takeovers_reported {markers : Markers} {settings : Settings} {arguments : List OsText}
    {files : List (Option OpenFile)} {parent nextSocket start number : Nat}
    (made : Steps (alone number (Server.start markers settings arguments files parent nextSocket start)) t) :
    t.Reports := by
  have blank := Server.Blank.start markers settings arguments files parent nextSocket start
  have first := Sound.alone blank number
  have sound := first.steps made
  have informed := (Informed.alone number _).steps first made
  refine ⟨fun spawned => ?completes, fun spawned atCall atPlace site now => ?tells, summoned_of_step,
    informed.reached sound, sound.heeds⟩
  case completes =>
    have descends := sound.descends spawned.child
    exact (descends.inherits _ _ spawned.birth).completes descends.steady.claims
  case tells =>
    obtain ⟨q, run, journal⟩ := Server.move?_of_completing atCall atPlace site now
    exact ⟨q, run, sound.telling spawned journal⟩

/-- Nobody hears of a move that tells nobody. -/
theorem become_of_hushed (there : t.nodes[k]? = some n) (hushed : n.process.Hushed q) :
    t.become k n q = ⟨t.nodes.set k { n with process := q }⟩ := by
  have deaf : ∀ m : Node, m.hear (q.journal.drop n.process.journal.length) = m := by
    intro m
    rw [Node.hear, hushed.untold, Bool.and_false, Bool.or_false]
  rw [become, List.map_congr_left fun m _ => deaf m, List.map_id', List.modify_eq_set_getElem?, there]
  rfl

end Tree

namespace Server

theorem notifications_le {site : Site} {now : Nat} {p q : Server} {m : Move} (run : p.move? site now m = some q) :
    p.notifications ≤ q.notifications ∧ (q.notifications ≤ p.notifications → p.Hushed q) := by
  rcases hushed_of_move? run with hushed | ⟨i, _, _, place, _, _, _, rfl⟩
  · exact ⟨Nat.le_of_eq hushed.notifications.symm, fun _ => hushed⟩
  · have more : (p.notifyParent.moveCall i place).notifications = p.notifications + 1 := by
      change p.notifyParent.journal.countP _ = _
      rw [journal_notifyParent, List.countP_append, List.countP_singleton]
      split <;> rfl
    omega

theorem Run.notifications_le {first p : Server} (run : Reach first p) : first.notifications ≤ p.notifications := by
  induction run with
  | start => exact Nat.le_refl _
  | next _ _ move ih => exact Nat.le_trans ih (Server.notifications_le move).1

end Server

/-- A process makes moves by which it tells nobody. -/
theorem Tree.steps_of_moves? {t : Tree} {k : Nat} {n : Node} {q : Server} (site : Site) (now : Nat) (ms : List Move)
    (there : t.nodes[k]? = some n) (going : n.ended = false) (made : n.process.moves? site now ms = some q)
    (quiet : q.notifications ≤ n.process.notifications) : Steps t ⟨t.nodes.set k { n with process := q }⟩ := by
  induction ms generalizing t n with
  | nil =>
    cases made
    obtain ⟨inside, rfl⟩ := List.getElem?_eq_some_iff.1 there
    change Steps t ⟨t.nodes.set k t.nodes[k]⟩
    rw [List.set_getElem_self]
  | cons m rest ih =>
    obtain ⟨p, run, later⟩ := Option.bind_eq_some_iff.1 made
    have rest_ : Server.Reach p q := Server.Run.start.moves site now rest later
    have step : Step t (t.become k n p) := .own there going run
    rw [become_of_hushed there ((Server.notifications_le run).2 (Nat.le_trans rest_.notifications_le quiet))] at step
    have inside := (List.getElem?_eq_some_iff.1 there).1
    have tail := ih (t := ⟨t.nodes.set k { n with process := p }⟩) (n := { n with process := p })
      (List.getElem?_set_self inside) going later (Nat.le_trans quiet (Server.notifications_le run).1)
    rw [List.set_set] at tail
    exact .head step tail

namespace Sample

/-- A process that handles signals serves an address, and has started a replacement. -/
def spawner : Server :=
  after fresh (.listen :: serving "127.0.0.1:80" 0 9 ++ capturing ++ List.replicate 2 .signals)

/-- The replacement, which the process of that number has started. -/
def begun (number : Nat) : Server :=
  Server.start (markers single) .standard (replacement single).arguments
    (Program.Lineage.handed (replacement single).descriptors) number 9 0

/-- Its call is about to tell the parent. -/
def adopting (number : Nat) : Server := after (begun number) (serving "127.0.0.1:80" 0 7)

def kin (number : Nat) (p : Server) : Tree :=
  ⟨[⟨number, spawner, none, false, false⟩, ⟨9, p, some (0, replacement single), false, false⟩]⟩

theorem steps_kin {number : Nat} {p : Server} (ms : List Move) (other : number ≠ 9)
    (made : (begun number).moves? site 0 ms = some p) (quiet : p.notifications ≤ (begun number).notifications) :
    Tree.Steps (.alone number fresh) (kin number p) := by
  have run : fresh.moves? site 0
      (.listen :: serving "127.0.0.1:80" 0 9 ++ capturing ++ List.replicate 2 .signals) = some spawner := rfl
  have nobody : spawner.notifications ≤ fresh.notifications := by decide
  have spawn : Tree.Steps (.alone number fresh) ⟨[⟨number, spawner, none, false, false⟩]⟩ :=
    Tree.steps_of_moves? (t := .alone number fresh) (k := 0) site 0 _ rfl rfl run nobody
  have join : Tree.Step ⟨[⟨number, spawner, none, false, false⟩]⟩ (kin number (begun number)) := by
    obtain ⟨command, accepted, read⟩ := accepted_single
    have held : replacement single ∈ spawner.replacements := List.mem_cons_self
    have alone : ∀ n ∈ [(⟨number, spawner, none, false, false⟩ : Node)], n.birth ≠ some (0, replacement single) := by
      intro n member
      rw [List.mem_singleton.1 member]
      exact nofun
    have free : Tree.Free ⟨[⟨number, spawner, none, false, false⟩]⟩ 9 := by
      intro n member _
      rw [List.mem_singleton.1 member]
      exact other
    rw [kin, begun, ← read]
    exact .begin_ rfl held alone accepted free fun _ => rfl
  have adopt : Tree.Steps (kin number (begun number)) (kin number p) :=
    Tree.steps_of_moves? (t := kin number (begun number)) (k := 1) site 0 ms rfl rfl made quiet
  exact (spawn.tail join).trans adopt

theorem nobody_summoned (number : Nat) (p : Server) (x : Nat) : ¬ (kin number p).Summoned x := by
  rintro ⟨n, there, _, summoned⟩
  rcases x with _ | _ | x <;> cases there <;> cases summoned

/-- The call tells the parent. -/
def telling (number : Nat) : Server := after (adopting number) [.call 0]

/-- Then it serves. -/
def adopted (number : Nat) : Server := after (telling number) (List.replicate 2 (.call 0))

/-- A replacement with one listener, whose address is listed twice. -/
def listedTwice : Server :=
  Server.start (.inherited ["127.0.0.1:1", "127.0.0.1:1"]) .standard []
    [some (.socket { identity := 5, endpoint := ⟨.v4 127 0 0 1, 1⟩ })] 7 9 0

theorem steps_adopting_seven : Tree.Steps (.alone 7 fresh) (kin 7 (adopting 7)) :=
  steps_kin (serving "127.0.0.1:80" 0 7) (by decide) rfl (by decide)

theorem steps_adopted_one : Tree.Steps (.alone 1 fresh) (kin 1 (adopted 1)) := by
  have adopt : Tree.Steps (.alone 1 fresh) (kin 1 (adopting 1)) :=
    steps_kin (serving "127.0.0.1:80" 0 7) (by decide) rfl (by decide)
  have told : (adopting 1).move? site 0 (.call 0) = some (telling 1) := rfl
  have tell : Tree.Step (kin 1 (adopting 1)) (Tree.become _ 1 ⟨9, adopting 1, _, _, _⟩ (telling 1)) := .own rfl rfl told
  have unheard : Tree.become (kin 1 (adopting 1)) 1 ⟨9, adopting 1, some (0, replacement single), false, false⟩
      (telling 1) = kin 1 (telling 1) := rfl
  have serve : (telling 1).moves? site 0 (List.replicate 2 (.call 0)) = some (adopted 1) := rfl
  have rest : Tree.Steps (kin 1 (telling 1)) (kin 1 (adopted 1)) :=
    Tree.steps_of_moves? (t := kin 1 (telling 1)) (k := 1) site 0 _ rfl rfl serve (by decide)
  exact (adopt.tail (unheard ▸ tell)).trans rest

end Sample

/-- The process with the number 7 is told when its replacement has adopted its listener, and it stops. -/
theorem seventh_process_is_told_and_stops :
    ∃ t n s q, Tree.Steps (.alone 7 Sample.fresh) t ∧ t.Spawned 1 n 0 s (Sample.replacement Sample.single) ∧
      s.number = 7 ∧ n.process.HasAll ∧ (∀ x, ¬ t.Summoned x) ∧ Tree.Step t (t.become 1 n q) ∧
      (∀ x, (t.become 1 n q).Summoned x ↔ x = 0) ∧ ∃ p, Tree.Step (t.become 1 n q) ((t.become 1 n q).receive 0 p) ∧
        ∀ t', Tree.Steps ((t.become 1 n q).receive 0 p) t' → ∃ s', t'.nodes[0]? = some s' ∧ s'.process.Obeys := by
  have made := Sample.steps_adopting_seven
  have reports := Tree.takeovers_reported made
  have spawned : (Sample.kin 7 (Sample.adopting 7)).Spawned 1
      ⟨9, Sample.adopting 7, some (0, Sample.replacement Sample.single), false, false⟩ 0
      ⟨7, Sample.spawner, none, false, false⟩ (Sample.replacement Sample.single) := ⟨rfl, rfl, rfl⟩
  obtain ⟨c, atCall, atPlace⟩ : ∃ c, (Sample.adopting 7).calls[0]? = some c ∧ c.place = .completing 0 := ⟨_, rfl, rfl⟩
  obtain ⟨q, run, telling⟩ := reports.tells spawned atCall atPlace Sample.site 0
  have tell : Tree.Step (Sample.kin 7 (Sample.adopting 7)) (Tree.become _ 1 _ q) := .own spawned.child rfl run
  have summoned := fun x => ((telling.alive rfl (by decide)).2 x).trans (or_iff_right (Sample.nobody_summoned _ _ x))
  obtain ⟨p, _, arrives, obeys⟩ :=
    (Tree.takeovers_reported (made.tail tell)).heeds (i := 0) rfl ((summoned 0).2 rfl) rfl Sample.site 0
  have all : (Sample.adopting 7).HasAll := (reports.completes spawned).full (by decide)
  exact ⟨_, _, _, q, made, spawned, rfl, all, Sample.nobody_summoned _ _, tell, summoned, p, arrives, obeys⟩

/-- A process that has the first number of all is not told, and both go on to serve while no other restart can begin.
Nor is the parent told by a replacement with a single listener whose address is listed twice. -/
theorem first_process_is_not_told :
    (∃ t n s, Tree.Steps (.alone 1 Sample.fresh) t ∧ t.Spawned 1 n 0 s (Sample.replacement Sample.single) ∧
      s.number = 1 ∧ s.ended = false ∧ n.ended = false ∧ n.process.HasAll ∧ n.process.notifications = 1 ∧
      n.process.tellings = 0 ∧ (∀ x, ¬ t.Summoned x) ∧ s.process.stopping = false ∧ s.process.isRestarting = true ∧
      (∃ held, s.process.registry.service? 0 = some held ∧ held.life.isClosed = false ∧ held.life.phase = .running) ∧
      ∃ taken, n.process.registry.service? 0 = some taken ∧ taken.life.isClosed = false ∧
        taken.life.phase = .running) ∧
      ∃ q, Server.Reach Sample.listedTwice q ∧ (∀ f ∈ q.handed, f = none) ∧ (∃ s, q.registry.service? 0 = some s) ∧
        (∀ c ∈ q.calls, c.place = .serving 0) ∧ q.notifications = 0 := by
  have spawned : (Sample.kin 1 (Sample.adopted 1)).Spawned 1
      ⟨9, Sample.adopted 1, some (0, Sample.replacement Sample.single), false, false⟩ 0
      ⟨1, Sample.spawner, none, false, false⟩ (Sample.replacement Sample.single) := ⟨rfl, rfl, rfl⟩
  have all : (Sample.adopted 1).HasAll := by
    intro o inside
    have few : o < 1 := inside
    rw [Nat.lt_one_iff.1 few]
    exact ⟨_, rfl⟩
  have run : Server.Reach Sample.listedTwice (Sample.after Sample.listedTwice (Sample.serving "127.0.0.1:1" 0 9)) :=
    Server.Run.start.moves Sample.site 0 (Sample.serving "127.0.0.1:1" 0 9) rfl
  exact ⟨⟨_, _, _, Sample.steps_adopted_one, spawned, rfl, rfl, rfl, all, rfl, rfl, Sample.nobody_summoned _ _, rfl, rfl,
    ⟨_, rfl, rfl, rfl⟩, _, rfl, rfl, rfl⟩, _, run, by decide, ⟨_, rfl⟩, by decide, by decide⟩

end Handover
