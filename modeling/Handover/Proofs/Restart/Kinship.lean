import Handover.Proofs.Restart.Household
import Handover.Proofs.Server.Yielding

namespace Handover

/-- The record says that the process of that number was told to stop. -/
def Record.tells (number : Nat) : Record → Bool
  | .told parent => parent == number
  | _ => false

theorem Record.isNotification_of_tells {number : Nat} {r : Record} (tells : r.tells number = true) :
    r.isNotification = true := by
  unfold Record.tells at tells
  split at tells
  · rfl
  · cases tells

/-- A process of a tree. Its birth is the place of the process that started it and what this started, and `none` for
the first one; it is summoned if a stop was sent to it that has not arrived. -/
structure Node where
  number : Nat
  process : Server
  birth : Option (Nat × Replacement) := none
  summoned : Bool := false
  ended : Bool := false

namespace Node

/-- What a process has recorded is sent to it, if it runs. -/
def hear (records : List Record) (n : Node) : Node :=
  { n with summoned := n.summoned || (!n.ended && records.any (·.tells n.number)) }

/-- It gets another parent, if its own was the process of that number. -/
def orphan (number reaper : Nat) (n : Node) : Node :=
  { n with process := { n.process with parent := if n.process.parent = number then reaper else n.process.parent } }

end Node

/-- Processes in the order in which they began. -/
structure Tree where
  nodes : List Node

namespace Tree

/-- The process `n` at `k` has become `q`, and what it has told others is sent. -/
def become (t : Tree) (k : Nat) (n : Node) (q : Server) : Tree :=
  ⟨(t.nodes.modify k fun m => { m with process := q }).map (·.hear (q.journal.drop n.process.journal.length))⟩

/-- The stop that was sent to the process at `k` has arrived, and it has become `q`. -/
def receive (t : Tree) (k : Nat) (q : Server) : Tree :=
  ⟨t.nodes.modify k fun m => { m with process := q, summoned := false }⟩

/-- The process of that number has ended, somewhere. -/
def bereave (t : Tree) (number reaper : Nat) : Tree := ⟨t.nodes.map (·.orphan number reaper)⟩

/-- The process `n` at `k` has ended. -/
def lose (t : Tree) (k : Nat) (n : Node) (reaper : Nat) : Tree :=
  bereave ⟨t.nodes.modify k fun m => { m with ended := true }⟩ n.number reaper

/-- No process of that number runs. -/
def Free (t : Tree) (number : Nat) : Prop := ∀ n ∈ t.nodes, n.ended = false → n.number ≠ number

/-- One step of a process, or in its surroundings. -/
inductive Step (t : Tree) : Tree → Prop
  | own {k : Nat} {n : Node} {site : Site} {now : Nat} {m : Move} {q : Server} : t.nodes[k]? = some n →
      n.ended = false → n.process.move? site now m = some q → Step t (t.become k n q)
  | arrive {k : Nat} {n : Node} {site : Site} {now : Nat} {q : Server} : t.nodes[k]? = some n → n.ended = false →
      n.summoned = true → n.process.move? site now (.deliver Signal.terminate.number) = some q →
      Step t (t.receive k q)
  -- Whoever started it may have ended since, and then its parent is another.
  | begin_ {i : Nat} {s : Node} {r : Replacement} {command : CommandLine.Command} {settings : Settings}
      {number parent nextSocket now : Nat} : t.nodes[i]? = some s → r ∈ s.process.replacements →
      (∀ n ∈ t.nodes, n.birth ≠ some (i, r)) → CommandLine.parse r.arguments = .ok command → t.Free number →
      (s.ended = false → parent = s.number) →
      Step t ⟨t.nodes ++ [⟨number, Server.start command.markers settings r.arguments
        (Program.Lineage.handed r.descriptors) parent nextSocket now, some (i, r), false, false⟩]⟩
  | exit {k : Nat} {n : Node} {reaper : Nat} : t.nodes[k]? = some n → n.ended = false → Step t (t.lose k n reaper)
  | outside {number reaper : Nat} : t.Free number → Step t (t.bereave number reaper)

abbrev Steps : Tree → Tree → Prop := Relation.ReflTransGen Step

/-- A process by itself. -/
def alone (number : Nat) (p : Server) : Tree := ⟨[{ number, process := p }]⟩

end Tree

namespace Server

/-- A replacement that was started with `r`. -/
structure Inherits (p : Server) (r : Replacement) : Prop where
  granted : ∃ q : Server, q.Grants r
  adopts : p.Adopts (Program.Lineage.handed r.descriptors)
  inherited : p.inherited = (Markers.inherited (CommandLine.passedOrder (r.captured.map (·.address)))).inheritedCount

theorem Inherits.move? {p q : Server} {r : Replacement} (inherits : p.Inherits r) (claims : p.Claims) {site : Site}
    {now : Nat} {m : Move} (run : p.move? site now m = some q) : q.Inherits r :=
  ⟨inherits.granted, inherits.adopts.move? claims run, (Onward.move? claims run).inherited.trans inherits.inherited⟩

/-- A process of a tree that began as `birth` says. -/
structure Descends (birth : Option (Nat × Replacement)) (p : Server) : Prop where
  steady : p.Steady
  captures : ∀ turn captured, p.signals = .launching turn captured → p.Captures captured
  grants : ∀ r ∈ p.replacements, p.Grants r
  inherits : ∀ i r, birth = some (i, r) → p.Inherits r

namespace Descends

variable {birth : Option (Nat × Replacement)} {p q : Server} {r : Replacement}

theorem of_blank (blank : p.Blank) (inherits : ∀ i r, birth = some (i, r) → p.Inherits r) : p.Descends birth := by
  refine ⟨.of_blank blank, ?_, ?_, inherits⟩
  · intro turn captured place
    rw [blank.signals] at place
    cases place
  · rw [blank.replacements]
    exact fun r member => absurd member List.not_mem_nil

theorem start (grants : p.Grants r) {command : CommandLine.Command}
    (accepted : CommandLine.parse r.arguments = .ok command) (i : Nat) (settings : Settings)
    (parent nextSocket now : Nat) :
    (Server.start command.markers settings r.arguments (Program.Lineage.handed r.descriptors) parent nextSocket
      now).Descends (some (i, r)) := by
  refine .of_blank (.start _ _ _ _ _ _ _) ?_
  intro i' r' same
  cases same
  have sound := Heir.Sound.start grants accepted settings parent nextSocket now
  exact ⟨⟨p, grants⟩, sound.adopts, sound.inherited⟩

theorem move? (descends : p.Descends birth) {site : Site} {now : Nat} {m : Move}
    (run : p.move? site now m = some q) : q.Descends birth := by
  have claims := descends.steady.claims
  have onward := Onward.move? claims run
  refine ⟨descends.steady.move? run, captures_of_move? claims descends.captures run, fun r member => ?_,
    fun i r born => (descends.inherits i r born).move? claims run⟩
  rcases (replacements_of_move? run).1 r member with before | ⟨turn, captured, place, ready⟩
  · exact (descends.grants r before).onward onward
  · exact (grants_of_replacement (descends.captures turn captured place) place ready).onward onward

theorem reparent (descends : p.Descends birth) (parent : Nat) : ({ p with parent } : Server).Descends birth := by
  obtain ⟨⟨claims, lives, sweeping⟩, captures, grants, inherits⟩ := descends
  refine ⟨⟨⟨claims.sound, claims.address, claims.service, claims.claim, claims.alone⟩, lives, sweeping⟩, ?_, ?_, ?_⟩
  · intro turn captured place
    obtain ⟨nonempty, carries, ordered, free, distinct⟩ := captures turn captured place
    exact ⟨nonempty, carries, ordered, free, distinct⟩
  · intro r member
    obtain ⟨carries, ordered, nonempty, arguments, handed⟩ := grants r member
    exact ⟨carries, ordered, nonempty, arguments, handed⟩
  · intro i r born
    obtain ⟨granted, adopts, inherited⟩ := inherits i r born
    exact ⟨granted, ⟨adopts.child, adopts.positive, adopts.handed, adopts.opened, adopts.served, adopts.left,
      adopts.count, adopts.told⟩, inherited⟩

end Descends

theorem notifications_of_deliver {p q : Server} {site : Site} {now : Nat} {number : Int}
    (run : p.move? site now (.deliver number) = some q) : q.notifications = p.notifications := by
  rcases hushed_of_move? run with hushed | ⟨_, _, _, _, other, _⟩
  · exact hushed.notifications
  · cases other

theorem Yields.reparent {p : Server} (yields : p.Yields) (parent : Nat) : ({ p with parent } : Server).Yields := by
  cases yields with
  | waiting member stops => exact .waiting member stops
  | upcoming taken isStop => exact .upcoming taken isStop
  | stopping marked => exact .stopping marked
  | brokenOff ended => exact .brokenOff ended

end Server

namespace Tree

/-- Whoever runs under that number has been told to stop. -/
def Alerts (t : Tree) (number : Nat) : Prop :=
  ∀ n ∈ t.nodes, n.ended = false → n.number = number → n.summoned = true

end Tree

/-- What becomes of a process in one step of the tree. -/
structure Node.Next (t' : Tree) (n n' : Node) : Prop where
  number : n'.number = n.number
  birth : n'.birth = n.birth
  ended : n'.ended = false → n.ended = false
  descends : n.process.Descends n.birth → n'.process.Descends n.birth
  yields : n.process.Yields → n'.process.Yields
  summoned : n.summoned = true → n'.summoned = true ∨ n'.process.Yields
  parent : n'.process.parent = n.process.parent ∨ t'.Free n.process.parent
  notifies : n'.process.parent = n.process.parent → n.process.Notifies → n'.process.Notifies
  told : n'.process.notifications = n.process.notifications ∨ (1 < n.process.parent → t'.Alerts n.process.parent)

namespace Node.Next

variable {t' : Tree} {n n' : Node}

theorem refl (t' : Tree) (n : Node) : n.Next t' n where
  number := rfl
  birth := rfl
  ended := id
  descends := id
  yields := id
  summoned := Or.inl
  parent := Or.inl rfl
  notifies _ := id
  told := Or.inl rfl

theorem move? (descends : n.process.Descends n.birth) {site : Site} {now : Nat} {m : Move} {q : Server}
    (run : n.process.move? site now m = some q) {summoned : Bool}
    (arrived : n.summoned = true → summoned = true ∨ q.Yields)
    (told : q.notifications = n.process.notifications ∨ (1 < n.process.parent → t'.Alerts n.process.parent)) :
    n.Next t' { n with process := q, summoned } where
  number := rfl
  birth := rfl
  ended := id
  descends descends := descends.move? run
  yields yields := yields.move? run
  summoned := arrived
  parent := Or.inl (Server.Onward.move? descends.steady.claims run).parent
  notifies _ notifies := notifies.move? descends.steady.claims run
  told := told

theorem exit (t' : Tree) (n : Node) : n.Next t' { n with ended := true } :=
  { refl t' n with ended := nofun }

theorem hear (next : n.Next t' n') (records : List Record) : n.Next t' (n'.hear records) :=
  { next with
    summoned := fun before => (next.summoned before).imp_left fun after => by
      rw [Node.hear, after, Bool.true_or] }

theorem orphan (next : n.Next t' n') (same : n'.process.parent = n.process.parent) {number : Nat}
    (free : t'.Free number) (reaper : Nat) : n.Next t' (n'.orphan number reaper) :=
  { next with
    descends := fun descends => (next.descends descends).reparent _
    yields := fun yields => (next.yields yields).reparent _
    summoned := fun before => (next.summoned before).imp_right fun yields => yields.reparent _
    parent := by
      by_cases lost : n'.process.parent = number
      · right
        rwa [← same, lost]
      · left
        rw [← same]
        exact if_neg lost
    notifies := by
      intro kept notifies r member telling
      rw [kept, ← same]
      exact next.notifies same notifies r member telling }

end Node.Next

namespace Tree

theorem getElem?_modify_map {α : Type} (l : List α) (k : Nat) (f g : α → α) (x : Nat) :
    ((l.modify k f).map g)[x]? = l[x]?.map fun a => g (if k = x then f a else a) := by
  rw [List.getElem?_map, List.getElem?_modify]
  cases l[x]? <;> rfl

/-- Whoever is told by a process runs under the number of its parent, or nobody does. -/
theorem alerts_become (t : Tree) (k : Nat) {n : Node} {site : Site} {now : Nat} {m : Move} {q : Server}
    (run : n.process.move? site now m = some q) :
    q.notifications = n.process.notifications ∨ (1 < n.process.parent → (t.become k n q).Alerts n.process.parent) := by
  rcases Server.hushed_of_move? run with hushed | ⟨i, _, _, place, _, _, _, rfl⟩
  · exact Or.inl hushed.notifications
  · refine Or.inr fun several m' member going number => ?_
    obtain ⟨m, _, rfl⟩ := List.mem_map.1 member
    change m.ended = false at going
    change m.number = n.process.parent at number
    have records : (n.process.notifyParent.moveCall i place).journal.drop n.process.journal.length =
        [.told n.process.parent] := by
      change n.process.notifyParent.journal.drop _ = _
      rw [Server.journal_notifyParent, List.drop_left, if_neg (Nat.not_le.2 several)]
    simp [Node.hear, records, Record.tells, going, number]

structure Begun (t : Tree) (x : Nat) (n : Node) : Prop where
  last : x = t.nodes.length
  fresh : t.Free n.number
  descends : n.process.Descends n.birth
  silent : ∀ r ∈ n.process.journal, r.isNotification = false
  spawned : ∀ i r, n.birth = some (i, r) →
    ∃ s, t.nodes[i]? = some s ∧ (s.ended = false → n.process.parent = s.number)

/-- What one step does to a tree. -/
structure Follows (t t' : Tree) : Prop where
  next : ∀ {x : Nat} {n : Node}, t.nodes[x]? = some n → ∃ n', t'.nodes[x]? = some n' ∧ n.Next t' n'
  origin : ∀ {x : Nat} {n' : Node}, t'.nodes[x]? = some n' → (∃ n, t.nodes[x]? = some n) ∨ t.Begun x n'

theorem Follows.of_map {t t' : Tree} {f : Nat → Node → Node}
    (nodes : ∀ x, t'.nodes[x]? = t.nodes[x]?.map (f x))
    (next : ∀ {x : Nat} {n : Node}, t.nodes[x]? = some n → n.Next t' (f x n)) : t.Follows t' := by
  refine ⟨fun {x n} there => ⟨f x n, ?_, next there⟩, fun {x n'} there' => Or.inl ?_⟩
  · rw [nodes, there]
    rfl
  · rw [nodes] at there'
    obtain ⟨n, there, _⟩ := Option.map_eq_some_iff.1 there'
    exact ⟨n, there⟩

theorem Follows.before {t t' : Tree} (follows : t.Follows t') {x : Nat} {n' : Node} (there' : t'.nodes[x]? = some n') :
    (∃ n, t.nodes[x]? = some n ∧ n.Next t' n') ∨ t.Begun x n' := by
  refine (follows.origin there').imp_left ?_
  rintro ⟨n, there⟩
  obtain ⟨n'', same, next⟩ := follows.next there
  cases there'.symm.trans same
  exact ⟨n, there, next⟩

/-- Numbers are those of single processes, and whoever started a process is its parent as long as it runs. -/
structure Sound (t : Tree) : Prop where
  descends : ∀ {x : Nat} {n : Node}, t.nodes[x]? = some n → n.process.Descends n.birth
  distinct : ∀ {x y : Nat} {n m : Node}, t.nodes[x]? = some n → t.nodes[y]? = some m → n.ended = false →
    m.ended = false → n.number = m.number → x = y
  spawned : ∀ {x i : Nat} {n : Node} {r : Replacement}, t.nodes[x]? = some n → n.birth = some (i, r) →
    ∃ s, t.nodes[i]? = some s ∧ (s.ended = false → n.process.parent = s.number)

namespace Sound

variable {t t' : Tree}

theorem alone {p : Server} (blank : p.Blank) (number : Nat) : (alone number p).Sound := by
  have only : ∀ {x : Nat} {n : Node}, (Tree.alone number p).nodes[x]? = some n → x = 0 ∧ n = { number, process := p } := by
    intro x n there
    cases x with
    | zero =>
      cases there
      exact ⟨rfl, rfl⟩
    | succ x => cases there
  refine ⟨?_, ?_, ?_⟩
  · intro x n there
    obtain ⟨_, rfl⟩ := only there
    exact .of_blank blank fun i r born => nomatch born
  · intro x y n m there there' _ _ _
    rw [(only there).1, (only there').1]
  · intro x i n r there born
    obtain ⟨_, rfl⟩ := only there
    cases born

theorem follows (sound : t.Sound) (follows : t.Follows t') : t'.Sound := by
  refine ⟨?_, ?_, ?_⟩
  · intro x n' there'
    rcases follows.before there' with ⟨n, there, next⟩ | begun
    · rw [next.birth]
      exact next.descends (sound.descends there)
    · exact begun.descends
  · intro x y n' m' atX atY going going' same
    rcases follows.before atX with ⟨n, there, next⟩ | begun <;> rcases follows.before atY with ⟨m, there', next'⟩ | begun'
    · exact sound.distinct there there' (next.ended going) (next'.ended going')
        (next.number.symm.trans (same.trans next'.number))
    · exact absurd (next.number.symm.trans same) (begun'.fresh n (List.mem_of_getElem? there) (next.ended going))
    · exact absurd (next'.number.symm.trans same.symm)
        (begun.fresh m (List.mem_of_getElem? there') (next'.ended going'))
    · rw [begun.last, begun'.last]
  · intro x i n' r atX born
    rcases follows.before atX with ⟨n, there, next⟩ | begun
    · obtain ⟨s, atSpawner, parent⟩ := sound.spawned there (next.birth ▸ born)
      obtain ⟨s', atSpawner', same⟩ := follows.next atSpawner
      refine ⟨s', atSpawner', fun going => ?_⟩
      have parent := parent (same.ended going)
      -- A parent is lost only when nobody runs under its number any more, and the one that started this still runs.
      rcases next.parent with kept | gone
      · rw [kept, parent, same.number]
      · exact absurd (same.number.trans parent.symm) (gone s' (List.mem_of_getElem? atSpawner') going)
    · obtain ⟨s, atSpawner, parent⟩ := begun.spawned i r born
      obtain ⟨s', atSpawner', same⟩ := follows.next atSpawner
      exact ⟨s', atSpawner', fun going => (parent (same.ended going)).trans same.number.symm⟩

theorem free_lose (sound : t.Sound) {k : Nat} {n : Node} (there : t.nodes[k]? = some n) (going : n.ended = false)
    (reaper : Nat) : (t.lose k n reaper).Free n.number := by
  intro m' member going' same
  obtain ⟨x, atX⟩ := List.getElem?_of_mem member
  rw [lose, bereave, getElem?_modify_map] at atX
  obtain ⟨m, there', rfl⟩ := Option.map_eq_some_iff.1 atX
  by_cases here : k = x
  · rw [if_pos here] at going'
    cases going'
  · rw [if_neg here] at going' same
    exact here (sound.distinct there there' going going' same.symm)

theorem follows_of_step (sound : t.Sound) (step : Step t t') : t.Follows t' := by
  cases step with
  | @own k n site now m q there _ run =>
    refine .of_map (getElem?_modify_map _ _ _ _) fun {x m} atX => .hear ?_ _
    by_cases here : k = x
    · subst here
      cases there.symm.trans atX
      rw [if_pos rfl]
      exact .move? (sound.descends there) run Or.inl (alerts_become t k run)
    · rw [if_neg here]
      exact .refl _ m
  | @arrive k n site now q there _ _ run =>
    refine .of_map (fun x => List.getElem?_modify _ _ _ _) fun {x m} atX => ?_
    by_cases here : k = x
    · subst here
      cases there.symm.trans atX
      rw [if_pos rfl]
      exact .move? (sound.descends there) run (fun _ => Or.inr (Server.yields_of_deliver? run))
        (Or.inl (Server.notifications_of_deliver run))
    · rw [if_neg here]
      exact .refl _ m
  | @begin_ i s r command settings number parent nextSocket now atSpawner member _ accepted fresh spawner =>
    refine ⟨fun {x n} there => ⟨n, ?_, .refl _ n⟩, fun {x n'} there' => ?_⟩
    · rw [List.getElem?_append_left (List.getElem?_eq_some_iff.1 there).1]
      exact there
    · rw [getElem?_append_last] at there'
      split at there'
      · rename_i last
        cases there'
        refine Or.inr ⟨last.symm, fresh, .start ((sound.descends atSpawner).grants r member) accepted _ _ _ _ _,
          (Server.Blank.start _ _ _ _ _ _ _).silent, ?_⟩
        intro i' r' same
        cases same
        exact ⟨s, atSpawner, fun going => (Server.parent_start _ _ _ _ _ _ _).trans (spawner going)⟩
      · exact Or.inl ⟨n', there'⟩
  | @exit k n reaper there going =>
    have free := sound.free_lose there going reaper
    refine .of_map (getElem?_modify_map _ _ _ _) fun {x m} atX => ?_
    by_cases here : k = x
    · rw [if_pos here]
      exact (Node.Next.exit _ m).orphan rfl free _
    · rw [if_neg here]
      exact (Node.Next.refl _ m).orphan rfl free _
  | @outside number reaper free =>
    have free' : (t.bereave number reaper).Free number := by
      intro m' member
      obtain ⟨m, among, rfl⟩ := List.mem_map.1 member
      exact free m among
    exact .of_map (fun x => List.getElem?_map) fun {x m} _ => (Node.Next.refl _ m).orphan rfl free' _

theorem step (sound : t.Sound) (made : Step t t') : t'.Sound := sound.follows (sound.follows_of_step made)

theorem steps (sound : t.Sound) (made : Steps t t') : t'.Sound := by
  induction made with
  | refl => exact sound
  | tail _ last ih => exact ih.step last

/-- A process that a stop has reached keeps to it, whatever happens in the tree. -/
theorem yields (sound : t.Sound) (made : Steps t t') {x : Nat} {n : Node} (there : t.nodes[x]? = some n)
    (yields : n.process.Yields) : ∃ n', t'.nodes[x]? = some n' ∧ n'.process.Yields := by
  induction made with
  | refl => exact ⟨n, there, yields⟩
  | tail earlier last ih =>
    obtain ⟨m, atX, yields⟩ := ih
    obtain ⟨m', atX', next⟩ := ((sound.steps earlier).follows_of_step last).next atX
    exact ⟨m', atX', next.yields yields⟩

end Sound

/-- The process `n` at `x` is a replacement that the process `s` at `i` started with `r`. -/
structure Spawned (t : Tree) (x : Nat) (n : Node) (i : Nat) (s : Node) (r : Replacement) : Prop where
  child : t.nodes[x]? = some n
  birth : n.birth = some (i, r)
  spawner : t.nodes[i]? = some s

theorem Sound.parent {t : Tree} {x i : Nat} {n s : Node} {r : Replacement} (sound : t.Sound)
    (spawned : t.Spawned x n i s r) (going : s.ended = false) : n.process.parent = s.number := by
  obtain ⟨s', there, parent⟩ := sound.spawned spawned.child spawned.birth
  cases spawned.spawner.symm.trans there
  exact parent going

/-- As long as the process that started another runs, it is the only one that this tells, and then the stop is on its way
or has arrived, unless it is the first process of all. -/
def Informed (t : Tree) : Prop :=
  ∀ (x : Nat) (n : Node) (i : Nat) (s : Node) (r : Replacement), t.Spawned x n i s r → s.ended = false →
    n.process.Notifies ∧ (0 < n.process.notifications → 1 < s.number → s.summoned = true ∨ s.process.Yields)

namespace Informed

variable {t t' : Tree}

theorem alone (number : Nat) (p : Server) : (alone number p).Informed := by
  intro x n i s r spawned
  have there := spawned.child
  cases x with
  | zero =>
    cases there
    cases spawned.birth
  | succ x => cases there

theorem follows (informed : t.Informed) (sound : t.Sound) (follows : t.Follows t') : t'.Informed := by
  intro x n' i s' r spawned going'
  rcases follows.before spawned.child with ⟨n, there, next⟩ | begun
  · have born : n.birth = some (i, r) := next.birth ▸ spawned.birth
    obtain ⟨s, atSpawner, parent⟩ := sound.spawned there born
    obtain ⟨s'', same, nextS⟩ := follows.next atSpawner
    cases spawned.spawner.symm.trans same
    have going := nextS.ended going'
    have number : s'.number = n.process.parent := nextS.number.trans (parent going).symm
    have member := List.mem_of_getElem? same
    obtain ⟨notifies, told⟩ := informed x n i s r ⟨there, born, atSpawner⟩ going
    refine ⟨next.notifies (next.parent.resolve_right fun gone => gone s' member going' number) notifies, ?_⟩
    intro once several
    -- Either it had told before, and the stop has come further since, or it tells now, and the stop is sent at once.
    rcases next.told with as_before | alerts
    · rcases told (as_before ▸ once) (nextS.number ▸ several) with summoned | yields
      · exact nextS.summoned summoned
      · exact Or.inr (nextS.yields yields)
    · exact Or.inl (alerts (number ▸ several) s' member going' number)
  · have untold : ∀ r ∈ n'.process.journal, ¬ r.isNotification = true := fun r member =>
      Bool.not_eq_true _ ▸ begun.silent r member
    refine ⟨fun r member telling => absurd telling (untold r member), fun once => ?_⟩
    obtain ⟨r, member, telling⟩ := List.countP_pos_iff.1 once
    exact absurd telling (untold r member)

theorem steps (informed : t.Informed) (sound : t.Sound) (made : Steps t t') : t'.Informed := by
  induction made with
  | refl => exact informed
  | tail earlier last ih =>
    have sound' := sound.steps earlier
    exact ih.follows sound' (sound'.follows_of_step last)

end Informed

end Tree

end Handover
