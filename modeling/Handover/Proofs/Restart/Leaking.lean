import Handover.Proofs.Restart.Generations

namespace Handover

/-- Sockets that are held at numbers that were free do not reach a program that is started. -/
theorem Descriptors.filter_at?_holding {t : Descriptors} {handles : List Handle}
    (free : ∀ h ∈ handles, t.at? h.descriptor = none) (n : Nat) :
    ((t.holding handles).at? n).filter (fun d => !d.closeOnExec) = (t.at? n).filter fun d => !d.closeOnExec := by
  have held : (t.holding handles).at? n = t.at? n ∨
      ∃ h ∈ handles, h.descriptor = n ∧ ∃ s, (t.holding handles).at? n = some ⟨.socket s, true⟩ := by
    clear free
    induction handles generalizing t with
    | nil => exact Or.inl rfl
    | cons h rest ih =>
      have later := ih (t := t.put h.descriptor (some ⟨.socket h.socket, true⟩))
      rw [Descriptors.at?_put] at later
      rcases later with same | ⟨h', member, at_, s, socket⟩
      · by_cases here : h.descriptor = n
        · rw [if_pos here] at same
          exact Or.inr ⟨h, List.mem_cons_self, here, _, same⟩
        · rw [if_neg here] at same
          exact Or.inl same
      · exact Or.inr ⟨h', List.mem_cons_of_mem _ member, at_, s, socket⟩
  rcases held with same | ⟨h, member, rfl, s, socket⟩
  · rw [same]
  · rw [socket, free h member]
    rfl

namespace Server

/-- No listener of its own has the number of something that was handed over and not taken. -/
def Separate (p : Server) : Prop := ∀ h ∈ p.ownHandles, p.untaken.at? h.descriptor = none

/-- Nothing is put back among what was handed over. -/
theorem handedAt?_of_move? {site : Site} {now : Nat} {p p' : Server} {m : Move} (run : p.move? site now m = some p')
    (o : Nat) (f : OpenFile) (there : p'.handedAt? o = some f) : p.handedAt? o = some f := by
  rcases move?_cases run with ⟨_, _, _, _, _, _, advance, rfl⟩ | ⟨_, _, _, rfl⟩ | ⟨_, same⟩
  · exact handedAt?_of_advance advance o f there
  · exact there
  · rwa [handedAt?, same.handed] at there

theorem handedAt?_start (markers : Markers) (settings : Settings) (arguments : List OsText)
    (handed : List (Option OpenFile)) (parent nextSocket now o : Nat) :
    (Server.start markers settings arguments handed parent nextSocket now).handedAt? o = handed[o]?.join := by
  unfold Server.start
  dsimp only
  split <;> rfl

theorem Run.handedAt? {may : Server → Site → Move → Prop} {first p : Server} (run : Run may first p) {o : Nat}
    {f : OpenFile} (there : p.handedAt? o = some f) : first.handedAt? o = some f := by
  induction run with
  | start => exact there
  | next _ _ move ih => exact ih (handedAt?_of_move? move o f there)

theorem Separate.move? {site : Site} {now : Nat} {p p' : Server} {m : Move} (separate : p.Separate) (claims : p.Claims)
    (run : p.move? site now m = some p') : p'.Separate := by
  intro h member
  have before : h ∈ p.ownHandles → p'.untaken.at? h.descriptor = none :=
    fun held => untaken_eq_none (handedAt?_of_move? run) (separate h held)
  rcases move?_cases run with ⟨i, c, place, q, _, atCall, advance, rfl⟩ | ⟨address, options, _, rfl⟩ | ⟨_, same⟩
  · obtain ⟨o, l, listens, held⟩ := mem_ownHandles.1 member
    rcases Listens.of_advance claims atCall advance listens with ⟨l', there, later⟩ | ⟨_, _, ⟨_, _, endpoint, rfl⟩ |
      ⟨_, taken, s, file, _, rfl⟩⟩
    · exact before (mem_ownHandles.2 ⟨o, l', there, later.handle? held⟩)
    -- A socket that is bound gets a number that nothing has.
    · cases held
      have free := Descriptors.at?_lowestFree p.table Markers.firstDescriptor
      exact untaken_eq_none (handedAt?_of_move? run) (Descriptors.at?_holding_eq_none_iff.1 free).1
    -- A socket that is adopted is taken.
    · cases held
      have gone : (q.moveCall i place).handedAt? o = none := by
        change q.handed[o]?.join = none
        rw [taken, List.getElem?_set, if_pos rfl]
        split <;> rfl
      rw [untaken_at?, if_neg (by simp), Nat.add_sub_cancel_left, gone]
      rfl
  · exact before (ownHandles_subset (fun there => ⟨_, there.of_serve, .refl _⟩) h member)
  · exact before (ownHandles_subset (fun there => there.of_frame same) h member)

theorem Run.separate {may : Server → Site → Move → Prop} {first p : Server} (run : Run may first p)
    (blank : first.Blank) : p.Separate := by
  refine run.keep_of_claims (fun claims separate move => separate.move? claims move) (.of_blank blank) ?_
  intro h member
  obtain ⟨o, l, listens, _⟩ := mem_ownHandles.1 member
  exact absurd blank listens.not_blank

/-- Beside what was placed for it, a replacement has what was handed over to the old process and never taken. -/
theorem Separate.rest_of_replacement {site : Site} {p : Server} {turn : Turn} {captured : List Restart.Captured}
    {r : Replacement} (separate : p.Separate) (captures : p.Captures captured)
    (place : p.signals = .launching turn captured) (run : p.replacement site captured = .ok r) {n : Nat}
    (outside : n < Markers.firstDescriptor ∨ Markers.firstDescriptor + captured.length ≤ n) :
    r.descriptors.at? n = p.untaken.at? n := by
  obtain ⟨_, _, _, launched⟩ := launched_of_replacement run
  have free : ∀ h ∈ p.handles, p.untaken.at? h.descriptor = none := by
    intro h member
    rw [handles_eq, place] at member
    rcases List.mem_append.1 member with own | duplicate
    · exact separate h own
    · obtain ⟨c, among, rfl⟩ := List.mem_map.1 duplicate
      exact (Descriptors.at?_holding_eq_none_iff.1 (captures.free c among)).1
  have length : (captured.map fun c => c.handle.descriptor).length = captured.length := List.length_map _
  rw [← length] at outside
  rw [(Restart.launch_eq_ok launched (captures.opened place)).2 n outside, table, Descriptors.filter_at?_holding free,
    untaken_at?]
  split
  · rfl
  · cases p.handedAt? (n - Markers.firstDescriptor) <;> rfl

end Server

namespace Replacement

/-- The socket is open at the number as the replacement starts. -/
def Opens (r : Replacement) (n : Nat) (s : Socket) : Prop := (r.descriptors.at? n).map (·.file) = some (.socket s)

/-- The socket was captured for the replacement, at the position that the number belongs to. -/
def Plans (r : Replacement) (n : Nat) (s : Socket) : Prop :=
  ∃ i c, n = Markers.firstDescriptor + i ∧ r.captured[i]? = some c ∧ c.handle.socket = s

/-- The sockets that are open as the replacement starts are those of its plan. -/
def IsExact (r : Replacement) : Prop := ∀ n s, r.Opens n s ↔ r.Plans n s

end Replacement

/-- The socket was handed over to the process behind as many positions as it has captured listeners for, and the process
has never taken it. -/
def Server.Leaks (p : Server) (captured : List Restart.Captured) (n : Nat) (s : Socket) : Prop :=
  ∃ o, n = Markers.firstDescriptor + o ∧ captured.length ≤ o ∧ p.handedAt? o = some (.socket s)

/-- A process that is about to start a replacement for what it has captured. It is the first of a chain, to which `files`
were handed over, or was itself started by the one before it; `plans` is what its ancestors have captured, the latest
first. -/
inductive Chain (files : List (Option OpenFile)) :
    List (List Restart.Captured) → Server → List Restart.Captured → Prop
  | first {markers : Markers} {settings : Settings} {arguments : List OsText} {parent nextSocket now : Nat} {p : Server}
      {turn : Turn} {captured : List Restart.Captured} :
      Server.Reach (Server.start markers settings arguments files parent nextSocket now) p →
      p.signals = .launching turn captured → Chain files [] p captured
  | next {plans : List (List Restart.Captured)} {p q : Server} {captured captured' : List Restart.Captured} {site : Site}
      {r : Replacement} {command : CommandLine.Command} {settings : Settings} {parent nextSocket now : Nat}
      {turn : Turn} : Chain files plans p captured → p.replacement site captured = .ok r →
      CommandLine.parse r.arguments = .ok command →
      Server.Reach (Server.start command.markers settings r.arguments (Program.Lineage.handed r.descriptors) parent
        nextSocket now) q →
      q.signals = .launching turn captured' → Chain files (captured :: plans) q captured'

namespace Chain

variable {files : List (Option OpenFile)} {plans : List (List Restart.Captured)} {p : Server}
  {captured : List Restart.Captured}

theorem captures (chain : Chain files plans p captured) :
    p.Captures captured ∧ p.Separate ∧ ∃ turn, p.signals = .launching turn captured := by
  have standing : ∀ {first : Server} {turn : Turn}, first.Blank → Server.Reach first p →
      p.signals = .launching turn captured →
      p.Captures captured ∧ p.Separate ∧ ∃ turn, p.signals = .launching turn captured :=
    fun blank run place => ⟨run.captures (.of_blank blank) blank.signals place, run.separate blank, _, place⟩
  cases chain with
  | first run place | next _ _ _ run place => exact standing (.start _ _ _ _ _ _ _) run place

/-- What is open in a replacement is planned, or leaks from the process that starts it. -/
theorem opens_iff (chain : Chain files plans p captured) {site : Site} {r : Replacement}
    (ready : p.replacement site captured = .ok r) (n : Nat) (s : Socket) :
    r.Opens n s ↔ r.Plans n s ∨ p.Leaks captured n s := by
  obtain ⟨captures, separate, turn, place⟩ := chain.captures
  obtain ⟨_, _, kept, _⟩ := Server.launched_of_replacement ready
  have leaked : ∀ {o}, captured.length ≤ o →
      (r.Opens (Markers.firstDescriptor + o) s ↔ p.handedAt? o = some (.socket s)) := by
    intro o behind
    rw [Replacement.Opens, separate.rest_of_replacement captures place ready (Or.inr (by omega)), Server.untaken_at?,
      if_neg (by omega), Nat.add_sub_cancel_left, Option.map_map]
    cases p.handedAt? o <;> simp
  have planned : ∀ {i c}, captured[i]? = some c →
      (r.Opens (Markers.firstDescriptor + i) s ↔ c.handle.socket = s) := by
    intro i c atIndex
    rw [Replacement.Opens, Server.placed_of_replacement captures place ready atIndex]
    simp
  constructor
  · intro open_
    by_cases standard : n < Markers.firstDescriptor
    · rw [Replacement.Opens, separate.rest_of_replacement captures place ready (Or.inl standard), Server.untaken_at?,
        if_pos standard] at open_
      cases open_
    obtain ⟨o, rfl⟩ := Nat.exists_eq_add_of_le (Nat.le_of_not_lt standard)
    by_cases within : o < captured.length
    · have atIndex := List.getElem?_eq_getElem within
      exact Or.inl ⟨o, _, rfl, by rw [kept, atIndex], (planned atIndex).1 open_⟩
    · exact Or.inr ⟨o, rfl, Nat.le_of_not_lt within, (leaked (Nat.le_of_not_lt within)).1 open_⟩
  · rintro (⟨i, c, rfl, atIndex, socket⟩ | ⟨o, rfl, behind, there⟩)
    · rw [kept] at atIndex
      exact (planned atIndex).2 socket
    · exact (leaked behind).2 there

theorem isExact_iff (chain : Chain files plans p captured) {site : Site} {r : Replacement}
    (ready : p.replacement site captured = .ok r) : r.IsExact ↔ ∀ n s, ¬ p.Leaks captured n s := by
  obtain ⟨_, _, kept, _⟩ := Server.launched_of_replacement ready
  constructor
  · rintro exact_ n s ⟨o, rfl, behind, there⟩
    obtain ⟨i, c, same, atIndex, _⟩ := (exact_ _ s).1 ((chain.opens_iff ready _ s).2 (Or.inr ⟨o, rfl, behind, there⟩))
    have within := (List.getElem?_eq_some_iff.1 (kept ▸ atIndex)).1
    omega
  · intro none_ n s
    exact (chain.opens_iff ready n s).trans (or_iff_left (none_ n s))

/-- A socket that a process was handed and never took was planned for the same position by the last of its ancestors
whose plan was as long, or was there from the start. -/
theorem origin (chain : Chain files plans p captured) {o : Nat} {s : Socket} (there : p.handedAt? o = some (.socket s)) :
    (files[o]?.join = some (.socket s) ∧ ∀ plan ∈ plans, plan.length ≤ o) ∨
      ∃ newer plan older c, plans = newer ++ plan :: older ∧ plan[o]? = some c ∧ c.handle.socket = s ∧
        ∀ later ∈ newer, later.length ≤ o := by
  induction chain with
  | first run _ =>
    have before := run.handedAt? there
    rw [Server.handedAt?_start] at before
    exact Or.inl ⟨before, fun plan member => absurd member List.not_mem_nil⟩
  | @next plans p q captured captured' site r command settings parent nextSocket now turn earlier ready _ run _ ih =>
    have before := run.handedAt? there
    rw [Server.handedAt?_start, Program.Lineage.handed_getElem?] at before
    rcases (earlier.opens_iff ready _ s).1 before with ⟨i, c, same, atIndex, socket⟩ | ⟨o', same, behind, left⟩
    · obtain rfl : i = o := by omega
      rw [(Server.launched_of_replacement ready).2.2.1] at atIndex
      exact Or.inr ⟨[], captured, plans, c, rfl, atIndex, socket, fun later member => absurd member List.not_mem_nil⟩
    · obtain rfl : o' = o := by omega
      rcases ih left with ⟨atStart, shorter⟩ | ⟨newer, plan, older, c, rfl, atIndex, socket, shorter⟩
      · exact Or.inl ⟨atStart, List.forall_mem_cons.2 ⟨behind, shorter⟩⟩
      · exact Or.inr ⟨captured :: newer, plan, older, c, rfl, atIndex, socket, List.forall_mem_cons.2 ⟨behind, shorter⟩⟩

theorem origin_of_leaks (chain : Chain files plans p captured) {n : Nat} {s : Socket} (leaks : p.Leaks captured n s) :
    ∃ o, n = Markers.firstDescriptor + o ∧
      (files[o]?.join = some (.socket s) ∧ (∀ plan ∈ captured :: plans, plan.length ≤ o) ∨
        ∃ newer plan older c, plans = newer ++ plan :: older ∧ plan[o]? = some c ∧ c.handle.socket = s ∧
          ∀ later ∈ captured :: newer, later.length ≤ o) := by
  obtain ⟨o, rfl, behind, there⟩ := leaks
  refine ⟨o, rfl, ?_⟩
  rcases chain.origin there with ⟨atStart, shorter⟩ | ⟨newer, plan, older, c, split, atIndex, socket, shorter⟩
  · exact Or.inl ⟨atStart, List.forall_mem_cons.2 ⟨behind, shorter⟩⟩
  · exact Or.inr ⟨newer, plan, older, c, split, atIndex, socket, List.forall_mem_cons.2 ⟨behind, shorter⟩⟩

end Chain

/-- Whatever restarts came before, each planned socket is open in a replacement at its position from the first descriptor
on, and any other socket that is open in it leaks: the process that starts it was handed the socket at a position behind
the plan and has never taken it. Such a socket was planned by an ancestor for the same position, and no plan since was
as long, unless it was handed over to the first process. So the sockets are exactly those of the plan iff nothing leaks,
as after any restarts whose plans were no longer, if the first process was handed no socket. -/
theorem open_sockets_of_replacement {files : List (Option OpenFile)} {plans : List (List Restart.Captured)} {p : Server}
    {captured : List Restart.Captured} {site : Site} {r : Replacement} (chain : Chain files plans p captured)
    (ready : p.replacement site captured = .ok r) :
    (r.captured = captured ∧ ∀ n s, r.Opens n s ↔ r.Plans n s ∨ p.Leaks captured n s) ∧
      (r.IsExact ↔ ∀ n s, ¬ p.Leaks captured n s) ∧
      (∀ n s, p.Leaks captured n s → ∃ o, n = Markers.firstDescriptor + o ∧
        (files[o]?.join = some (.socket s) ∧ (∀ plan ∈ captured :: plans, plan.length ≤ o) ∨
          ∃ newer plan older c, plans = newer ++ plan :: older ∧ plan[o]? = some c ∧ c.handle.socket = s ∧
            ∀ later ∈ captured :: newer, later.length ≤ o)) ∧
      ((∀ (o : Nat) (s : Socket), files[o]?.join ≠ some (.socket s)) →
        (∀ plan ∈ plans, plan.length ≤ captured.length) → r.IsExact) := by
  obtain ⟨_, _, kept, _⟩ := Server.launched_of_replacement ready
  refine ⟨⟨kept, chain.opens_iff ready⟩, chain.isExact_iff ready, fun _ _ => chain.origin_of_leaks, ?_⟩
  intro none_ shorter
  rw [chain.isExact_iff ready]
  intro n s leaks
  obtain ⟨o, _, ⟨atStart, _⟩ | ⟨newer, plan, older, c, rfl, atIndex, _, later⟩⟩ := chain.origin_of_leaks leaks
  · exact none_ o s atStart
  · have behind := later captured List.mem_cons_self
    have within := (List.getElem?_eq_some_iff.1 atIndex).1
    have := shorter plan (by simp)
    omega

namespace Sample

theorem chain_pair : Chain [] [] pair (captured pair) := .first reach_pair rfl

/-- A replacement that was handed two listeners, has adopted the first only, and is about to be replaced. -/
def halfAdopted : Server := after (started pair) (serving "127.0.0.1:80" 0 9 ++ capturing)

theorem chain_of_pair {p : Server} (run : Server.Reach (started pair) p) (turn : Turn)
    (place : p.signals = .launching turn (captured p)) : Chain [] [captured pair] p (captured p) := by
  obtain ⟨command, accepted, markers⟩ := accepted_pair
  exact .next chain_pair ready_pair accepted (run_started markers run) place

end Sample

/-- A replacement that has adopted both listeners starts its own with these two sockets and no others. -/
theorem second_replacement_is_exact :
    Chain [] [Sample.captured Sample.pair] Sample.second (Sample.captured Sample.second) ∧
      Sample.second.replacement Sample.site (Sample.captured Sample.second) = .ok (Sample.replacement Sample.second) ∧
      (Sample.replacement Sample.second).IsExact := by
  have run : Server.Reach (Sample.started Sample.pair) Sample.second :=
    Server.Run.start.moves Sample.site 0 (Sample.serving "127.0.0.1:81" 0 9 ++ Sample.serving "127.0.0.1:80" 1 9 ++
      Sample.capturing) rfl
  have chain := Sample.chain_of_pair run ⟨.restart, none⟩ rfl
  have ready : Sample.second.replacement Sample.site (Sample.captured Sample.second) =
    .ok (Sample.replacement Sample.second) := rfl
  obtain ⟨_, _, _, enough⟩ := open_sockets_of_replacement chain ready
  exact ⟨chain, ready, enough (by simp) (by decide)⟩

/-- The second listener was handed over to a replacement that serves only the first address: it is open in the next
replacement too, behind the only descriptor that was planned. -/
theorem unadopted_listener_leaks :
    ∃ socket, Chain [] [Sample.captured Sample.pair] Sample.halfAdopted (Sample.captured Sample.halfAdopted) ∧
      Sample.halfAdopted.replacement Sample.site (Sample.captured Sample.halfAdopted) =
        .ok (Sample.replacement Sample.halfAdopted) ∧
      (Sample.captured Sample.halfAdopted).map (·.address) = ["127.0.0.1:80"] ∧
      (Sample.replacement Sample.halfAdopted).Opens 4 socket ∧
      ¬ (Sample.replacement Sample.halfAdopted).Plans 4 socket ∧
      ¬ (Sample.replacement Sample.halfAdopted).IsExact := by
  have run : Server.Reach (Sample.started Sample.pair) Sample.halfAdopted :=
    Server.Run.start.moves Sample.site 0 (Sample.serving "127.0.0.1:80" 0 9 ++ Sample.capturing) rfl
  have chain := Sample.chain_of_pair run ⟨.restart, none⟩ rfl
  have open_ : ∃ socket, (Sample.replacement Sample.halfAdopted).Opens 4 socket := ⟨_, rfl⟩
  obtain ⟨socket, open_⟩ := open_
  have unplanned : ¬ (Sample.replacement Sample.halfAdopted).Plans 4 socket := by
    rintro ⟨i, c, at_, atIndex, _⟩
    obtain rfl : i = 1 := by
      change 4 = 3 + i at at_
      omega
    have none_ : (Sample.replacement Sample.halfAdopted).captured[1]? = none := rfl
    rw [none_] at atIndex
    cases atIndex
  exact ⟨socket, chain, rfl, rfl, open_, unplanned, fun exact_ => unplanned ((exact_ 4 socket).1 open_)⟩

end Handover
