import Handover.Proofs.Restart.Household

namespace Handover

/-- No two services of a process have the same socket. -/
def Server.Disjoint (p : Server) : Prop :=
  ∀ {o o' : Nat} {s s' : Service}, p.registry.service? o = some s → p.registry.service? o' = some s' →
    s.life.listener.socket = s'.life.listener.socket → o = o'

/-- Among the first of what is handed over, no socket is found twice. -/
def Distinct (count : Nat) (files : List (Option OpenFile)) : Prop :=
  ∀ {o o' : Nat} {s : Socket}, o < count → o' < count → files[o]?.join = some (.socket s) →
    files[o']?.join = some (.socket s) → o = o'

/-- A process whose services have each a socket of their own hands none of them over twice. -/
theorem Server.Grants.distinct {p : Server} {r : Replacement} (grants : p.Grants r) (disjoint : p.Disjoint) :
    Distinct r.captured.length (Program.Lineage.handed r.descriptors) := by
  intro o o' s inside inside' file file'
  have first := (grants.handed (List.getElem?_eq_getElem inside)).symm.trans file
  have second := (grants.handed (List.getElem?_eq_getElem inside')).symm.trans file'
  obtain ⟨service, there, _, socket⟩ := grants.carries _ (List.getElem_mem inside)
  obtain ⟨service', there', _, socket'⟩ := grants.carries _ (List.getElem_mem inside')
  have same : r.captured[o].ordinal = r.captured[o'].ordinal := by
    refine disjoint there there' ?_
    rw [socket, socket']
    exact (OpenFile.socket.inj (Option.some.inj first)).trans (OpenFile.socket.inj (Option.some.inj second)).symm
  -- Two positions have two ordinals, since these ascend.
  have ascending := List.pairwise_iff_getElem.1 grants.ordered
  rcases Nat.lt_trichotomy o o' with before | equal | after
  · have := ascending o o' inside inside' before
    omega
  · exact equal
  · have := ascending o' o inside' inside after
    omega

/-- A process binds a socket of its own for every service, or was handed one for each. -/
theorem Server.Run.disjoint {may : Server → Site → Move → Prop} {markers : Markers} {settings : Settings}
    {arguments : List OsText} {handed : List (Option OpenFile)} {parent nextSocket now : Nat} {p : Server}
    (distinct : markers.graceful = true → Distinct markers.inheritedCount handed)
    (run : Run may (Server.start markers settings arguments handed parent nextSocket now) p) : p.Disjoint := by
  have claims := Claims.start markers settings arguments handed parent nextSocket now
  intro o o' s s' there there' same
  cases graceful : markers.graceful with
  | false =>
    have numbered := run.numbered claims (.start graceful settings arguments handed parent nextSocket now)
    exact numbered.apart (.service there rfl) (.service there' rfl) (congrArg Socket.identity same)
  | true =>
    have inherited : markers = .inherited markers.order := by
      rw [Markers.inherited, ← graceful]
    rw [inherited] at run
    have adopts := run.adopts (.start _ _ _ _ _ _ _) (.start markers.order settings arguments parent nextSocket now)
    have count : p.inherited = markers.inheritedCount := by
      rw [inherited]
      exact (run.onward (.start _ _ _ _ _ _ _)).inherited
    have first := adopts.served there
    have second := adopts.served there'
    have file := first.file
    rw [same] at file
    exact distinct graceful (count ▸ first.inside) (count ▸ second.inside) file second.file

/-- Sockets stay apart from one generation to the next: a replacement has no socket for two services if the process that
started it has none. -/
theorem Server.Grants.disjoint {may : Server → Site → Move → Prop} {p q : Server} {r : Replacement}
    {command : CommandLine.Command} {settings : Settings} {parent nextSocket now : Nat} (grants : p.Grants r)
    (disjoint : p.Disjoint) (free : ∀ c ∈ r.captured, ',' ∉ c.address.toList)
    (accepted : CommandLine.parse r.arguments = .ok command)
    (run : Run may (Server.start command.markers settings r.arguments (Program.Lineage.handed r.descriptors) parent
      nextSocket now) q) : q.Disjoint := by
  obtain ⟨base, built⟩ := grants.arguments
  rw [built] at accepted
  have nonempty : r.captured.map (·.address) ≠ [] := fun empty => grants.nonempty (List.map_eq_nil_iff.1 empty)
  have count : command.markers.inheritedCount = r.captured.length := by
    have inherited := CommandLine.inheritedCount_of_free (Succession.comma_free free) nonempty
    rw [List.length_map] at inherited
    exact (congrArg Markers.inheritedCount (CommandLine.markers_of_parse_arguments accepted)).trans inherited
  have distinct : Distinct command.markers.inheritedCount (Program.Lineage.handed r.descriptors) :=
    count ▸ grants.distinct disjoint
  intro o o' s s' there there' same
  exact run.disjoint (fun _ => distinct) there there' same

/-- A socket that a replacement serves was captured for it. -/
theorem Heir.Sound.captured_of_serves {h : Heir} {p : Server} {s : Socket} (sound : h.Sound)
    (grants : p.Grants h.replacement) (free : ∀ c ∈ h.replacement.captured, ',' ∉ c.address.toList)
    (serves : h.Serves s) : ∃ c ∈ h.replacement.captured, c.handle.socket = s := by
  obtain ⟨o, service, there, rfl, _⟩ := serves
  have handed := sound.adopts.served there
  have count : h.process.inherited = h.replacement.captured.length := by
    have nonempty : h.replacement.captured.map (·.address) ≠ [] :=
      fun empty => grants.nonempty (List.map_eq_nil_iff.1 empty)
    rw [sound.inherited, CommandLine.inheritedCount_of_free (Succession.comma_free free) nonempty, List.length_map]
  have inside := handed.inside
  rw [count] at inside
  have atOrdinal := List.getElem?_eq_getElem inside
  have file := (grants.handed atOrdinal).symm.trans handed.file
  exact ⟨_, List.mem_of_getElem? atOrdinal, OpenFile.socket.inj (Option.some.inj file)⟩

namespace Household

theorem reach_parent {may : Move → Prop} {f f' : Household} (made : Steps may f f') :
    Server.Reach f.parent f'.parent := by
  induction made with
  | refl => exact .start
  | tail _ last ih =>
    cases last with
    | parent _ _ run => exact ih.next trivial run
    | killed | retire | begin_ | heir | exit => exact ih

theorem number_eq {may : Move → Prop} {f f' : Household} (made : Steps may f f') : f'.number = f.number := by
  induction made with
  | refl => rfl
  | tail _ last ih => cases last <;> exact ih

end Household

/-- A replacement that has told its parent to stop, which it then survives, serves exactly what was captured for it: a
service of the parent is covered by the takeover if it stands at an ordinal that was captured, and not if it stands at
another one, however open its listener is when the stop arrives. -/
theorem takeover_covers_iff_captured {may : Move → Prop} {markers : Markers} {settings : Settings}
    {arguments : List OsText} {handed : List (Option OpenFile)} {origin nextSocket started number : Nat}
    {f : Household} {h : Heir} (distinct : markers.graceful = true → Distinct markers.inheritedCount handed)
    (run : Household.Steps may
      { parent := Server.start markers settings arguments handed origin nextSocket started, number } f)
    (among : h ∈ f.heirs) (told : h.HasTold number) :
    h.ended = false ∧
      (∀ c ∈ h.replacement.captured, h.Serves c.handle.socket ∧ ∃ s, f.parent.registry.service? c.ordinal = some s ∧
        s.address = c.address ∧ s.life.listener.socket = c.handle.socket) ∧
      ((∀ c ∈ h.replacement.captured, ',' ∉ c.address.toList) → ∀ {o : Nat} {s : Service},
        f.parent.registry.service? o = some s →
          (h.Serves s.life.listener.socket ↔ ∃ c ∈ h.replacement.captured, c.ordinal = o)) := by
  have blank := Server.Blank.start markers settings arguments handed origin nextSocket started
  have orderly := (Household.Orderly.alone blank number).steps run
  have reached := Household.reach_parent run
  have same : f.number = number := Household.number_eq run
  rw [← same] at told
  obtain ⟨grants, sound⟩ := orderly.heirs h among
  refine ⟨orderly.told h among told, ?_, ?_⟩
  · intro c member
    exact ⟨sound.serves grants told member, grants.carries c member⟩
  · intro free o s there
    constructor
    · intro serves
      obtain ⟨c, member, same⟩ := sound.captured_of_serves grants free serves
      obtain ⟨s', there', _, socket⟩ := grants.carries c member
      exact ⟨c, member, reached.disjoint distinct there' there (socket.trans same)⟩
    · rintro ⟨c, member, rfl⟩
      obtain ⟨s', there', _, socket⟩ := grants.carries c member
      cases there.symm.trans there'
      rw [socket]
      exact sound.serves grants told member

namespace Sample

/-- A process with a single listener that starts a replacement and then serves a second address. -/
def widened : Server := after single ([.signals, .listen] ++ serving "127.0.0.1:81" 1 9)

/-- The replacement for the single listener, which serves it. -/
def lone : Heir := ⟨replacement single, after (started single) (serving "127.0.0.1:80" 0 9), false⟩

/-- The process is about to handle the stop that the replacement has sent. -/
def told : Server := after widened [.deliver Signal.terminate.number, .signals, .signals, .signals]

theorem steps_told : Household.Steps (·.isQuiet = true) { parent := fresh, number := 7 }
    { parent := told, number := 7, heirs := [lone] } := by
  have run : Household.Steps (·.isQuiet = true) { parent := fresh, number := 7 } { parent := single, number := 7 } :=
    Household.steps_of_parent site 0 (serving "127.0.0.1:80" 0 9 ++ capturing) rfl (by decide) rfl
  obtain ⟨command, accepted, markers⟩ := accepted_single
  have delivered : ∃ next, widened.deliver? Signal.terminate.number = some next ∧
      next.moves? site 0 [.signals, .signals, .signals] = some told := ⟨_, rfl, rfl⟩
  obtain ⟨next, delivered, stops⟩ := delivered
  exact run.trans (Household.steps_of_takeover 7 site .standard 9 ([.signals, .listen] ++ serving "127.0.0.1:81" 1 9)
    (serving "127.0.0.1:80" 0 9) [.signals, .signals, .signals] (by decide) (by decide) rfl (List.mem_singleton.2 rfl)
    accepted (started_eq markers) rfl (by decide) delivered stops)

end Sample

/-- The replacement that has told its parent covers the listener that was captured for it. -/
theorem takeover_covers_single_listener :
    Sample.lone.HasTold 7 ∧ ∀ c ∈ (Sample.replacement Sample.single).captured, Sample.lone.Serves c.handle.socket := by
  have told : Sample.lone.HasTold 7 := by decide
  have covered := takeover_covers_iff_captured (fun graceful => by cases graceful) Sample.steps_told
    List.mem_cons_self told
  exact ⟨told, fun c member => (covered.2.1 c member).1⟩

/-- The address that the process has served since the restart was triggered is open until the replacement's stop is
handled, and nowhere afterwards. -/
theorem address_served_since_trigger_goes_dark :
    ∃ (stopped : Server) (s s' : Service),
      Household.Steps (·.isQuiet = true) { parent := Sample.fresh, number := 7 }
        { parent := Sample.told, number := 7, heirs := [Sample.lone] } ∧
      Sample.lone.HasTold 7 ∧ Sample.told.signals = .acting ⟨.terminate, none⟩ ∧
      Sample.told.registry.service? 1 = some s ∧ s.address = "127.0.0.1:81" ∧ s.life.IsLive ∧
      (∀ h ∈ Sample.lone.process.handles, h.socket ≠ s.life.listener.socket) ∧
      Sample.told.moves? Sample.site 0 [.signals, .signals, .signals, .signals] = some stopped ∧
      stopped.registry.service? 1 = some s' ∧ s'.life.listener.socket = s.life.listener.socket ∧
      s'.life.listener.isClosed = true :=
  ⟨_, _, _, Sample.steps_told, by decide, rfl, rfl, rfl, ⟨rfl, Or.inr rfl, by decide⟩, by decide, rfl, rfl, rfl, rfl⟩

end Handover
