import Handover.Proofs.Service.Events

namespace Handover.Lifecycle

/-- Loops that waited may have been woken; nothing else has become of any. -/
def Shaken (loops loops' : List AcceptLoop) : Prop :=
  ∀ i : Nat, loops'[i]? = loops[i]? ∨ ∃ loop woken, loops[i]? = some loop ∧ loop.place = .waiting woken ∧
    loops'[i]? = some { loop with place := .waiting true }

theorem Shaken.refl (loops : List AcceptLoop) : Shaken loops loops := fun _ => Or.inl rfl

theorem shaken_wakeLoop (l : Lifecycle) (i : Nat) : Shaken l.loops (l.wakeLoop i).loops := by
  intro j
  rw [wakeLoop, List.getElem?_modify]
  cases atLoop : l.loops[j]? with
  | none => exact Or.inl rfl
  | some loop =>
    by_cases here : i = j
    · cases place : loop.place with
      | waiting woken => exact Or.inr ⟨loop, woken, rfl, place, by simp [here, place]⟩
      | _ => exact Or.inl (by simp [here, place])
    · exact Or.inl (by simp [here])

theorem shaken_nudge (l : Lifecycle) : Shaken l.loops l.nudge.loops := by
  unfold nudge
  split
  · exact .refl _
  · exact l.shaken_wakeLoop _

theorem shaken_closeListener (l : Lifecycle) : Shaken l.loops l.closeListener.loops := by
  unfold closeListener
  dsimp only
  split
  · exact .refl _
  · exact shaken_wakeLoop _ _

theorem Stopping.shaken {l next : Lifecycle} {now : Nat} {stop stop' : StopPlace}
    (step : Stopping now l stop stop' next) : Shaken l.loops next.loops := by
  cases step with
  | take | late => exact .refl _
  | close => exact l.shaken_closeListener
  | arm =>
    rcases l.arm_eq now with ⟨_, same⟩ | ⟨limit, _, armed⟩
    · rw [same]
      exact .refl _
    · rw [armed]
      exact .refl _

theorem loops_start (l : Lifecycle) : l.start.2.loops = l.loops := by
  rcases l.start_eq with same | ⟨_, started⟩
  · rw [same]
  · rw [started]

theorem loops_terminate (l : Lifecycle) : l.terminate.loops = l.loops := by
  rcases l.terminate_eq with ⟨same, _⟩ | ⟨_, ended⟩
  · rw [same]
  · rw [ended]

/-- What a loop is told if it takes its next step now: what comes of accepting, unless there is nothing. -/
def told (l : Lifecycle) (i : Nat) : Option Accept :=
  if l.loops[i]?.map (·.place) = some .calling ∧ (l.listener.poll i).1 ≠ .pending then some (l.listener.poll i).1 else none

/-- What an event tells a loop. -/
def tells (l : Lifecycle) (i : Nat) : Event → Option Accept
  | .loop j => if j = i then l.told i else none
  | _ => none

/-- How a loop goes on, and what it is told on the way. -/
inductive Turns (now : Nat) (shut : Bool) (loop : AcceptLoop) : Option Accept → AcceptLoop → Prop
  | keep : Turns now shut loop none loop
  | woken {earlier} : loop.place = .waiting earlier → Turns now shut loop none { loop with place := .waiting true }
  | call : loop.place = .starting ∨ loop.place = .waiting true → Turns now shut loop none { loop with place := .calling }
  | resume {due} : loop.place = .pausing due → due ≤ now → Turns now shut loop none { loop with place := .calling }
  | wait : loop.place = .calling → shut = false → Turns now shut loop none { loop with place := .waiting false }
  | accept : loop.place = .calling → shut = false → Turns now shut loop (some .accepted) { loop with backoff := minBackoff }
  | pause {cause} : loop.place = .calling → shut = false → Turns now shut loop (some (.failed cause))
      { place := .pausing (Clock.due now loop.backoff), backoff := longer loop.backoff }
  | refuse : loop.place = .calling → shut = true →
      Turns now shut loop (some .closed) { loop with place := .stopping .entered }
  | leave {place} : LoopPlace.isLive loop.place = false → LoopPlace.isLive place = false →
      Turns now shut loop none { loop with place }

variable {l l' : Lifecycle} {now i : Nat} {loop : AcceptLoop} {e : Event}

theorem getElem?_place (place : LoopPlace) (i j : Nat) :
    (l.place i place).loops[j]? = if i = j then l.loops[j]?.map fun loop => { loop with place } else l.loops[j]? := by
  rw [Lifecycle.place, List.getElem?_modify]
  split
  · rfl
  · exact Option.map_id'

theorem told_of_place (atLoop : l.loops[i]? = some loop) (elsewhere : loop.place ≠ .calling) : l.told i = none := by
  rw [told, atLoop, if_neg]
  exact fun both => elsewhere (Option.some.inj both.1)

theorem turns_of_shaken {loops : List AcceptLoop} {shut : Bool} (shaken : Shaken l.loops loops)
    (atLoop : l.loops[i]? = some loop) : ∃ loop', loops[i]? = some loop' ∧ Turns now shut loop none loop' := by
  rcases shaken i with same | ⟨other, woken, there, place, after⟩
  · exact ⟨loop, same.trans atLoop, .keep⟩
  · obtain rfl : other = loop := Option.some.inj (there.symm.trans atLoop)
    exact ⟨_, after, .woken place⟩

/-- A loop that accepts is told what comes of it. -/
theorem turns_of_accept (atLoop : l.loops[i]? = some loop) (calling : loop.place = .calling) :
    ∃ loop', (l.accept now i loop).1.loops[i]? = some loop' ∧ Turns now l.isClosed loop (l.told i) loop' := by
  have bound : i < l.loops.length := (List.getElem?_eq_some_iff.1 atLoop).1
  have placed : ∀ (l' : Lifecycle) (place : LoopPlace), l'.loops = l.loops →
      (l'.place i place).loops[i]? = some { loop with place } := by
    intro l' place same
    rw [getElem?_place, if_pos rfl, same, atLoop]
    rfl
  have told : ∀ {result listener}, l.listener.poll i = (result, listener) → result ≠ .pending →
      l.told i = some result := by
    intro result listener polled some_
    simp [Lifecycle.told, atLoop, calling, polled, some_]
  unfold accept
  rcases l.listener.poll_cases i with
    ⟨closed, refused⟩ | ⟨opened, empty | ⟨rest, _, taken⟩ | ⟨cause, backlog, failed⟩⟩
  · rw [told refused nofun, refused]
    exact ⟨_, placed _ _ rfl, .refuse calling closed⟩
  · rw [show l.told i = none by simp [Lifecycle.told, empty], empty]
    exact ⟨_, placed _ _ rfl, .wait calling opened⟩
  · rw [told taken nofun, taken]
    exact ⟨_, List.getElem?_set_self bound, .accept calling opened⟩
  · rw [told failed nofun, failed]
    exact ⟨_, List.getElem?_set_self bound, .pause calling opened⟩

theorem Looping.turns {l' : Lifecycle} (step : Looping now l i loop l') (atLoop : l.loops[i]? = some loop)
    (elsewhere : loop.place ≠ .calling) : ∃ loop', l'.loops[i]? = some loop' ∧ Turns now l.isClosed loop none loop' := by
  have placed : ∀ {l' : Lifecycle} {place : LoopPlace}, Shaken l.loops l'.loops →
      (l'.place i place).loops[i]? = some { loop with place } := by
    intro l' place shaken
    rw [getElem?_place, if_pos rfl]
    rcases shaken i with same | ⟨other, _, there, _, after⟩
    · rw [same, atLoop]
      rfl
    · rw [after, Option.some.inj (there.symm.trans atLoop)]
      rfl
  have kept : ∀ {loops : List AcceptLoop}, loops = l.loops → Shaken l.loops loops := fun same => same ▸ .refl _
  cases step with
  | start starting => exact ⟨_, placed (kept l.loops_start), .call (Or.inl starting)⟩
  | wait calling | refuse calling | accept calling | pause calling => exact absurd calling elsewhere
  | wake woken => exact ⟨_, placed (kept rfl), .call (Or.inr woken)⟩
  | resume pausing due => exact ⟨_, placed (kept rfl), .resume pausing due⟩
  | stop place step => exact ⟨_, placed step.shaken, .leave (by rw [place]; rfl) rfl⟩
  | stopped place => exact ⟨_, placed (kept rfl), .leave (by rw [place]; rfl) rfl⟩
  | drained place => exact ⟨_, placed (kept rfl), .leave (by rw [place]; rfl) rfl⟩
  | finish place => exact ⟨_, placed (kept l.loops_terminate), .leave (by rw [place]; rfl) rfl⟩

/-- A loop only wakes the others. -/
theorem Looping.others {l' : Lifecycle} {j : Nat} (step : Looping now l i loop l') (apart : i ≠ j) :
    l'.loops[j]? = l.loops[j]? ∨ ∃ other woken, l.loops[j]? = some other ∧ other.place = .waiting woken ∧
      l'.loops[j]? = some { other with place := .waiting true } := by
  have placed : ∀ {l' : Lifecycle} {place : LoopPlace}, Shaken l.loops l'.loops →
      (l'.place i place).loops[j]? = l.loops[j]? ∨ ∃ other woken, l.loops[j]? = some other ∧
        other.place = .waiting woken ∧ (l'.place i place).loops[j]? = some { other with place := .waiting true } := by
    intro l' place shaken
    rw [getElem?_place, if_neg apart]
    exact shaken j
  have kept : ∀ {loops : List AcceptLoop}, loops = l.loops → Shaken l.loops loops := fun same => same ▸ .refl _
  cases step with
  | start => exact placed (kept l.loops_start)
  | wait | refuse | wake | resume | stopped | drained => exact placed (kept rfl)
  | accept | pause => exact Or.inl (List.getElem?_set_ne apart)
  | stop _ step => exact placed step.shaken
  | finish => exact placed (kept l.loops_terminate)

theorem step?_of_calling (atLoop : l.loops[i]? = some loop) (calling : loop.place = .calling) :
    l.step? now (.loop i) = some (l.accept now i loop).1 := by
  simp [step?, stepLoop?, atLoop, calling]

/-- Every event makes one of these things of a loop. -/
theorem turns_of_step? (run : l.step? now e = some l') (atLoop : l.loops[i]? = some loop) :
    ∃ loop', l'.loops[i]? = some loop' ∧ Turns now l.isClosed loop (l.tells i e) loop' := by
  cases occurs_of_step? run with
  | @loop j other _ atOther step =>
    by_cases here : j = i
    · subst here
      obtain rfl : other = loop := Option.some.inj (atOther.symm.trans atLoop)
      rw [tells, if_pos rfl]
      by_cases calling : other.place = .calling
      · rw [Option.some.inj (run.symm.trans (step?_of_calling atLoop calling))]
        exact turns_of_accept atLoop calling
      · rw [told_of_place atLoop calling]
        exact step.turns atLoop calling
    · rw [tells, if_neg here]
      rcases step.others here with same | ⟨other, _, there, place, after⟩
      · exact ⟨loop, same.trans atLoop, .keep⟩
      · obtain rfl : other = loop := Option.some.inj (there.symm.trans atLoop)
        exact ⟨_, after, .woken place⟩
  | start => exact ⟨loop, by rw [loops_start, atLoop], .keep⟩
  | run =>
    refine ⟨loop, ?_, .keep⟩
    rw [Lifecycle.run, List.getElem?_append_left (List.getElem?_eq_some_iff.1 atLoop).1, atLoop]
  | stop | expire | lapse | force => exact ⟨loop, atLoop, .keep⟩
  | connection step => cases step <;> exact ⟨loop, atLoop, .keep⟩
  | stopping _ step => exact turns_of_shaken step.shaken atLoop
  | close => exact turns_of_shaken l.shaken_closeListener atLoop
  | finish => exact ⟨loop, (congrArg (·[i]?) l.loops_terminate).trans atLoop, .keep⟩
  | arrive | trouble => exact turns_of_shaken (shaken_nudge _) atLoop

/-- A loop that was not there is about to start, and has been told nothing. -/
theorem starts_of_step? (run : l.step? now e = some l') (vacant : l.loops[i]? = none) :
    l.tells i e = none ∧ ∀ loop, l'.loops[i]? = some loop → loop = { backoff := minBackoff } := by
  have untold : l.tells i e = none := by
    unfold tells told
    rw [vacant]
    split
    · split <;> rfl
    · rfl
  refine ⟨untold, fun loop there => ?_⟩
  have gone : ∀ {loops : List AcceptLoop}, Shaken l.loops loops → loops[i]? ≠ some loop := by
    intro loops shaken there
    rcases shaken i with same | ⟨_, _, before, _⟩
    · rw [same, vacant] at there
      cases there
    · rw [vacant] at before
      cases before
  cases occurs_of_step? run with
  | @loop j _ _ atOther step =>
    have apart : j ≠ i := by
      rintro rfl
      rw [vacant] at atOther
      cases atOther
    rcases step.others apart with same | ⟨_, _, before, _⟩
    · rw [same, vacant] at there
      cases there
    · rw [vacant] at before
      cases before
  | run =>
    rw [Lifecycle.run, getElem?_append_last] at there
    split at there
    · exact (Option.some.inj there).symm
    · rw [vacant] at there
      cases there
  | start => exact absurd there (gone (l.loops_start ▸ .refl _))
  | stop | expire | lapse | force => exact absurd there (gone (.refl _))
  | connection step => cases step <;> exact absurd there (gone (.refl _))
  | stopping _ step => exact absurd there (gone step.shaken)
  | close => exact absurd there (gone l.shaken_closeListener)
  | finish => exact absurd there (gone (l.loops_terminate ▸ .refl _))
  | arrive | trouble => exact absurd there (gone (shaken_nudge _))

end Handover.Lifecycle
