import Handover.CommandLine.Parse

namespace Handover.CommandLine

/-- The option that a name stands for. -/
def Word.flag? (name : OsText) : Option Flag := name.text?.bind fun s => Flag.ofName? ("--" ++ s)

/-- Reading some arguments leads from what was given before to what is given then. -/
inductive Reads : Given → List OsText → Given → Prop
  | done {g} : Reads g [] g
  | ended {g a} : Word.ofArgument a = .terminator → Reads g [a] g
  | attached {g g₁ g' a name value flag rest} :
      Word.ofArgument a = .long name (some value) → Word.flag? name = some flag → flag.takesValue = true →
      g.takeValue flag value = .ok g₁ → Reads g₁ rest g' → Reads g (a :: rest) g'
  | separate {g g₁ g' a name value flag rest} :
      Word.ofArgument a = .long name none → Word.flag? name = some flag → flag.takesValue = true →
      Word.ofArgument value = .plain → g.takeValue flag value = .ok g₁ → Reads g₁ rest g' →
      Reads g (a :: value :: rest) g'
  | switch {g g₁ g' a name flag rest} :
      Word.ofArgument a = .long name none → Word.flag? name = some flag → flag.takesValue = false →
      g.takeSwitch flag = .ok g₁ → Reads g₁ rest g' → Reads g (a :: rest) g'
  | letters {g g₁ g' a letters rest} :
      Word.ofArgument a = .short letters → takeLetters g none letters = .ok g₁ → Reads g₁ rest g' →
      Reads g (a :: rest) g'

theorem takeLetters_of_settle {g g₁ : Given} {pending : Pending} {letters : OsText}
    (settled : settle g pending = .ok g₁) : takeLetters g pending letters = takeLetters g₁ none letters := by
  unfold takeLetters
  split
  · rw [settled]; rfl
  · rw [settled]; rfl

theorem takeLetters_of_error {g : Given} {pending : Pending} {letters : OsText} {refusal : Refusal}
    (refused : settle g pending = .error refusal) (g' : Given) : takeLetters g pending letters ≠ .ok g' := by
  unfold takeLetters
  split
  · rw [refused]; simp
  · split
    · rw [refused]; simp [bind, Except.bind]
    · simp

/-- A value that can be taken is taken whatever follows it. -/
theorem scan_of_taken {g g₁ : Given} {flag : Flag} {value : OsText} (taken : g.takeValue flag value = .ok g₁)
    (rest : List OsText) : scan g (some (flag, some value)) false rest = scan g₁ none false rest := by
  have settled : settle g (some (flag, some value)) = .ok g₁ := taken
  cases rest with
  | nil => exact settled
  | cons a rest =>
    simp only [scan, Bool.false_eq_true, if_false]
    split
    · cases rest with
      | nil => exact settled
      | cons => rfl
    · split
      · rfl
      · rw [settled]
        rfl
    · rw [takeLetters_of_settle settled]
    · rfl

/-- A value that has come is examined before anything else, or together with what shows that it is complete. -/
theorem scan_complete {g g' : Given} {flag : Flag} {value : OsText} {rest : List OsText} :
    scan g (some (flag, some value)) false rest = .ok g' ↔
      ∃ g₁, g.takeValue flag value = .ok g₁ ∧ scan g₁ none false rest = .ok g' := by
  cases taken : g.takeValue flag value with
  | error refusal =>
    have refused : settle g (some (flag, some value)) = .error refusal := taken
    suffices scan g (some (flag, some value)) false rest ≠ .ok g' by simpa
    cases rest with
    | nil => simp [scan, refused]
    | cons a rest =>
      simp only [scan, Bool.false_eq_true, if_false]
      split
      · cases rest <;> simp [scan, refused]
      · split
        · simp
        · split <;> simp [refused, bind, Except.bind]
      · rename_i letters _
        cases taken : takeLetters g (some (flag, some value)) letters with
        | error => simp [bind, Except.bind]
        | ok g₁ => exact absurd taken (takeLetters_of_error refused g₁)
      · simp
  | ok g₁ =>
    rw [scan_of_taken taken]
    simp

/-- An option that waits for its value accepts nothing but a plain argument. -/
theorem scan_awaiting {g g' : Given} {flag : Flag} {rest : List OsText}
    (run : scan g (some (flag, none)) false rest = .ok g') :
    ∃ value later g₁, rest = value :: later ∧ Word.ofArgument value = .plain ∧
      g.takeValue flag value = .ok g₁ ∧ scan g₁ none false later = .ok g' := by
  have refused : settle g (some (flag, none)) = .error (.noValue flag) := rfl
  cases rest with
  | nil => simp [scan, refused] at run
  | cons a rest =>
    simp only [scan, Bool.false_eq_true, if_false] at run
    split at run
    · cases rest <;> simp [scan, refused] at run
    · split at run
      · simp at run
      · split at run <;> simp [refused, bind, Except.bind] at run
    · rename_i letters _
      cases taken : takeLetters g (some (flag, none)) letters with
      | error => simp [taken, bind, Except.bind] at run
      | ok g₁ => exact absurd taken (takeLetters_of_error refused g₁)
    · rename_i plain
      obtain ⟨g₁, taken, after⟩ := scan_complete.1 run
      exact ⟨a, rest, g₁, rfl, plain, taken, after⟩

theorem reads_of_scan {g g' : Given} {arguments : List OsText}
    (run : scan g none false arguments = .ok g') : Reads g arguments g' := by
  -- A value may be an argument of its own, so the induction is on the number of arguments.
  induction bound : arguments.length using Nat.strongRecOn generalizing g arguments with
  | ind n ih =>
    cases arguments with
    | nil =>
      cases run
      exact .done
    | cons a rest =>
      rw [List.length_cons] at bound
      simp only [scan, Bool.false_eq_true, if_false] at run
      split at run
      · rename_i form
        cases rest with
        | nil => cases run; exact .ended form
        | cons => simp [scan] at run
      · rename_i name value form
        split at run
        · cases run
        · rename_i flag named
          split at run
          · rename_i value takes
            obtain ⟨g₁, taken, after⟩ : ∃ g₁, g.takeValue flag value = .ok g₁ ∧
                scan g₁ none false rest = .ok g' := by
              cases taken : g.takeValue flag value <;> simp_all [settle, bind, Except.bind]
            exact .attached form named takes taken (ih rest.length (by omega) after rfl)
          · rename_i takes
            obtain ⟨value, later, g₁, rfl, plain, taken, after⟩ := scan_awaiting run
            rw [List.length_cons] at bound
            exact .separate form named takes plain taken (ih later.length (by omega) after rfl)
          · cases run
          · rename_i takes
            obtain ⟨g₁, taken, after⟩ : ∃ g₁, g.takeSwitch flag = .ok g₁ ∧
                scan g₁ none false rest = .ok g' := by
              cases taken : g.takeSwitch flag <;> simp_all [settle, bind, Except.bind]
            exact .switch form named takes taken (ih rest.length (by omega) after rfl)
      · rename_i letters form
        obtain ⟨g₁, taken, after⟩ : ∃ g₁, takeLetters g none letters = .ok g₁ ∧
            scan g₁ none false rest = .ok g' := by
          cases taken : takeLetters g none letters <;> simp_all [bind, Except.bind]
        exact .letters form taken (ih rest.length (by omega) after rfl)
      · cases run

theorem Reads.scan {g g' : Given} {arguments : List OsText} (reads : Reads g arguments g') :
    scan g none false arguments = .ok g' := by
  induction reads with
  | done => rfl
  | ended form => simp [CommandLine.scan, form, settle]
  | attached form named takes taken _ ih =>
    unfold Word.flag? at named
    simp [CommandLine.scan, form, named, takes, settle, taken, bind, Except.bind, ih]
  | @separate g _ _ _ _ value flag rest form named takes plain taken _ ih =>
    have waiting : CommandLine.scan g (some (flag, none)) false (value :: rest) =
        CommandLine.scan g (some (flag, some value)) false rest := by
      simp [CommandLine.scan, plain]
    unfold Word.flag? at named
    simp only [CommandLine.scan, form, named, takes, settle, bind, Except.bind, Bool.false_eq_true, if_false]
    exact waiting.trans (scan_complete.2 ⟨_, taken, ih⟩)
  | switch form named takes taken _ ih =>
    unfold Word.flag? at named
    simp [CommandLine.scan, form, named, takes, settle, taken, bind, Except.bind, ih]
  | letters form taken _ ih => simp [CommandLine.scan, form, taken, bind, Except.bind, ih]

/-- The reader accepts exactly the sequences of options. -/
theorem scan_eq_ok_iff {g g' : Given} {arguments : List OsText} :
    scan g none false arguments = .ok g' ↔ Reads g arguments g' :=
  ⟨reads_of_scan, Reads.scan⟩

/-- What is read of one list of arguments and then of another is read of both together, unless the first ends the
options. -/
theorem Reads.append {g g₁ g' : Given} {first second : List OsText} (reads : Reads g first g₁)
    (open_ : ∀ a ∈ first, Word.ofArgument a ≠ .terminator) (later : Reads g₁ second g') :
    Reads g (first ++ second) g' := by
  induction reads with
  | done => exact later
  | ended form => exact absurd form (open_ _ List.mem_cons_self)
  | attached form named takes taken _ ih =>
    exact .attached form named takes taken (ih (fun a member => open_ a (List.mem_cons_of_mem _ member)) later)
  | separate form named takes plain taken _ ih =>
    exact .separate form named takes plain taken
      (ih (fun a member => open_ a (List.mem_cons_of_mem _ (List.mem_cons_of_mem _ member))) later)
  | switch form named takes taken _ ih =>
    exact .switch form named takes taken (ih (fun a member => open_ a (List.mem_cons_of_mem _ member)) later)
  | letters form taken _ ih =>
    exact .letters form taken (ih (fun a member => open_ a (List.mem_cons_of_mem _ member)) later)

end Handover.CommandLine
