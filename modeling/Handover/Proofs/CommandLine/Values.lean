import Handover.Proofs.CommandLine.Markers

namespace Handover.CommandLine

/-- The option with a value attached. -/
def Flag.attached (f : Flag) (value : OsText) : OsText := ⟨(OsText.ofString (f.name ++ "=")).bytes ++ value.bytes⟩

/-- An argument is the option, by itself or with a value attached. -/
def Flag.Names (f : Flag) (a : OsText) : Prop := a = .ofString f.name ∨ ∃ value, a = f.attached value

/-- The option occurs among the arguments. -/
def Occurs (f : Flag) (arguments : List OsText) : Prop := ∃ a ∈ arguments, f.Names a

/-- The arguments give the option a value, attached to it or as the next argument. -/
def Gives (f : Flag) (value : OsText) (arguments : List OsText) : Prop :=
  f.attached value ∈ arguments ∨ [.ofString f.name, value] <:+: arguments

/-- The name of an option behind its dashes. -/
def Flag.stem (f : Flag) : OsText := ⟨(OsText.ofString f.name).bytes.drop 2⟩

theorem Flag.word_name (f : Flag) : Word.ofArgument (.ofString f.name) = .long f.stem none := by
  cases f <;> rfl

theorem Flag.word_attached (f : Flag) (value : OsText) :
    Word.ofArgument (f.attached value) = .long f.stem (some value) := by
  cases f <;> rfl

theorem Flag.flag?_stem (f : Flag) : Word.flag? f.stem = some f := by
  cases f <;> decide

theorem Word.eq_attached {a name value : OsText} {flag : Flag} (form : ofArgument a = .long name (some value))
    (named : flag? name = some flag) : a = flag.attached value := by
  have bytes := bytes_of_flag? form named
  rw [Option.map_some, Option.getD_some] at bytes
  cases a
  rw [Flag.attached, OsText.mk.injEq, OsText.bytes_ofString_append, List.append_assoc]
  exact bytes

/-- What is read as an option is this option and no other. -/
theorem Flag.names_iff {f flag : Flag} {a name : OsText} {value : Option OsText}
    (form : Word.ofArgument a = .long name value) (named : Word.flag? name = some flag) : f.Names a ↔ flag = f := by
  constructor
  · rintro (rfl | ⟨value', rfl⟩)
    · rw [f.word_name] at form
      cases form
      exact Option.some.inj (named.symm.trans f.flag?_stem)
    · rw [f.word_attached] at form
      cases form
      exact Option.some.inj (named.symm.trans f.flag?_stem)
  · rintro rfl
    cases value with
    | none => exact .inl (Word.eq_ofString_of_bare form named)
    | some value => exact .inr ⟨value, Word.eq_attached form named⟩

theorem Flag.not_names {f : Flag} {a : OsText} (form : ∀ name value, Word.ofArgument a ≠ .long name value) :
    ¬ f.Names a := by
  rintro (rfl | ⟨value, rfl⟩)
  · exact form _ _ f.word_name
  · exact form _ _ (f.word_attached value)

theorem Flag.attached_injective {f : Flag} {value value' : OsText} (same : f.attached value = f.attached value') :
    value = value' := by
  have word := f.word_attached value
  rw [same, f.word_attached] at word
  cases word
  rfl

theorem Flag.attached_ne_name (f : Flag) (value : OsText) : f.attached value ≠ .ofString f.name := by
  intro same
  have word := f.word_attached value
  rw [same, f.word_name] at word
  cases word

section

variable {f : Flag} {a value : OsText} {rest : List OsText}

theorem occurs_cons : Occurs f (a :: rest) ↔ f.Names a ∨ Occurs f rest := by
  simp [Occurs]

theorem gives_cons :
    Gives f value (a :: rest) ↔ a = f.attached value ∨ (a = .ofString f.name ∧ [value] <+: rest) ∨ Gives f value rest := by
  rw [Gives, Gives, List.mem_cons, List.infix_cons_iff, List.cons_prefix_cons, @eq_comm _ a, @eq_comm _ a]
  constructor
  · rintro ((here | later) | (here | later))
    · exact .inl here
    · exact .inr (.inr (.inl later))
    · exact .inr (.inl here)
    · exact .inr (.inr (.inr later))
  · rintro (here | here | later | later)
    · exact .inl (.inl here)
    · exact .inr (.inl here)
    · exact .inl (.inr later)
    · exact .inr (.inr later)

theorem Gives.occurs (gives : Gives f value rest) : Occurs f rest := by
  rcases gives with attached | next
  · exact ⟨_, attached, .inr ⟨value, rfl⟩⟩
  · exact ⟨_, next.subset List.mem_cons_self, .inl rfl⟩

theorem gives_cons_of_not_names (other : ¬ f.Names a) : Gives f value (a :: rest) ↔ Gives f value rest := by
  rw [gives_cons]
  constructor
  · rintro (rfl | ⟨rfl, -⟩ | later)
    · exact absurd (.inr ⟨value, rfl⟩) other
    · exact absurd (.inl rfl) other
    · exact later
  · exact fun later => .inr (.inr later)

end

/-- The option may be given once, and `field` is where the meaning of its value is kept. -/
structure Once {α : Type} (f : Flag) (field : Given → Option α) (meaning : OsText → Option α) : Prop where
  takesValue : f.takesValue = true
  taken {g g₁ : Given} {value : OsText} : g.takeValue f value = .ok g₁ →
    field g = none ∧ ∃ a, meaning value = some a ∧ field g₁ = some a
  other {g g₁ : Given} {flag : Flag} {value : OsText} : flag ≠ f → g.takeValue flag value = .ok g₁ → field g₁ = field g
  switch {g g₁ : Given} {flag : Flag} : g.takeSwitch flag = .ok g₁ → field g₁ = field g

/-- Arguments do not mention an option and leave its field as it is, or give it one value. -/
inductive Tells {α : Type} (f : Flag) (field : Given → Option α) (meaning : OsText → Option α) (l : List OsText)
    (g g' : Given) : Prop
  | silent : ¬ Occurs f l → field g' = field g → Tells f field meaning l g g'
  | gives {value a} : (∀ v, Gives f v l ↔ v = value) → meaning value = some a → field g = none → field g' = some a →
      Tells f field meaning l g g'

section

variable {α : Type} {f : Flag} {field : Given → Option α} {meaning : OsText → Option α} {g g₁ g' : Given} {a : OsText}
  {l : List OsText}

theorem Tells.cons (tells : Tells f field meaning l g₁ g') (other : ¬ f.Names a) (kept : field g₁ = field g) :
    Tells f field meaning (a :: l) g g' := by
  cases tells with
  | silent silent same =>
    refine .silent ?_ (same.trans kept)
    rw [occurs_cons, not_or]
    exact ⟨other, silent⟩
  | gives values means free given =>
    exact .gives (fun v => (gives_cons_of_not_names other).trans (values v)) means (kept.symm.trans free) given

/-- An option that was given is not given again. -/
theorem Tells.silent_of_given {given : α} (tells : Tells f field meaning l g₁ g') (taken : field g₁ = some given) :
    ¬ Occurs f l ∧ field g' = some given := by
  cases tells with
  | silent silent same => exact ⟨silent, same.trans taken⟩
  | gives _ _ free =>
    rw [taken] at free
    cases free

theorem Once.tells (once : Once f field meaning) (reads : Reads g l g') : Tells f field meaning l g g' := by
  induction reads with
  | done => exact .silent (by simp [Occurs]) rfl
  | ended form =>
    refine .silent ?_ rfl
    rintro ⟨a, member, names⟩
    cases List.mem_singleton.1 member
    exact Flag.not_names (by simp [form]) names
  | @attached g g₁ g' a name value flag rest form named takes taken _ ih =>
    by_cases here : flag = f
    · subst here
      obtain ⟨free, given, means, kept⟩ := once.taken taken
      obtain ⟨silent, after⟩ := ih.silent_of_given kept
      refine .gives (fun v => ?_) means free after
      rw [gives_cons, Word.eq_attached form named]
      constructor
      · rintro (same | ⟨same, -⟩ | later)
        · exact (Flag.attached_injective same).symm
        · exact absurd same (flag.attached_ne_name value)
        · exact absurd later.occurs silent
      · rintro rfl
        exact .inl rfl
    · exact ih.cons (fun names => here ((Flag.names_iff form named).1 names)) (once.other here taken)
  | @separate g g₁ g' a name value flag rest form named takes plain taken _ ih =>
    have unnamed : ¬ f.Names value := Flag.not_names (by simp [plain])
    by_cases here : flag = f
    · subst here
      obtain ⟨free, given, means, kept⟩ := once.taken taken
      obtain ⟨silent, after⟩ := ih.silent_of_given kept
      refine .gives (fun v => ?_) means free after
      rw [gives_cons, gives_cons_of_not_names unnamed, Word.eq_ofString_of_bare form named]
      constructor
      · rintro (same | ⟨-, next⟩ | later)
        · exact absurd same.symm (flag.attached_ne_name v)
        · exact (List.cons_prefix_cons.1 next).1
        · exact absurd later.occurs silent
      · rintro rfl
        exact .inr (.inl ⟨rfl, List.cons_prefix_cons.2 ⟨rfl, List.nil_prefix⟩⟩)
    · exact (ih.cons unnamed rfl).cons (fun names => here ((Flag.names_iff form named).1 names)) (once.other here taken)
  | @switch g g₁ g' a name flag rest form named takes taken _ ih =>
    refine ih.cons (fun names => ?_) (once.switch taken)
    rw [(Flag.names_iff form named).1 names, once.takesValue] at takes
    cases takes
  | letters form taken _ ih =>
    obtain ⟨rfl, -⟩ := takeLetters_eq_ok taken
    exact ih.cons (Flag.not_names (by simp [form])) rfl

/-- What is known in the end of an option that may be given once. -/
theorem Once.of_reads (once : Once f field meaning) (reads : Reads g l g') (fresh : field g = none) :
    (field g' = none ∧ ¬ Occurs f l) ∨
      ∃ value a, (∀ v, Gives f v l ↔ v = value) ∧ meaning value = some a ∧ field g' = some a := by
  cases once.tells reads with
  | silent silent same => exact .inl ⟨same.trans fresh, silent⟩
  | gives values means _ given => exact .inr ⟨_, _, values, means, given⟩

end

end Handover.CommandLine
