import Handover.Proofs.CommandLine.Values

namespace Handover.CommandLine

/-- The options that name files for encryption. -/
def Flag.files : List Flag := [.certificate, .key, .clientAuthorities]

/-- The file that was named by an option. -/
def Given.file? (g : Given) : Flag → Option OsText
  | .certificate => g.certificate
  | .key => g.key
  | .clientAuthorities => g.clientAuthorities
  | _ => none

/-- The seconds that a value stands for. -/
def seconds? (value : OsText) : Option Nat := value.text?.bind fun s => (Numeral.read64 s).toOption

/-- What an option with a value changes, with what has to hold for it. -/
inductive Takes (g : Given) (value : OsText) : Flag → Given → Prop
  | listen {listen} : Takes g value .listen { g with listen }
  | network {family} : Takes g value .network { g with family }
  | timeout {n} : g.timeout = none → seconds? value = some n → Takes g value .timeout { g with timeout := some n }
  | certificate : g.certificate = none → Takes g value .certificate { g with certificate := some value }
  | key : g.key = none → Takes g value .key { g with key := some value }
  | clientAuthorities : g.clientAuthorities = none →
      Takes g value .clientAuthorities { g with clientAuthorities := some value }
  | order {order} : Takes g value .order { g with order }

section

variable {g g₁ : Given} {flag : Flag} {value : OsText}

theorem Given.once_eq_ok {α : Type} {before : Option α} {u : Unit} (free : Given.once flag before = .ok u) :
    before = none := by
  unfold Given.once at free
  split at free
  · cases free
  · rename_i absent
    exact Option.not_isSome_iff_eq_none.1 absent

theorem Given.path_eq_ok {found : OsText} (read : Given.path flag value = .ok found) : found = value := by
  unfold Given.path at read
  split at read
  · cases read
  · exact (Except.ok.inj read).symm

theorem Given.text_eq_ok {s : String} (read : Given.text value = .ok s) : value.text? = some s := by
  unfold Given.text at read
  split at read
  · cases read
  · rename_i found
    cases read
    exact found

theorem takes_of_takeValue (taken : g.takeValue flag value = .ok g₁) : Takes g value flag g₁ := by
  cases flag with
  | listen =>
    obtain ⟨_, _, made⟩ := exists_of_bind_eq_ok taken
    cases made
    exact .listen
  | network =>
    obtain ⟨_, _, rest⟩ := exists_of_bind_eq_ok taken
    obtain ⟨_, _, made⟩ := exists_of_bind_eq_ok rest
    split at made <;> cases made
    exact .network
  | timeout =>
    obtain ⟨_, free, rest⟩ := exists_of_bind_eq_ok taken
    obtain ⟨s, read, made⟩ := exists_of_bind_eq_ok rest
    split at made
    · rename_i n found
      cases made
      exact .timeout (Given.once_eq_ok free) (by simp [seconds?, Given.text_eq_ok read, found, Except.toOption])
    · cases made
  | certificate =>
    obtain ⟨_, free, rest⟩ := exists_of_bind_eq_ok taken
    obtain ⟨_, read, made⟩ := exists_of_bind_eq_ok rest
    cases Given.path_eq_ok read
    cases made
    exact .certificate (Given.once_eq_ok free)
  | key =>
    obtain ⟨_, free, rest⟩ := exists_of_bind_eq_ok taken
    obtain ⟨_, read, made⟩ := exists_of_bind_eq_ok rest
    cases Given.path_eq_ok read
    cases made
    exact .key (Given.once_eq_ok free)
  | clientAuthorities =>
    obtain ⟨_, free, rest⟩ := exists_of_bind_eq_ok taken
    obtain ⟨_, read, made⟩ := exists_of_bind_eq_ok rest
    cases Given.path_eq_ok read
    cases made
    exact .clientAuthorities (Given.once_eq_ok free)
  | order =>
    obtain ⟨_, _, made⟩ := exists_of_bind_eq_ok taken
    cases made
    exact .order
  | prettyLogs | graceful | help | version => cases taken

theorem eq_of_takeSwitch (taken : g.takeSwitch flag = .ok g₁) :
    ∃ prettyLogs graceful, g₁ = { g with prettyLogs, graceful } := by
  cases flag with
  | prettyLogs | graceful =>
    simp only [Given.takeSwitch] at taken
    split at taken <;> cases taken
    exact ⟨_, _, rfl⟩
  | _ => cases taken

theorem once_timeout : Once .timeout Given.timeout seconds? where
  takesValue := rfl
  taken taken := by
    cases takes_of_takeValue taken with
    | timeout free found => exact ⟨free, _, found, rfl⟩
  other other taken := by
    cases takes_of_takeValue taken with
    | timeout => exact absurd rfl other
    | _ => rfl
  switch taken := by
    obtain ⟨_, _, rfl⟩ := eq_of_takeSwitch taken
    rfl

theorem once_file (about : flag ∈ Flag.files) : Once flag (·.file? flag) some := by
  simp only [Flag.files, List.mem_cons, List.not_mem_nil, or_false] at about
  refine ⟨?_, fun taken => ?_, fun other taken => ?_, fun taken => ?_⟩
  · rcases about with rfl | rfl | rfl <;> rfl
  · have takes := takes_of_takeValue taken
    rcases about with rfl | rfl | rfl <;> cases takes <;> rename_i free <;> exact ⟨free, _, rfl, rfl⟩
  · have takes := takes_of_takeValue taken
    rcases about with rfl | rfl | rfl <;> cases takes <;> first | rfl | exact absurd rfl other
  · obtain ⟨_, _, rfl⟩ := eq_of_takeSwitch taken
    rcases about with rfl | rfl | rfl <;> rfl

end

/-- The arguments name these files, and authorities exactly if they mention any. -/
structure Named (arguments : List OsText) (files : EncryptionFiles) : Prop where
  certificate : ∀ v, Gives .certificate v arguments ↔ v = files.certificate
  key : ∀ v, Gives .key v arguments ↔ v = files.key
  authorities : ∀ v, Gives .clientAuthorities v arguments ↔ files.clientAuthorities = some v
  mentioned : Occurs .clientAuthorities arguments ↔ files.clientAuthorities.isSome = true

/-- The options of a command carry what its arguments ask for: encryption with exactly the files they name as soon as they
mention any, and on both directions of a connection the seconds they give, if there are any. -/
structure Carries (arguments : List OsText) (command : Command) : Prop where
  encrypted : (∃ f ∈ Flag.files, Occurs f arguments) →
    ∃ files, command.options.encryption = some files ∧ Named arguments files
  plain : (∀ f ∈ Flag.files, ¬ Occurs f arguments) → command.options.encryption = none
  timeouts : command.options.timeouts =
    if 0 < command.timeout then ⟨some (.ofSeconds command.timeout), some (.ofSeconds command.timeout)⟩ else ⟨none, none⟩
  seconds : ¬ Occurs .timeout arguments ∧ command.timeout = 0 ∨
    ∃ value, (∀ v, Gives .timeout v arguments ↔ v = value) ∧ seconds? value = some command.timeout

section

variable {arguments : List OsText} {command : Command}

theorem Given.finish_eq_ok {g : Given} (finished : g.finish = .ok command) :
    g.missing = [] ∧ command.certificate = g.certificate ∧ command.key = g.key ∧
      command.clientAuthorities = g.clientAuthorities ∧ command.timeout = g.timeout.getD 0 := by
  unfold finish at finished
  split at finished
  · rename_i complete
    cases finished
    exact ⟨complete, rfl, rfl, rfl, rfl⟩
  · cases finished

/-- The file that was named by an option is the one that the arguments give, if it occurs in them. -/
theorem file?_of_reads {g : Given} {f : Flag} (reads : Reads {} arguments g) (about : f ∈ Flag.files) :
    (∀ v, Gives f v arguments ↔ g.file? f = some v) ∧ (Occurs f arguments ↔ (g.file? f).isSome = true) := by
  have fresh : Given.file? {} f = none := by cases f <;> rfl
  rcases (once_file about).of_reads reads fresh with ⟨absent, silent⟩ | ⟨value, _, values, ⟨⟩, given⟩
  · rw [absent]
    exact ⟨fun v => ⟨fun gives => absurd gives.occurs silent, nofun⟩, ⟨fun occurs => absurd occurs silent, nofun⟩⟩
  · rw [given]
    refine ⟨fun v => by rw [values, Option.some.injEq, eq_comm], ⟨fun _ => rfl, fun _ => ?_⟩⟩
    exact Gives.occurs ((values value).2 rfl)

/-- Nothing is missing if there is neither file, or there are a certificate and a key. -/
theorem Given.files_of_complete {g : Given} (complete : g.missing = []) :
    (∀ f ∈ Flag.files, g.file? f = none) ∨ ∃ certificate key, g.certificate = some certificate ∧ g.key = some key := by
  simp only [missing, List.append_eq_nil_iff] at complete
  obtain ⟨⟨_, key⟩, certificate⟩ := complete
  cases named : g.certificate <;> cases keyed : g.key <;> cases trusted : g.clientAuthorities <;>
    simp_all [Flag.files, file?]

/-- An accepted command line that mentions no file for encryption asks for none, and one that mentions any names both
certificate and key, and asks for encryption with what it names. -/
theorem encryption_of_parse (accepted : parse arguments = .ok command) :
    (∀ f ∈ Flag.files, ¬ Occurs f arguments) ∧ command.options.encryption = none ∨
      ∃ files, command.options.encryption = some files ∧ Named arguments files := by
  obtain ⟨g, reads, finished⟩ := parse_eq_ok_iff.1 accepted
  obtain ⟨complete, certificate, key, authorities, _⟩ := Given.finish_eq_ok finished
  rcases Given.files_of_complete complete with none_ | ⟨chain, secret, named, keyed⟩
  · left
    refine ⟨fun f about occurs => ?_, ?_⟩
    · have given := (file?_of_reads reads about).2.1 occurs
      rw [none_ f about] at given
      cases given
    · rw [Command.options, Command.encryption, certificate, show g.certificate = none from none_ .certificate (by decide)]
  · right
    have asked : command.options.encryption = some ⟨chain, secret, g.clientAuthorities⟩ := by
      rw [Command.options, Command.encryption, certificate, key, authorities, named, keyed]
    have gives {f : Flag} (about : f ∈ Flag.files) := file?_of_reads reads about
    refine ⟨_, asked, fun v => ?_, fun v => ?_, (gives (f := .clientAuthorities) (by decide)).1,
      (gives (f := .clientAuthorities) (by decide)).2⟩
    · rw [(gives (by decide)).1, Given.file?, named, Option.some.injEq, eq_comm]
    · rw [(gives (by decide)).1, Given.file?, keyed, Option.some.injEq, eq_comm]

/-- An accepted command line gives the seconds of the limit, or none where it does not mention it. -/
theorem timeout_of_parse (accepted : parse arguments = .ok command) :
    ¬ Occurs .timeout arguments ∧ command.timeout = 0 ∨
      ∃ value, (∀ v, Gives .timeout v arguments ↔ v = value) ∧ seconds? value = some command.timeout := by
  obtain ⟨g, reads, finished⟩ := parse_eq_ok_iff.1 accepted
  obtain ⟨_, _, _, _, timeout⟩ := Given.finish_eq_ok finished
  rcases once_timeout.of_reads reads rfl with ⟨absent, silent⟩ | ⟨value, n, values, means, given⟩
  · rw [absent] at timeout
    exact .inl ⟨silent, timeout⟩
  · rw [given] at timeout
    exact .inr ⟨value, values, timeout ▸ means⟩

theorem timeouts_options (command : Command) :
    command.options.timeouts =
      if 0 < command.timeout then ⟨some (.ofSeconds command.timeout), some (.ofSeconds command.timeout)⟩
      else ⟨none, none⟩ := by
  unfold Command.options Options.timeouts Timeouts.effective
  split
  · rename_i positive
    have counts : (Span.ofSeconds command.timeout).isZero = false := by
      simp only [Span.isZero, Span.ofSeconds, Span.ofParts, beq_eq_false_iff_ne]
      omega
    have limit : positive? (some (Span.ofSeconds command.timeout)) = some (.ofSeconds command.timeout) :=
      positive?_eq_some.2 ⟨rfl, counts⟩
    rw [limit]
  · rfl

theorem carries_of_parse (accepted : parse arguments = .ok command) : Carries arguments command where
  encrypted := by
    rintro ⟨f, about, occurs⟩
    rcases encryption_of_parse accepted with ⟨silent, _⟩ | asked
    · exact absurd occurs (silent f about)
    · exact asked
  plain silent := by
    rcases encryption_of_parse accepted with ⟨_, without⟩ | ⟨files, _, named⟩
    · exact without
    · exact absurd ((named.certificate _).2 rfl).occurs (silent .certificate (by decide))
  timeouts := timeouts_options command
  seconds := timeout_of_parse accepted

end

end Handover.CommandLine
