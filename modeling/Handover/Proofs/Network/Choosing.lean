import Handover.Network.Binding

namespace Handover.Binding

/-- No candidate of the family can be listened on. -/
def Refused (family : Family) (candidates : List Candidate) : Prop :=
  ∀ c ∈ candidates, family.admits c.endpoint = true → c.refusal ≠ none

/-- No candidate is of the family. -/
def Foreign (family : Family) (candidates : List Candidate) : Prop :=
  ∀ c ∈ candidates, family.admits c.endpoint = false

theorem admitted_eq_nil_iff {family : Family} {candidates : List Candidate} :
    admitted family candidates = [] ↔ Foreign family candidates := by
  simp only [admitted, List.filter_eq_nil_iff, Bool.not_eq_true, Foreign]

theorem refused_of_admitted {family : Family} {candidates : List Candidate} (refused : Refused family candidates) :
    ∀ c ∈ admitted family candidates, c.refusal ≠ none := by
  intro c member
  obtain ⟨there, admits⟩ := List.mem_filter.1 member
  exact refused c there admits

theorem admitted_append_cons {family : Family} {c : Candidate} (admits : family.admits c.endpoint = true)
    (before after : List Candidate) :
    admitted family (before ++ c :: after) = admitted family before ++ c :: admitted family after := by
  simp only [admitted, List.filter_append, List.filter_cons, admits, if_true]

theorem admits_of_mem_admitted {family : Family} {candidates : List Candidate} {e : Endpoint}
    (member : e ∈ (admitted family candidates).map (·.endpoint)) : family.admits e = true := by
  obtain ⟨c, there, rfl⟩ := List.mem_map.1 member
  exact (List.mem_filter.1 there).2

/-- Refused candidates are passed over; all that is left of them is the last refusal. -/
theorem tryAll_append (address : String) (last : Failure) {before : List Candidate}
    (refused : ∀ c ∈ before, c.refusal ≠ none) (rest : List Candidate) :
    ∃ last', tryAll address last (before ++ rest) =
      ⟨before.map (·.endpoint) ++ (tryAll address last' rest).tried, (tryAll address last' rest).result⟩ := by
  induction before generalizing last with
  | nil => exact ⟨last, rfl⟩
  | cons c before ih =>
    obtain ⟨failure, refusal⟩ := Option.ne_none_iff_exists'.1 (refused c List.mem_cons_self)
    obtain ⟨last', tried⟩ := ih failure fun d member => refused d (List.mem_cons_of_mem c member)
    refine ⟨last', ?_⟩
    simp only [List.cons_append, tryAll, refusal, tried, List.map_cons]

/-- The candidate that decides, if there is one of the family: the first that can be listened on, or else the last. -/
theorem exists_decisive (family : Family) (candidates : List Candidate) :
    (∃ before c after, candidates = before ++ c :: after ∧ family.admits c.endpoint = true ∧ Refused family before ∧
        (c.refusal = none ∨ c.refusal ≠ none ∧ Foreign family after)) ∨
      Foreign family candidates := by
  induction candidates with
  | nil => exact Or.inr fun c member => absurd member List.not_mem_nil
  | cons c rest ih =>
    have none_before : Refused family [] := fun d member => absurd member List.not_mem_nil
    by_cases free : family.admits c.endpoint = true ∧ c.refusal = none
    · exact Or.inl ⟨[], c, rest, rfl, free.1, none_before, Or.inl free.2⟩
    have refused : family.admits c.endpoint = true → c.refusal ≠ none := fun admits none_ => free ⟨admits, none_⟩
    rcases ih with ⟨before, d, after, rfl, admits, earlier, decides⟩ | foreign
    · exact Or.inl ⟨c :: before, d, after, rfl, admits, List.forall_mem_cons.2 ⟨refused, earlier⟩, decides⟩
    · cases admits : family.admits c.endpoint with
      | false => exact Or.inr (List.forall_mem_cons.2 ⟨admits, foreign⟩)
      | true => exact Or.inl ⟨[], c, rest, rfl, admits, none_before, Or.inr ⟨refused admits, foreign⟩⟩

/-- What comes of listening on one of some candidates. -/
inductive Chooses (address : String) (family : Family) (candidates : List Candidate) : Binding → Prop
  | listen {before c after} : candidates = before ++ c :: after → family.admits c.endpoint = true →
      Refused family before → c.refusal = none →
      Chooses address family candidates ⟨(admitted family before).map (·.endpoint) ++ [c.endpoint], .ok c.endpoint⟩
  | refuse {before c after failure} : candidates = before ++ c :: after → family.admits c.endpoint = true →
      Refused family candidates → c.refusal = some failure → Foreign family after →
      Chooses address family candidates ⟨(admitted family candidates).map (·.endpoint), .error (.bind address failure)⟩
  | unresolved : Foreign family candidates →
      Chooses address family candidates ⟨[], .error (.unresolved address family.name)⟩

theorem chooses_first (address : String) (family : Family) (candidates : List Candidate) :
    Chooses address family candidates (first address family candidates) := by
  rcases exists_decisive family candidates with ⟨before, c, after, same, admits, earlier, decides⟩ | foreign
  · have parts : admitted family candidates = admitted family before ++ c :: admitted family after := by
      rw [same, admitted_append_cons admits]
    have tries : first address family candidates =
        tryAll address (.described .other "no bind attempt made") (admitted family candidates) := by
      unfold first
      split
      · rename_i none_
        simp [none_] at parts
      · rfl
    obtain ⟨last, tried⟩ := tryAll_append address (.described .other "no bind attempt made")
      (refused_of_admitted earlier) (c :: admitted family after)
    rw [tries, parts, tried]
    rcases decides with free | ⟨refused, foreign⟩
    · simp only [tryAll, free]
      exact .listen same admits earlier free
    · obtain ⟨failure, refusal⟩ := Option.ne_none_iff_exists'.1 refused
      have all : Refused family candidates := by
        intro d member own
        rw [same] at member
        rcases List.mem_append.1 member with before | here
        · exact earlier d before own
        rcases List.mem_cons.1 here with rfl | later
        · exact refused
        · rw [foreign d later] at own
          cases own
      have chosen : Chooses address family candidates _ := .refuse same admits all refusal foreign
      rw [parts, List.map_append, admitted_eq_nil_iff.2 foreign] at chosen
      rw [admitted_eq_nil_iff.2 foreign]
      simpa only [tryAll, refusal, List.map_cons, List.map_nil] using chosen
  · rw [first, admitted_eq_nil_iff.2 foreign]
    exact .unresolved foreign

/-- The right one of some candidates is listened on, or the right reason is given why there is none. -/
structure Right (address : String) (family : Family) (candidates : List Candidate) (b : Binding) : Prop where
  succeeds : (∃ e, b.result = .ok e) ↔ ∃ c ∈ candidates, family.admits c.endpoint = true ∧ c.refusal = none
  listens : ∀ e, b.result = .ok e → ∃ before c after, candidates = before ++ c :: after ∧ c.endpoint = e ∧
    family.admits e = true ∧ c.refusal = none ∧ Refused family before ∧
    b.tried = (admitted family before).map (·.endpoint) ++ [e]
  unresolved : b.result = .error (.unresolved address family.name) ↔ Foreign family candidates
  untried : Foreign family candidates → b.tried = []
  refused : ∀ fault, b.result = .error fault → ¬ Foreign family candidates →
    ∃ before c after failure, candidates = before ++ c :: after ∧ family.admits c.endpoint = true ∧
      c.refusal = some failure ∧ Foreign family after ∧ fault = .bind address failure ∧
      b.tried = (admitted family candidates).map (·.endpoint)
  admits : ∀ e ∈ b.tried, family.admits e = true

/-- The first candidate of the family that can be listened on is listened on, whatever the candidates are, and whenever
an address is looked up the candidates are its endpoints. -/
theorem first_is_right (address : String) (family : Family) (candidates : List Candidate) :
    Right address family candidates (first address family candidates) ∧
      ∀ (net : Network) (endpoints : List Endpoint), net.lookup address = .ok endpoints →
        candidates = endpoints.map net.candidate →
          net.bind address family = (first address family candidates).result := by
  refine ⟨?_, fun net endpoints found same => by unfold Network.bind; rw [found, same]⟩
  have chosen := chooses_first address family candidates
  generalize first address family candidates = b at chosen ⊢
  cases chosen with
  | @listen before c after same admits earlier free =>
    have member : c ∈ candidates := same ▸ List.mem_append_right _ List.mem_cons_self
    have own : ¬ Foreign family candidates := fun foreign => by simp [foreign c member] at admits
    refine ⟨⟨fun _ => ⟨c, member, admits, free⟩, fun _ => ⟨_, rfl⟩⟩, ?_, ⟨nofun, fun foreign => absurd foreign own⟩,
      fun foreign => absurd foreign own, nofun, ?_⟩
    · rintro e ⟨⟩
      exact ⟨before, c, after, same, rfl, admits, free, earlier, rfl⟩
    · intro e tried
      rcases List.mem_append.1 tried with before | last
      · exact admits_of_mem_admitted before
      · rw [List.mem_singleton.1 last, admits]
  | @refuse before c after failure same admits all refusal foreign =>
    have member : c ∈ candidates := same ▸ List.mem_append_right _ List.mem_cons_self
    have own : ¬ Foreign family candidates := fun foreign => by simp [foreign c member] at admits
    refine ⟨⟨nofun, fun ⟨d, there, of_family, free⟩ => absurd free (all d there of_family)⟩, nofun,
      ⟨nofun, fun foreign => absurd foreign own⟩, fun foreign => absurd foreign own, ?_, fun e => admits_of_mem_admitted⟩
    rintro fault ⟨⟩ _
    exact ⟨before, c, after, failure, same, admits, refusal, foreign, rfl, rfl⟩
  | unresolved foreign =>
    refine ⟨⟨nofun, fun ⟨c, member, admits, _⟩ => ?_⟩, nofun, ⟨fun _ => foreign, fun _ => rfl⟩, fun _ => rfl,
      fun _ _ own => absurd foreign own, fun e member => absurd member List.not_mem_nil⟩
    rw [foreign c member] at admits
    cases admits

namespace Sample

/-- Three endpoints of one name, of which the second is taken. -/
def several : Network where
  hosts _ := .ok [.v6 [], .v4 10 0 0 1, .v4 10 0 0 2]
  refuses e := if e.host = .v4 10 0 0 1 then some .addressNotAvailable else none

end Sample

/-- The first endpoint is of another family and the second is refused. -/
theorem third_endpoint_is_listened_on :
    ∃ endpoints, Sample.several.lookup "host:80" = .ok endpoints ∧
      Right "host:80" .tcp4 (endpoints.map Sample.several.candidate)
        ⟨[⟨.v4 10 0 0 1, 80⟩, ⟨.v4 10 0 0 2, 80⟩], .ok ⟨.v4 10 0 0 2, 80⟩⟩ ∧
      Sample.several.bind "host:80" .tcp4 = .ok ⟨.v4 10 0 0 2, 80⟩ := by
  have found : Sample.several.lookup "host:80" =
      .ok [⟨.v6 [], 80⟩, ⟨.v4 10 0 0 1, 80⟩, ⟨.v4 10 0 0 2, 80⟩] := rfl
  obtain ⟨right, binds⟩ := first_is_right "host:80" .tcp4 _
  exact ⟨_, found, right, binds _ _ found rfl⟩

end Handover.Binding
