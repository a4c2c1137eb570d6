import Handover.Proofs.Program.Encrypting
import Handover.Proofs.Service.Arming
import Handover.Proofs.Text.Numerals

namespace Handover

namespace Settings

/-- What comes of the value of the variable: a limit and what is to be logged. -/
structure Exact (value : Option OsText) (limit : Option Span) (notices : List Notice) : Prop where
  seconds : ∀ text raw n, value = some text → text.text? = some raw → Numeral.Shows raw.toList n → n < Nat.pow 2 64 →
    limit = (if n = 0 then none else some (.ofSeconds n)) ∧ notices = []
  other : ∀ text raw, value = some text → text.text? = some raw →
    (∀ n, Numeral.Shows raw.toList n → ¬ n < Nat.pow 2 64) →
      limit = some (.ofSeconds 60) ∧
        ∃ fault, notices = [.invalidDrainTimeout "MSKIT_DRAIN_TIMEOUT_SECS" raw fault]
  absent : (value = none ∨ ∃ text, value = some text ∧ text.text? = none) →
    limit = some (.ofSeconds 60) ∧ notices = []

theorem exact_readDrainTimeout (value : Option OsText) :
    Exact value (readDrainTimeout value).1 (readDrainTimeout value).2 := by
  refine ⟨?seconds, ?other, ?absent⟩
  case seconds =>
    rintro text raw n rfl utf8 shows below
    have read := Numeral.read_trimBlanks_eq_ok.2 ⟨shows, below⟩
    simp only [readDrainTimeout, Option.bind_some, utf8, read]
    cases n <;> exact ⟨rfl, rfl⟩
  case other =>
    rintro text raw rfl utf8 other
    simp only [readDrainTimeout, Option.bind_some, utf8]
    cases read : Numeral.read (Nat.pow 2 64) (Text.trimBlanks raw.toList) with
    | ok n =>
      obtain ⟨shows, below⟩ := Numeral.read_trimBlanks_eq_ok.1 read
      exact absurd below (other n shows)
    | error fault => exact ⟨rfl, fault, rfl⟩
  case absent =>
    rintro (rfl | ⟨text, rfl, foreign⟩)
    · exact ⟨rfl, rfl⟩
    · rw [readDrainTimeout, Option.bind_some, foreign]
      exact ⟨rfl, rfl⟩

example : readDrainTimeout (some (.ofString "\u2003+0018446744073709551615\n")) =
    (some (.ofSeconds 18446744073709551615), []) := by
  rw [readDrainTimeout, Option.bind_some, OsText.text?_ofString]
  rfl

/-- The limit that is read is not zero, so that no service takes it for none. -/
theorem positive?_readDrainTimeout (value : Option OsText) :
    positive? (readDrainTimeout value).1 = (readDrainTimeout value).1 := by
  unfold readDrainTimeout
  split
  · rfl
  · split
    · rfl
    · rename_i n nonzero _
      refine positive?_eq_some.2 ⟨rfl, ?_⟩
      simpa [Span.isZero, Span.ofSeconds, Span.ofParts] using nonzero
    · rfl

end Settings

namespace Server

variable {first p p' : Server}

/-- Every service has the drain timeout of its process. -/
def Limits (p : Server) : Prop :=
  ∀ (o : Nat) (s : Service), p.registry.service? o = some s → s.life.Limited (positive? p.settings.drainTimeout)

theorem Limits.move? {site : Site} {now : Nat} {m : Move} (limits : p.Limits) (claims : p.Claims)
    (move : p.move? site now m = some p') : p'.Limits := by
  intro o s there
  rw [(Onward.move? claims move).settings]
  cases before : p.registry.service? o with
  | none =>
    obtain ⟨_, _, l, _, _, _, life⟩ := appears_of_move? claims before move there
    rw [life]
    exact .onListener l _
  | some earlier =>
    obtain ⟨s', there', bears⟩ := continues_of_move? claims before move
    obtain rfl : s' = s := Option.some.inj (there'.symm.trans there)
    exact (limits o earlier before).bears bears

theorem Run.limits {may : Server → Site → Move → Prop} (run : Run may first p) (claims : first.Claims)
    (vacant : ∀ o, first.registry.service? o = none) : p.Limits := by
  refine run.keep_of_claims (fun claims limits move => limits.move? claims move) claims fun o s there => ?_
  rw [vacant] at there
  cases there

end Server

namespace Program

open CommandLine Server

theorem settings_serves (addresses : List String) (options : Options) (p : Server) :
    (addresses.foldl (fun p address => p.serve address options) p).settings = p.settings := by
  induction addresses generalizing p with
  | nil => rfl
  | cons address rest ih => exact ih _

theorem settings_start (command : Command) (value : Option OsText) (arguments : List OsText)
    (handed : List (Option OpenFile)) (parent nextSocket now : Nat) :
    (start command value arguments handed parent nextSocket now).settings = (Settings.ofEnvironment value).1 :=
  (settings_serves _ _ _).trans
    (start_configured command.markers (Settings.ofEnvironment value).1 arguments handed parent nextSocket now).1

/-- The variable is read exactly, and a service that is made with what is read, or by a process that is started with the
value, sets its watchdog exactly if there is a limit. -/
theorem drain_timeout_as_read (value : Option OsText) :
    Settings.Exact value (Settings.ofEnvironment value).1.drainTimeout (Settings.ofEnvironment value).2 ∧
      (∀ listener l, (Lifecycle.onListener listener (Settings.ofEnvironment value).1.drainTimeout).Leads l →
        l.Arms (Settings.ofEnvironment value).1.drainTimeout) ∧
      ∀ (command : Command) (arguments : List OsText) (handed : List (Option OpenFile)) (parent nextSocket now : Nat)
        (p : Server) (o : Nat) (s : Service),
        Reach (start command value arguments handed parent nextSocket now) p → p.registry.service? o = some s →
          s.life.Arms (Settings.ofEnvironment value).1.drainTimeout := by
  have positive : positive? (Settings.ofEnvironment value).1.drainTimeout = (Settings.ofEnvironment value).1.drainTimeout :=
    Settings.positive?_readDrainTimeout value
  refine ⟨Settings.exact_readDrainTimeout value, fun listener l leads => ?_,
    fun command arguments handed parent nextSocket now p o s run there => ?_⟩
  · rw [← positive]
    exact ((Lifecycle.Limited.onListener listener _).leads leads).arms
  · obtain ⟨fresh, _⟩ := fresh_start command value arguments handed parent nextSocket now
    have limited := run.limits fresh.claims fresh.service o s there
    rw [(run.onward fresh.claims).settings, settings_start, positive] at limited
    exact limited.arms

end Program

namespace Sample

def plainCommand : CommandLine.Command where
  listen := ["127.0.0.1:80"]
  family := .tcp
  timeout := 0
  certificate := none
  key := none
  clientAuthorities := none
  prettyLogs := false
  markers := {}

/-- A program with a limit of five seconds. -/
def limited : Server := Program.start plainCommand (some (.ofString " +005\n")) [] [] 1 9 0

/-- It serves its address. -/
def limitedServing : Server := after limited (List.replicate 7 (.call 0))

end Sample

theorem five_seconds_arm_watchdog :
    Numeral.Shows " +005\n".toList 5 ∧ ∃ p s, Server.Reach Sample.limited p ∧ p.registry.service? 0 = some s ∧
      s.life.phase = .running ∧ s.life.Arms (some (.ofSeconds 5)) := by
  have shows : Numeral.Shows " +005\n".toList 5 :=
    ⟨[' '], ['+', '0', '0', '5'], ['\n'], rfl, List.all_eq_true.1 rfl, List.all_eq_true.1 rfl, ['+'], ['0', '0', '5'],
      rfl, Or.inr rfl, by decide, List.all_eq_true.1 rfl, rfl⟩
  have run : Server.Reach Sample.limited Sample.limitedServing :=
    Server.Run.start.moves Sample.site 0 (List.replicate 7 (.call 0)) rfl
  obtain ⟨s, there, running⟩ : ∃ s, Sample.limitedServing.registry.service? 0 = some s ∧ s.life.phase = .running :=
    ⟨_, rfl, rfl⟩
  obtain ⟨reads, _, arms⟩ := Program.drain_timeout_as_read (some (.ofString " +005\n"))
  have limit := (reads.seconds _ _ 5 rfl (OsText.text?_ofString _) shows (by decide)).1
  have armed := arms _ _ _ _ _ _ _ _ _ run there
  rw [limit] at armed
  exact ⟨shows, _, s, run, there, running, armed⟩

end Handover
