import Handover.Encryption.Transport
import Handover.Proofs.Server.Opening

namespace Handover

/-- A computation that does not fail but for files that cannot be used for encryption. -/
def FailsAsEncryption {α : Type} (x : Except Fault α) : Prop := ∀ fault, x = .error fault → fault.isEncryption = true

namespace FailsAsEncryption

theorem ok {α : Type} (a : α) : FailsAsEncryption (.ok a) := nofun

theorem error {α : Type} (reason : String) : FailsAsEncryption (.error (.encryption reason) : Except Fault α) := by
  rintro _ ⟨⟩
  rfl

theorem bind {α β : Type} {x : Except Fault α} {f : α → Except Fault β} (first : FailsAsEncryption x)
    (second : ∀ a, FailsAsEncryption (f a)) : FailsAsEncryption (x >>= f) := by
  cases x with
  | error fault =>
    intro fault' failed
    cases failed
    exact first fault rfl
  | ok a => exact second a

end FailsAsEncryption

namespace Material

open FailsAsEncryption

variable (files : Files) (path : OsText)

theorem openFile_fails : FailsAsEncryption (openFile files path) := by
  unfold openFile
  split
  · exact ok _
  · exact error _

theorem readFile_fails (what : String) (body : FileBody) : FailsAsEncryption (readFile what body) := by
  unfold readFile
  split
  · exact ok _
  · exact error _

theorem certificates_fails : FailsAsEncryption (certificates files path) := by
  refine (openFile_fails files path).bind fun body => (readFile_fails _ body).bind fun bytes => ?_
  split
  · exact error _
  · split
    · exact error _
    · exact ok _

theorem privateKey_fails : FailsAsEncryption (privateKey files path) := by
  refine (openFile_fails files path).bind fun body => (readFile_fails _ body).bind fun bytes => ?_
  split
  · exact error _
  · exact error _
  · exact ok _

theorem consult_fails (what : String) (said : Except String Unit) : FailsAsEncryption (consult what said) := by
  unfold consult
  split
  · exact ok _
  · exact error _

theorem trustAll_fails (provider : Provider) (found : List (List UInt8)) :
    FailsAsEncryption (trustAll provider found) := by
  induction found with
  | nil => exact ok _
  | cons bytes rest ih => exact (consult_fails _ _).bind fun _ => ih

theorem loadAuthorities_fails (provider : Provider) : FailsAsEncryption (loadAuthorities provider files path) := by
  refine (certificates_fails files path).bind fun found => (trustAll_fails provider found).bind fun _ => ?_
  exact (consult_fails _ _).bind fun _ => ok _

theorem load_fails (provider : Provider) (paths : EncryptionFiles) : FailsAsEncryption (load files paths provider) := by
  refine (certificates_fails files _).bind fun chain => (privateKey_fails files _).bind fun key => ?_
  refine (consult_fails _ _).bind fun _ => FailsAsEncryption.bind ?_ fun _ => (consult_fails _ _).bind fun _ => ok _
  cases paths.clientAuthorities with
  | none => exact ok _
  | some path => exact (loadAuthorities_fails files path provider).bind fun _ => ok _

/-- The material is what the files hold, all of it, and the library takes it. -/
structure Holds (provider : Provider) (files : Files) (paths : EncryptionFiles) (m : Material) : Prop where
  chain : certificates files paths.certificate = .ok m.chain
  key : privateKey files paths.key = .ok m.key
  authorities : paths.clientAuthorities.mapM (certificates files) = .ok m.authorities
  offered : m.offered = ["h2", "http/1.1"]
  setUp : provider.setUp = .ok ()
  trusted : ∀ found ∈ m.authorities, (∀ bytes ∈ found, provider.trust bytes = .ok ()) ∧ provider.verify found = .ok ()
  certified : provider.certify m.chain m.key = .ok ()

variable {files} {provider : Provider}

theorem consult_eq_ok_iff {what : String} {said : Except String Unit} {u : Unit} :
    consult what said = .ok u ↔ said = .ok () := by
  unfold consult
  split <;> simp

theorem trustAll_eq_ok_iff {found : List (List UInt8)} {u : Unit} :
    trustAll provider found = .ok u ↔ ∀ bytes ∈ found, provider.trust bytes = .ok () := by
  induction found with
  | nil => simp [trustAll]
  | cons bytes rest ih =>
    rw [List.forall_mem_cons, ← ih, trustAll]
    cases trusted : provider.trust bytes with
    | error reason => exact ⟨nofun, fun both => absurd both.1 nofun⟩
    | ok => exact ⟨fun rest => ⟨rfl, rest⟩, And.right⟩

theorem loadAuthorities_eq_ok_iff {path : OsText} {found : List (List UInt8)} :
    loadAuthorities provider files path = .ok found ↔
      certificates files path = .ok found ∧ (∀ bytes ∈ found, provider.trust bytes = .ok ()) ∧
        provider.verify found = .ok () := by
  constructor
  · intro loaded
    obtain ⟨found', read, rest⟩ := exists_of_bind_eq_ok loaded
    obtain ⟨_, trusted, rest⟩ := exists_of_bind_eq_ok rest
    obtain ⟨_, verified, made⟩ := exists_of_bind_eq_ok rest
    cases made
    exact ⟨read, trustAll_eq_ok_iff.1 trusted, consult_eq_ok_iff.1 verified⟩
  · rintro ⟨read, trusted, verified⟩
    rw [loadAuthorities, read]
    change (trustAll provider found >>= fun _ => _) = _
    rw [(trustAll_eq_ok_iff (u := ())).2 trusted, verified]
    rfl

theorem mapM_loadAuthorities_eq_ok_iff {path : Option OsText} {found : Option (List (List UInt8))} :
    path.mapM (loadAuthorities provider files) = .ok found ↔
      path.mapM (certificates files) = .ok found ∧
        ∀ authorities ∈ found, (∀ bytes ∈ authorities, provider.trust bytes = .ok ()) ∧
          provider.verify authorities = .ok () := by
  cases path with
  | none => exact ⟨fun none_ => ⟨none_, by cases none_; exact nofun⟩, And.left⟩
  | some path =>
    constructor
    · intro loaded
      obtain ⟨authorities, among, made⟩ := exists_of_bind_eq_ok loaded
      cases made
      obtain ⟨read, trusted⟩ := loadAuthorities_eq_ok_iff.1 among
      refine ⟨?_, fun _ same => Option.some.inj same ▸ trusted⟩
      change (certificates files path >>= fun _ => _) = _
      rw [read]
      rfl
    · rintro ⟨among, trusted⟩
      obtain ⟨authorities, read, made⟩ := exists_of_bind_eq_ok among
      cases made
      change (loadAuthorities provider files path >>= fun _ => _) = _
      rw [loadAuthorities_eq_ok_iff.2 ⟨read, trusted _ rfl⟩]
      rfl

/-- Material is loaded exactly if it is what the files hold and the library takes it. -/
theorem load_eq_ok_iff {paths : EncryptionFiles} {m : Material} :
    load files paths provider = .ok m ↔ m.Holds provider files paths := by
  constructor
  · intro loaded
    obtain ⟨chain, readChain, rest⟩ := exists_of_bind_eq_ok loaded
    obtain ⟨key, readKey, rest⟩ := exists_of_bind_eq_ok rest
    obtain ⟨_, setUp, rest⟩ := exists_of_bind_eq_ok rest
    obtain ⟨authorities, found, rest⟩ := exists_of_bind_eq_ok rest
    obtain ⟨_, certified, made⟩ := exists_of_bind_eq_ok rest
    cases made
    obtain ⟨read, trusted⟩ := mapM_loadAuthorities_eq_ok_iff.1 found
    exact ⟨readChain, readKey, read, rfl, consult_eq_ok_iff.1 setUp, trusted, consult_eq_ok_iff.1 certified⟩
  · intro holds
    obtain ⟨chain, key, authorities, offered⟩ := m
    obtain rfl := holds.offered
    have found := mapM_loadAuthorities_eq_ok_iff.2 ⟨holds.authorities, holds.trusted⟩
    rw [load, holds.chain]
    change (privateKey files paths.key >>= fun _ => _) = _
    rw [holds.key]
    change (consult _ provider.setUp >>= fun _ => _) = _
    rw [holds.setUp]
    change (paths.clientAuthorities.mapM (loadAuthorities provider files) >>= fun _ => _) = _
    rw [found]
    change (consult _ (provider.certify chain key) >>= fun _ => _) = _
    rw [holds.certified]
    rfl

end Material

namespace Transport

/-- The transport is the one that the options ask for: with files it encrypts connections with what these hold. -/
inductive Fits (provider : Provider) (files : Files) : Option EncryptionFiles → Transport → Prop
  | plain : Fits provider files none plain
  | encrypted {paths material} : material.Holds provider files paths →
      Fits provider files (some paths) (encrypted material)

variable {provider : Provider} {files : Files} {encryption : Option EncryptionFiles} {t : Transport}

theorem load_fails : FailsAsEncryption (load provider files encryption) := by
  cases encryption with
  | none => exact .ok _
  | some paths => exact (Material.load_fails files provider paths).bind fun _ => .ok _

/-- A transport is loaded exactly if it fits. -/
theorem load_eq_ok_iff : load provider files encryption = .ok t ↔ t.Fits provider files encryption := by
  cases encryption with
  | none =>
    refine ⟨fun loaded => ?_, fun fits => ?_⟩
    · cases loaded
      exact .plain
    · cases fits
      rfl
  | some paths =>
    rw [load]
    constructor
    · intro loaded
      obtain ⟨material, read, made⟩ := exists_of_bind_eq_ok (f := fun m => Except.ok (encrypted m)) loaded
      cases made
      exact .encrypted (Material.load_eq_ok_iff.1 read)
    · rintro ⟨⟩
      rename_i holds
      rw [Material.load_eq_ok_iff.2 holds]
      rfl

/-- If no transport fits, loading fails because of what encryption needs. -/
theorem load_of_not_fits (unfit : ∀ t : Transport, ¬ t.Fits provider files encryption) :
    ∃ fault, load provider files encryption = .error fault ∧ fault.isEncryption = true := by
  cases loaded : load provider files encryption with
  | error fault => exact ⟨fault, rfl, load_fails fault loaded⟩
  | ok t => exact absurd (load_eq_ok_iff.1 loaded) (unfit t)

theorem establish_encrypted_eq_ok {material : Material} {s : Stream} {c : Connection}
    (established : (encrypted material).establish provider s = .ok c) :
    ∃ session, provider.handshake material s = .ok session ∧ c = .encrypted s session := by
  rw [establish] at established
  cases handshake : provider.handshake material s with
  | error failure =>
    rw [handshake] at established
    cases established
  | ok session =>
    rw [handshake] at established
    cases established
    exact ⟨session, rfl, rfl⟩

end Transport

end Handover
