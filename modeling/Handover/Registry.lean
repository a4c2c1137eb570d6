import Handover.Fault
import Handover.Span
import Handover.Text.Quoted

namespace Handover

/-- What is known of one address. It is claimed as soon as a service is being started for it. -/
structure Slot (σ : Type) where
  address : String
  claimed : Bool := false
  service : Option σ := none
deriving DecidableEq, Repr

/-- The services of a process by the address they were asked for. Every address gets an ordinal when it first appears
and keeps it, and an address is claimed by at most one service. -/
structure Registry (σ : Type) where
  slots : List (Slot σ) := []
  restarting : Bool := false
deriving DecidableEq, Repr

namespace Registry

variable {σ : Type}

/-- The ordinal of an address, if it has one. -/
def ordinalOf? (r : Registry σ) (address : String) : Option Nat :=
  r.slots.findIdx? fun slot => slot.address == address

def size (r : Registry σ) : Nat := r.slots.length

/-- The addresses by ordinal. -/
def addresses (r : Registry σ) : List String := r.slots.map (·.address)

/-- Gives every address in turn an ordinal; those that have one already are returned. -/
def seed (r : Registry σ) : List String → Registry σ × List String
  | [] => (r, [])
  | address :: rest =>
    match r.ordinalOf? address with
    | some _ => let (r, repeated) := r.seed rest; (r, address :: repeated)
    | none => seed { r with slots := r.slots ++ [{ address }] } rest

/-- The registry of a replacement to which `order` was handed over, with the addresses that are listed in it
again. -/
def withOrder (order : List String) : Registry σ × List String := seed {} order

def modify (r : Registry σ) (ordinal : Nat) (f : Slot σ → Slot σ) : Registry σ :=
  { r with slots := r.slots.modify ordinal f }

/-- Claims an address for a service that is about to start; it gets an ordinal if it has none. -/
def reserve (r : Registry σ) (address : String) : Except Fault (Nat × Registry σ) :=
  match r.ordinalOf? address with
  | none => .ok (r.slots.length, { r with slots := r.slots ++ [{ address, claimed := true }] })
  | some ordinal =>
    if (r.slots[ordinal]?.map (·.claimed)).getD false then .error (.alreadyServing address)
    else .ok (ordinal, r.modify ordinal fun slot => { slot with claimed := true })

/-- Gives up the claim of a service that did not start. The ordinal stays, and so does a service. -/
def release (r : Registry σ) (ordinal : Nat) : Registry σ :=
  r.modify ordinal fun slot => if slot.service.isNone then { slot with claimed := false } else slot

/-- Records the service that was started for an ordinal. -/
def attach (r : Registry σ) (ordinal : Nat) (service : σ) : Except Fault (Registry σ) :=
  match r.slots[ordinal]? with
  | some ⟨address, _, some _⟩ => .error (.alreadyServing address)
  | _ => .ok (r.modify ordinal fun slot => { slot with claimed := true, service := some service })

/-- Claims an address for a service that is already there. -/
def register (r : Registry σ) (address : String) (service : σ) : Except Fault (Nat × Registry σ) := do
  let (ordinal, r) ← r.reserve address
  return (ordinal, ← r.attach ordinal service)

def service? (r : Registry σ) (ordinal : Nat) : Option σ := r.slots[ordinal]?.bind (·.service)

def update (r : Registry σ) (ordinal : Nat) (f : σ → σ) : Registry σ :=
  r.modify ordinal fun slot => { slot with service := slot.service.map f }

def numbered (r : Registry σ) : List (Nat × Slot σ) := r.slots.zipIdx.map fun p => (p.2, p.1)

/-- The ordinals and addresses without a service, by ordinal. -/
def unattached (r : Registry σ) : List (Nat × String) :=
  (r.numbered.filter fun p => p.2.service.isNone).map fun p => (p.1, p.2.address)

/-- The services with their ordinals and addresses, by ordinal. -/
def attached (r : Registry σ) : List (Nat × String × σ) :=
  r.numbered.filterMap fun p => p.2.service.map fun service => (p.1, p.2.address, service)

/-- The services by ordinal. -/
def services (r : Registry σ) : List σ := r.slots.filterMap (·.service)

/-- The first service that satisfies a condition, with its ordinal. -/
def find? (r : Registry σ) (p : σ → Bool) : Option (Nat × σ) :=
  (r.attached.find? fun e => p e.2.2).map fun e => (e.1, e.2.2)

/-- Begins a restart unless one is under way. -/
def beginRestart? (r : Registry σ) : Option (Registry σ) :=
  if r.restarting then none else some { r with restarting := true }

def clearRestart (r : Registry σ) : Registry σ := { r with restarting := false }

/-- A description of the registry, in which `describe` tells of the services. -/
def text (describe : σ → String) (r : Registry σ) : String :=
  let ordinal (e : Nat × Slot σ) : String := Text.quote e.2.address ++ ": " ++ toString e.1
  let slot (s : Slot σ) : String :=
    "Slot \x7b address: " ++ Text.quote s.address ++ ", claimed: " ++ toString s.claimed ++ ", service: " ++
      optionText describe s.service ++ " \x7d"
  "ServiceRegistry \x7b inner: Mutex \x7b data: RegistryInner \x7b ordinals: \x7b" ++
    ", ".intercalate (r.numbered.map ordinal) ++ "\x7d, slots: [" ++ ", ".intercalate (r.slots.map slot) ++
    "], restart_triggered: " ++ toString r.restarting ++ " \x7d \x7d \x7d"

end Registry

end Handover
