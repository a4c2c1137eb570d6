import Handover.Network.Family

namespace Handover

inductive SocketKind where
  | stream
  | datagram
  | unix
deriving DecidableEq, Repr

/-- An open socket. Every socket that is opened gets an identity of its own; duplicates share it. -/
structure Socket where
  identity : Nat
  kind : SocketKind := .stream
  endpoint : Endpoint
deriving DecidableEq, Repr

inductive OpenFile where
  | socket (s : Socket)
  | other
deriving DecidableEq, Repr

/-- The socket, if the file is one. -/
def OpenFile.socket? : OpenFile → Option Socket
  | .socket s => some s
  | .other => none

/-- What a descriptor refers to. One that is marked close-on-exec does not reach a program that the process starts. -/
structure Descriptor where
  file : OpenFile
  closeOnExec : Bool
deriving DecidableEq, Repr

/-- The descriptors of a process by number, with `none` for a number that is free. -/
structure Descriptors where
  entries : List (Option Descriptor) := []
  limit : Nat := 1024
deriving DecidableEq, Repr

namespace Descriptors

def at? (t : Descriptors) (n : Nat) : Option Descriptor := t.entries[n]?.join

/-- A number refers to something else from now on. -/
def put (t : Descriptors) (n : Nat) (d : Option Descriptor) : Descriptors :=
  { t with entries := (t.entries ++ List.replicate (n + 1 - t.entries.length) none).set n d }

def close (t : Descriptors) (n : Nat) : Descriptors := t.put n none

/-- The lowest free number that is not below `floor`. -/
def lowestFree (t : Descriptors) (floor : Nat) : Nat :=
  floor + ((t.entries.drop floor).takeWhile Option.isSome).length

/-- Duplicates a number to the lowest free one that is not below `floor`. -/
def duplicate (t : Descriptors) (n floor : Nat) (closeOnExec : Bool) : Except Failure (Nat × Descriptors) :=
  match t.at? n with
  | none => .error .badDescriptor
  | some d =>
    let free := t.lowestFree floor
    if free < t.limit then .ok (free, t.put free (some { d with closeOnExec })) else .error .tooManyFiles

/-- Duplicates a number to a given one, which then outlives the start of a program. -/
def duplicateTo (t : Descriptors) (n target : Nat) : Except Failure Descriptors :=
  match t.at? n with
  | none => .error .badDescriptor
  | some d =>
    if n = target then .ok t
    else if target < t.limit then .ok (t.put target (some { d with closeOnExec := false }))
    else .error .badDescriptor

/-- The descriptors that a program has when it is started. -/
def exec (t : Descriptors) : Descriptors :=
  { t with entries := t.entries.map fun e => e.filter fun d => !d.closeOnExec }

/-- The numbers in use with what they refer to. -/
def toList (t : Descriptors) : List (Nat × Descriptor) :=
  t.entries.zipIdx.filterMap fun p => p.1.map (p.2, ·)

theorem at?_put (t : Descriptors) (n m : Nat) (d : Option Descriptor) :
    (t.put n d).at? m = if n = m then d else t.at? m := by
  unfold at? put
  simp only [List.getElem?_set, List.length_append, List.length_replicate]
  by_cases h : n = m
  · subst h
    have : n < t.entries.length + (n + 1 - t.entries.length) := by omega
    simp [this]
  · simp only [h, if_false, List.getElem?_append, List.getElem?_replicate]
    split
    · rfl
    · rename_i hm
      rw [List.getElem?_eq_none (by omega : t.entries.length ≤ m)]
      split <;> rfl

theorem at?_exec (t : Descriptors) (n : Nat) :
    t.exec.at? n = (t.at? n).filter fun d => !d.closeOnExec := by
  unfold at? exec
  simp only [List.getElem?_map]
  cases t.entries[n]? <;> rfl

theorem at?_lowestFree (t : Descriptors) (floor : Nat) : t.at? (t.lowestFree floor) = none := by
  have key : ∀ l : List (Option Descriptor), l[(l.takeWhile Option.isSome).length]?.join = none := by
    intro l
    induction l with
    | nil => rfl
    | cons d l ih =>
      cases d with
      | none => rfl
      | some d => simpa using ih
  have := key (t.entries.drop floor)
  rwa [List.getElem?_drop] at this

end Descriptors

end Handover
