namespace Handover

/-- Text as the operating system hands it over: bytes that usually, but not always, are UTF-8. -/
structure OsText where
  bytes : List UInt8
deriving DecidableEq, Inhabited, Repr

namespace OsText

/-- The UTF-8 bytes of `s`. -/
def ofString (s : String) : OsText := ⟨s.toUTF8.data.toList⟩

/-- The characters that the bytes encode, or `none` if they are not UTF-8. -/
def text? (t : OsText) : Option String := String.fromUTF8? ⟨t.bytes.toArray⟩

/-- The bytes begin with those of `s`. -/
def startsWith (t : OsText) (s : String) : Bool := (ofString s).bytes.isPrefixOf t.bytes

def isEmpty (t : OsText) : Bool := t.bytes.isEmpty

theorem ofString_injective {s t : String} (h : ofString s = ofString t) : s = t := by
  have : s.toUTF8.data.toList = t.toUTF8.data.toList := congrArg bytes h
  exact String.toByteArray_inj.1 (ByteArray.ext (Array.toList_inj.1 this))

@[simp] theorem text?_ofString (s : String) : (ofString s).text? = some s := by
  have h : ByteArray.mk (ofString s).bytes.toArray = s.toUTF8 := by
    apply ByteArray.ext
    simp [ofString]
  simp only [text?, h, String.fromUTF8?, String.toUTF8_eq_toByteArray, dif_pos s.isValidUTF8]
  rfl

/-- Lowest and highest value allowed for each byte that has to follow `first`; `none` if no
character begins with `first`. -/
def continuation (first : UInt8) : Option (List (UInt8 × UInt8)) :=
  let tail : UInt8 × UInt8 := (0x80, 0xBF)
  if first < 0x80 then some []
  else if first < 0xC2 then none
  else if first < 0xE0 then some [tail]
  else if first = 0xE0 then some [(0xA0, 0xBF), tail]
  else if first = 0xED then some [(0x80, 0x9F), tail]
  else if first < 0xF0 then some [tail, tail]
  else if first = 0xF0 then some [(0x90, 0xBF), tail, tail]
  else if first < 0xF4 then some [tail, tail, tail]
  else if first = 0xF4 then some [(0x80, 0x8F), tail, tail]
  else none

/-- The leading bytes that lie within the given ranges, one after the other. -/
def fitting : List (UInt8 × UInt8) → List UInt8 → List UInt8
  | (low, high) :: ranges, b :: rest => if low ≤ b ∧ b ≤ high then b :: fitting ranges rest else []
  | _, _ => []

/-- The value that the continuation bytes add to the payload of the first byte. -/
def payload (first : UInt8) (rest : List UInt8) : Nat :=
  let start := match rest.length with
    | 0 => first.toNat
    | 1 => first.toNat % 32
    | 2 => first.toNat % 16
    | _ => first.toNat % 8
  rest.foldl (fun n b => n * 64 + b.toNat % 64) start

/-- The characters of the bytes, where each ill-formed stretch shows as U+FFFD: a byte that begins no
character alone, a character cut short together with the bytes it has. -/
def decodeLossy : List UInt8 → List Char
  | [] => []
  | b :: rest =>
    match continuation b with
    | none => '\uFFFD' :: decodeLossy rest
    | some ranges =>
      let found := fitting ranges rest
      let c := if found.length = ranges.length then Char.ofNat (payload b found) else '\uFFFD'
      c :: decodeLossy (rest.drop found.length)
termination_by l => l.length
decreasing_by all_goals
  simp only [List.length_drop, List.length_cons]
  omega

/-- What is displayed: the text with U+FFFD for what is no UTF-8. -/
def shown (t : OsText) : String :=
  match t.text? with
  | some s => s
  | none => String.ofList (decodeLossy t.bytes)

end OsText

end Handover
