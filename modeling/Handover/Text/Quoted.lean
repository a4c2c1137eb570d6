import Handover.Text.Unprintable

namespace Handover.Text

/-- The lower-case hexadecimal numeral of `n`. -/
def hexadecimal (n : Nat) : List Char := Nat.toDigits 16 n

/-- How a character stands in a quoted text. -/
def escape (c : Char) : List Char :=
  if c = '"' then ['\\', '"']
  else if c = '\\' then ['\\', '\\']
  else if c = '\n' then ['\\', 'n']
  else if c = '\r' then ['\\', 'r']
  else if c = '\t' then ['\\', 't']
  else if c.toNat = 0 then ['\\', '0']
  else if isUnprintable c then ['\\', 'u', '\x7b'] ++ hexadecimal c.toNat ++ ['\x7d']
  else [c]

/-- The text between double quotes, each character escaped where it has to be. -/
def quote (s : String) : String := String.ofList ('"' :: s.toList.flatMap escape ++ ['"'])

example : quote "a\"b\n\u0301" = "\"a\\\"b\\n\\u\x7b301\x7d\"" := by decide +kernel

end Handover.Text
