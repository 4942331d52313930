namespace QueryPack.Text

/-!
# Hexadecimal digits
-/

def hexDigit (value : Nat) : Char :=
  if value < 10 then
    Char.ofNat (48 + value)
  else
    Char.ofNat (87 + value)

def upperHexDigit (value : Nat) : Char :=
  if value < 10 then
    Char.ofNat (48 + value)
  else
    Char.ofNat (55 + value)

/-- The value of a hexadecimal digit of either case. -/
def hexValue? (character : Char) : Option Nat :=
  if '0' ≤ character ∧ character ≤ '9' then
    some (character.toNat - 48)
  else if 'a' ≤ character ∧ character ≤ 'f' then
    some (character.toNat - 87)
  else if 'A' ≤ character ∧ character ≤ 'F' then
    some (character.toNat - 55)
  else
    none

/-- Bytes as lower-case hexadecimal text, two digits each. -/
def hex (bytes : List UInt8) : String :=
  String.ofList (bytes.flatMap fun byte =>
    [hexDigit (byte.toNat / 16), hexDigit (byte.toNat % 16)])

end QueryPack.Text
