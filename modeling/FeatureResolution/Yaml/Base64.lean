import FeatureResolution.Yaml.Cursor

/-!
# Bytes in words

A word can spell bytes: each of 64 characters stands for six bits, and four of them for three bytes.
Every other character is passed over. The equals sign fills up the last four: two characters or
three and enough of these signs end the bytes, whatever follows. `Base64.decode?` has nothing to
say where the last four are not filled up.
-/

namespace FeatureResolution.Yaml

namespace Base64

/-- The six bits that a character stands for. -/
def sextet? (c : Char) : Option Nat :=
  if 'A' ≤ c && c ≤ 'Z' then some (c.toNat - 'A'.toNat)
  else if 'a' ≤ c && c ≤ 'z' then some (c.toNat - 'a'.toNat + 26)
  else if c.isDigit then some (c.toNat - '0'.toNat + 52)
  else if c = '+' then some 62
  else if c = '/' then some 63
  else none

/-- What has been read of the current four characters: how many, the bits left over from the last
one, and the signs that fill up behind it. -/
structure Quad where
  count : Nat := 0
  bits : Nat := 0
  fill : Nat := 0
deriving DecidableEq, Repr

/-- Adds six bits; a byte is complete with the second character and each one after it. -/
def Quad.add (quad : Quad) (sextet : Nat) : Option UInt8 × Quad :=
  match quad.count with
  | 0 => (none, { count := 1, bits := sextet })
  | 1 => (some (.ofNat (quad.bits * 4 + sextet / 16)), { count := 2, bits := sextet % 16 })
  | 2 => (some (.ofNat (quad.bits * 16 + sextet / 4)), { count := 3, bits := sextet % 4 })
  | _ => (some (.ofNat (quad.bits * 64 + sextet)), {})

/-- The bytes that characters spell, given what has been read of the current four. -/
def decodeFrom : Quad → List Char → Option (List UInt8)
  | quad, [] => if quad.count = 0 then some [] else none
  | quad, c :: rest =>
    if c = '=' then
      if quad.count < 2 then decodeFrom quad rest
      else if 4 ≤ quad.count + quad.fill + 1 then some []
      else decodeFrom { quad with fill := quad.fill + 1 } rest
    else
      match sextet? c with
      | none => decodeFrom quad rest
      | some sextet =>
        let (byte, quad) := quad.add sextet
        (decodeFrom quad rest).map (byte.toList ++ ·)

/-- The bytes that characters spell. -/
def decode? (chars : List Char) : Option (List UInt8) :=
  decodeFrom {} chars

end Base64

end FeatureResolution.Yaml
