import FeatureResolution.Document

/-!
# The order of the members of a set

The members of a set are listed in the order of a table with a slot for each and at least as many
free ones. A number stands in the slot of its residue or, where that is taken, in the next free one
on a fixed way through the table. Sets with other members keep the order in which these were named.
-/

namespace FeatureResolution

namespace Members

/-- The modulus of residues. -/
def modulus : Nat :=
  Nat.pow 2 61 - 1

/-- A residue with a sign, as a word of 64 bits; minus one is never used. -/
def signedResidue (negative : Bool) (size : Nat) : Nat :=
  let size := size % modulus
  if !negative || size = 0 then size else Nat.pow 2 64 - max 2 size

/-- The number by which a member finds its slot. Two to the power of 61 has the residue one, so the
unit of decimal numbers has the residue of two to the power of 24. -/
def residue? : Scalar → Option Nat
  | .bool value => some value.toNat
  | .int value => some (signedResidue (value < 0) value.natAbs)
  | .decimal (.infinite negative) => some (signedResidue negative 314159)
  | .decimal number@(.finite negative ..) =>
    some (signedResidue negative (number.units * Nat.pow 2 24))
  | _ => none

/-- The number of slots for so many members. -/
def slots (count : Nat) : Nat :=
  if count < 5 then 8 else Nat.pow 2 (Nat.log2 (2 * count) + 1)

/-- The first free slot on the way from a slot: some slots further on, as far as they fit, and then
a jump that depends on the rest of the residue. -/
def freeSlot (table : Array (Option Scalar)) : Nat → (slot rest : Nat) → Nat
  | 0, slot, _ => slot
  | fuel + 1, slot, rest =>
    let near := if slot + 9 < table.size then 10 else 1
    match (List.range near).find? fun step => table[slot + step]? == some none with
    | some step => slot + step
    | none =>
      let rest := rest / 32
      freeSlot table fuel ((slot * 5 + 1 + rest) % table.size) rest

/-- Puts a member into a table. -/
def place (table : Array (Option Scalar)) (member : Scalar × Nat) : Array (Option Scalar) :=
  let slot := freeSlot table (table.size + 16) (member.2 % table.size) member.2
  table.setIfInBounds slot (some member.1)

/-- The members of a set in the order in which they are listed, given the order in which they were
named. -/
def ordered (members : List Scalar) : List Scalar :=
  match members.mapM residue? with
  | some residues =>
    let table := (members.zip residues).foldl place (.replicate (slots members.length) none)
    table.toList.filterMap id
  | none => members

end Members

end FeatureResolution
