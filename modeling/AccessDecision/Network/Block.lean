import AccessDecision.Network.Address

/-
  Address blocks

  A block is an address and the number of leading bits that count. The other bits
  of the address may have any value.
-/

namespace AccessDecision.Network

/-- A block of addresses. -/
structure Block where
  address : Address
  prefixLength : Nat
deriving DecidableEq, Repr

namespace Block

/-- The grammar of the address in a block. -/
def grammar : Grammar := ⟨true, true⟩

/-- A prefix length: at most so many digits, and no more than the bits of the
address. -/
def prefixLength? (digits bits : Nat) (cs : List Char) : Option Nat :=
  if cs.length ≤ digits then (Text.decimal? cs).filter (· ≤ bits) else none

/-- The block that a text is: an address, a slash and a prefix length. -/
def ofText? (text : String) : Option Block := do
  let (front, back) ← Text.cutAt '/' text.toList
  match Address.readV4? grammar front with
  | some a => do pure ⟨a, ← prefixLength? 2 32 back⟩
  | none => do pure ⟨← Address.readV6? grammar front, ← prefixLength? 3 128 back⟩

/-- Whether an address lies in the block. Addresses of different lengths never
match. -/
def contains (b : Block) (a : Address) : Bool :=
  match b.address, a with
  | .v4 n, .v4 m => n.val / 2 ^ (32 - b.prefixLength) == m.val / 2 ^ (32 - b.prefixLength)
  | .v6 n, .v6 m => n.val / 2 ^ (128 - b.prefixLength) == m.val / 2 ^ (128 - b.prefixLength)
  | _, _ => false

/-- The text of a block, with all bits of its address. -/
def text (b : Block) : String := b.address.text ++ "/" ++ toString b.prefixLength

end Block

end AccessDecision.Network
