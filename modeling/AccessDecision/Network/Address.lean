import AccessDecision.Power
import AccessDecision.Text.Split

/-
  Internet addresses

  An address is a number of 32 or 128 bits. The reader accepts what the standard
  text forms allow: four decimal octets, or groups of up to four hexadecimal
  digits of which one run of zeros may be left out and the last two may be
  written as octets. A few choices differ between the places where addresses
  occur, so the readers take them as a `Grammar`.
-/

namespace AccessDecision.Network

/-- An address. -/
inductive Address where
  | v4 (bits : Fin (2 ^ 32))
  | v6 (bits : Fin (2 ^ 128))
deriving DecidableEq, Repr

/-- What the readers of addresses leave open. -/
structure Grammar where
  /-- Whether a decimal octet may start with a zero that it does not need. -/
  paddedOctets : Bool
  /-- Whether the sign for left-out groups may stand for none. -/
  emptyGap : Bool

/-- The grammar of a lone address. -/
def Grammar.strict : Grammar := ⟨false, false⟩

/-- The value of a list of digits to a base. -/
def ofDigits (base : Nat) (digits : List Nat) : Nat :=
  digits.foldl (fun n d => n * base + d) 0

/-- The digits of a number to a base, in a fixed number of places. -/
def toDigits (base : Nat) : (places : Nat) → (n : Nat) → List Nat
  | 0, _ => []
  | places + 1, n => n / base ^ places % base :: toDigits base places n

/-- The value of a hexadecimal digit. -/
def hexValue? (c : Char) : Option Nat :=
  if '0' ≤ c ∧ c ≤ '9' then some (c.toNat - '0'.toNat)
  else if 'a' ≤ c ∧ c ≤ 'f' then some (c.toNat - 'a'.toNat + 10)
  else if 'A' ≤ c ∧ c ≤ 'F' then some (c.toNat - 'A'.toNat + 10)
  else none

/-- A decimal octet: at most three digits, below 256. -/
def octet? (g : Grammar) (cs : List Char) : Option Nat :=
  if cs.length ≤ 3 ∧ (g.paddedOctets = true ∨ cs.length ≤ 1 ∨ cs.head? ≠ some '0') then
    (Text.decimal? cs).filter (· < 256)
  else none

/-- Four octets. -/
def octets? (g : Grammar) (cs : List Char) : Option (List Nat) :=
  match Text.fields '.' cs with
  | [a, b, c, d] => do pure [← octet? g a, ← octet? g b, ← octet? g c, ← octet? g d]
  | _ => none

/-- A hexadecimal group: one to four digits. -/
def group? (cs : List Char) : Option Nat :=
  if 1 ≤ cs.length ∧ cs.length ≤ 4 then (cs.mapM hexValue?).map (ofDigits 16) else none

/-- Groups between colons, of which the last two may be written as octets. -/
def groups? (g : Grammar) (octetsAllowed : Bool) : List (List Char) → Option (List Nat)
  | [] => some []
  | [last] =>
    match group? last with
    | some n => some [n]
    | none =>
      if octetsAllowed then
        (octets? g last).map fun os => [ofDigits 256 (os.take 2), ofDigits 256 (os.drop 2)]
      else none
  | field :: rest => do pure ((← group? field) :: (← groups? g octetsAllowed rest))

/-- The groups of one side of the sign for left-out groups; nothing stands for
none. -/
def sideGroups? (g : Grammar) (octetsAllowed : Bool) (cs : List Char) : Option (List Nat) :=
  if cs.isEmpty then some [] else groups? g octetsAllowed (Text.fields ':' cs)

/-- Cuts at the first pair of colons, if there is one. -/
def cutAtGap : List Char → Option (List Char × List Char)
  | [] => none
  | ':' :: ':' :: rest => some ([], rest)
  | c :: rest => (cutAtGap rest).map fun (front, back) => (c :: front, back)

/-- The eight groups of a long address. -/
def eightGroups? (g : Grammar) (cs : List Char) : Option (List Nat) :=
  match cutAtGap cs with
  | none => (groups? g true (Text.fields ':' cs)).filter (·.length = 8)
  | some (front, back) => do
    let head ← sideGroups? g false front
    let tail ← sideGroups? g true back
    let given := head.length + tail.length
    if given ≤ 7 ∨ (g.emptyGap = true ∧ given = 8 ∧ head.length ≤ 7) then
      some (head ++ List.replicate (8 - given) 0 ++ tail)
    else none

namespace Address

/-- The short address of four octets. -/
def ofOctets (os : List Nat) : Address := v4 (Fin.ofNat _ (ofDigits 256 os))

/-- The long address of eight groups. -/
def ofGroups (gs : List Nat) : Address := v6 (Fin.ofNat _ (ofDigits 65536 gs))

/-- Reads a short address. -/
def readV4? (g : Grammar) (cs : List Char) : Option Address := (octets? g cs).map ofOctets

/-- Reads a long address. -/
def readV6? (g : Grammar) (cs : List Char) : Option Address := (eightGroups? g cs).map ofGroups

/-- The address that a text is. -/
def ofText? (text : String) : Option Address :=
  (readV4? .strict text.toList).or (readV6? .strict text.toList)

/-! ## Writing -/

/-- Octets with points between them. -/
def octetText (bits : Nat) : List Char :=
  Text.joinFields '.' ((toDigits 256 4 bits).map (Nat.toDigits 10))

/-- Groups with colons between them. -/
def groupText (gs : List Nat) : List Char := Text.joinFields ':' (gs.map (Nat.toDigits 16))

/-- The length of the run of zeros at the start. -/
def zeroRun (gs : List Nat) : Nat := (gs.takeWhile (· == 0)).length

/-- Where the first longest run of zeros starts, and its length. -/
def longestRun : List Nat → Nat × Nat
  | [] => (0, 0)
  | g :: gs =>
    let here := zeroRun (g :: gs)
    let (start, length) := longestRun gs
    if length ≤ here then (0, here) else (start + 1, length)

/-- The text of an address. Short addresses in long form keep their octets; in
other long ones the first longest run of two or more zero groups is left out. -/
def text : Address → String
  | v4 bits => String.ofList (octetText bits)
  | v6 bits =>
    if bits.val / 2 ^ 32 = 0xFFFF then
      String.ofList ("::ffff:".toList ++ octetText (bits.val % 2 ^ 32))
    else
      let gs := toDigits 65536 8 bits
      match longestRun gs with
      | (start, length) =>
        if 1 < length then
          String.ofList
            (groupText (gs.take start) ++ ':' :: ':' :: groupText (gs.drop (start + length)))
        else String.ofList (groupText gs)

/-- The short address that a long one stands for, if it does. -/
def canonical : Address → Address
  | v4 bits => v4 bits
  | v6 bits =>
    if bits.val / 2 ^ 32 = 0xFFFF then v4 (Fin.ofNat _ bits.val) else v6 bits

end Address

/-! ## Socket addresses -/

/-- The host of a socket address, such as `10.0.0.1:80` or `[fe80::1%2]:80`. A long
address stands in brackets and may name a scope. -/
def socketHost? (text : String) : Option Address :=
  let cs := text.toList
  (short cs).or (long cs)
where
  /-- A decimal number below a bound. -/
  below (bound : Nat) (cs : List Char) : Bool := (Text.decimal? cs).any (· < bound)
  short (cs : List Char) : Option Address := do
    let (host, service) ← Text.cutAt ':' cs
    let a ← Address.readV4? .strict host
    if below (2 ^ 16) service then some a else none
  long : List Char → Option Address
    | '[' :: rest => do
      let (inside, after) ← Text.cutAt ']' rest
      let (host, scopeOk) := match Text.cutAt '%' inside with
        | some (host, scope) => (host, below (2 ^ 32) scope)
        | none => (inside, true)
      let a ← Address.readV6? .strict host
      match after with
      | ':' :: service => if scopeOk && below (2 ^ 16) service then some a else none
      | _ => none
    | _ => none

end AccessDecision.Network
