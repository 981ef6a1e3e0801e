import AccessDecision.Proofs.Condition.Evaluation
import AccessDecision.Proofs.Network.Mapped

/-
  Blocks as acceptable values

  The address of a request is compared in its short form where it has one, and so is
  a lone address that a condition accepts. A block is taken as it is written: one of
  long addresses does not see the short form of an address that it holds.

  What is proved:
    1. `accepts_block` — with a block as the only acceptable value, both address
       operators go by the short form of the address.
    2. `accepts_single` — the block of one address decides like the address alone
       exactly if the address is written in its short form.
    3. `block_decides_iff` — so blocks respect both forms of an address exactly where
       they do not hold its mapped form. `mapped_block_misses` is a block that does.
-/

namespace AccessDecision.Network

open Condition

section
variable {context block : String} {a : Address} {b : Block}

theorem ofText_of_block (hb : Block.ofText? block = some b) :
    AddressRule.ofText block = .block b := by
  rw [AddressRule.ofText]
  cases h : Address.ofText? block with
  | some a =>
    rw [blockOfText?_of_address h] at hb
    cases hb
  | none => simp only [hb]

/-- With one block as the acceptable value, the operators go by the short form of the
address. -/
theorem accepts_block (ha : Address.ofText? context = some a) (hb : Block.ofText? block = some b) :
    ((Operator.ipAddress.comparator [block]).accepts (.string context) = true ↔
      b.Covers a.canonical) ∧
    ((Operator.notIpAddress.comparator [block]).accepts (.string context) = true ↔
      ¬ b.Covers a.canonical) := by
  have haccepts : ∀ negated, (Comparator.ofAddresses negated [block]).accepts (.string context) =
      (b.contains a.canonical != negated) := by
    intro negated
    simp [Comparator.ofAddresses, Comparator.accepts, addressOf?_string ha, ofText_of_block hb,
      AddressRule.covers?]
  have hcontains : b.contains a.canonical = true ↔ b.Covers a.canonical :=
    Block.contains_iff_covers
  constructor
  · rw [Operator.comparator, haccepts, ← hcontains]
    simp
  · rw [Operator.comparator, haccepts, ← hcontains]
    simp

end

section
variable {text : String} {a : Address}

/-- What a lone address and its block say of an address in short form. -/
theorem covers?_single (h : Address.ofText? text = some a) (ip : Address) :
    (AddressRule.ofText text).covers? ip = some (a.canonical == ip) ∧
    (AddressRule.ofText (text ++ "/" ++ toString a.bitCount)).covers? ip = some (a == ip) := by
  constructor
  · rw [AddressRule.ofText, h]
    rfl
  · rw [ofText_of_block (ofText?_single h), AddressRule.covers?]
    refine congrArg some (Bool.eq_iff_iff.mpr ?_)
    rw [Block.contains_iff_covers, Block.covers_single, beq_iff_eq, eq_comm]

/-- The block of one address decides like the address exactly if the address is in
short form where it has one. -/
theorem accepts_single (h : Address.ofText? text = some a) (negated : Bool) :
    (∀ x, (Comparator.ofAddresses negated [text ++ "/" ++ toString a.bitCount]).accepts x =
      (Comparator.ofAddresses negated [text]).accepts x) ↔ a.canonical = a := by
  have haccepts : ∀ x, ((Comparator.ofAddresses negated [text]).accepts x =
        (Comparator.addressOf? x).any fun ip => (a.canonical == ip) != negated) ∧
      ((Comparator.ofAddresses negated [text ++ "/" ++ toString a.bitCount]).accepts x =
        (Comparator.addressOf? x).any fun ip => (a == ip) != negated) := by
    intro x
    simp only [Comparator.ofAddresses, Comparator.accepts, List.map_cons, List.map_nil,
      List.any_cons, List.any_nil, Bool.or_false]
    cases Comparator.addressOf? x with
    | none => exact ⟨rfl, rfl⟩
    | some ip => simp only [(covers?_single h ip).1, (covers?_single h ip).2, Option.any_some,
        and_self]
  constructor
  · intro hsame
    -- The address itself, as the request may give it, is told apart otherwise.
    have := hsame (.string text)
    rw [(haccepts _).1, (haccepts _).2, addressOf?_string h] at this
    by_contra hne
    have hfalse : (a == a.canonical) = false := beq_eq_false_iff_ne.mpr (Ne.symm hne)
    cases negated <;> simp [hfalse] at this
  · intro hcanonical x
    rw [(haccepts x).1, (haccepts x).2, hcanonical]

end

/-- With a block as the only acceptable value, both address operators decide of the
address of a request by whether some form of it lies in the block, exactly if the block
does not hold its mapped form. As an acceptable value, with all of its bits behind a
slash, the address is a block that decides like the address alone, exactly if it is not
written in mapped form. -/
theorem block_decides_iff {text : String} {a : Address} (ha : Address.ofText? text = some a) :
    (∀ (block : String) (b : Block), Block.ofText? block = some b →
      ((((Operator.ipAddress.comparator [block]).accepts (.string text) = true ↔
            b.CoversForm a) ∧
          ((Operator.notIpAddress.comparator [block]).accepts (.string text) = true ↔
            ¬ b.CoversForm a)) ↔
        ∀ m, a.canonical = .v4 m → ¬ b.Covers (.mapped m))) ∧
    (∀ op ∈ [Operator.ipAddress, Operator.notIpAddress],
      (∀ x, (op.comparator [text ++ "/" ++ toString a.bitCount]).accepts x =
        (op.comparator [text]).accepts x) ↔ a.canonical = a) := by
  constructor
  · intro block b hb
    obtain ⟨haccepts, hrefuses⟩ := accepts_block ha hb
    rw [haccepts, hrefuses, Block.coversForm_iff, not_iff_not, and_self]
    constructor
    · intro h m hm hmapped
      exact Block.not_covers_mapped (hm ▸ h.mpr (.inr ⟨m, hm, hmapped⟩)) hmapped
    · intro h
      refine ⟨.inl, fun hform => ?_⟩
      rcases hform with hform | ⟨m, hm, hmapped⟩
      · exact hform
      · exact absurd hmapped (h m hm)
  · intro op hop
    simp only [List.mem_cons, List.not_mem_nil, or_false] at hop
    rcases hop with rfl | rfl
    · exact accepts_single ha false
    · exact accepts_single ha true

/-- A block of short addresses holds no mapped form, so it decides on both forms
alike. -/
theorem short_block_decides :
    ∃ a b, Address.ofText? "::ffff:10.0.0.1" = some a ∧ Block.ofText? "10.0.0.0/8" = some b ∧
      ((Operator.ipAddress.comparator ["10.0.0.0/8"]).accepts (.string "::ffff:10.0.0.1") = true ↔
        b.CoversForm a) ∧
      ((Operator.notIpAddress.comparator ["10.0.0.0/8"]).accepts (.string "::ffff:10.0.0.1") =
          true ↔ ¬ b.CoversForm a) := by
  refine ⟨_, _, rfl, rfl, ((block_decides_iff rfl).1 _ _ rfl).mpr fun m _ hmapped => ?_⟩
  rcases hmapped with ⟨_, _, _, hm, _⟩ | ⟨n, _, hn, _⟩
  · cases hm
  · cases hn

/-- A block of mapped addresses misses every address in it: the short form is
refused, and so is the mapped form, while the negated operator accepts both. -/
theorem mapped_block_misses :
    ∃ a b, Address.ofText? "::ffff:10.0.0.1" = some a ∧
      Block.ofText? "::ffff:10.0.0.0/104" = some b ∧ b.CoversForm a ∧
      (Operator.ipAddress.comparator ["::ffff:10.0.0.0/104"]).accepts
        (.string "::ffff:10.0.0.1") = false ∧
      (Operator.notIpAddress.comparator ["::ffff:10.0.0.0/104"]).accepts
        (.string "::ffff:10.0.0.1") = true := by
  refine ⟨_, _, rfl, rfl, ⟨_, rfl, Block.contains_iff_covers.mp ?_⟩, ?_, ?_⟩
  · decide +kernel
  · decide +kernel
  · decide +kernel

end AccessDecision.Network
