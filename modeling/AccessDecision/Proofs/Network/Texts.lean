import AccessDecision.Network.Block
import AccessDecision.Proofs.Text.Split

/-
  Texts of addresses and of blocks

  What is proved:
    1. `chars_of_octets?` and `chars_of_eightGroups?` — an address is written with
       hexadecimal digits, points and colons.
    2. `blockOfText?_of_address` — so no text is both an address and a block, and the
       order in which the two are tried does not matter.
    3. `contains_iff_covers` — a block contains an address exactly if both have the
       same length and agree in the leading bits that count.
-/

namespace AccessDecision.Network

/-! ## The characters of addresses -/

theorem digit_of_octet? {g : Grammar} {cs : List Char} {n : Nat} (h : octet? g cs = some n) :
    ∀ c ∈ cs, c.isDigit = true := by
  simp only [octet?, Option.ite_none_right_eq_some, Option.filter_eq_some_iff] at h
  exact Text.isDigit_of_decimal? h.2.1

/-- Four octets are written with digits and points. -/
theorem digit_of_octets? {g : Grammar} {cs : List Char} {os : List Nat}
    (h : octets? g cs = some os) : ∀ c ∈ cs, c = '.' ∨ c.isDigit = true := by
  intro c hm
  rcases Text.mem_fields '.' hm with hdot | ⟨f, hf, hmf⟩
  · exact .inl hdot
  · right
    unfold octets? at h
    split at h
    · rename_i a b c d hfields
      simp only [Option.pure_def, Option.bind_eq_bind, Option.bind_eq_some_iff] at h
      obtain ⟨na, ha, nb, hb, nc, hc, nd, hd, _⟩ := h
      rw [hfields] at hf
      simp only [List.mem_cons, List.not_mem_nil, or_false] at hf
      rcases hf with rfl | rfl | rfl | rfl
      · exact digit_of_octet? ha _ hmf
      · exact digit_of_octet? hb _ hmf
      · exact digit_of_octet? hc _ hmf
      · exact digit_of_octet? hd _ hmf
    · cases h

/-- The characters that addresses are written with. -/
def IsAddressChar (c : Char) : Prop := c = ':' ∨ c = '.' ∨ (hexValue? c).isSome = true

instance : DecidablePred IsAddressChar := fun _ => inferInstanceAs (Decidable (_ ∨ _ ∨ _))

theorem isSome_hexValue? {c : Char} (h : c.isDigit = true) : (hexValue? c).isSome = true := by
  have hrange : '0' ≤ c ∧ c ≤ '9' := by simpa [Char.isDigit, Char.le_def] using h
  rw [hexValue?, if_pos hrange]
  rfl

theorem chars_of_octets? {g : Grammar} {cs : List Char} {os : List Nat}
    (h : octets? g cs = some os) : ∀ c ∈ cs, IsAddressChar c := fun c hc =>
  .inr ((digit_of_octets? h c hc).imp_right isSome_hexValue?)

theorem hex_of_mapM {cs : List Char} {ds : List Nat} (h : cs.mapM hexValue? = some ds) :
    ∀ c ∈ cs, (hexValue? c).isSome = true := by
  induction cs generalizing ds with
  | nil => intro c hc; cases hc
  | cons c cs ih =>
    simp only [List.mapM_cons, Option.pure_def, Option.bind_eq_bind, Option.bind_eq_some_iff] at h
    obtain ⟨d, hd, ds', hds, _⟩ := h
    intro x hx
    rcases List.mem_cons.mp hx with rfl | hx
    · rw [hd]
      rfl
    · exact ih hds x hx

theorem chars_of_group? {cs : List Char} {n : Nat} (h : group? cs = some n) :
    ∀ c ∈ cs, IsAddressChar c := by
  simp only [group?, Option.ite_none_right_eq_some, Option.map_eq_some_iff] at h
  obtain ⟨_, ds, hds, _⟩ := h
  exact fun c hc => .inr (.inr (hex_of_mapM hds c hc))

theorem chars_of_groups? {g : Grammar} {octetsAllowed : Bool} {fs : List (List Char)}
    {gs : List Nat} (h : groups? g octetsAllowed fs = some gs) :
    ∀ f ∈ fs, ∀ c ∈ f, IsAddressChar c := by
  induction fs generalizing gs with
  | nil => intro f hf; cases hf
  | cons field rest ih =>
    cases rest with
    | nil =>
      intro f hf
      obtain rfl := List.mem_singleton.mp hf
      rw [groups?] at h
      split at h
      · exact chars_of_group? ‹_›
      · simp only [Option.ite_none_right_eq_some, Option.map_eq_some_iff] at h
        obtain ⟨_, os, hos, _⟩ := h
        exact chars_of_octets? hos
    | cons next rest =>
      simp only [groups?, Option.pure_def, Option.bind_eq_bind, Option.bind_eq_some_iff] at h
      obtain ⟨n, hn, ns, hns, _⟩ := h
      intro f hf
      rcases List.mem_cons.mp hf with rfl | hf
      · exact chars_of_group? hn
      · exact ih hns f hf

theorem chars_of_fields {g : Grammar} {octetsAllowed : Bool} {cs : List Char} {gs : List Nat}
    (h : groups? g octetsAllowed (Text.fields ':' cs) = some gs) :
    ∀ c ∈ cs, IsAddressChar c := by
  intro c hc
  rcases Text.mem_fields ':' hc with hcolon | ⟨f, hf, hcf⟩
  · exact .inl hcolon
  · exact chars_of_groups? h f hf c hcf

theorem chars_of_sideGroups? {g : Grammar} {octetsAllowed : Bool} {cs : List Char} {gs : List Nat}
    (h : sideGroups? g octetsAllowed cs = some gs) : ∀ c ∈ cs, IsAddressChar c := by
  unfold sideGroups? at h
  split at h
  · rename_i hempty
    simp [List.isEmpty_iff.mp hempty]
  · exact chars_of_fields h

theorem cutAtGap_eq {cs front back : List Char} (h : cutAtGap cs = some (front, back)) :
    cs = front ++ ':' :: ':' :: back := by
  fun_induction cutAtGap cs generalizing front back with
  | case1 => cases h
  | case2 rest =>
    cases h
    rfl
  | case3 c rest _ ih =>
    obtain ⟨⟨front', back'⟩, hcut, heq⟩ := Option.map_eq_some_iff.mp h
    cases heq
    rw [ih hcut, List.cons_append]

/-- A long address is written with hexadecimal digits, colons and points. -/
theorem chars_of_eightGroups? {g : Grammar} {cs : List Char} {gs : List Nat}
    (h : eightGroups? g cs = some gs) : ∀ c ∈ cs, IsAddressChar c := by
  unfold eightGroups? at h
  split at h
  · exact chars_of_fields (Option.filter_eq_some_iff.mp h).1
  · rename_i front back hcut
    simp only [Option.bind_eq_bind, Option.bind_eq_some_iff] at h
    obtain ⟨head, hhead, tail, htail, _⟩ := h
    rw [cutAtGap_eq hcut]
    intro c hc
    rcases List.mem_append.mp hc with hc | hc
    · exact chars_of_sideGroups? hhead c hc
    · simp only [List.mem_cons] at hc
      rcases hc with hcolon | hcolon | hc
      · exact .inl hcolon
      · exact .inl hcolon
      · exact chars_of_sideGroups? htail c hc

theorem slash_of_address {text : String} {a : Address} (h : Address.ofText? text = some a) :
    '/' ∉ text.toList := by
  have hchars : ∀ c ∈ text.toList, IsAddressChar c := by
    rcases Option.or_eq_some_iff.mp h with h | ⟨_, h⟩
    · obtain ⟨os, hos, _⟩ := Option.map_eq_some_iff.mp h
      exact chars_of_octets? hos
    · obtain ⟨gs, hgs, _⟩ := Option.map_eq_some_iff.mp h
      exact chars_of_eightGroups? hgs
  exact fun hm => absurd (hchars '/' hm) (by decide)

/-- A text that is an address is no block. -/
theorem blockOfText?_of_address {text : String} {a : Address}
    (h : Address.ofText? text = some a) : Block.ofText? text = none := by
  cases hcut : Text.cutAt '/' text.toList with
  | none => simp [Block.ofText?, hcut]
  | some parts => exact absurd (Text.mem_of_cutAt hcut) (slash_of_address h)

/-! ## Containment bit by bit -/

namespace Block

/-- The block and the address have the same length and agree in the leading bits
that count. -/
def Covers (b : Block) (a : Address) : Prop :=
  (∃ n m, b.address = .v4 n ∧ a = .v4 m ∧
    ∀ k, 32 - b.prefixLength ≤ k → n.val.testBit k = m.val.testBit k) ∨
  (∃ n m, b.address = .v6 n ∧ a = .v6 m ∧
    ∀ k, 128 - b.prefixLength ≤ k → n.val.testBit k = m.val.testBit k)

theorem div_eq_iff_testBit {n m s : Nat} :
    n / 2 ^ s = m / 2 ^ s ↔ ∀ k, s ≤ k → n.testBit k = m.testBit k := by
  constructor
  · intro h k hk
    obtain ⟨j, rfl⟩ := Nat.exists_eq_add_of_le' hk
    rw [← Nat.testBit_div_two_pow, ← Nat.testBit_div_two_pow, h]
  · intro h
    refine Nat.eq_of_testBit_eq fun j => ?_
    rw [Nat.testBit_div_two_pow, Nat.testBit_div_two_pow]
    exact h _ (Nat.le_add_left s j)

theorem contains_iff_covers {b : Block} {a : Address} : b.contains a = true ↔ b.Covers a := by
  obtain ⟨address, len⟩ := b
  cases address <;> cases a <;> simp [contains, Covers, div_eq_iff_testBit]

end Block

end AccessDecision.Network
