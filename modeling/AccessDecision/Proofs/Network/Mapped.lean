import AccessDecision.Proofs.Network.Texts

/-
  The two forms of an address

  A short address has a long form as well, its mapped form, and both name the same
  address. A block names addresses of one length only, so it can hold one form and
  not the other.

  What is proved:
    1. `canonical_eq_v4` — the texts of a short address are those of the address
       itself and of its mapped form.
    2. `coversForm_iff` — a form of an address lies in a block exactly if its short
       form does or the mapped form of that.
    3. `ofText?_single` — an address text with all of its bits behind a slash is the
       block of that address alone (`covers_single`), whichever way it is written.
-/

namespace AccessDecision.Network

namespace Address

/-- The long form of a short address. -/
def mapped (bits : Fin (2 ^ 32)) : Address := v6 ⟨0xFFFF * 2 ^ 32 + bits.val, by omega⟩

/-- The number of bits of an address. -/
def bitCount : Address → Nat
  | v4 _ => 32
  | v6 _ => 128

theorem canonical_mapped (bits : Fin (2 ^ 32)) : (mapped bits).canonical = v4 bits := by
  have hlt := bits.isLt
  have hdiv : (0xFFFF * 2 ^ 32 + bits.val) / 2 ^ 32 = 0xFFFF := by omega
  simp only [mapped, canonical, hdiv, if_true, v4.injEq]
  refine Fin.ext ?_
  show (0xFFFF * 2 ^ 32 + bits.val) % 2 ^ 32 = bits.val
  omega

/-- A short address and its mapped form are all that has the short address as its
short form. -/
theorem canonical_eq_v4 {a : Address} {m : Fin (2 ^ 32)} :
    a.canonical = v4 m ↔ a = v4 m ∨ a = mapped m := by
  constructor
  · intro h
    cases a with
    | v4 bits => exact .inl h
    | v6 bits =>
      simp only [canonical] at h
      split at h
      · rename_i hdiv
        right
        obtain rfl := v4.inj h
        refine congrArg v6 (Fin.ext ?_)
        show bits.val = 0xFFFF * 2 ^ 32 + bits.val % 2 ^ 32
        have := bits.isLt
        omega
      · cases h
  · intro h
    rcases h with rfl | rfl
    · rfl
    · exact canonical_mapped m

theorem canonical_eq_v6 {a : Address} {n : Fin (2 ^ 128)} (h : a.canonical = v6 n) : a = v6 n := by
  cases a with
  | v4 bits => cases h
  | v6 bits =>
    simp only [canonical] at h
    split at h
    · cases h
    · exact h

theorem canonical_canonical (a : Address) : a.canonical.canonical = a.canonical := by
  cases h : a.canonical with
  | v4 m => rfl
  | v6 n => rw [← canonical_eq_v6 h, h, canonical_eq_v6 h]

end Address

namespace Block

/-- A form of the address lies in the block: one that has the same short form. -/
def CoversForm (b : Block) (a : Address) : Prop :=
  ∃ a' : Address, a'.canonical = a.canonical ∧ b.Covers a'

/-- The block of an address alone. -/
def single (a : Address) : Block := ⟨a, a.bitCount⟩

theorem covers_single {a a' : Address} : (single a).Covers a' ↔ a' = a := by
  rw [← contains_iff_covers]
  cases a with
  | v4 n =>
    cases a' with
    | v4 m => simpa [single, Address.bitCount, contains, Fin.ext_iff] using eq_comm
    | v6 m => simp [single, contains]
  | v6 n =>
    cases a' with
    | v4 m => simp [single, contains]
    | v6 m => simpa [single, Address.bitCount, contains, Fin.ext_iff] using eq_comm

/-- A block holds addresses of one length only. -/
theorem not_covers_mapped {b : Block} {m : Fin (2 ^ 32)} (h : b.Covers (.v4 m)) :
    ¬ b.Covers (.mapped m) := by
  intro h'
  rcases h with ⟨n, _, hn, _⟩ | ⟨n, m', _, hm, _⟩
  · rcases h' with ⟨_, m', _, hm, _⟩ | ⟨n', _, hn', _⟩
    · cases hm
    · cases hn.symm.trans hn'
  · cases hm

theorem coversForm_iff {b : Block} {a : Address} :
    b.CoversForm a ↔ b.Covers a.canonical ∨ ∃ m, a.canonical = .v4 m ∧ b.Covers (.mapped m) := by
  constructor
  · intro h
    obtain ⟨a', ha', hcovers⟩ := h
    cases hc : a.canonical with
    | v4 m =>
      rw [hc, Address.canonical_eq_v4] at ha'
      rcases ha' with rfl | rfl
      · exact .inl hcovers
      · exact .inr ⟨m, rfl, hcovers⟩
    | v6 n =>
      rw [hc] at ha'
      exact .inl (Address.canonical_eq_v6 ha' ▸ hcovers)
  · intro h
    rcases h with h | ⟨m, hm, h⟩
    · exact ⟨a.canonical, a.canonical_canonical, h⟩
    · exact ⟨.mapped m, (Address.canonical_mapped m).trans hm.symm, h⟩

end Block

/-! ## Address texts in blocks

The address of a block may be written in more ways than a lone one, and a text that
is written as a lone one may be reads the same. -/

theorem octet?_of_strict {cs : List Char} {n : Nat} (h : octet? .strict cs = some n) :
    octet? Block.grammar cs = some n := by
  simp only [octet?, Option.ite_none_right_eq_some] at h ⊢
  exact ⟨⟨h.1.1, .inl rfl⟩, h.2⟩

theorem octets?_of_strict {cs : List Char} {os : List Nat} (h : octets? .strict cs = some os) :
    octets? Block.grammar cs = some os := by
  unfold octets? at h ⊢
  split at h
  · simp only [Option.pure_def, Option.bind_eq_bind, Option.bind_eq_some_iff] at h ⊢
    obtain ⟨a, ha, b, hb, c, hc, d, hd, hos⟩ := h
    exact ⟨a, octet?_of_strict ha, b, octet?_of_strict hb, c, octet?_of_strict hc, d,
      octet?_of_strict hd, hos⟩
  · cases h

theorem groups?_of_strict {octetsAllowed : Bool} {fs : List (List Char)} {gs : List Nat}
    (h : groups? .strict octetsAllowed fs = some gs) :
    groups? Block.grammar octetsAllowed fs = some gs := by
  induction fs generalizing gs with
  | nil => exact h
  | cons field rest ih =>
    cases rest with
    | nil =>
      rw [groups?] at h ⊢
      split at h
      · exact h
      · simp only [Option.ite_none_right_eq_some, Option.map_eq_some_iff] at h ⊢
        obtain ⟨hallowed, os, hos, hgs⟩ := h
        exact ⟨hallowed, os, octets?_of_strict hos, hgs⟩
    | cons next rest =>
      simp only [groups?, Option.pure_def, Option.bind_eq_bind, Option.bind_eq_some_iff] at h ⊢
      obtain ⟨n, hn, ns, hns, hgs⟩ := h
      exact ⟨n, hn, ns, ih hns, hgs⟩

theorem sideGroups?_of_strict {octetsAllowed : Bool} {cs : List Char} {gs : List Nat}
    (h : sideGroups? .strict octetsAllowed cs = some gs) :
    sideGroups? Block.grammar octetsAllowed cs = some gs := by
  unfold sideGroups? at h ⊢
  split
  · rwa [if_pos ‹_›] at h
  · rw [if_neg ‹_›] at h
    exact groups?_of_strict h

theorem eightGroups?_of_strict {cs : List Char} {gs : List Nat}
    (h : eightGroups? .strict cs = some gs) : eightGroups? Block.grammar cs = some gs := by
  unfold eightGroups? at h ⊢
  split at h
  · rw [Option.filter_eq_some_iff] at h ⊢
    exact ⟨groups?_of_strict h.1, h.2⟩
  · simp only [Option.bind_eq_bind, Option.bind_eq_some_iff, Option.ite_none_right_eq_some]
      at h ⊢
    obtain ⟨head, hhead, tail, htail, hgiven, hgs⟩ := h
    have hle : head.length + tail.length ≤ 7 := by
      rcases hgiven with h | ⟨h, _⟩
      · exact h
      · cases h
    exact ⟨head, sideGroups?_of_strict hhead, tail, sideGroups?_of_strict htail, .inl hle, hgs⟩

/-- A long address is written with a colon. -/
theorem colon_of_eightGroups? {g : Grammar} {cs : List Char} {gs : List Nat}
    (h : eightGroups? g cs = some gs) : ':' ∈ cs := by
  unfold eightGroups? at h
  split at h
  · obtain ⟨hgroups, hlength⟩ := Option.filter_eq_some_iff.mp h
    -- Without a colon there is one field, which gives at most two groups.
    by_contra hcolon
    rw [Text.fields_of_not_mem hcolon, groups?] at hgroups
    split at hgroups
    · obtain rfl := Option.some.inj hgroups
      simp at hlength
    · simp only [if_true, Option.map_eq_some_iff] at hgroups
      obtain ⟨os, _, rfl⟩ := hgroups
      simp at hlength
  · rename_i front back hcut
    rw [cutAtGap_eq hcut]
    simp

/-- A short address is written without a colon, in any grammar. -/
theorem colon_of_octets? {g : Grammar} {cs : List Char} {os : List Nat}
    (h : octets? g cs = some os) : ':' ∉ cs := by
  intro hm
  rcases digit_of_octets? h ':' hm with hc | hc
  · cases hc
  · revert hc
    decide

theorem readV4?_of_strict {cs : List Char} {a : Address} (h : Address.readV4? .strict cs = some a) :
    Address.readV4? Block.grammar cs = some a := by
  obtain ⟨os, hos, rfl⟩ := Option.map_eq_some_iff.mp h
  exact Option.map_eq_some_iff.mpr ⟨os, octets?_of_strict hos, rfl⟩

theorem readV6?_of_strict {cs : List Char} {a : Address} (h : Address.readV6? .strict cs = some a) :
    Address.readV6? Block.grammar cs = some a ∧ Address.readV4? Block.grammar cs = none := by
  obtain ⟨gs, hgs, rfl⟩ := Option.map_eq_some_iff.mp h
  refine ⟨Option.map_eq_some_iff.mpr ⟨gs, eightGroups?_of_strict hgs, rfl⟩, ?_⟩
  refine Option.map_eq_none_iff.mpr (Option.eq_none_iff_forall_ne_some.mpr fun os hos => ?_)
  exact colon_of_octets? hos (colon_of_eightGroups? hgs)

/-- An address text with all of its bits behind a slash is the block of that address
alone. -/
theorem ofText?_single {text : String} {a : Address} (h : Address.ofText? text = some a) :
    Block.ofText? (text ++ "/" ++ toString a.bitCount) = some (.single a) := by
  have hshort : Block.prefixLength? 2 32 (toString 32).toList = some 32 := by decide
  have hlong : Block.prefixLength? 3 128 (toString 128).toList = some 128 := by decide
  have hcut : ∀ back : String, Text.cutAt '/' (text ++ "/" ++ back).toList =
      some (text.toList, back.toList) := by
    intro back
    rw [String.toList_append, String.toList_append, List.append_assoc]
    exact Text.cutAt_append (slash_of_address h) back.toList
  rw [Block.ofText?, hcut]
  rcases Option.or_eq_some_iff.mp h with h | ⟨_, h⟩
  · obtain ⟨os, hos, rfl⟩ := Option.map_eq_some_iff.mp h
    simp only [Option.bind_eq_bind, Option.bind_some, readV4?_of_strict h, Address.ofOctets,
      Address.bitCount, hshort]
    rfl
  · obtain ⟨gs, hgs, rfl⟩ := Option.map_eq_some_iff.mp h
    obtain ⟨hv6, hv4⟩ := readV6?_of_strict h
    simp only [Option.bind_eq_bind, Option.bind_some, hv4, hv6, Address.ofGroups,
      Address.bitCount, hlong]
    rfl

end AccessDecision.Network
