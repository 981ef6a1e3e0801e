import AccessDecision.Proofs.Network.Mapped
import Mathlib.Data.Nat.Digits.Defs

/-
  Written addresses read back

  An address has one text that it is written as: octets without padding, groups in
  lower case without leading zeros, the first longest run of zero groups left out, and
  mapped addresses with their octets. The reader takes many more texts, and among them
  each of these for its address.

  What is proved:
    1. `octets?_octetText` and `groups?_digits` — octets and groups read back.
    2. `cutAtGap_joinFields` — the first pair of colons in a written address is the one
       that stands for groups, and `longestRun_spec` says which groups these are.
    3. `ofText?_text` — the text of an address reads as the address.
-/

namespace AccessDecision.Network

open Address (octetText groupText)

/-! ## Digits -/

section
variable {base : Nat}

theorem ofDigits_append_singleton (ds : List Nat) (d : Nat) :
    ofDigits base (ds ++ [d]) = ofDigits base ds * base + d := by
  rw [ofDigits, List.foldl_append]
  rfl

theorem ofDigits_cons (d : Nat) (ds : List Nat) :
    ofDigits base (d :: ds) = d * base ^ ds.length + ofDigits base ds := by
  induction ds using List.reverseRecOn with
  | nil => simp [ofDigits]
  | append_singleton ds last ih =>
    rw [← List.cons_append, ofDigits_append_singleton, ofDigits_append_singleton, ih,
      List.length_append, List.length_singleton, Nat.pow_succ, Nat.add_mul, Nat.mul_assoc,
      Nat.add_assoc]

theorem length_toDigits (places n : Nat) : (toDigits base places n).length = places := by
  induction places with
  | zero => rfl
  | succ places ih => rw [toDigits, List.length_cons, ih]

theorem toDigits_lt (hbase : 0 < base) {places n d : Nat} (h : d ∈ toDigits base places n) :
    d < base := by
  induction places with
  | zero => cases h
  | succ places ih =>
    rw [toDigits, List.mem_cons] at h
    rcases h with rfl | h
    · exact Nat.mod_lt _ hbase
    · exact ih h

/-- The digits in some places come to the number without what is above them. -/
theorem ofDigits_toDigits (places n : Nat) :
    ofDigits base (toDigits base places n) = n % base ^ places := by
  induction places with
  | zero => rw [Nat.pow_zero, Nat.mod_one]; rfl
  | succ places ih =>
    rw [toDigits, ofDigits_cons, length_toDigits, ih, Nat.mod_pow_succ, Nat.mul_comm,
      Nat.add_comm]

end

/-! ## Octets -/

theorem octet?_toDigits {n : Nat} (h : n < 256) :
    octet? .strict (Nat.toDigits 10 n) = some n := by
  have hlength : (Nat.toDigits 10 n).length ≤ 3 :=
    (Nat.length_toDigits_le_iff (by decide) (by decide)).mpr (by omega)
  have hzero : (Nat.toDigits 10 n).length ≤ 1 ∨ (Nat.toDigits 10 n).head? ≠ some '0' := by
    rcases Nat.eq_zero_or_pos n with rfl | hpos
    · exact .inl (by decide)
    · exact .inr (Text.head?_toDigits_ne_zero hpos)
  rw [octet?, if_pos ⟨hlength, .inr hzero⟩, Text.decimal?_eq_some.mpr (Text.writesNat_toDigits n)]
  simpa using h

theorem octets?_octetText (n : Nat) : octets? .strict (octetText n) = some (toDigits 256 4 n) := by
  have hfields : Text.fields '.' (octetText n) =
      (toDigits 256 4 n).map (Nat.toDigits 10) := by
    refine Text.fields_joinFields (by simp [toDigits]) ?_
    intro field hfield
    obtain ⟨d, _, rfl⟩ := List.mem_map.mp hfield
    intro hpoint
    have hdigit := (Text.writesNat_toDigits d).isDigit.2 '.' hpoint
    revert hdigit
    decide
  have hoctet : ∀ d ∈ toDigits 256 4 n, octet? .strict (Nat.toDigits 10 d) = some d :=
    fun d hd => octet?_toDigits (toDigits_lt (by decide) hd)
  rw [octets?, hfields]
  simp only [toDigits, List.forall_mem_cons] at hoctet
  obtain ⟨ha, hb, hc, hd, _⟩ := hoctet
  simp only [toDigits, List.map_cons, List.map_nil, ha, hb, hc, hd]
  rfl

/-! ## Groups -/

theorem hexValue?_digitChar {d : Nat} (h : d < 16) : hexValue? (Nat.digitChar d) = some d := by
  revert d
  decide

theorem mapM_hexValue? (n : Nat) :
    ∃ ds, (Nat.toDigits 16 n).mapM hexValue? = some ds ∧ ofDigits 16 ds = n := by
  induction n using Nat.strongRecOn with
  | ind n ih =>
    rcases Nat.lt_or_ge n 16 with hsmall | hlarge
    · refine ⟨[n], ?_, by simp [ofDigits]⟩
      rw [Nat.toDigits_of_lt_base hsmall, List.mapM_cons, hexValue?_digitChar hsmall]
      rfl
    · obtain ⟨ds, hds, hvalue⟩ := ih (n / 16) (by omega)
      refine ⟨ds ++ [n % 16], ?_, ?_⟩
      · rw [Nat.toDigits_of_base_le (by decide) hlarge, List.mapM_append, hds, List.mapM_cons,
          hexValue?_digitChar (Nat.mod_lt n (by decide))]
        rfl
      · rw [ofDigits_append_singleton, hvalue, Nat.div_add_mod']

/-- The digits of a group are hexadecimal. -/
theorem isSome_hexValue?_of_mem {n : Nat} : ∀ c ∈ Nat.toDigits 16 n, (hexValue? c).isSome := by
  obtain ⟨ds, hds, _⟩ := mapM_hexValue? n
  exact hex_of_mapM hds

theorem group?_toDigits {n : Nat} (h : n < 65536) : group? (Nat.toDigits 16 n) = some n := by
  have hlength : (Nat.toDigits 16 n).length ≤ 4 :=
    (Nat.length_toDigits_le_iff (by decide) (by decide)).mpr h
  obtain ⟨ds, hds, hvalue⟩ := mapM_hexValue? n
  rw [group?, if_pos ⟨Nat.length_toDigits_pos, hlength⟩, hds, Option.map_some, hvalue]

theorem groups?_digits {g : Grammar} {octetsAllowed : Bool} {gs : List Nat}
    (h : ∀ n ∈ gs, n < 65536) : groups? g octetsAllowed (gs.map (Nat.toDigits 16)) = some gs := by
  induction gs with
  | nil => rfl
  | cons n gs ih =>
    obtain ⟨hn, hgs⟩ := List.forall_mem_cons.mp h
    cases gs with
    | nil =>
      rw [List.map_cons, List.map_nil, groups?, group?_toDigits hn]
    | cons next gs =>
      have ih := ih hgs
      rw [List.map_cons] at ih ⊢
      rw [List.map_cons, groups?, group?_toDigits hn, ih]
      · rfl
      · exact List.cons_ne_nil _ _

/-- Fields that can stand between colons in a written address. -/
def Separate (fs : List (List Char)) : Prop := ∀ field ∈ fs, field ≠ [] ∧ ':' ∉ field

theorem separate_digits (gs : List Nat) : Separate (gs.map (Nat.toDigits 16)) := by
  intro field hfield
  obtain ⟨n, _, rfl⟩ := List.mem_map.mp hfield
  refine ⟨List.ne_nil_of_length_pos Nat.length_toDigits_pos, fun hcolon => ?_⟩
  cases isSome_hexValue?_of_mem ':' hcolon

theorem fields_groupText {gs : List Nat} (hne : gs ≠ []) :
    Text.fields ':' (groupText gs) = gs.map (Nat.toDigits 16) :=
  Text.fields_joinFields (by simpa using hne) fun field hfield =>
    (separate_digits gs field hfield).2

theorem sideGroups?_groupText {g : Grammar} {octetsAllowed : Bool} {gs : List Nat}
    (h : ∀ n ∈ gs, n < 65536) : sideGroups? g octetsAllowed (groupText gs) = some gs := by
  rw [sideGroups?]
  split
  · rename_i hempty
    -- Without groups there is one empty field, which is none of a group's.
    by_contra hgs
    have hne : gs ≠ [] := fun heq => hgs (by rw [heq])
    have hfields := fields_groupText hne
    rw [List.isEmpty_iff.mp hempty] at hfields
    have hmem : [] ∈ gs.map (Nat.toDigits 16) := hfields ▸ List.mem_singleton_self []
    exact (separate_digits gs [] hmem).1 rfl
  · rename_i hempty
    have hne : gs ≠ [] := fun heq => hempty (by rw [heq]; rfl)
    rw [fields_groupText hne, groups?_digits h]

/-! ## The sign for left-out groups -/

theorem cutAtGap_cons {c : Char} {cs : List Char} (h : c ≠ ':' ∨ cs.head? ≠ some ':') :
    cutAtGap (c :: cs) = (cutAtGap cs).map fun (front, back) => (c :: front, back) := by
  rw [cutAtGap]
  rintro rest rfl rfl
  simp at h

theorem cutAtGap_append {field : List Char} (h : ':' ∉ field) (rest : List Char) :
    cutAtGap (field ++ rest) =
      (cutAtGap rest).map fun (front, back) => (field ++ front, back) := by
  induction field with
  | nil => simp
  | cons c field ih =>
    rw [List.mem_cons, not_or] at h
    rw [List.cons_append, cutAtGap_cons (.inl (Ne.symm h.1)), ih h.2, Option.map_map]
    rfl

/-- Fields joined by colons hold no pair of colons. -/
theorem cutAtGap_joinFields {fs : List (List Char)} (h : Separate fs) (rest : List Char) :
    cutAtGap (Text.joinFields ':' fs ++ rest) =
      (cutAtGap rest).map fun (front, back) => (Text.joinFields ':' fs ++ front, back) := by
  induction fs with
  | nil => simp [Text.joinFields]
  | cons field fs ih =>
    obtain ⟨⟨_, hcolon⟩, hfs⟩ := List.forall_mem_cons.mp h
    cases fs with
    | nil => exact cutAtGap_append hcolon rest
    | cons next fs =>
      -- Behind the colon the next field starts, so it is not followed by another one.
      have hhead : (Text.joinFields ':' (next :: fs) ++ rest).head? ≠ some ':' := by
        obtain ⟨hne, hnext⟩ := (List.forall_mem_cons.mp hfs).1
        obtain ⟨c, cs, rfl⟩ := List.exists_cons_of_ne_nil hne
        have hc : c ≠ ':' := fun heq => hnext (heq ▸ List.mem_cons_self)
        cases fs <;> simpa [Text.joinFields] using hc
      rw [Text.joinFields, List.append_assoc, cutAtGap_append hcolon, List.cons_append,
        cutAtGap_cons (.inr hhead), ih hfs, Option.map_map, Option.map_map]
      · simp only [Function.comp_def, List.append_assoc, List.cons_append]
      · exact List.cons_ne_nil next fs

theorem cutAtGap_groupText (gs : List Nat) : cutAtGap (groupText gs) = none := by
  have hcut := cutAtGap_joinFields (separate_digits gs) []
  rwa [List.append_nil] at hcut

theorem cutAtGap_gap (gs : List Nat) (back : List Char) :
    cutAtGap (groupText gs ++ ':' :: ':' :: back) = some (groupText gs, back) := by
  have hcut := cutAtGap_joinFields (separate_digits gs) (':' :: ':' :: back)
  simp only [cutAtGap, Option.map_some, List.append_nil] at hcut
  exact hcut

namespace Address

/-! ## The run that is left out -/

theorem take_zeroRun (gs : List Nat) : gs.take (zeroRun gs) = List.replicate (zeroRun gs) 0 := by
  induction gs with
  | nil => rfl
  | cons g gs ih =>
    rw [zeroRun, List.takeWhile_cons]
    by_cases hg : g = 0
    · rw [if_pos (beq_iff_eq.mpr hg), List.length_cons, List.take_succ_cons, List.replicate_succ,
        hg]
      exact congrArg (0 :: ·) ih
    · rw [if_neg (by simpa using hg)]
      rfl

theorem zeroRun_le (gs : List Nat) : zeroRun gs ≤ gs.length := (List.takeWhile_prefix _).length_le

/-- The longest run lies within the groups and is one of zeros. -/
theorem longestRun_spec (gs : List Nat) :
    (longestRun gs).1 + (longestRun gs).2 ≤ gs.length ∧
      (gs.drop (longestRun gs).1).take (longestRun gs).2 =
        List.replicate (longestRun gs).2 0 := by
  induction gs with
  | nil => exact ⟨Nat.le_refl 0, rfl⟩
  | cons g gs ih =>
    rcases hrun : longestRun gs with ⟨start, length⟩
    obtain ⟨hle, hzeros⟩ := hrun ▸ ih
    simp only [longestRun, hrun]
    split
    · rw [Nat.zero_add]
      exact ⟨zeroRun_le (g :: gs), take_zeroRun (g :: gs)⟩
    · refine ⟨?_, hzeros⟩
      rw [List.length_cons]
      omega

/-- The groups are those before the run, the run, and those behind it. -/
theorem groups_eq {gs : List Nat} {start length : Nat} (h : longestRun gs = (start, length)) :
    gs.take start ++ List.replicate length 0 ++ gs.drop (start + length) = gs := by
  obtain ⟨_, hzeros⟩ := longestRun_spec gs
  rw [h] at hzeros
  rw [← hzeros, ← List.drop_drop, List.append_assoc, List.take_append_drop,
    List.take_append_drop]

/-! ## Reading what was written -/

theorem eightGroups?_groupText {gs : List Nat} (hlength : gs.length = 8)
    (h : ∀ n ∈ gs, n < 65536) : eightGroups? .strict (groupText gs) = some gs := by
  have hne : gs ≠ [] := List.ne_nil_of_length_pos (by omega)
  simp only [eightGroups?, cutAtGap_groupText, fields_groupText hne, groups?_digits h]
  simpa using hlength

theorem eightGroups?_gap {gs : List Nat} {start length : Nat} (hlength : gs.length = 8)
    (h : ∀ n ∈ gs, n < 65536) (hrun : longestRun gs = (start, length)) (hlong : 1 < length) :
    eightGroups? .strict (groupText (gs.take start) ++
      ':' :: ':' :: groupText (gs.drop (start + length))) = some gs := by
  obtain ⟨hle, _⟩ := longestRun_spec gs
  rw [hrun, hlength] at hle
  have hhead : sideGroups? .strict false (groupText (gs.take start)) = some (gs.take start) :=
    sideGroups?_groupText fun n hn => h n (List.mem_of_mem_take hn)
  have htail : sideGroups? .strict true (groupText (gs.drop (start + length))) =
      some (gs.drop (start + length)) :=
    sideGroups?_groupText fun n hn => h n (List.mem_of_mem_drop hn)
  have hgiven : (gs.take start).length + (gs.drop (start + length)).length = 8 - length := by
    rw [List.length_take, List.length_drop, hlength]
    omega
  have hmissing : 8 - (8 - length) = length := by omega
  simp only [eightGroups?, cutAtGap_gap, hhead, htail, Option.bind_eq_bind, Option.bind_some,
    hgiven, hmissing, groups_eq hrun]
  rw [if_pos (.inl (by omega))]

/-- The two last groups of a mapped address are written as octets. -/
theorem eightGroups?_mapped (n : Nat) :
    eightGroups? .strict ("::ffff:".toList ++ octetText n) =
      some (List.replicate 5 0 ++ [0xFFFF, ofDigits 256 ((toDigits 256 4 n).take 2),
        ofDigits 256 ((toDigits 256 4 n).drop 2)]) := by
  have hoctets := octets?_octetText n
  have hfields : Text.fields ':' ("ffff".toList ++ ':' :: octetText n) =
      ["ffff".toList, octetText n] := by
    rw [Text.fields_append_sep, Text.fields_of_not_mem (by decide),
      Text.fields_of_not_mem (colon_of_octets? hoctets)]
    rfl
  have hgroup : group? (octetText n) = none := by
    rw [Option.eq_none_iff_forall_ne_some]
    intro m hm
    simp only [group?, Option.ite_none_right_eq_some, Option.map_eq_some_iff] at hm
    obtain ⟨_, ds, hds, _⟩ := hm
    -- The points between the octets are no hexadecimal digits.
    have hpoint : '.' ∈ octetText n := by simp [octetText, toDigits, Text.joinFields]
    cases hex_of_mapM hds '.' hpoint
  have htail : sideGroups? .strict true ("ffff".toList ++ ':' :: octetText n) =
      some [0xFFFF, ofDigits 256 ((toDigits 256 4 n).take 2),
        ofDigits 256 ((toDigits 256 4 n).drop 2)] := by
    have hffff : group? "ffff".toList = some 0xFFFF := by decide
    rw [sideGroups?, if_neg (by simp), hfields]
    simp only [groups?, hffff, hgroup, hoctets, if_true, Option.map_some]
    rfl
  have hcut : cutAtGap ("::ffff:".toList ++ octetText n) =
      some ([], "ffff".toList ++ ':' :: octetText n) := rfl
  simp only [eightGroups?, hcut, htail]
  rfl

theorem ofGroups_toDigits (bits : Fin (2 ^ 128)) : ofGroups (toDigits 65536 8 bits) = v6 bits := by
  rw [ofGroups, ofDigits_toDigits]
  refine congrArg v6 (Fin.ext ?_)
  show bits.val % 65536 ^ 8 % 2 ^ 128 = bits.val
  have := bits.isLt
  omega

/-- The octets at the end of a mapped address are its last two groups. -/
theorem ofGroups_mapped {bits : Fin (2 ^ 128)} (h : bits.val / 2 ^ 32 = 0xFFFF) :
    ofGroups (List.replicate 5 0 ++
      [0xFFFF, ofDigits 256 ((toDigits 256 4 (bits.val % 2 ^ 32)).take 2),
        ofDigits 256 ((toDigits 256 4 (bits.val % 2 ^ 32)).drop 2)]) = v6 bits := by
  have hlow : ofDigits 256 (toDigits 256 4 (bits.val % 2 ^ 32)) = bits.val % 2 ^ 32 % 256 ^ 4 :=
    ofDigits_toDigits 4 (bits.val % 2 ^ 32)
  have hlt := bits.isLt
  refine congrArg v6 (Fin.ext ?_)
  simp [toDigits, ofDigits] at hlow ⊢
  omega

theorem readV4?_octetText (bits : Fin (2 ^ 32)) :
    readV4? .strict (octetText bits) = some (v4 bits) := by
  rw [readV4?, octets?_octetText, Option.map_some, ofOctets, ofDigits_toDigits]
  refine congrArg some (congrArg v4 (Fin.ext ?_))
  show bits.val % 256 ^ 4 % 2 ^ 32 = bits.val
  have := bits.isLt
  omega

/-- Where eight groups are read, no short address is. -/
theorem ofText?_of_eightGroups? {cs : List Char} {gs : List Nat}
    (h : eightGroups? .strict cs = some gs) : ofText? (String.ofList cs) = some (ofGroups gs) := by
  have hshort : readV4? .strict cs = none := by
    rw [readV4?, Option.map_eq_none_iff, Option.eq_none_iff_forall_ne_some]
    intro os hos
    exact colon_of_octets? hos (colon_of_eightGroups? h)
  rw [ofText?, String.toList_ofList, hshort, Option.none_or, readV6?, h, Option.map_some]

/-- The text of an address reads as the address. -/
theorem ofText?_text (a : Address) : ofText? a.text = some a := by
  cases a with
  | v4 bits =>
    rw [text, ofText?, String.toList_ofList, readV4?_octetText, Option.some_or]
  | v6 bits =>
    have hlength : (toDigits 65536 8 bits.val).length = 8 := length_toDigits 8 bits.val
    have hlt : ∀ n ∈ toDigits 65536 8 bits.val, n < 65536 := fun n hn =>
      toDigits_lt (by decide) hn
    rw [text]
    split
    · rename_i hmapped
      rw [ofText?_of_eightGroups? (eightGroups?_mapped _), ofGroups_mapped hmapped]
    · rcases hrun : longestRun (toDigits 65536 8 bits.val) with ⟨start, length⟩
      simp only [hrun]
      split
      · rename_i hlong
        rw [ofText?_of_eightGroups? (eightGroups?_gap hlength hlt hrun hlong), ofGroups_toDigits]
      · rw [ofText?_of_eightGroups? (eightGroups?_groupText hlength hlt), ofGroups_toDigits]

end Address

end AccessDecision.Network
