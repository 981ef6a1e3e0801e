import AccessDecision.Power

/-
  Texts as bytes

  The bytes of a text are those of its characters one after the other. A byte below
  128 is a character by itself and part of no other one, so a text can be cut in front
  of such a byte and behind it.

  What is proved:
    1. `utf8_toList` — the bytes of the characters of a string are its bytes.
    2. `utf8EncodeChar_ascii` and `not_mem_utf8EncodeChar` — a byte below 128 is the
       one byte of its character and no byte of another.
    3. `isValid_of_append` — the bytes of a part in front end between two characters.
    4. `bytes_lt` — texts are in the order of their bytes: of two characters the greater
       one has the greater first byte, or as many bytes and is greater behind it.
-/

namespace AccessDecision.Text

/-- The bytes of a string. -/
def bytes (s : String) : List UInt8 := s.toByteArray.data.toList

/-- The bytes of some characters. -/
def utf8 (cs : List Char) : List UInt8 := cs.flatMap String.utf8EncodeChar

@[simp] theorem utf8_nil : utf8 [] = [] := rfl

@[simp] theorem utf8_cons (c : Char) (cs : List Char) :
    utf8 (c :: cs) = String.utf8EncodeChar c ++ utf8 cs := rfl

@[simp] theorem utf8_append (cs ds : List Char) : utf8 (cs ++ ds) = utf8 cs ++ utf8 ds :=
  List.flatMap_append

/-- The bytes of the characters of a string are its bytes. -/
theorem utf8_toList (s : String) : utf8 s.toList = bytes s := by
  have hbytes : s.toByteArray = (utf8 s.toList).toByteArray := by
    rw [← String.ofList_toList (s := s), String.toByteArray_ofList, String.toList_ofList]
    rfl
  rw [bytes, hbytes, List.toList_data_toByteArray]

/-- A byte below 128 is the only byte of its character. -/
theorem utf8EncodeChar_ascii {b : UInt8} (hb : b < 128) :
    String.utf8EncodeChar (Char.ofNat b.toNat) = [b] := by
  have hlt : b.toNat < 128 := hb
  have hvalid : b.toNat.isValidChar := .inl (by omega)
  have hcode : (Char.ofNat b.toNat).val.toNat = b.toNat := by
    rw [Char.ofNat, dif_pos hvalid]
    rfl
  rw [String.utf8EncodeChar, hcode]
  rw [if_pos (by omega), UInt8.ofNat_toNat]

/-- A byte below 128 is no byte of a character that is not its own. -/
theorem not_mem_utf8EncodeChar {b : UInt8} (hb : b < 128) {c : Char}
    (hc : c ≠ Char.ofNat b.toNat) : b ∉ String.utf8EncodeChar c := by
  have hlt : b.toNat < 128 := hb
  -- All bytes of a longer character have their highest bit set.
  have hhigh : ∀ n : Nat, 128 ≤ n → n < 256 → b ≠ UInt8.ofNat n := by
    intro n hn hsmall heq
    have hnat := congrArg UInt8.toNat heq
    rw [UInt8.toNat_ofNat_of_lt' hsmall] at hnat
    omega
  intro hmem
  rw [String.utf8EncodeChar] at hmem
  split at hmem
  · rename_i hsmall
    apply hc
    have hnat := congrArg UInt8.toNat (List.mem_singleton.mp hmem)
    rw [UInt8.toNat_ofNat_of_lt' (by omega : c.val.toNat < 256)] at hnat
    rw [hnat]
    exact (Char.ofNat_toNat c).symm
  · have hbytes : ∃ n : Nat, 128 ≤ n ∧ n < 256 ∧ b = UInt8.ofNat n := by
      split at hmem
      · simp only [List.mem_cons, List.not_mem_nil, or_false] at hmem
        rcases hmem with h | h <;> exact ⟨_, by omega, by omega, h⟩
      · split at hmem
        · simp only [List.mem_cons, List.not_mem_nil, or_false] at hmem
          rcases hmem with h | h | h <;> exact ⟨_, by omega, by omega, h⟩
        · simp only [List.mem_cons, List.not_mem_nil, or_false] at hmem
          rcases hmem with h | h | h | h <;> exact ⟨_, by omega, by omega, h⟩
    obtain ⟨n, hn, hsmall, h⟩ := hbytes
    exact hhigh n hn hsmall h

/-- A text without the character of a byte below 128 is without the byte. -/
theorem not_mem_utf8 {b : UInt8} (hb : b < 128) {cs : List Char} (h : Char.ofNat b.toNat ∉ cs) :
    b ∉ utf8 cs := by
  intro hmem
  obtain ⟨c, hc, hmem⟩ := List.mem_flatMap.mp hmem
  exact not_mem_utf8EncodeChar hb (fun heq => h (heq ▸ hc)) hmem

/-- The bytes of a part in front end where a character ends. -/
theorem isValid_of_append {s : String} {front back : List Char} (h : s.toList = front ++ back) :
    String.Pos.Raw.IsValid s ⟨(utf8 front).length⟩ := by
  rw [String.Pos.Raw.isValid_iff_exists_append]
  refine ⟨String.ofList front, String.ofList back, ?_, ?_⟩
  · rw [← String.ofList_append, ← h, String.ofList_toList]
  · rw [String.Pos.Raw.ext_iff, String.byteIdx_rawEndPos, ← String.size_toByteArray]
    have hsize := congrArg List.length (utf8_toList (String.ofList front))
    rwa [String.toList_ofList, bytes, Array.length_toList] at hsize

/-! ## Order -/

theorem cons_byte_lt {m n : Nat} {as bs : List UInt8} (hm : m < 256) (hn : n < 256)
    (h : m < n ∨ m = n ∧ as < bs) : UInt8.ofNat m :: as < UInt8.ofNat n :: bs := by
  rw [List.cons_lt_cons_iff]
  rcases h with h | ⟨rfl, h⟩
  · left
    rw [UInt8.lt_iff_toNat_lt, UInt8.toNat_ofNat_of_lt' hm, UInt8.toNat_ofNat_of_lt' hn]
    exact h
  · exact .inr ⟨rfl, h⟩

/-- The bytes behind the first one of a character: places to the base 64. -/
def laterBytes : (places : Nat) → (code : Nat) → List UInt8
  | 0, _ => []
  | places + 1, code => UInt8.ofNat (code / 64 ^ places % 64 + 128) :: laterBytes places code

theorem laterBytes_lt {places m n : Nat} (h : m % 64 ^ places < n % 64 ^ places)
    (as bs : List UInt8) : laterBytes places m ++ as < laterBytes places n ++ bs := by
  induction places with
  | zero => simp [Nat.mod_one] at h
  | succ places ih =>
    refine cons_byte_lt (by omega) (by omega) ?_
    rw [Nat.mod_pow_succ, Nat.mod_pow_succ] at h
    have hm : m % 64 ^ places < 64 ^ places := Nat.mod_lt _ (Nat.pow_pos (by decide))
    rcases Nat.lt_trichotomy (m / 64 ^ places % 64) (n / 64 ^ places % 64) with hlt | heq | hgt
    · left
      omega
    · right
      rw [heq] at h ⊢
      exact ⟨rfl, ih (by omega)⟩
    · have hmul := Nat.mul_le_mul_left (64 ^ places) hgt
      rw [Nat.mul_succ] at hmul
      have hn : n % 64 ^ places < 64 ^ places := Nat.mod_lt _ (Nat.pow_pos (by decide))
      omega

/-- How many bytes follow the first one of a character, and what the first one says of
that. -/
inductive Lead (code : Nat) : (places mark : Nat) → Prop where
  | one : code < 0x80 → Lead code 0 0
  | two : 0x80 ≤ code → code < 0x800 → Lead code 1 0xc0
  | three : 0x800 ≤ code → code < 0x10000 → Lead code 2 0xe0
  | four : 0x10000 ≤ code → code < 0x110000 → Lead code 3 0xf0

theorem Lead.lt_256 {code places mark : Nat} (h : Lead code places mark) :
    code / 64 ^ places + mark < 256 := by
  cases h <;> omega

/-- The greater of two characters has the greater first byte, or as many bytes as the
other. -/
theorem Lead.lt_or_eq {m n places places' mark mark' : Nat} (hm : Lead m places mark)
    (hn : Lead n places' mark') (h : m < n) :
    m / 64 ^ places + mark < n / 64 ^ places' + mark' ∨ places = places' ∧ mark = mark' := by
  cases hm <;> cases hn <;> omega

theorem exists_lead (c : Char) : ∃ places mark, Lead c.toNat places mark ∧
    String.utf8EncodeChar c =
      UInt8.ofNat (c.toNat / 64 ^ places + mark) :: laterBytes places c.toNat := by
  have hlt : c.toNat < 0x110000 := by
    rcases c.valid with h | h
    · exact Nat.lt_trans h (by decide)
    · exact h.2
  have hcode : c.val.toNat = c.toNat := rfl
  simp only [String.utf8EncodeChar, hcode]
  split
  · exact ⟨0, 0, .one (by omega), by simp [laterBytes]⟩
  · split
    · refine ⟨1, 0xc0, .two (by omega) (by omega), ?_⟩
      simp [laterBytes, Nat.mod_eq_of_lt (by omega : c.toNat / 64 < 32)]
    · split
      · refine ⟨2, 0xe0, .three (by omega) (by omega), ?_⟩
        simp [laterBytes, Nat.mod_eq_of_lt (by omega : c.toNat / 4096 < 16)]
      · refine ⟨3, 0xf0, .four (by omega) (by omega), ?_⟩
        simp [laterBytes, Nat.mod_eq_of_lt (by omega : c.toNat / 262144 < 8)]

theorem utf8EncodeChar_lt {c d : Char} (h : c < d) (as bs : List UInt8) :
    String.utf8EncodeChar c ++ as < String.utf8EncodeChar d ++ bs := by
  obtain ⟨places, mark, hc, heq⟩ := exists_lead c
  obtain ⟨places', mark', hd, heq'⟩ := exists_lead d
  have hlt : c.toNat < d.toNat := h
  rw [heq, heq']
  refine cons_byte_lt hc.lt_256 hd.lt_256 ?_
  rcases hc.lt_or_eq hd hlt with hless | ⟨rfl, rfl⟩
  · exact .inl hless
  · rcases Nat.lt_or_ge (c.toNat / 64 ^ places) (d.toNat / 64 ^ places) with hless | hge
    · left
      omega
    · right
      have hdiv : c.toNat / 64 ^ places = d.toNat / 64 ^ places :=
        Nat.le_antisymm (Nat.div_le_div_right (Nat.le_of_lt hlt)) hge
      refine ⟨by rw [hdiv], laterBytes_lt ?_ as bs⟩
      have hm := Nat.div_add_mod c.toNat (64 ^ places)
      have hn := Nat.div_add_mod d.toNat (64 ^ places)
      rw [hdiv] at hm
      omega

/-- The bytes of texts are in the order of the texts. -/
theorem utf8_lt {cs ds : List Char} (h : cs < ds) : utf8 cs < utf8 ds := by
  induction h with
  | @nil d ds =>
    obtain ⟨places, mark, _, heq⟩ := exists_lead d
    rw [utf8_cons, heq]
    exact List.nil_lt_cons _ _
  | rel h => exact utf8EncodeChar_lt h _ _
  | cons _ ih => exact List.append_left_lt ih

theorem bytes_lt {a b : String} (h : a < b) : bytes a < bytes b := by
  rw [← utf8_toList, ← utf8_toList]
  exact utf8_lt h

end AccessDecision.Text
