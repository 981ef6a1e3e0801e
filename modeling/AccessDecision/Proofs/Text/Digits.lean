import AccessDecision.Power
import AccessDecision.Proofs.Text.Split

/-
  The value of digits

  What is proved:
    1. `valueOf_append` — digits in front count by a power of ten.
    2. `valueOf_lt` — so digits come to less than the power of ten of their count.
    3. `valueOf_take_rightpad` — the first places of a decimal fraction are its value
       in their unit, rounded down.
-/

namespace AccessDecision.Text

/-- The number that digits come to. -/
def valueOf (cs : List Char) : Nat := cs.foldl (fun n c => n * 10 + (c.toNat - '0'.toNat)) 0

/-- Digits and nothing else. -/
def Digits (cs : List Char) : Prop := ∀ c ∈ cs, c.isDigit = true

instance (cs : List Char) : Decidable (Digits cs) := List.decidableBAll _ cs

theorem writesNat_iff {cs : List Char} {n : Nat} :
    WritesNat cs n ↔ cs ≠ [] ∧ Digits cs ∧ valueOf cs = n := by
  constructor
  · intro h
    exact ⟨h.isDigit.1, h.isDigit.2, h.foldl_eq⟩
  · rintro ⟨hne, hdigits, rfl⟩
    exact writesNat_foldl hne hdigits

theorem Digits.append {front back : List Char} (hfront : Digits front) (hback : Digits back) :
    Digits (front ++ back) := by
  intro c hc
  rcases List.mem_append.mp hc with hc | hc
  · exact hfront c hc
  · exact hback c hc

theorem digits_zeros (n : Nat) : Digits (List.replicate n '0') := by
  intro c hc
  rw [List.eq_of_mem_replicate hc]
  rfl

/-! ## Values -/

theorem valueOf_append_singleton (cs : List Char) (c : Char) :
    valueOf (cs ++ [c]) = valueOf cs * 10 + (c.toNat - '0'.toNat) := by
  rw [valueOf, List.foldl_append]
  rfl

theorem valueOf_append (front back : List Char) :
    valueOf (front ++ back) = valueOf front * 10 ^ back.length + valueOf back := by
  induction back using List.reverseRecOn with
  | nil => simp [valueOf]
  | append_singleton back c ih =>
    rw [← List.append_assoc, valueOf_append_singleton, valueOf_append_singleton, ih,
      List.length_append, List.length_singleton, Nat.pow_succ, Nat.add_mul, Nat.mul_assoc,
      Nat.add_assoc]

theorem valueOf_zeros (n : Nat) : valueOf (List.replicate n '0') = 0 := by
  induction n with
  | zero => rfl
  | succ n ih =>
    rw [List.replicate_succ', valueOf_append_singleton, ih]
    rfl

theorem digit_lt_ten {c : Char} (h : c.isDigit = true) : c.toNat - '0'.toNat < 10 := by
  have hrange := Char.isDigit_iff_toNat.mp h
  have hzero : '0'.toNat = 48 := rfl
  have hnine : '9'.toNat = 57 := rfl
  omega

/-- Digits come to less than the power of ten of their count. -/
theorem valueOf_lt {cs : List Char} (h : Digits cs) : valueOf cs < 10 ^ cs.length := by
  induction cs using List.reverseRecOn with
  | nil => exact Nat.one_pos
  | append_singleton cs c ih =>
    have hcs := ih fun d hd => h d (List.mem_append_left _ hd)
    have hc := digit_lt_ten (h c (by simp))
    rw [valueOf_append_singleton, List.length_append, List.length_singleton, Nat.pow_succ]
    omega

/-- The first digits come to the value of all of them without the last places. -/
theorem valueOf_take {cs : List Char} (h : Digits cs) (n : Nat) :
    valueOf (cs.take n) = valueOf cs / 10 ^ (cs.length - n) := by
  have hback : valueOf (cs.drop n) < 10 ^ (cs.length - n) := by
    rw [← List.length_drop]
    exact valueOf_lt fun c hc => h c (List.mem_of_mem_drop hc)
  have hsplit := valueOf_append (cs.take n) (cs.drop n)
  rw [List.take_append_drop, List.length_drop] at hsplit
  rw [hsplit, Nat.add_comm, Nat.add_mul_div_right _ _ (Nat.pow_pos (by decide)),
    Nat.div_eq_of_lt hback, Nat.zero_add]

/-- So many places of a decimal fraction are its value in their unit, rounded down. -/
theorem valueOf_take_rightpad {cs : List Char} (h : Digits cs) (places : Nat) :
    valueOf ((cs.take places).rightpad places '0') =
      valueOf cs * 10 ^ places / 10 ^ cs.length := by
  rw [List.rightpad, valueOf_append, valueOf_zeros, valueOf_take h, List.length_replicate,
    List.length_take, Nat.add_zero]
  rcases Nat.le_total cs.length places with hshort | hlong
  · -- Zeros fill the places up.
    have hpow : (10 : Nat) ^ places = 10 ^ (places - cs.length) * 10 ^ cs.length := by
      rw [← Nat.pow_add, Nat.sub_add_cancel hshort]
    rw [Nat.sub_eq_zero_of_le hshort, Nat.pow_zero, Nat.div_one, Nat.min_eq_right hshort, hpow,
      ← Nat.mul_assoc, Nat.mul_div_cancel _ (Nat.pow_pos (by decide))]
  · -- The digits behind the places are dropped.
    have hpow : (10 : Nat) ^ cs.length = 10 ^ (cs.length - places) * 10 ^ places := by
      rw [← Nat.pow_add, Nat.sub_add_cancel hlong]
    rw [Nat.min_eq_left hlong, Nat.sub_self, Nat.pow_zero, Nat.mul_one, hpow,
      Nat.mul_div_mul_right _ _ (Nat.pow_pos (by decide))]

end AccessDecision.Text
