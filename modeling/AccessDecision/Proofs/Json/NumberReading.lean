import AccessDecision.Proofs.Json.Numeral

/-
  Numbers are read exactly

  Nothing closes a number, so it is read to its end only where a value can end. Each
  part of a reader is shown to take the text of its part, given what stands behind it,
  and nothing else.

  What is proved:
    1. `readNumber_sound` and `readNumber_complete` — exactly the texts of the grammar
       are read, and as what `Numeral.number` says.
    2. `exact_readScalar` — so scalars are read exactly where a value can end.
    3. `scalarText_numeral` — a text of a number is one of a scalar exactly if the
       number is in range.
-/

namespace AccessDecision.Json

open Text (Digits valueOf)

/-! ## Exponents -/

section
variable {negative : Bool} {significand : Nat} {scale : Int}

theorem toDouble_eq (negative : Bool) (significand : Nat) (scale : Int) :
    toDouble negative significand scale =
      asDouble negative (Decimal.Binary64.ofDecimal significand scale) := by
  unfold toDouble asDouble
  rfl

/-- The digits of an exponent are counted up to 31 bits. -/
theorem readExponentDigits_digits (zero up : Bool) {ds rest : List Char} (hds : Digits ds)
    (hrest : NoDigit rest) {value : Nat} (hvalue : value ≤ maxExponent) :
    readExponentDigits zero up value (ds ++ rest) =
      if value * 10 ^ ds.length + valueOf ds ≤ maxExponent then
        .ok (some (value * 10 ^ ds.length + valueOf ds), rest)
      else if !zero && up then .error .numberOutOfRange
      else .ok (none, rest) := by
  induction ds generalizing value with
  | nil =>
    have hsame : value * 10 ^ ([] : List Char).length + valueOf [] = value := by simp [valueOf]
    rw [hsame, if_pos hvalue, List.nil_append]
    cases rest with
    | nil => rfl
    | cons c rest => rw [readExponentDigits, hrest.cons, if_neg Bool.false_ne_true]
  | cons c ds ih =>
    obtain ⟨hc, hds⟩ := List.forall_mem_cons.mp hds
    rw [shift_cons, List.cons_append, readExponentDigits, if_pos hc]
    split
    · rename_i hfits
      exact ih hds hfits
    · rename_i hgreat
      -- The digits behind only make it greater.
      have hgrows : value * 10 + digitValue c ≤
          (value * 10 + digitValue c) * 10 ^ ds.length + valueOf ds :=
        Nat.le_trans (Nat.le_mul_of_pos_right _ (Nat.pow_pos (by decide))) (Nat.le_add_right _ _)
      rw [if_neg (fun hfits => hgreat (Nat.le_trans hgrows hfits)), dropWhile_digits hds hrest]

/-- Reads the digits of an exponent, its sign being read. -/
def readSignedExponent (negative : Bool) (significand : Nat) (scale : Int) (up : Bool)
    (cs : List Char) : Except Fault (Number × List Char) := do
  let (value, rest) ← readExponentDigits (significand == 0) up 0 cs
  match value with
  | none => .ok (.double negative Decimal.Binary64.zero, rest)
  | some v =>
    let x ← toDouble negative significand (if up then scale + v else scale - v)
    .ok (x, rest)

/-- The sign is passed over, if there is one. -/
theorem readExponent_sign {up : Bool} {sign cs : List Char} {c : Char} (hsign : SignText up sign)
    (hc : c.isDigit = true) :
    readExponent negative significand scale (sign ++ c :: cs) =
      readSignedExponent negative significand scale up (c :: cs) := by
  cases hsign with
  | plus => exact if_pos hc
  | minus => exact if_pos hc
  | none =>
    have hplus : c ≠ '+' := by
      rintro rfl
      exact absurd hc (by decide)
    have hminus : c ≠ '-' := by
      rintro rfl
      exact absurd hc (by decide)
    rw [List.nil_append]
    unfold readExponent
    split
    rename_i hsign
    split at hsign
    · rename_i heq
      exact absurd (List.cons.inj heq).1 hplus
    · rename_i heq
      exact absurd (List.cons.inj heq).1 hminus
    · cases hsign
      exact if_pos hc

/-- Behind its letter, an exponent scales the significand. -/
theorem readExponent_eq {up : Bool} {sign ds rest : List Char} (hsign : SignText up sign)
    (hne : ds ≠ []) (hds : Digits ds) (hrest : NoDigit rest) :
    readExponent negative significand scale (sign ++ (ds ++ rest)) =
      (asDouble negative (scaled? significand scale (some ⟨up, ds⟩))).map (·, rest) := by
  have hcount := readExponentDigits_digits (significand == 0) up hds hrest (Nat.zero_le maxExponent)
  rw [Nat.zero_mul, Nat.zero_add] at hcount
  have hsigned : readExponent negative significand scale (sign ++ (ds ++ rest)) =
      readSignedExponent negative significand scale up (ds ++ rest) := by
    obtain ⟨c, ds', rfl⟩ := List.exists_cons_of_ne_nil hne
    exact readExponent_sign hsign (hds c List.mem_cons_self)
  rw [hsigned, readSignedExponent, hcount, scaled?]
  dsimp only [Exponent.value]
  split
  · have hscale : (if up then scale + (valueOf ds : Int) else scale - valueOf ds) =
        scale + (if up then (valueOf ds : Int) else -(valueOf ds : Int)) := by
      cases up
      · exact Int.sub_eq_add_neg
      · rfl
    rw [Except.ok_bind]
    show (toDouble negative significand _ >>= fun x => Except.ok (x, rest)) = _
    rw [hscale, toDouble_eq]
    cases asDouble negative _ <;> rfl
  · by_cases hzero : significand = 0
    · rw [if_neg (by simp [hzero]), if_neg (by simp [hzero])]
      rfl
    · cases up
      · rw [if_neg (by simp), if_neg (by simp)]
        rfl
      · rw [if_pos (by simp [hzero]), if_pos ⟨rfl, hzero⟩]
        rfl

/-- What is read behind the letter of an exponent is its sign and its digits. -/
theorem readExponent_sound {cs rest : List Char} {x : Number}
    (h : readExponent negative significand scale cs = .ok (x, rest)) :
    ∃ up sign ds, SignText up sign ∧ ds ≠ [] ∧ Digits ds ∧
      asDouble negative (scaled? significand scale (some ⟨up, ds⟩)) = .ok x ∧
      cs = sign ++ (ds ++ rest) := by
  obtain ⟨up, sign, cs', hsign, rfl, hdigit⟩ : ∃ up sign cs', SignText up sign ∧ cs = sign ++ cs' ∧
      ¬ NoDigit cs' := by
    unfold readExponent at h
    split at h
    rename_i up cs' hsign
    have hdigit : ¬ NoDigit cs' := by
      intro hno
      split at h
      · cases h
      · rw [hno.cons, if_neg Bool.false_ne_true] at h
        cases h
    split at hsign
    · cases hsign
      exact ⟨true, ['+'], _, .plus, rfl, hdigit⟩
    · cases hsign
      exact ⟨false, ['-'], _, .minus, rfl, hdigit⟩
    · cases hsign
      exact ⟨true, [], _, .none, rfl, hdigit⟩
  obtain ⟨ds, rest', hds, hrest, rfl⟩ := eq_digits_append cs'
  have hne : ds ≠ [] := by
    rintro rfl
    exact hdigit hrest
  rw [readExponent_eq hsign hne hds hrest] at h
  obtain ⟨y, hy, heq⟩ := Except.map_eq_ok.mp h
  cases heq
  exact ⟨up, sign, ds, hsign, hne, hds, hy, rfl⟩

theorem readScale_letter {letter : Char} (hletter : letter = 'e' ∨ letter = 'E')
    (cs : List Char) : readScale negative significand scale (letter :: cs) =
      readExponent negative significand scale cs := by
  rcases hletter with rfl | rfl <;> rfl

theorem readScale_complete {e : Option Exponent} {t rest : List Char} (he : ExponentText e t)
    (hrest : Ends rest) :
    readScale negative significand scale (t ++ rest) =
      (asDouble negative (scaled? significand scale e)).map (·, rest) := by
  cases he with
  | none =>
    have hplain : readScale negative significand scale rest =
        (toDouble negative significand scale >>= fun x => .ok (x, rest)) := by
      unfold readScale
      split
      · exact absurd rfl hrest.not_number.2.2.1
      · exact absurd rfl hrest.not_number.2.2.2
      · rfl
    rw [List.nil_append, hplain, toDouble_eq, scaled?]
    cases asDouble negative _ <;> rfl
  | some hletter hsign hne hds =>
    rw [List.cons_append, readScale_letter hletter, List.append_assoc]
    exact readExponent_eq hsign hne hds hrest.noDigit

theorem readScale_sound {cs rest : List Char} {x : Number}
    (h : readScale negative significand scale cs = .ok (x, rest)) :
    ∃ e t, ExponentText e t ∧ asDouble negative (scaled? significand scale e) = .ok x ∧
      cs = t ++ rest := by
  have hexponent : ∀ {letter : Char} {cs : List Char}, letter = 'e' ∨ letter = 'E' →
      readExponent negative significand scale cs = .ok (x, rest) →
      ∃ e t, ExponentText e t ∧ asDouble negative (scaled? significand scale e) = .ok x ∧
        letter :: cs = t ++ rest := by
    intro letter cs hletter h
    obtain ⟨up, sign, ds, hsign, hne, hds, hx, rfl⟩ := readExponent_sound h
    exact ⟨_, _, .some hletter hsign hne hds, hx, by simp⟩
  unfold readScale at h
  split at h
  · exact hexponent (.inl rfl) h
  · exact hexponent (.inr rfl) h
  · obtain ⟨y, hy, heq⟩ := Except.bind_eq_ok.mp h
    cases heq
    rw [toDouble_eq] at hy
    exact ⟨none, [], .none, hy, rfl⟩

/-! ## Fractions -/

/-- Behind its point, a fraction adds to the significand what fits. -/
theorem readFraction_eq {ds rest : List Char} (hne : ds ≠ []) (hds : Digits ds)
    (hrest : NoDigit rest) :
    readFraction negative significand scale (ds ++ rest) =
      readScale negative (addDigits significand 0 ds).1
        (scale - (addDigits significand 0 ds).2.1) rest := by
  have hleft := digits_left hds significand 0
  obtain ⟨taken, hsplit, _, hcount⟩ := addDigits_split significand 0 ds
  rw [readFraction, addDigits_append_rest hrest]
  cases hdropped : (addDigits significand 0 ds).2.2 with
  | nil =>
    -- Every digit is taken, so there are some.
    have hsome : (addDigits significand 0 ds).2.1 ≠ 0 := by
      rw [hdropped, List.append_nil] at hsplit
      rw [hcount, ← hsplit, Nat.zero_add]
      exact fun h => hne (List.eq_nil_of_length_eq_zero h)
    cases rest with
    | nil => exact if_neg hsome
    | cons c rest =>
      simp only [List.nil_append, hrest.cons, Bool.false_eq_true, if_false, if_neg hsome]
  | cons c dropped =>
    rw [hdropped] at hleft
    obtain ⟨hc, hdropped'⟩ := List.forall_mem_cons.mp hleft
    simp only [List.cons_append, hc, if_true, dropWhile_digits hdropped' hrest]

theorem readFraction_sound {cs rest : List Char} {x : Number}
    (h : readFraction negative significand scale cs = .ok (x, rest)) :
    ∃ ds rest', ds ≠ [] ∧ Digits ds ∧ cs = ds ++ rest' ∧
      readScale negative (addDigits significand 0 ds).1
        (scale - (addDigits significand 0 ds).2.1) rest' = .ok (x, rest) := by
  obtain ⟨ds, rest', hds, hrest, rfl⟩ := eq_digits_append cs
  have hne : ds ≠ [] := by
    rintro rfl
    rw [readFraction, addDigits_append_rest hrest] at h
    cases rest' with
    | nil => cases h
    | cons c rest' =>
      simp only [addDigits, List.nil_append, hrest.cons, Bool.false_eq_true, if_false, if_true] at h
      cases h
  rw [readFraction_eq hne hds hrest] at h
  exact ⟨ds, rest', hne, hds, rfl, h⟩

/-! ## What stands behind the digits -/

/-- What a significand comes to with a fraction and an exponent behind it. Where neither
is written, the number is plain. -/
def withScale (negative : Bool) (significand : Nat) (scale : Int)
    (plain : Except Fault Number) (fraction : List Char) (exponent : Option Exponent) :
    Except Fault Number :=
  if fraction = [] ∧ exponent.isNone then plain
  else asDouble negative (scaled? (addDigits significand 0 fraction).1
    (scale - (addDigits significand 0 fraction).2.1) exponent)

/-- Reads a fraction and an exponent. Where neither follows, the number is plain. -/
def readBehind (negative : Bool) (significand : Nat) (scale : Int)
    (plain : Except Fault Number) : Reader Number
  | '.' :: rest => readFraction negative significand scale rest
  | 'e' :: rest | 'E' :: rest => readExponent negative significand scale rest
  | cs => plain.map (·, cs)

variable {plain : Except Fault Number}

theorem readBehind_plain {cs : List Char} (hpoint : ∀ rest, cs = '.' :: rest → False)
    (he : ∀ rest, cs = 'e' :: rest → False) (hE : ∀ rest, cs = 'E' :: rest → False) :
    readBehind negative significand scale plain cs = plain.map (·, cs) := by
  unfold readBehind
  split
  · exact absurd rfl (hpoint _)
  · exact absurd rfl (he _)
  · exact absurd rfl (hE _)
  · rfl

theorem readBehind_letter {letter : Char} (hletter : letter = 'e' ∨ letter = 'E')
    (cs : List Char) : readBehind negative significand scale plain (letter :: cs) =
      readExponent negative significand scale cs := by
  rcases hletter with rfl | rfl <;> rfl

/-- Without a fraction, an exponent scales the significand. -/
theorem withScale_exponent (e : Exponent) :
    withScale negative significand scale plain [] (some e) =
      asDouble negative (scaled? significand scale (some e)) := by
  simp [withScale, addDigits]

theorem readBehind_complete {f tf te rest : List Char} {e : Option Exponent}
    (hf : FractionText f tf) (he : ExponentText e te) (hrest : Ends rest) :
    readBehind negative significand scale plain (tf ++ (te ++ rest)) =
      (withScale negative significand scale plain f e).map (·, rest) := by
  cases hf with
  | point hne hds =>
    rw [withScale, if_neg (fun h => hne h.1)]
    show readFraction negative significand scale (f ++ (te ++ rest)) = _
    rw [readFraction_eq hne hds (he.noDigit hrest), readScale_complete he hrest]
  | none =>
    rw [List.nil_append]
    cases he with
    | none =>
      rw [withScale, if_pos ⟨rfl, rfl⟩, List.nil_append]
      refine readBehind_plain ?_ ?_ ?_
      · rintro rest rfl
        exact hrest.not_number.2.1 rfl
      · rintro rest rfl
        exact hrest.not_number.2.2.1 rfl
      · rintro rest rfl
        exact hrest.not_number.2.2.2 rfl
    | some hletter hsign hne hds =>
      rw [withScale_exponent, List.cons_append, readBehind_letter hletter, List.append_assoc]
      exact readExponent_eq hsign hne hds hrest.noDigit

theorem readBehind_sound {cs rest : List Char} {x : Number}
    (h : readBehind negative significand scale plain cs = .ok (x, rest)) :
    ∃ f e tf te, FractionText f tf ∧ ExponentText e te ∧
      withScale negative significand scale plain f e = .ok x ∧ cs = tf ++ (te ++ rest) := by
  have hexponent : ∀ {letter : Char} {cs : List Char}, letter = 'e' ∨ letter = 'E' →
      readExponent negative significand scale cs = .ok (x, rest) →
      ∃ f e tf te, FractionText f tf ∧ ExponentText e te ∧
        withScale negative significand scale plain f e = .ok x ∧
        letter :: cs = tf ++ (te ++ rest) := by
    intro letter cs hletter h
    obtain ⟨up, sign, ds, hsign, hne, hds, hx, rfl⟩ := readExponent_sound h
    refine ⟨[], _, [], _, .none, .some hletter hsign hne hds, ?_, by simp⟩
    rw [withScale_exponent]
    exact hx
  unfold readBehind at h
  split at h
  · obtain ⟨ds, rest', hne, hds, rfl, hscale⟩ := readFraction_sound h
    obtain ⟨e, te, he, hx, rfl⟩ := readScale_sound hscale
    refine ⟨ds, e, _, te, .point hne hds, he, ?_, rfl⟩
    rw [withScale, if_neg (fun hnil => hne hnil.1)]
    exact hx
  · exact hexponent (.inl rfl) h
  · exact hexponent (.inr rfl) h
  · obtain ⟨y, hy, heq⟩ := Except.map_eq_ok.mp h
    cases heq
    exact ⟨[], none, [], [], .none, .none, (if_pos ⟨rfl, rfl⟩).trans hy, rfl⟩

end

/-! ## Numbers -/

theorem readAfterDigits_eq (negative : Bool) (significand : Nat) (cs : List Char) :
    readAfterDigits negative significand cs =
      readBehind negative significand 0 (wholeNumber negative significand) cs := by
  unfold readAfterDigits
  split
  · rfl
  · rfl
  · rfl
  · rename_i hpoint he hE
    rw [readBehind_plain hpoint he hE]
    cases wholeNumber negative significand <;> rfl

/-- A number without fraction and exponent: an integer, if it fits 64 bits. -/
def Numeral.plain (n : Numeral) : Except Fault Number :=
  if n.held.2.2 = [] then wholeNumber n.negative n.held.1
  else toDouble n.negative n.held.1 n.held.2.2.length

theorem Numeral.withScale_plain (n : Numeral) :
    withScale n.negative n.held.1 n.held.2.2.length n.plain n.fraction n.exponent = n.number := by
  rw [withScale, number, plain]
  by_cases hbehind : n.fraction = [] ∧ n.exponent.isNone
  · rw [if_pos hbehind]
    by_cases hheld : n.held.2.2 = []
    · rw [if_pos hheld, if_pos ⟨hheld, hbehind⟩]
    · rw [if_neg hheld, if_neg (fun h => hheld h.1), toDouble_eq, significand, scale, hbehind.1,
        Option.isNone_iff_eq_none.mp hbehind.2]
      simp [addDigits, scaled?]
  · rw [if_neg hbehind, if_neg (fun h => hbehind h.2)]
    rfl

/-- Behind the digits in front of a point, the rest is read with what the significand
holds of them. -/
theorem readNumber_eq (n : Numeral) (hwhole : WholeText n.whole) {rest : List Char}
    (hrest : NoDigit rest) :
    readNumber n.negative (n.whole ++ rest) =
      readBehind n.negative n.held.1 n.held.2.2.length n.plain rest := by
  obtain ⟨hne, hds, hzero⟩ := hwhole
  have hno : rest.head?.any Char.isDigit = false := hrest
  obtain ⟨c, ds, hwhole⟩ := List.exists_cons_of_ne_nil hne
  by_cases hc : c = '0'
  · -- A zero stands alone.
    obtain rfl := hc
    have halone : n.whole = ['0'] := hzero (by rw [hwhole]; rfl)
    have hheld : n.held = (0, 1, []) := by rw [Numeral.held, halone]; rfl
    rw [halone, List.singleton_append, readNumber, hno, if_neg Bool.false_ne_true,
      readAfterDigits_eq, Numeral.plain, hheld]
    rfl
  · have hdigit : c.isDigit = true := hds c (by rw [hwhole]; exact List.mem_cons_self)
    have hadd : addDigits 0 0 (n.whole ++ rest) =
        (n.held.1, n.held.2.1, n.held.2.2 ++ rest) := addDigits_append_rest hrest 0 0
    have hleft : Digits n.held.2.2 := digits_left hds 0 0
    rw [hwhole, List.cons_append] at hadd ⊢
    rw [readNumber]
    · rw [if_pos hdigit, hadd]
      dsimp only
      rw [Numeral.plain]
      cases hdropped : n.held.2.2 with
      | nil =>
        rw [List.nil_append, hno, if_neg Bool.false_ne_true, if_pos rfl, readAfterDigits_eq]
        rfl
      | cons d dropped =>
        rw [hdropped] at hleft
        have hfirst : ((d :: dropped ++ rest).head?.any Char.isDigit) = true :=
          hleft d List.mem_cons_self
        rw [if_pos hfirst, takeWhile_digits hleft hrest, dropWhile_digits hleft hrest,
          if_neg (List.cons_ne_nil _ _)]
        split
        · rfl
        · rename_i hpoint
          unfold readScale
          split
          · rfl
          · rfl
          · rename_i he hE
            rw [readBehind_plain hpoint he hE]
            cases toDouble n.negative n.held.1 _ <;> rfl
    · rintro rfl
      exact hc rfl

/-- A number is read to its end where a value can end. -/
theorem readNumber_complete {n : Numeral} {t rest : List Char} (h : UnsignedText n t)
    (hrest : Ends rest) :
    readNumber n.negative (t ++ rest) = n.number.map (·, rest) := by
  obtain ⟨hwhole, tf, te, hf, he, rfl⟩ := h
  rw [List.append_assoc, List.append_assoc,
    readNumber_eq n hwhole (hf.noDigit (he.noDigit hrest))]
  exact (readBehind_complete hf he hrest).trans (congrArg _ n.withScale_plain)

/-- What is read as a number is one. -/
theorem readNumber_sound {negative : Bool} {cs rest : List Char} {x : Number}
    (h : readNumber negative cs = .ok (x, rest)) :
    ∃ n t, n.negative = negative ∧ UnsignedText n t ∧ n.number = .ok x ∧ cs = t ++ rest := by
  obtain ⟨ds, rest', hds, hrest, rfl⟩ := eq_digits_append cs
  have hwhole : WholeText ds := by
    refine ⟨?_, hds, fun hzero => ?_⟩
    · rintro rfl
      rw [List.nil_append] at h
      unfold readNumber at h
      split at h
      · cases h
      · exact absurd hrest.cons (by decide)
      · rw [hrest.cons, if_neg Bool.false_ne_true] at h
        cases h
    · obtain ⟨ds', rfl⟩ := List.head?_eq_some_iff.mp hzero
      cases ds' with
      | nil => rfl
      | cons d ds' =>
        have hd : d.isDigit = true := hds d (by simp)
        rw [List.cons_append, readNumber, if_pos (show ((d :: ds' ++ rest').head?.any
          Char.isDigit) = true from hd)] at h
        cases h
  rw [readNumber_eq ⟨negative, ds, [], none⟩ hwhole hrest] at h
  obtain ⟨f, e, tf, te, hf, he, hx, rfl⟩ := readBehind_sound h
  refine ⟨⟨negative, ds, f, e⟩, ds ++ (tf ++ te), rfl, ⟨hwhole, tf, te, hf, he, rfl⟩, ?_, by simp⟩
  rw [← Numeral.withScale_plain]
  exact hx

/-! ## Scalars -/

/-- How a scalar is written. A number is one only if it is in range. -/
inductive ScalarText : Scalar → List Char → Prop where
  | yes : ScalarText (.boolean true) ['t', 'r', 'u', 'e']
  | no : ScalarText (.boolean false) ['f', 'a', 'l', 's', 'e']
  | string {s : String} {t : List Char} : StringText s t → ScalarText (.string s) t
  | number {n : Numeral} {x : Number} {t : List Char} : NumeralText n t → n.number = .ok x →
      ScalarText (.number x) t

theorem readLiteral_eq_ok {literal cs rest : List Char} {u : Unit} :
    readLiteral literal cs = .ok (u, rest) ↔ cs = literal ++ rest := by
  induction literal generalizing cs with
  | nil => simp [readLiteral]
  | cons l literal ih =>
    cases cs with
    | nil => simp [readLiteral]
    | cons c cs =>
      rw [readLiteral, List.cons_append, List.cons.injEq]
      split
      · rename_i hc
        rw [ih, and_iff_right hc]
      · rename_i hc
        exact ⟨nofun, fun h => absurd h.1 hc⟩

section
variable {inner : Option (Reader (Option Scalar))}

/-- What is read as a scalar is written as one. -/
theorem readAnyWith_sound {cs rest : List Char} {x : Scalar}
    (h : readAnyWith inner cs = .ok (some x, rest)) :
    ∃ w t, Blank w ∧ ScalarText x t ∧ cs = w ++ (t ++ rest) := by
  unfold readAnyWith at h
  split at h
  · cases h
  · obtain ⟨_, _, heq⟩ := Except.map_eq_ok.mp h
    cases heq
  · rename_i hskip
    obtain ⟨w, hw, rfl⟩ := skipSpace_eq_cons hskip
    obtain ⟨⟨_, rest'⟩, hread, heq⟩ := Except.map_eq_ok.mp h
    cases heq
    rw [readLiteral_eq_ok.mp hread]
    exact ⟨w, _, hw, .yes, rfl⟩
  · rename_i hskip
    obtain ⟨w, hw, rfl⟩ := skipSpace_eq_cons hskip
    obtain ⟨⟨_, rest'⟩, hread, heq⟩ := Except.map_eq_ok.mp h
    cases heq
    rw [readLiteral_eq_ok.mp hread]
    exact ⟨w, _, hw, .no, rfl⟩
  · rename_i hskip
    obtain ⟨w, hw, rfl⟩ := skipSpace_eq_cons hskip
    obtain ⟨⟨s, rest'⟩, hread, heq⟩ := Except.map_eq_ok.mp h
    cases heq
    obtain ⟨body, hbody, rfl⟩ := readString_eq_ok.mp hread
    exact ⟨w, _, hw, .string ⟨body, hbody, rfl⟩, by simp⟩
  · rename_i hskip
    obtain ⟨w, hw, rfl⟩ := skipSpace_eq_cons hskip
    obtain ⟨⟨y, rest'⟩, hread, heq⟩ := Except.map_eq_ok.mp h
    cases heq
    obtain ⟨n, t, hnegative, ht, hy, rfl⟩ := readNumber_sound hread
    exact ⟨w, '-' :: t, hw, .number ⟨t, ht, by rw [hnegative]; rfl⟩ hy, rfl⟩
  · split at h
    · cases h
    · obtain ⟨_, _, heq⟩ := Except.map_eq_ok.mp h
      cases heq
  · split at h
    · cases h
    · obtain ⟨_, _, heq⟩ := Except.map_eq_ok.mp h
      cases heq
  · rename_i hskip
    obtain ⟨w, hw, rfl⟩ := skipSpace_eq_cons hskip
    obtain ⟨_, hnumber⟩ := Except.ite_else_error_eq_ok.mp h
    obtain ⟨⟨y, rest'⟩, hread, heq⟩ := Except.map_eq_ok.mp hnumber
    cases heq
    obtain ⟨n, t, hnegative, ht, hy, hcs⟩ := readNumber_sound hread
    exact ⟨w, t, hw, .number ⟨t, ht, by rw [hnegative]; rfl⟩ hy, by rw [hcs]⟩

/-- A written number is read as what it comes to. -/
theorem readAnyWith_numeral {n : Numeral} {t rest : List Char} (h : NumeralText n t)
    (hrest : Ends rest) :
    readAnyWith inner (t ++ rest) = n.number.map fun x => (some (.number x), rest) := by
  obtain ⟨body, hbody, rfl⟩ := h
  have hread := readNumber_complete hbody hrest
  have hmap : (n.number.map (·, rest)).map (fun r : Number × List Char =>
      (some (Scalar.number r.1), r.2)) = n.number.map fun x => (some (.number x), rest) := by
    cases n.number <;> rfl
  cases hnegative : n.negative with
  | true =>
    rw [hnegative] at hread
    rw [if_pos rfl, List.append_assoc, List.singleton_append, ← hmap, ← hread]
    rfl
  | false =>
    rw [hnegative] at hread
    obtain ⟨hwhole, tf, te, _, _, rfl⟩ := hbody
    obtain ⟨c, ds, hds⟩ := List.exists_cons_of_ne_nil hwhole.1
    have hc : c.isDigit = true := hwhole.2.1 c (by rw [hds]; exact List.mem_cons_self)
    rw [if_neg Bool.false_ne_true, List.nil_append, ← hmap, ← hread]
    rw [hds, List.cons_append, List.cons_append]
    exact readAnyWith_digit hc

/-- A written scalar is read to its end where a value can end. -/
theorem readAnyWith_complete {x : Scalar} {t rest : List Char} (h : ScalarText x t)
    (hrest : Ends rest) : readAnyWith inner (t ++ rest) = .ok (some x, rest) := by
  cases h with
  | yes => rfl
  | no => rfl
  | @string s t ht =>
    obtain ⟨body, hbody, rfl⟩ := ht
    have hread : readString (body ++ '"' :: rest) = .ok (s, rest) :=
      readString_eq_ok.mpr ⟨body, hbody, rfl⟩
    rw [List.cons_append, List.append_assoc, List.singleton_append]
    show (readString (body ++ '"' :: rest)).map _ = _
    rw [hread]
    rfl
  | number ht hx =>
    rw [readAnyWith_numeral ht hrest, hx]
    rfl

/-- A text of a number is one of a scalar only if the number is in range. -/
theorem scalarText_numeral {n : Numeral} {t : List Char} (h : NumeralText n t) {x : Scalar} :
    ScalarText x t ↔ ∃ y, n.number = .ok y ∧ x = .number y := by
  constructor
  · intro hx
    have hread : readAnyWith none (t ++ []) = .ok (some x, []) := readAnyWith_complete hx ends_nil
    rw [readAnyWith_numeral h ends_nil] at hread
    obtain ⟨y, hy, heq⟩ := Except.map_eq_ok.mp hread
    cases heq
    exact ⟨y, hy, rfl⟩
  · rintro ⟨y, hy, rfl⟩
    exact .number h hy

end

/-- Scalars are read exactly where a value can end. -/
theorem exact_readScalar (levels : Nat) : ExactWithin (readScalar levels) ScalarText := by
  obtain ⟨inner, hinner⟩ : ∃ inner, readAny levels = readAnyWith inner := by
    cases levels with
    | zero => exact ⟨none, rfl⟩
    | succ levels => exact ⟨some (readAny levels), rfl⟩
  constructor
  · intro cs x rest h
    rw [readScalar, hinner] at h
    split at h
    · cases h
    · rename_i hread
      cases h
      exact readAnyWith_sound hread
    · cases h
  · intro w t rest x hw ht hrest
    rw [readScalar, hinner, readAnyWith_blank hw, readAnyWith_complete ht hrest]

end AccessDecision.Json
