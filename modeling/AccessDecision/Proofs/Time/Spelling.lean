import AccessDecision.Proofs.Text.Digits
import AccessDecision.Proofs.Time.Calendar
import AccessDecision.Time.Timestamp

/-
  Spellings of an instant

  At every offset a clock shows an instant as a date and a time of day, and these are
  written in many ways: the sign between date and time, the digits of the fraction and
  the spelling of the offset are free. A leap second is shown as the second 60, and it
  is the last of its minute at every offset, because offsets are whole minutes.

  What is proved:
    1. `ofText?_of_spells` — every spelling of an instant is read as the instant.
    2. `regular_of_ofText?` — an instant that is read lies within its second, or within
       the second after the last one of a minute.
    3. `exists_spells` — such an instant has a spelling at every offset where its year
       has four digits.
-/

namespace AccessDecision.Time

/-! ## What a clock shows -/

/-- An instant within a second, or in the leap second behind the last second of a
minute. -/
def Instant.Regular (i : Instant) : Prop :=
  i.nanos < nanosPerSecond ∨ (i.nanos < 2 * nanosPerSecond ∧ i.seconds % 60 = 59)

/-- By a clock so many minutes ahead of universal time the instant falls into a year of
four digits. -/
def Instant.FourDigitYear (i : Instant) (ahead : Int) : Prop :=
  ∃ days : Nat, (i.seconds + 60 * ahead) / secondsPerDay = (days : Int) - epochDays ∧
    (Date.afterDays days).year ≤ 9999

/-- A clock so many minutes ahead of universal time shows the instant so, the date as
days after the first date. In a leap second it shows the second 60. -/
structure Shows (i : Instant) (ahead : Int) (days hour minute second : Nat) : Prop where
  nanos_lt : i.nanos < 2 * nanosPerSecond
  hour_lt : hour < 24
  minute_lt : minute < 60
  second_lt : if i.nanos < nanosPerSecond then second < 60 else second = 60
  seconds_eq : i.seconds + 60 * ahead =
    ((days : Int) - epochDays) * secondsPerDay + (hour * 3600 + minute * 60 + min second 59 : Nat)

/-- No fraction of a second, or a point and digits. Only whole nanoseconds count. -/
inductive FractionText : Nat → List Char → Prop where
  | none : FractionText 0 []
  | digits {ds : List Char} {n : Nat} : Text.WritesNat ds n →
      FractionText (n * 10 ^ 9 / 10 ^ ds.length) ('.' :: ds)

/-- An offset in minutes. -/
inductive OffsetText : Int → List Char → Prop where
  | zero {c : Char} : c = 'Z' ∨ c = 'z' → OffsetText 0 [c]
  | ahead {hours minutes : Nat} : hours < 24 → minutes < 60 →
      OffsetText (hours * 60 + minutes : Nat) ('+' :: (padded 2 hours ++ ':' :: padded 2 minutes))
  | behind {sign : Char} {hours minutes : Nat} : sign = '-' ∨ sign = '\u2212' → hours < 24 →
      minutes < 60 →
      OffsetText (-(hours * 60 + minutes : Nat))
        (sign :: (padded 2 hours ++ ':' :: padded 2 minutes))

/-- A date and a time of day. -/
def clockText (date : Date) (separator : Char) (hour minute second : Nat) : List Char :=
  padded 4 date.year ++ '-' :: (padded 2 date.month ++ '-' :: (padded 2 date.day ++ separator ::
    (padded 2 hour ++ ':' :: (padded 2 minute ++ ':' :: padded 2 second))))

/-- The text is what a clock so many minutes ahead of universal time shows at the
instant, in a year of four digits. -/
def Spells (i : Instant) (ahead : Int) (text : String) : Prop :=
  ∃ days hour minute second separator fraction offset,
    Shows i ahead days hour minute second ∧ (Date.afterDays days).year ≤ 9999 ∧
    (separator = 'T' ∨ separator = 't' ∨ separator = ' ') ∧
    FractionText (i.nanos % nanosPerSecond) fraction ∧ OffsetText ahead offset ∧
    text.toList = clockText (Date.afterDays days) separator hour minute second ++
      (fraction ++ offset)

/-! ## Digits in places -/

theorem digits_padded (places n : Nat) : Text.Digits (padded places n) :=
  (Text.digits_zeros _).append (Text.writesNat_toDigits n).isDigit.2

theorem valueOf_padded (places n : Nat) : Text.valueOf (padded places n) = n := by
  rw [padded, List.leftpad, Text.valueOf_append, Text.valueOf_zeros, Nat.zero_mul, Nat.zero_add]
  exact (Text.writesNat_iff.mp (Text.writesNat_toDigits n)).2.2

theorem length_padded {places n : Nat} (hplaces : 0 < places) (hn : n < 10 ^ places) :
    (padded places n).length = places := by
  rw [padded, List.length_leftpad]
  exact Nat.max_eq_left ((Nat.length_toDigits_le_iff (by decide) hplaces).mpr hn)

theorem writesNat_padded (places n : Nat) : Text.WritesNat (padded places n) n := by
  refine Text.writesNat_iff.mpr ⟨?_, digits_padded places n, valueOf_padded places n⟩
  rw [padded, List.leftpad]
  exact List.append_ne_nil_of_right_ne_nil _ Nat.toDigits_ne_nil

/-- Two places are two digits that read back. -/
theorem padded_two {n : Nat} (hn : n < 100) :
    ∃ a b, padded 2 n = [a, b] ∧ Text.decimal? [a, b] = some n := by
  obtain ⟨a, b, hab⟩ := List.length_eq_two.mp (@length_padded 2 n (by decide) hn)
  exact ⟨a, b, hab, hab ▸ Text.decimal?_eq_some.mpr (writesNat_padded _ _)⟩

/-- Four places are four digits that read back. -/
theorem padded_four {n : Nat} (hn : n < 10000) :
    ∃ a b c d, padded 4 n = [a, b, c, d] ∧ Text.decimal? [a, b, c, d] = some n := by
  have hlength := @length_padded 4 n (by decide) hn
  obtain ⟨a, rest, hrest⟩ := List.exists_cons_of_length_eq_add_one hlength
  rw [hrest, List.length_cons, Nat.add_right_cancel_iff] at hlength
  obtain ⟨b, c, d, rfl⟩ := List.length_eq_three.mp hlength
  exact ⟨a, b, c, d, hrest, hrest ▸ Text.decimal?_eq_some.mpr (writesNat_padded _ _)⟩

namespace Timestamp

/-! ## Spellings are read -/

theorem offset?_of_offsetText {ahead : Int} {offset : List Char} (h : OffsetText ahead offset) :
    offset? offset = some (60 * ahead) ∧
      ∃ c rest, offset = c :: rest ∧ c.isDigit = false ∧ c ≠ '.' := by
  cases h with
  | zero hc =>
    refine ⟨by rw [offset?, if_pos hc]; rfl, _, _, rfl, ?_⟩
    rcases hc with rfl | rfl <;> decide
  | @ahead hours minutes hhours hminutes =>
    obtain ⟨a, b, hab, hread⟩ := padded_two (n := hours) (by omega)
    obtain ⟨c, d, hcd, hread'⟩ := padded_two (n := minutes) (by omega)
    refine ⟨?_, _, _, rfl, by decide, by decide⟩
    have hrange : hours ≤ 23 ∧ minutes ≤ 59 := by omega
    rw [hab, hcd]
    simp only [List.cons_append, List.nil_append, offset?, hread, hread', sign?, if_true,
      Option.bind_eq_bind, Option.bind_some, if_pos hrange, Option.some.injEq]
    omega
  | @behind sign hours minutes hsign hhours hminutes =>
    obtain ⟨a, b, hab, hread⟩ := padded_two (n := hours) (by omega)
    obtain ⟨c, d, hcd, hread'⟩ := padded_two (n := minutes) (by omega)
    refine ⟨?_, _, _, rfl, ?_⟩
    · have hrange : hours ≤ 23 ∧ minutes ≤ 59 := by omega
      have hplus : sign ≠ '+' := by rcases hsign with rfl | rfl <;> decide
      rw [hab, hcd]
      simp only [List.cons_append, List.nil_append, offset?, hread, hread', sign?, if_neg hplus,
        if_pos hsign, Option.bind_eq_bind, Option.bind_some, if_pos hrange, Option.some.injEq]
      omega
    · rcases hsign with rfl | rfl <;> decide

theorem fractionNanos_eq {ds : List Char} (hdigits : Text.Digits ds) :
    fractionNanos ds = Text.valueOf ds * 10 ^ 9 / 10 ^ ds.length := by
  have hpadded : Text.Digits ((ds.take 9).rightpad 9 '0') :=
    Text.Digits.append (fun c hc => hdigits c (List.mem_of_mem_take hc)) (Text.digits_zeros _)
  have hne : (ds.take 9).rightpad 9 '0' ≠ [] := by
    apply List.ne_nil_of_length_pos
    rw [List.length_rightpad]
    omega
  have hread := Text.decimal?_eq_some.mpr (Text.writesNat_iff.mpr ⟨hne, hpadded, rfl⟩)
  rw [fractionNanos, hread, Option.getD_some, Text.valueOf_take_rightpad hdigits]

theorem readFraction?_of_fractionText {nanos : Nat} {fraction : List Char}
    (h : FractionText nanos fraction) {c : Char} (hdigit : c.isDigit = false) (hpoint : c ≠ '.')
    (rest : List Char) :
    readFraction? (fraction ++ c :: rest) = some (nanos, c :: rest) := by
  cases h with
  | none =>
    rw [List.nil_append, readFraction?]
    simpa using hpoint
  | @digits ds n hds =>
    obtain ⟨hne, hdigits, rfl⟩ := Text.writesNat_iff.mp hds
    have htake : (ds ++ c :: rest).takeWhile Char.isDigit = ds := by
      rw [List.takeWhile_append_of_pos hdigits, List.takeWhile_cons_of_neg (by simp [hdigit]),
        List.append_nil]
    have hdrop : (ds ++ c :: rest).dropWhile Char.isDigit = c :: rest := by
      rw [List.dropWhile_append_of_pos hdigits, List.dropWhile_cons_of_neg (by simp [hdigit])]
    rw [List.cons_append, readFraction?]
    simp only [htake, hdrop]
    cases ds with
    | nil => exact absurd rfl hne
    | cons d ds => simp only [fractionNanos_eq hdigits]

theorem ofClock?_of_shows {i : Instant} {ahead : Int} {days hour minute second : Nat}
    (h : Shows i ahead days hour minute second) :
    ofClock? (Date.afterDays days) hour minute second (i.nanos % nanosPerSecond) (60 * ahead) =
      some ⟨i, 60 * ahead⟩ := by
  obtain ⟨hvalid, hdays⟩ := Date.toDays_afterDays days
  obtain ⟨hnanos, hhour, hminute, hsecond, hseconds⟩ := h
  have hlt : second ≤ 60 := by
    split at hsecond <;> omega
  rw [ofClock?, if_pos ⟨hvalid, by omega, by omega, hlt⟩, hdays]
  obtain ⟨seconds, nanos⟩ := i
  simp only at hnanos hsecond hseconds ⊢
  split at hsecond
  · -- Within a second the clock shows the fraction itself.
    have hne : second ≠ 60 := by omega
    have hmin : min second 59 = second := by omega
    rw [hmin] at hseconds
    rw [if_neg hne, Nat.mod_eq_of_lt ‹_›, ← hseconds, Int.add_sub_cancel]
  · -- In a leap second it shows what is past the second 59.
    have hfraction : nanos % nanosPerSecond + nanosPerSecond = nanos := by
      rw [Nat.mod_eq_sub_mod (by omega), Nat.mod_eq_of_lt (by omega)]
      omega
    subst hsecond
    rw [show min 60 59 = 59 from rfl] at hseconds
    rw [if_pos rfl, hfraction, ← hseconds, Int.add_sub_cancel]

/-- Every spelling of an instant is read as the instant, with its offset. -/
theorem ofText?_of_spells {i : Instant} {ahead : Int} {text : String} (h : Spells i ahead text) :
    ofText? text = some ⟨i, 60 * ahead⟩ := by
  obtain ⟨days, hour, minute, second, separator, fraction, offset, hshows, hyear, hseparator,
    hfraction, hoffset, htext⟩ := h
  have hvalid := (Date.toDays_afterDays days).1
  have hclock := ofClock?_of_shows hshows
  obtain ⟨m, hm, hmonth, _, hday⟩ := Date.isValid_iff.mp hvalid
  have hday' : (Date.afterDays days).day ≤ 31 :=
    Nat.le_trans hday (monthLength_bounds _ _ (List.getElem_mem _)).2
  have hsecond : second ≤ 60 := by
    have hlt := hshows.second_lt
    split at hlt <;> omega
  have hhour := hshows.hour_lt
  have hminute := hshows.minute_lt
  obtain ⟨y₁, y₂, y₃, y₄, hy, hy'⟩ := padded_four (n := (Date.afterDays days).year) (by omega)
  obtain ⟨m₁, m₂, hm, hm'⟩ := padded_two (n := (Date.afterDays days).month) (by omega)
  obtain ⟨d₁, d₂, hd, hd'⟩ := padded_two (n := (Date.afterDays days).day) (by omega)
  obtain ⟨h₁, h₂, hh, hh'⟩ := padded_two (n := hour) (by omega)
  obtain ⟨n₁, n₂, hn, hn'⟩ := padded_two (n := minute) (by omega)
  obtain ⟨s₁, s₂, hs, hs'⟩ := padded_two (n := second) (by omega)
  obtain ⟨hreadOffset, c, rest, rfl, hdigit, hpoint⟩ := offset?_of_offsetText hoffset
  have hreadFraction := readFraction?_of_fractionText hfraction hdigit hpoint rest
  rw [ofText?, htext, clockText, hy, hm, hd, hh, hn, hs]
  simp only [List.cons_append, List.nil_append, hy', hm', hd', hh', hn', hs', hreadFraction,
    hreadOffset, Option.bind_eq_bind, Option.bind_some, if_pos hseparator]
  exact hclock

/-! ## Instants that are read -/

theorem dvd_of_offset? {cs : List Char} {offset : Int} (h : offset? cs = some offset) :
    60 ∣ offset := by
  unfold offset? at h
  split at h
  · obtain ⟨_, hok⟩ := Option.ite_none_right_eq_some.mp h
    exact Option.some.inj hok ▸ Int.dvd_zero 60
  · obtain ⟨sign, _, h⟩ := Option.bind_eq_some_iff.mp h
    obtain ⟨hours, _, h⟩ := Option.bind_eq_some_iff.mp h
    obtain ⟨minutes, _, h⟩ := Option.bind_eq_some_iff.mp h
    obtain ⟨_, hok⟩ := Option.ite_none_right_eq_some.mp h
    rw [← Option.some.inj hok]
    exact Int.dvd_mul_of_dvd_right (by omega)
  · cases h

theorem nanos_lt_of_readFraction? {cs rest : List Char} {nanos : Nat}
    (h : readFraction? cs = some (nanos, rest)) : nanos < nanosPerSecond := by
  unfold readFraction? at h
  split at h
  · rename_i more
    split at h
    · cases h
    · cases h
      have hdigits : Text.Digits (more.takeWhile Char.isDigit) :=
        List.all_eq_true.mp List.all_takeWhile
      rw [fractionNanos_eq hdigits, Nat.div_lt_iff_lt_mul (Nat.pow_pos (by decide)), Nat.mul_comm]
      exact Nat.mul_lt_mul_of_pos_left (Text.valueOf_lt hdigits) (by decide)
  · cases h
    decide

theorem regular_of_ofClock? {date : Date} {hour minute second nanos : Nat} {offset : Int}
    {t : Timestamp} (hnanos : nanos < nanosPerSecond) (hoffset : 60 ∣ offset)
    (h : ofClock? date hour minute second nanos offset = some t) : t.instant.Regular := by
  obtain ⟨⟨_, _, _, hsecond⟩, hok⟩ := Option.ite_none_right_eq_some.mp h
  obtain ⟨minutes, rfl⟩ := hoffset
  by_cases hleap : second = 60
  · rw [if_pos hleap] at hok
    obtain rfl := Option.some.inj hok
    refine .inr ⟨?_, ?_⟩
    · show nanos + nanosPerSecond < 2 * nanosPerSecond
      omega
    · simp only [secondsPerDay, epochDays]
      omega
  · rw [if_neg hleap] at hok
    obtain rfl := Option.some.inj hok
    exact .inl hnanos

/-- An instant that is read lies within a second, or in a leap second at the end of a
minute. -/
theorem regular_of_ofText? {text : String} {t : Timestamp} (h : ofText? text = some t) :
    t.instant.Regular := by
  unfold ofText? at h
  split at h
  · obtain ⟨_, _, h⟩ := Option.bind_eq_some_iff.mp h
    obtain ⟨_, _, h⟩ := Option.bind_eq_some_iff.mp h
    obtain ⟨_, _, h⟩ := Option.bind_eq_some_iff.mp h
    obtain ⟨_, _, h⟩ := Option.bind_eq_some_iff.mp h
    obtain ⟨_, _, h⟩ := Option.bind_eq_some_iff.mp h
    obtain ⟨_, _, h⟩ := Option.bind_eq_some_iff.mp h
    obtain ⟨⟨nanos, rest⟩, hfraction, h⟩ := Option.bind_eq_some_iff.mp h
    obtain ⟨offset, hoffset, h⟩ := Option.bind_eq_some_iff.mp h
    obtain ⟨_, hclock⟩ := Option.ite_none_right_eq_some.mp h
    exact regular_of_ofClock? (nanos_lt_of_readFraction? hfraction) (dvd_of_offset? hoffset) hclock
  · cases h

/-! ## Instants that are written -/

theorem exists_offsetText {ahead : Int} (hlow : -(24 * 60) < ahead) (hhigh : ahead < 24 * 60) :
    ∃ offset, OffsetText ahead offset := by
  rcases Int.le_total 0 ahead with hpos | hneg
  · obtain ⟨n, rfl⟩ := Int.eq_ofNat_of_zero_le hpos
    have htext := @OffsetText.ahead (n / 60) (n % 60) (by omega) (by omega)
    rw [Nat.div_add_mod'] at htext
    exact ⟨_, htext⟩
  · obtain ⟨n, hn⟩ := Int.eq_ofNat_of_zero_le (Int.neg_nonneg.mpr hneg)
    obtain rfl : ahead = -(n : Int) := by omega
    have htext := @OffsetText.behind '-' (n / 60) (n % 60) (.inl rfl) (by omega) (by omega)
    rw [Nat.div_add_mod'] at htext
    exact ⟨_, htext⟩

theorem fractionText_padded (nanos : Nat) (h : nanos < nanosPerSecond) :
    FractionText nanos ('.' :: padded 9 nanos) := by
  have htext := FractionText.digits (writesNat_padded 9 nanos)
  rwa [length_padded (by decide) h, Nat.mul_div_cancel _ (by decide)] at htext

/-- A clock shows an instant as some date and time of day. -/
theorem exists_shows {i : Instant} (hregular : i.Regular) {ahead : Int} {days : Nat}
    (hdays : (i.seconds + 60 * ahead) / secondsPerDay = (days : Int) - epochDays) :
    ∃ hour minute second, Shows i ahead days hour minute second := by
  obtain ⟨time, htime, hlocal⟩ : ∃ time : Nat, time < secondsPerDay ∧
      i.seconds + 60 * ahead = ((days : Int) - epochDays) * secondsPerDay + time := by
    refine ⟨((i.seconds + 60 * ahead) % secondsPerDay).toNat, ?_, ?_⟩
    · simp only [secondsPerDay]
      omega
    · rw [← hdays]
      simp only [secondsPerDay]
      omega
  have hday : secondsPerDay = 86400 := rfl
  rw [hday] at htime hlocal
  by_cases hnanos : i.nanos < nanosPerSecond
  · refine ⟨time / 3600, time / 60 % 60, time % 60, by omega, by omega, by omega, ?_, ?_⟩
    · rw [if_pos hnanos]
      omega
    · rw [hlocal, hday]
      omega
  · -- Whole minutes do not move a leap second within its minute.
    obtain ⟨hnanos', hlast⟩ := hregular.resolve_left hnanos
    have hsecond : time % 60 = 59 := by omega
    refine ⟨time / 3600, time / 60 % 60, 60, hnanos', by omega, by omega, ?_, ?_⟩
    · rw [if_neg hnanos]
    · rw [hlocal, hday]
      omega

theorem exists_spells {i : Instant} (hregular : i.Regular) {ahead : Int}
    (hlow : -(24 * 60) < ahead) (hhigh : ahead < 24 * 60) (hyear : i.FourDigitYear ahead) :
    ∃ text, Spells i ahead text := by
  obtain ⟨days, hdays, hyear⟩ := hyear
  obtain ⟨hour, minute, second, hshows⟩ := exists_shows hregular hdays
  obtain ⟨offset, hoffset⟩ := exists_offsetText hlow hhigh
  have hfraction := fractionText_padded (i.nanos % nanosPerSecond) (Nat.mod_lt _ (by decide))
  refine ⟨String.ofList (clockText (Date.afterDays days) 'T' hour minute second ++
    ('.' :: padded 9 (i.nanos % nanosPerSecond) ++ offset)), days, hour, minute, second, 'T', _,
    offset, hshows, hyear, .inl rfl, hfraction, hoffset, ?_⟩
  rw [String.toList_ofList]

end Timestamp

end AccessDecision.Time
