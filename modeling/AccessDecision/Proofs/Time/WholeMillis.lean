import AccessDecision.MatcherConfig
import Mathlib.Order.Bounds.Basic

/-
  Budgets in whole milliseconds

  The time that an evaluation may take is set as a duration and kept in milliseconds.
  Rounding goes up, so that a budget is never cut to nothing, and stops at the greatest
  number of milliseconds that can be kept. A budget of no time at all stands for the
  default.

  What is proved:
    1. `le_ofMillis_iff` — the milliseconds of a duration are the least whole number of
       them that is not shorter.
    2. `match_timeout_rounds_up` — what that makes of the budget in effect.
    3. `ceilMillis?_eq`, `narrow_eq` and `split?_eq` — the same in machine words, where
       no step overflows.
-/

namespace AccessDecision

namespace Time.Duration

/-- A number of milliseconds is not shorter than a duration exactly from the rounded one
on. -/
theorem le_ofMillis_iff {d : Duration} {ms : Nat} : d ≤ ofMillis ms ↔ d.ceilMillis ≤ ms := by
  show d.nanos ≤ ms * nanosPerMilli ↔ (d.nanos + (nanosPerMilli - 1)) / nanosPerMilli ≤ ms
  rw [nanosPerMilli]
  omega

theorem isLeast_ceilMillis (d : Duration) : IsLeast {ms | d ≤ ofMillis ms} d.ceilMillis :=
  ⟨le_ofMillis_iff.mpr (Nat.le_refl _), fun _ h => le_ofMillis_iff.mp h⟩

theorem ceilMillis_mono {d d' : Duration} (h : d ≤ d') : d.ceilMillis ≤ d'.ceilMillis :=
  Nat.div_le_div_right (Nat.add_le_add_right h _)

theorem ceilMillis_ofMillis (ms : Nat) : (ofMillis ms).ceilMillis = ms := by
  show (ms * nanosPerMilli + (nanosPerMilli - 1)) / nanosPerMilli = ms
  rw [nanosPerMilli]
  omega

/-- Rounding adds less than a millisecond. -/
theorem ceilMillis_lt (d : Duration) :
    (ofMillis d.ceilMillis).nanos < d.nanos + nanosPerMilli := by
  show (d.nanos + (nanosPerMilli - 1)) / nanosPerMilli * nanosPerMilli < d.nanos + nanosPerMilli
  rw [nanosPerMilli]
  omega

theorem ceilMillis_eq_zero {d : Duration} : d.ceilMillis = 0 ↔ d = zero := by
  obtain ⟨nanos⟩ := d
  simp only [ceilMillis, zero, nanosPerMilli, mk.injEq]
  omega

theorem ofMillis_mono {m n : Nat} (h : m ≤ n) : ofMillis m ≤ ofMillis n :=
  Nat.mul_le_mul_right nanosPerMilli h

/-! ## In machine words -/

namespace Parts

theorem word?_of_lt {bits n : Nat} (h : n < 2 ^ bits) : word? bits n = some n := if_pos h

/-- No step of the rounding overflows. -/
theorem ceilMillis?_eq (p : Parts) : p.ceilMillis? = some p.duration.ceilMillis := by
  have hseconds := p.seconds_lt
  have hnanos := p.nanos_lt
  have htotal : p.duration.nanos < 2 ^ 128 := by
    show p.seconds * 10 ^ 9 + p.nanos < 2 ^ 128
    omega
  have hscaled : p.seconds * 10 ^ 9 < 2 ^ 128 := by omega
  have hround : p.duration.nanos / nanosPerMilli + 1 < 2 ^ 128 := by
    rw [nanosPerMilli]
    omega
  rw [ceilMillis?, word?_of_lt hscaled, Option.bind_eq_bind, Option.bind_some,
    word?_of_lt (show p.seconds * 10 ^ 9 + p.nanos < 2 ^ 128 from htotal), Option.bind_some]
  show (if p.duration.nanos % nanosPerMilli = 0 then some (p.duration.nanos / nanosPerMilli)
    else word? 128 (p.duration.nanos / nanosPerMilli + 1)) = some p.duration.ceilMillis
  rw [word?_of_lt hround, ceilMillis, nanosPerMilli]
  split
  · apply congrArg some
    omega
  · apply congrArg some
    omega

/-- Narrowing stops at the greatest number. -/
theorem narrow_eq (ms : Nat) : narrow ms = Nat.min ms MatcherConfig.maxMillis := by
  by_cases h : ms < 2 ^ 64
  · have hle : ms ≤ MatcherConfig.maxMillis := by
      rw [MatcherConfig.maxMillis]
      omega
    rw [narrow, word?_of_lt h, Option.getD_some]
    exact (Nat.min_eq_left hle).symm
  · have hle : MatcherConfig.maxMillis ≤ ms := by
      rw [MatcherConfig.maxMillis]
      omega
    rw [narrow, word?, if_neg h, Option.getD_none]
    exact (Nat.min_eq_right hle).symm

/-- A number of milliseconds in a word is a duration that can be kept. -/
theorem split?_eq {ms : Nat} (h : ms ≤ MatcherConfig.maxMillis) :
    ∃ p : Parts, split? ms = some (p.seconds, p.nanos) ∧ p.duration = ofMillis ms := by
  rw [MatcherConfig.maxMillis] at h
  have hseconds : ms / 1000 < 2 ^ 64 := by omega
  have hnanos : ms % 1000 * nanosPerMilli < 10 ^ 9 := by
    rw [nanosPerMilli]
    omega
  refine ⟨⟨ms / 1000, ms % 1000 * nanosPerMilli, hseconds, hnanos⟩, ?_, ?_⟩
  · rw [split?, word?_of_lt hseconds, word?_of_lt (Nat.lt_trans hnanos (by decide))]
    rfl
  · show Duration.mk (ms / 1000 * 10 ^ 9 + ms % 1000 * nanosPerMilli) = ⟨ms * nanosPerMilli⟩
    rw [Duration.mk.injEq, nanosPerMilli]
    omega

end Parts

end Time.Duration

/-! ## The budget in effect -/

namespace MatcherConfig

open Time (Duration)
open Time.Duration (Parts)

variable {c : MatcherConfig} {d : Duration}

theorem matchTimeout_of_zero (h : c.matchTimeoutMillis = 0) :
    c.matchTimeout = .ofMillis defaultMatchTimeoutMillis := by
  rw [matchTimeout, if_pos h]

theorem matchTimeout_of_ne_zero (h : c.matchTimeoutMillis ≠ 0) :
    c.matchTimeout = .ofMillis c.matchTimeoutMillis := by
  rw [matchTimeout, if_neg h]

theorem matchTimeout_ne_zero (c : MatcherConfig) : c.matchTimeout ≠ .zero := by
  intro h
  rw [← Duration.ceilMillis_eq_zero] at h
  by_cases hzero : c.matchTimeoutMillis = 0
  · rw [matchTimeout_of_zero hzero, Duration.ceilMillis_ofMillis] at h
    cases h
  · rw [matchTimeout_of_ne_zero hzero, Duration.ceilMillis_ofMillis] at h
    exact hzero h

theorem withMatchTimeout_zero (c : MatcherConfig) :
    (c.withMatchTimeout .zero).matchTimeout = .ofMillis defaultMatchTimeoutMillis :=
  matchTimeout_of_zero (Nat.zero_min maxMillis)

/-- A duration that is not zero is in effect as it is rounded, up to the cap. -/
theorem withMatchTimeout_of_ne_zero (c : MatcherConfig) (h : d ≠ .zero) :
    (c.withMatchTimeout d).matchTimeout = .ofMillis (min d.ceilMillis maxMillis) := by
  apply matchTimeout_of_ne_zero
  have hpos : d.ceilMillis ≠ 0 := mt Duration.ceilMillis_eq_zero.mp h
  have hmax : maxMillis ≠ 0 := by decide
  show min d.ceilMillis maxMillis ≠ 0
  omega

/-- The milliseconds in effect are within the cap if those that are set are. -/
theorem exists_millis (h : c.matchTimeoutMillis ≤ maxMillis) :
    ∃ ms, ms ≤ maxMillis ∧ c.matchTimeout = .ofMillis ms := by
  by_cases hzero : c.matchTimeoutMillis = 0
  · exact ⟨defaultMatchTimeoutMillis, by decide, matchTimeout_of_zero hzero⟩
  · exact ⟨c.matchTimeoutMillis, h, matchTimeout_of_ne_zero hzero⟩

theorem withMatchTimeout_le (c : MatcherConfig) (d : Duration) :
    (c.withMatchTimeout d).matchTimeoutMillis ≤ maxMillis := Nat.min_le_right _ _

/-- The budget in effect, set from a duration: 250 ms for no time at all, and else the
least whole number of milliseconds that is not shorter, or the greatest number that can be
kept. So it is never zero, not shorter than the duration up to the cap, less than a
millisecond longer than one that is not zero, and monotone in such durations. To set the
budget that is in effect changes nothing. In machine words the rounding, the narrowing and
the budget are the same, and no step overflows. -/
theorem match_timeout_rounds_up (c : MatcherConfig) :
    (c.withMatchTimeout .zero).matchTimeout = .ofMillis 250 ∧
    (∀ d, d ≠ .zero → ∃ ms, IsLeast {m | d ≤ .ofMillis m} ms ∧
      (c.withMatchTimeout d).matchTimeout = .ofMillis (min ms (2 ^ 64 - 1))) ∧
    (∀ d, (c.withMatchTimeout d).matchTimeout ≠ .zero) ∧
    (∀ d, d ≤ .ofMillis (2 ^ 64 - 1) → d ≤ (c.withMatchTimeout d).matchTimeout) ∧
    (∀ d, d ≠ .zero → (c.withMatchTimeout d).matchTimeout.nanos < d.nanos + 1000000) ∧
    (∀ d d', d ≠ .zero → d ≤ d' →
      (c.withMatchTimeout d).matchTimeout ≤ (c.withMatchTimeout d').matchTimeout) ∧
    (∀ c' : MatcherConfig, c'.matchTimeoutMillis ≤ 2 ^ 64 - 1 →
      (c.withMatchTimeout c'.matchTimeout).matchTimeout = c'.matchTimeout) ∧
    (∀ p : Parts, ∃ ms, p.ceilMillis? = some ms ∧
      (c.withMatchTimeout p.duration).matchTimeoutMillis = Parts.narrow ms ∧
      ∃ (effective : Nat) (q : Parts),
        (c.withMatchTimeout p.duration).matchTimeout = .ofMillis effective ∧
        Parts.split? effective = some (q.seconds, q.nanos) ∧
        q.duration = .ofMillis effective) := by
  refine ⟨withMatchTimeout_zero c, ?_, fun d => matchTimeout_ne_zero _, ?_, ?_, ?_, ?_, ?_⟩
  · intro d hd
    exact ⟨d.ceilMillis, d.isLeast_ceilMillis, withMatchTimeout_of_ne_zero c hd⟩
  · intro d hcap
    by_cases hd : d = .zero
    · rw [hd]
      exact Nat.zero_le _
    · rw [withMatchTimeout_of_ne_zero c hd, Duration.le_ofMillis_iff]
      exact Nat.le_min.mpr ⟨Nat.le_refl _, Duration.le_ofMillis_iff.mp hcap⟩
  · intro d hd
    rw [withMatchTimeout_of_ne_zero c hd]
    exact Nat.lt_of_le_of_lt (Duration.ofMillis_mono (Nat.min_le_left _ _)) d.ceilMillis_lt
  · intro d d' hd hle
    have hd' : d' ≠ .zero := by
      rintro rfl
      apply hd
      obtain ⟨nanos⟩ := d
      exact congrArg Duration.mk (Nat.le_zero.mp hle)
    rw [withMatchTimeout_of_ne_zero c hd, withMatchTimeout_of_ne_zero c hd']
    have hceil := Duration.ceilMillis_mono hle
    exact Duration.ofMillis_mono (by omega)
  · intro c' hc'
    obtain ⟨ms, hms, heq⟩ := exists_millis hc'
    rw [withMatchTimeout_of_ne_zero c (matchTimeout_ne_zero c'), heq, Duration.ceilMillis_ofMillis,
      Nat.min_eq_left hms]
  · intro p
    refine ⟨_, p.ceilMillis?_eq, (Parts.narrow_eq _).symm, ?_⟩
    obtain ⟨ms, hms, heq⟩ := exists_millis (withMatchTimeout_le c p.duration)
    obtain ⟨q, hsplit, hq⟩ := Parts.split?_eq hms
    exact ⟨ms, q, heq, hsplit, hq⟩

/-- A nanosecond, a duration beyond the cap, and a configuration that gives no budget. -/
theorem extreme_budgets :
    let c := MatcherConfig.default
    let raw := MatcherConfig.mk 0 0
    let nano : Duration := ⟨1⟩
    let long : Duration := ⟨18446744073709551616000001⟩
    (nano ≠ .zero ∧ (c.withMatchTimeout nano).matchTimeout.nanos < nano.nanos + 1000000) ∧
    (nano ≤ long ∧
      (c.withMatchTimeout nano).matchTimeout ≤ (c.withMatchTimeout long).matchTimeout) ∧
    (long ≠ .zero ∧ ∃ ms, IsLeast {m | long ≤ .ofMillis m} ms ∧
      (c.withMatchTimeout long).matchTimeout = .ofMillis (min ms (2 ^ 64 - 1))) ∧
    (nano ≤ .ofMillis (2 ^ 64 - 1) ∧ nano ≤ (c.withMatchTimeout nano).matchTimeout) ∧
    raw.matchTimeoutMillis ≤ 2 ^ 64 - 1 ∧
      (c.withMatchTimeout raw.matchTimeout).matchTimeout = raw.matchTimeout := by
  intro c raw nano long
  obtain ⟨_, hleast, _, hup, hless, hmono, hagain, _⟩ := match_timeout_rounds_up c
  have hnano : nano ≠ .zero := by decide
  have hlong : long ≠ .zero := by decide
  have hle : nano ≤ long := by decide
  have hcap : nano ≤ .ofMillis (2 ^ 64 - 1) := by decide
  have hraw : raw.matchTimeoutMillis ≤ 2 ^ 64 - 1 := Nat.zero_le _
  exact ⟨⟨hnano, hless nano hnano⟩, ⟨hle, hmono nano long hnano hle⟩, ⟨hlong, hleast long hlong⟩,
    ⟨hcap, hup nano hcap⟩, hraw, hagain raw hraw⟩

end MatcherConfig

end AccessDecision
