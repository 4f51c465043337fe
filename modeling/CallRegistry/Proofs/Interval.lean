import CallRegistry.Proofs.Rounding
import CallRegistry.Settings.Basic

/-!
# The interval in seconds

Settings give the interval between two refreshes in milliseconds, of which there
may be any positive number.  In seconds it is the double nearest to the exact
quotient, or nothing if that is too long for a double.  No interval becomes zero,
and a longer one never becomes shorter.
-/

namespace CallRegistry

open Binary64

namespace Settings

variable {s s' : Settings}

/-- The interval in seconds, exactly. -/
def seconds (s : Settings) : ℚ := s.intervalMs.val / 1000

theorem exists_nearest_seconds (s : Settings) :
    ∃ x : Binary64, Nearest IsNumber s.seconds x ∧ x.negative = false ∧
      s.intervalSeconds? = if x.exponent ≤ maxExponent then some x else none := by
  have hnearest := exists_nearest_ofRatio s.intervalMs.property
    (show 0 < 1000 by norm_num)
  exact_mod_cast hnearest

theorem two_seconds_lt_iff (s : Settings) :
    2 * s.seconds < (2 ^ 54 - 1) * 2 ^ maxExponent ↔
      s.intervalMs.val < 1000 * ((2 ^ 54 - 1) * 2 ^ 970) := by
  have hpower : (2 : ℚ) ^ maxExponent = 2 * (2 ^ 970 : ℕ) := by
    rw [Nat.cast_pow, Nat.cast_ofNat, ← pow_succ', ← zpow_natCast]
    rfl
  rw [hpower, seconds, ← Nat.cast_lt (α := ℚ)]
  generalize 2 ^ 970 = u
  push_cast
  constructor <;> intro <;> linarith

theorem intervalSeconds?_eq_none_iff (s : Settings) :
    s.intervalSeconds? = none ↔
      1000 * ((2 ^ 54 - 1) * 2 ^ 970) ≤ s.intervalMs.val := by
  obtain ⟨x, hnearest, hsign, hinterval⟩ := s.exists_nearest_seconds
  rw [hinterval, ite_eq_right_iff, hnearest.exponent_le_iff hsign,
    two_seconds_lt_iff]
  simp only [reduceCtorEq, imp_false, not_lt]

theorem nearest_of_intervalSeconds? {x : Binary64}
    (hx : s.intervalSeconds? = some x) :
    Nearest IsNumber s.seconds x ∧ x.negative = false ∧
      x.exponent ≤ maxExponent := by
  obtain ⟨y, hnearest, hsign, hinterval⟩ := s.exists_nearest_seconds
  rw [hinterval] at hx
  split at hx
  next hexponent =>
    cases hx
    exact ⟨hnearest, hsign, hexponent⟩
  next => contradiction

theorem least_le_seconds (s : Settings) : 2 ^ minExponent ≤ s.seconds := by
  have hone : (1 : ℚ) ≤ s.intervalMs.val := by
    exact_mod_cast s.intervalMs.property
  calc (2 : ℚ) ^ minExponent ≤ 2 ^ (-10 : ℤ) :=
        zpow_le_zpow_right₀ one_le_two (by decide)
    _ ≤ 1 / 1000 := by norm_num
    _ ≤ s.seconds := by
        unfold seconds
        gcongr

theorem value_le_of_intervalSeconds? {x x' : Binary64}
    (hms : s.intervalMs.val ≤ s'.intervalMs.val)
    (hx : s.intervalSeconds? = some x) (hx' : s'.intervalSeconds? = some x') :
    x.value ≤ x'.value := by
  rcases hms.lt_or_eq with hlt | heq
  · have hseconds : s.seconds < s'.seconds := by
      unfold seconds
      gcongr
    exact (nearest_of_intervalSeconds? hx).1.value_le
      (nearest_of_intervalSeconds? hx').1 hseconds
  · have hsame : s.intervalSeconds? = s'.intervalSeconds? := by
      unfold intervalSeconds?
      rw [heq]
    rw [hsame, hx'] at hx
    cases hx
    exact le_rfl

end Settings

/-- The interval in seconds is the nearest double, and there is none exactly if the
number nearest to the quotient lies beyond the doubles, which begins in the middle
behind the largest one.  It is positive and does not decrease with the
milliseconds. -/
theorem interval_nearest_positive_monotone (s : Settings) :
    (∃ x : Binary64, Nearest IsNumber s.seconds x ∧
      s.intervalSeconds? = if x.exponent ≤ maxExponent then some x else none) ∧
    (s.intervalSeconds? = none ↔
      1000 * ((2 ^ 54 - 1) * 2 ^ 970) ≤ s.intervalMs.val) ∧
    (∀ x, s.intervalSeconds? = some x →
      Nearest IsDouble s.seconds x ∧ x.negative = false ∧ 0 < x.mantissa ∧
        0 < x.value) ∧
    ∀ s' : Settings, s.intervalMs.val ≤ s'.intervalMs.val →
      (s.intervalSeconds? = none → s'.intervalSeconds? = none) ∧
      ∀ x x', s.intervalSeconds? = some x → s'.intervalSeconds? = some x' →
        x.value ≤ x'.value := by
  refine ⟨?_, s.intervalSeconds?_eq_none_iff, ?_, ?_⟩
  · obtain ⟨x, hnearest, -, hinterval⟩ := s.exists_nearest_seconds
    exact ⟨x, hnearest, hinterval⟩
  · intro x hx
    obtain ⟨hnearest, hsign, hexponent⟩ := Settings.nearest_of_intervalSeconds? hx
    have hpositive := hnearest.mantissa_pos s.least_le_seconds
    refine ⟨?_, hsign, hpositive, ?_⟩
    · exact hnearest.mono ⟨hnearest.mem, hexponent⟩ fun y hy => hy.1
    · rw [value_of_positive hsign]
      positivity
  · intro s' hms
    constructor
    · intro hnone
      rw [Settings.intervalSeconds?_eq_none_iff] at hnone ⊢
      exact hnone.trans hms
    · intro x x' hx hx'
      exact Settings.value_le_of_intervalSeconds? hms hx hx'

def withInterval (ms : { n : Nat // 0 < n }) : Settings :=
  { intervalMs := ms }

/-- A quotient in the middle between two doubles goes to the one with the even
mantissa.  The last quotient that has a double is one millisecond below the first
that has none. -/
theorem interval_of_ties :
    let tied := withInterval ⟨1000 * (2 ^ 53 + 1), by decide⟩
    let last := withInterval ⟨1000 * ((2 ^ 54 - 1) * 2 ^ 970) - 1,
      by decide +kernel⟩
    let first := withInterval ⟨1000 * ((2 ^ 54 - 1) * 2 ^ 970),
      by decide +kernel⟩
    tied.intervalSeconds? = some ⟨false, 2 ^ 52, 1⟩ ∧
      Nearest IsDouble tied.seconds ⟨false, 2 ^ 52, 1⟩ ∧
      last.intervalSeconds? = some largest ∧
      tied.intervalMs.val ≤ last.intervalMs.val ∧
      value ⟨false, 2 ^ 52, 1⟩ ≤ largest.value ∧
      first.intervalSeconds? = none := by
  intro tied last first
  have htied : tied.intervalSeconds? = some ⟨false, 2 ^ 52, 1⟩ := by
    decide +kernel
  have hlast : last.intervalSeconds? = some largest := by
    decide +kernel
  have hms : tied.intervalMs.val ≤ last.intervalMs.val := by
    decide +kernel
  obtain ⟨-, -, hnearest, hmonotone⟩ := interval_nearest_positive_monotone tied
  obtain ⟨-, hnone, -⟩ := interval_nearest_positive_monotone first
  exact ⟨htied, (hnearest _ htied).1, hlast, hms,
    (hmonotone last hms).2 _ _ htied hlast, hnone.mpr le_rfl⟩

end CallRegistry
