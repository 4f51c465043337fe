import CallRegistry.Number.Binary64
import Mathlib.Data.Int.Log
import Mathlib.Tactic

/-!
# The nearest double

`Binary64.ofRatio` gives the double nearest to a quotient, and of two equally near
ones the one with the even mantissa.  All of it is said of exact values: a double
is worth its mantissa times a power of two, and the quotient is a rational number.

The quotient is rounded on a grid.  A number whose exponent is that of the grid or
larger lies on the grid, where the nearest integer decides.  A number with a
smaller exponent lies below the whole binade that the quotient is in, and the
binade begins on the grid.

Doubles are taken from the numbers whose exponent may be as large as it likes.  A
quotient is too large for a double if the number nearest to it among those is.
-/

namespace CallRegistry

/-! ## The nearest integer -/

theorem one_le_abs_sub_add {m k : ℤ} (hk : k ≠ m) (q : ℚ) :
    1 ≤ |k - q| + |m - q| := by
  have hint : 1 ≤ |k - m| := Int.one_le_abs (sub_ne_zero.mpr hk)
  calc (1 : ℚ) ≤ |(k : ℚ) - m| := by exact_mod_cast hint
    _ ≤ |k - q| + |q - m| := abs_sub_le _ _ _
    _ = |k - q| + |m - q| := by rw [abs_sub_comm q]

theorem abs_sub_le_of_half {m : ℤ} {q : ℚ} (hm : |m - q| ≤ 1 / 2) (k : ℤ) :
    |m - q| ≤ |k - q| := by
  by_cases hk : k = m
  · rw [hk]
  · have hfar := one_le_abs_sub_add hk q
    linarith

theorem eq_half_of_abs_sub_eq {m k : ℤ} {q : ℚ} (hm : |m - q| ≤ 1 / 2)
    (hk : k ≠ m) (heq : |k - q| = |m - q|) : |m - q| = 1 / 2 := by
  have hfar := one_le_abs_sub_add hk q
  linarith

theorem roundHalfEven_cases (n d : Nat) :
    (roundHalfEven n d = n / d ∧ 2 * (n % d) ≤ d ∧
      (2 * (n % d) = d → Even (n / d))) ∨
    (roundHalfEven n d = n / d + 1 ∧ d ≤ 2 * (n % d) ∧
      (2 * (n % d) = d → Even (n / d + 1))) := by
  simp only [roundHalfEven, Nat.even_iff]
  split
  · left
    omega
  · split
    · right
      omega
    · rcases Nat.mod_two_eq_zero_or_one (n / d) with hparity | hparity
      · left
        omega
      · right
        omega

theorem cast_div_eq {n d : Nat} (hd : 0 < d) :
    (n : ℚ) / d = (n / d : ℕ) + ((n % d : ℕ) : ℚ) / d := by
  have hpos : (0 : ℚ) < d := by exact_mod_cast hd
  have hsplit : ((d * (n / d) + n % d : ℕ) : ℚ) = n := by
    rw [Nat.div_add_mod]
  rw [← hsplit]
  push_cast
  field_simp

/-- The quotient lies within a half of the integer it is rounded to, and at the
half itself the integer is even. -/
theorem abs_roundHalfEven_sub {n d : Nat} (hd : 0 < d) :
    |(roundHalfEven n d : ℚ) - n / d| ≤ 1 / 2 ∧
      (|(roundHalfEven n d : ℚ) - n / d| = 1 / 2 →
        Even (roundHalfEven n d)) := by
  have hpos : (0 : ℚ) < d := by exact_mod_cast hd
  have hmod : ((n % d : ℕ) : ℚ) < d := by exact_mod_cast Nat.mod_lt n hd
  have hfrac : ((n % d : ℕ) : ℚ) / d < 1 := (div_lt_one hpos).mpr hmod
  have hfrac' : 0 ≤ ((n % d : ℕ) : ℚ) / d := by positivity
  have hhalf : 2 * (n % d) = d ↔ ((n % d : ℕ) : ℚ) / d = 1 / 2 := by
    rw [div_eq_div_iff hpos.ne' two_ne_zero, one_mul, mul_comm]
    exact_mod_cast Iff.rfl
  rw [cast_div_eq hd]
  rcases roundHalfEven_cases n d with ⟨heq, hside, heven⟩ | ⟨heq, hside, heven⟩
  · have hbelow : ((n % d : ℕ) : ℚ) / d ≤ 1 / 2 := by
      rw [div_le_div_iff₀ hpos two_pos, one_mul, mul_comm]
      exact_mod_cast hside
    have hdist : |((n / d : ℕ) : ℚ) - ((n / d : ℕ) + ((n % d : ℕ) : ℚ) / d)| =
        ((n % d : ℕ) : ℚ) / d := by
      rw [sub_add_cancel_left, abs_neg, abs_of_nonneg hfrac']
    rw [heq, hdist]
    exact ⟨hbelow, fun h => heven (hhalf.mpr h)⟩
  · have habove : 1 / 2 ≤ ((n % d : ℕ) : ℚ) / d := by
      rw [div_le_div_iff₀ two_pos hpos, one_mul, mul_comm _ 2]
      exact_mod_cast hside
    have hdist :
        |((n / d + 1 : ℕ) : ℚ) - ((n / d : ℕ) + ((n % d : ℕ) : ℚ) / d)| =
          1 - ((n % d : ℕ) : ℚ) / d := by
      rw [Nat.cast_succ, add_sub_add_left_eq_sub, abs_of_pos (by linarith)]
    rw [heq, hdist]
    refine ⟨by linarith, fun h => heven (hhalf.mpr (by linarith))⟩

/-! ## The binade of a quotient -/

theorem two_zpow_eq (k : ℤ) :
    (2 : ℚ) ^ k = (2 ^ k.toNat : ℕ) / (2 ^ (-k).toNat : ℕ) := by
  rcases le_total 0 k with hk | hk
  · have hneg : (-k).toNat = 0 := by omega
    rw [hneg, pow_zero, Nat.cast_one, div_one, Nat.cast_pow, Nat.cast_ofNat,
      ← zpow_natCast, Int.toNat_of_nonneg hk]
  · have hpos : k.toNat = 0 := by omega
    rw [hpos, pow_zero, Nat.cast_one, Nat.cast_pow, Nat.cast_ofNat,
      ← zpow_natCast, Int.toNat_of_nonneg (by omega), zpow_neg, one_div,
      inv_inv]

theorem two_zpow_le_div_iff {n d : Nat} (hd : 0 < d) (k : ℤ) :
    (2 : ℚ) ^ k ≤ n / d ↔ d * 2 ^ k.toNat ≤ n * 2 ^ (-k).toNat := by
  have hpos : (0 : ℚ) < d := by exact_mod_cast hd
  rw [two_zpow_eq, div_le_div_iff₀ (by positivity) hpos, mul_comm]
  exact_mod_cast Iff.rfl

theorem floorLog2_spec {n d : Nat} (hn : 0 < n) (hd : 0 < d) :
    (2 : ℚ) ^ floorLog2 n d ≤ n / d ∧
      (n : ℚ) / d < 2 ^ (floorLog2 n d + 1) := by
  have hpos : (0 : ℚ) < d := by exact_mod_cast hd
  have hn_lower : (2 : ℚ) ^ n.log2 ≤ n := by
    exact_mod_cast Nat.log2_self_le hn.ne'
  have hn_upper : (n : ℚ) < 2 ^ (n.log2 + 1) := by
    exact_mod_cast Nat.lt_log2_self
  have hd_lower : (2 : ℚ) ^ d.log2 ≤ d := by
    exact_mod_cast Nat.log2_self_le hd.ne'
  have hd_upper : (d : ℚ) < 2 ^ (d.log2 + 1) := by
    exact_mod_cast Nat.lt_log2_self
  have hupper : (n : ℚ) / d < 2 ^ ((n.log2 : ℤ) - d.log2 + 1) := by
    rw [div_lt_iff₀ hpos]
    calc (n : ℚ) < 2 ^ (n.log2 + 1) := hn_upper
      _ = 2 ^ ((n.log2 : ℤ) - d.log2 + 1) * 2 ^ d.log2 := by
          rw [← zpow_natCast, ← zpow_natCast, ← zpow_add₀ two_ne_zero]
          congr 1
          push_cast
          ring
      _ ≤ 2 ^ ((n.log2 : ℤ) - d.log2 + 1) * d := by gcongr
  have hlower : (2 : ℚ) ^ ((n.log2 : ℤ) - d.log2 - 1) ≤ n / d := by
    rw [le_div_iff₀ hpos]
    calc (2 : ℚ) ^ ((n.log2 : ℤ) - d.log2 - 1) * d
        ≤ 2 ^ ((n.log2 : ℤ) - d.log2 - 1) * 2 ^ (d.log2 + 1) := by gcongr
      _ = 2 ^ n.log2 := by
          rw [← zpow_natCast, ← zpow_natCast, ← zpow_add₀ two_ne_zero]
          congr 1
          push_cast
          ring
      _ ≤ n := hn_lower
  simp only [floorLog2, Nat.pow_eq]
  split
  next hle => exact ⟨(two_zpow_le_div_iff hd _).mpr hle, hupper⟩
  next hlt =>
    rw [sub_add_cancel]
    exact ⟨hlower, lt_of_not_ge fun h => hlt ((two_zpow_le_div_iff hd _).mp h)⟩

namespace Binary64

theorem abs_roundOnGrid_sub {n d : Nat} (hd : 0 < d) (e : ℤ) :
    |(roundOnGrid n d e : ℚ) - n / d / 2 ^ e| ≤ 1 / 2 ∧
      (|(roundOnGrid n d e : ℚ) - n / d / 2 ^ e| = 1 / 2 →
        Even (roundOnGrid n d e)) := by
  have hratio : (n : ℚ) / d / 2 ^ e =
      (n * 2 ^ (-e).toNat : ℕ) / (d * 2 ^ e.toNat : ℕ) := by
    rw [two_zpow_eq]
    push_cast
    field_simp
  rw [hratio]
  exact abs_roundHalfEven_sub (Nat.mul_pos hd (Nat.two_pow_pos _))

/-! ## Numbers and their values -/

def signedMantissa (x : Binary64) : ℤ :=
  if x.negative then -x.mantissa else x.mantissa

/-- The exact value of a number. -/
def value (x : Binary64) : ℚ :=
  x.signedMantissa * 2 ^ x.exponent

/-- A number of 53 significant bits, or of fewer at the least exponent. -/
structure IsNumber (x : Binary64) : Prop where
  mantissa_lt : x.mantissa < 2 ^ 53
  minExponent_le : minExponent ≤ x.exponent
  normal : x.exponent = minExponent ∨ 2 ^ 52 ≤ x.mantissa

/-- A finite double. -/
def IsDouble (x : Binary64) : Prop :=
  x.IsNumber ∧ x.exponent ≤ maxExponent

/-- Of the numbers of a kind one that is nearest to `q`, with an even mantissa if
another one is as near. -/
structure Nearest (kind : Binary64 → Prop) (q : ℚ) (x : Binary64) : Prop where
  mem : kind x
  le : ∀ y, kind y → |x.value - q| ≤ |y.value - q|
  even : ∀ y, kind y → |y.value - q| = |x.value - q| →
    y.value = x.value ∨ Even x.mantissa

theorem Nearest.mono {kind kind' : Binary64 → Prop} {q : ℚ} {x : Binary64}
    (h : Nearest kind q x) (hmem : kind' x) (hkind : ∀ y, kind' y → kind y) :
    Nearest kind' q x where
  mem := hmem
  le y hy := h.le y (hkind y hy)
  even y hy := h.even y (hkind y hy)

theorem signedMantissa_le (x : Binary64) : x.signedMantissa ≤ x.mantissa := by
  unfold signedMantissa
  split <;> omega

/-- A number with a large enough exponent lies on a grid, any other one below
`2 ^ 52` steps of it. -/
theorem IsNumber.on_grid_or_below {y : Binary64} (hy : y.IsNumber) (e : ℤ) :
    (∃ k : ℤ, y.value = k * 2 ^ e) ∨
      (minExponent < e ∧ y.value < 2 ^ 52 * 2 ^ e) := by
  by_cases he : e ≤ y.exponent
  · left
    have hsplit : (2 : ℚ) ^ y.exponent = 2 ^ (y.exponent - e).toNat * 2 ^ e := by
      rw [← zpow_natCast, ← zpow_add₀ two_ne_zero]
      congr 1
      omega
    refine ⟨y.signedMantissa * 2 ^ (y.exponent - e).toNat, ?_⟩
    rw [value, hsplit]
    push_cast
    ring
  · right
    have hmin := hy.minExponent_le
    refine ⟨by omega, ?_⟩
    have hmantissa : (y.signedMantissa : ℚ) < 2 ^ 53 := by
      have hlt := hy.mantissa_lt
      have hle := y.signedMantissa_le
      exact_mod_cast show y.signedMantissa < 2 ^ 53 by omega
    have hstep : (2 : ℚ) ^ 53 * 2 ^ y.exponent ≤ 2 ^ 52 * 2 ^ e := by
      rw [← zpow_natCast, ← zpow_natCast, ← zpow_add₀ two_ne_zero,
        ← zpow_add₀ two_ne_zero]
      apply zpow_le_zpow_right₀ one_le_two
      push_cast
      omega
    calc y.value < 2 ^ 53 * 2 ^ y.exponent := by
          unfold value
          gcongr
      _ ≤ 2 ^ 52 * 2 ^ e := hstep

/-! ## Rounding -/

/-- A count of steps as a mantissa; one that has become too long is halved. -/
def ofSteps (m : Nat) (e : ℤ) : Binary64 :=
  if m = 2 ^ 53 then ⟨false, 2 ^ 52, e + 1⟩ else ⟨false, m, e⟩

theorem value_ofSteps (m : Nat) (e : ℤ) : (ofSteps m e).value = m * 2 ^ e := by
  unfold ofSteps
  split
  next hm =>
    rw [hm, value, zpow_add_one₀ two_ne_zero]
    norm_num [signedMantissa]
    ring
  next => simp [value, signedMantissa]

theorem even_ofSteps {m : Nat} (hm : Even m) (e : ℤ) :
    Even (ofSteps m e).mantissa := by
  unfold ofSteps
  split
  · exact ⟨2 ^ 51, by norm_num⟩
  · exact hm

theorem isNumber_ofSteps {m : Nat} {e : ℤ} (hm : m ≤ 2 ^ 53)
    (he : minExponent ≤ e) (hnormal : e = minExponent ∨ 2 ^ 52 ≤ m) :
    (ofSteps m e).IsNumber := by
  unfold ofSteps
  split
  next => exact ⟨by norm_num, by dsimp only; omega, Or.inr le_rfl⟩
  next hne => exact ⟨by dsimp only; omega, he, hnormal⟩

/-- Distances on a grid are distances of integers. -/
theorem abs_steps_sub (k : ℤ) (q : ℚ) (e : ℤ) :
    |(k : ℚ) * 2 ^ e - q| = |k - q / 2 ^ e| * 2 ^ e := by
  have hstep : (0 : ℚ) < 2 ^ e := by positivity
  rw [← abs_of_pos hstep, ← abs_mul, abs_of_pos hstep, sub_mul,
    div_mul_cancel₀ _ hstep.ne']

section

variable {q : ℚ} {m : Nat} {e : ℤ}

theorem abs_ofSteps_sub (m : Nat) (q : ℚ) (e : ℤ) :
    |(ofSteps m e).value - q| = |(m : ℤ) - q / 2 ^ e| * 2 ^ e := by
  rw [← abs_steps_sub, value_ofSteps, Int.cast_natCast]

theorem abs_ofSteps_sub_le (hm : |((m : ℤ) : ℚ) - q / 2 ^ e| ≤ 1 / 2) (k : ℤ) :
    |(ofSteps m e).value - q| ≤ |(k : ℚ) * 2 ^ e - q| := by
  rw [abs_ofSteps_sub, abs_steps_sub]
  exact mul_le_mul_of_nonneg_right (abs_sub_le_of_half hm k) (by positivity)

/-- What lies below the binade of a quotient lies farther from it than the edge of
the binade. -/
theorem abs_ofSteps_sub_lt (hm : |((m : ℤ) : ℚ) - q / 2 ^ e| ≤ 1 / 2)
    (hq : 2 ^ 52 * 2 ^ e ≤ q) {y : ℚ} (hy : y < 2 ^ 52 * 2 ^ e) :
    |(ofSteps m e).value - q| < |y - q| := by
  have hedge := abs_ofSteps_sub_le hm (2 ^ 52)
  rw [Int.cast_pow, Int.cast_ofNat, abs_sub_comm (2 ^ 52 * 2 ^ e),
    abs_of_nonneg (sub_nonneg.mpr hq)] at hedge
  calc |(ofSteps m e).value - q| ≤ q - 2 ^ 52 * 2 ^ e := hedge
    _ < q - y := sub_lt_sub_left hy q
    _ ≤ |q - y| := le_abs_self _
    _ = |y - q| := abs_sub_comm _ _

theorem nearest_ofSteps (hnumber : (ofSteps m e).IsNumber)
    (hm : |(m : ℚ) - q / 2 ^ e| ≤ 1 / 2)
    (heven : |(m : ℚ) - q / 2 ^ e| = 1 / 2 → Even m)
    (hbinade : e = minExponent ∨ 2 ^ 52 * 2 ^ e ≤ q) :
    Nearest IsNumber q (ofSteps m e) := by
  rw [← Int.cast_natCast (R := ℚ)] at hm heven
  constructor
  · exact hnumber
  · intro y hy
    rcases hy.on_grid_or_below e with ⟨k, hk⟩ | ⟨hmin, hlt⟩
    · rw [hk]
      exact abs_ofSteps_sub_le hm k
    · exact (abs_ofSteps_sub_lt hm (hbinade.resolve_left hmin.ne') hlt).le
  · intro y hy heq
    rcases hy.on_grid_or_below e with ⟨k, hk⟩ | ⟨hmin, hlt⟩
    · by_cases hkm : k = m
      · left
        rw [hk, value_ofSteps, hkm, Int.cast_natCast]
      · right
        rw [hk, abs_steps_sub, abs_ofSteps_sub] at heq
        have hstep : (2 : ℚ) ^ e ≠ 0 := by positivity
        apply even_ofSteps
        exact heven (eq_half_of_abs_sub_eq hm hkm (mul_right_cancel₀ hstep heq))
    · exact absurd heq
        (abs_ofSteps_sub_lt hm (hbinade.resolve_left hmin.ne') hlt).ne'

end

theorem gridExponent_cases {n d : Nat} (hn : 0 < n) (hd : 0 < d) :
    minExponent ≤ gridExponent n d ∧
      (n : ℚ) / d < 2 ^ 53 * 2 ^ gridExponent n d ∧
      (gridExponent n d = minExponent ∨
        2 ^ 52 * 2 ^ gridExponent n d ≤ (n : ℚ) / d) := by
  obtain ⟨hlower, hupper⟩ := floorLog2_spec hn hd
  have hgrid : gridExponent n d = max minExponent (floorLog2 n d - 52) := rfl
  refine ⟨by omega, ?_, ?_⟩
  · apply hupper.trans_le
    rw [← zpow_natCast, ← zpow_add₀ two_ne_zero]
    apply zpow_le_zpow_right₀ one_le_two
    push_cast
    omega
  · by_cases hmin : gridExponent n d = minExponent
    · exact Or.inl hmin
    · right
      have hexp : ((52 : ℕ) : ℤ) + gridExponent n d = floorLog2 n d := by
        push_cast
        omega
      rw [← zpow_natCast, ← zpow_add₀ two_ne_zero, hexp]
      exact hlower

theorem ofRatio_eq {n d : Nat} (hn : 0 < n) :
    ofRatio n d =
      let x := ofSteps (roundOnGrid n d (gridExponent n d)) (gridExponent n d)
      if x.exponent ≤ maxExponent then some x else none := by
  simp only [ofRatio, hn.ne', if_false, Nat.pow_eq, ofSteps]
  split <;> simp only [← not_lt, ite_not]

/-- The steps of the grid that a quotient comes to make a number. -/
theorem isNumber_rounded {n d : Nat} (hn : 0 < n) (hd : 0 < d) :
    (ofSteps (roundOnGrid n d (gridExponent n d))
      (gridExponent n d)).IsNumber := by
  obtain ⟨hmin, hupper, hlower⟩ := gridExponent_cases hn hd
  generalize gridExponent n d = e at *
  have hnear := (abs_le.mp (abs_roundOnGrid_sub (n := n) hd e).1)
  have hstep : (0 : ℚ) < 2 ^ e := by positivity
  rw [← div_lt_iff₀ hstep] at hupper
  rw [← le_div_iff₀ hstep] at hlower
  apply isNumber_ofSteps
  · have hlt : (roundOnGrid n d e : ℚ) < (2 ^ 53 + 1 : ℕ) := by
      push_cast
      linarith
    have := Nat.cast_lt.mp hlt
    omega
  · exact hmin
  · rcases hlower with heq | hle
    · exact Or.inl heq
    · right
      have hlt : ((2 ^ 52 : ℕ) : ℚ) < (roundOnGrid n d e + 1 : ℕ) := by
        push_cast
        linarith
      have := Nat.cast_lt.mp hlt
      omega

/-- A quotient has a nearest number, and `ofRatio` gives it if it is a double. -/
theorem exists_nearest_ofRatio {n d : Nat} (hn : 0 < n) (hd : 0 < d) :
    ∃ x : Binary64, Nearest IsNumber (n / d) x ∧ x.negative = false ∧
      ofRatio n d = if x.exponent ≤ maxExponent then some x else none := by
  refine ⟨ofSteps (roundOnGrid n d (gridExponent n d)) (gridExponent n d),
    ?_, ?_, ofRatio_eq hn⟩
  · obtain ⟨hnear, heven⟩ := abs_roundOnGrid_sub (n := n) hd (gridExponent n d)
    exact nearest_ofSteps (isNumber_rounded hn hd) hnear heven
      (gridExponent_cases hn hd).2.2
  · unfold ofSteps
    split <;> rfl

/-! ## Nearest numbers compared -/

theorem abs_sub_le_iff_of_lt {a b : ℚ} (h : a < b) (q : ℚ) :
    |a - q| ≤ |b - q| ↔ 2 * q ≤ a + b := by
  rw [← sq_le_sq]
  constructor <;> intro <;> nlinarith

theorem abs_sub_le_iff_of_gt {a b : ℚ} (h : a < b) (q : ℚ) :
    |b - q| ≤ |a - q| ↔ a + b ≤ 2 * q := by
  rw [← sq_le_sq]
  constructor <;> intro <;> nlinarith

section

variable {kind : Binary64 → Prop} {q q' : ℚ} {x x' : Binary64}

theorem Nearest.value_le (hx : Nearest kind q x) (hx' : Nearest kind q' x')
    (hq : q < q') : x.value ≤ x'.value := by
  by_contra hgt
  rw [not_le] at hgt
  have hlower := (abs_sub_le_iff_of_gt hgt q).mp (hx.le x' hx'.mem)
  have hupper := (abs_sub_le_iff_of_lt hgt q').mp (hx'.le x hx.mem)
  linarith

theorem Nearest.mantissa_pos (hx : Nearest IsNumber q x)
    (hq : 2 ^ minExponent ≤ q) : 0 < x.mantissa := by
  by_contra hzero
  have hvalue : x.value = 0 := by
    simp [value, signedMantissa, Nat.eq_zero_of_not_pos hzero]
  have hleast : IsNumber ⟨false, 1, minExponent⟩ :=
    ⟨by norm_num, le_rfl, Or.inl rfl⟩
  have hstep : value ⟨false, 1, minExponent⟩ = 2 ^ minExponent := by
    simp [value, signedMantissa]
  have hpos : (0 : ℚ) < 2 ^ minExponent := by positivity
  have hnear := hx.le _ hleast
  rw [hvalue, hstep, abs_sub_le_iff_of_lt hpos] at hnear
  linarith

/-- The largest double. -/
def largest : Binary64 := ⟨false, 2 ^ 53 - 1, maxExponent⟩

/-- What would come behind the largest double. -/
def tooLarge : Binary64 := ⟨false, 2 ^ 52, maxExponent + 1⟩

theorem isNumber_largest : largest.IsNumber :=
  ⟨by norm_num [largest], by decide, Or.inr (by norm_num [largest])⟩

theorem isNumber_tooLarge : tooLarge.IsNumber :=
  ⟨by norm_num [tooLarge], by decide, Or.inr le_rfl⟩

theorem value_of_positive (hsign : x.negative = false) :
    x.value = x.mantissa * 2 ^ x.exponent := by
  simp [value, signedMantissa, hsign]

theorem value_largest : largest.value = (2 ^ 53 - 1) * 2 ^ maxExponent := by
  rw [value_of_positive rfl]
  norm_num [largest]

theorem value_tooLarge : tooLarge.value = 2 ^ 53 * 2 ^ maxExponent := by
  rw [value_of_positive rfl, tooLarge, zpow_add_one₀ two_ne_zero]
  push_cast
  ring

theorem value_le_of_double {k : ℤ} (hk : 0 ≤ k) (hmantissa : x.signedMantissa ≤ k)
    (hexponent : x.exponent ≤ maxExponent) :
    x.value ≤ k * 2 ^ maxExponent := by
  have hstep : (2 : ℚ) ^ x.exponent ≤ 2 ^ maxExponent :=
    zpow_le_zpow_right₀ one_le_two hexponent
  calc (x.signedMantissa : ℚ) * 2 ^ x.exponent ≤ k * 2 ^ x.exponent := by gcongr
    _ ≤ k * 2 ^ maxExponent :=
        mul_le_mul_of_nonneg_left hstep (Int.cast_nonneg hk)

theorem IsDouble.value_le_largest (hx : x.IsDouble) :
    x.value ≤ largest.value := by
  have hle := x.signedMantissa_le
  have hlt := hx.1.mantissa_lt
  have hmantissa : x.signedMantissa ≤ 2 ^ 53 - 1 := by omega
  rw [value_largest]
  exact_mod_cast value_le_of_double (by norm_num) hmantissa hx.2

theorem IsDouble.not_even_largest (hx : x.IsDouble)
    (hlargest : largest.value ≤ x.value) : ¬ Even x.mantissa := by
  have hle := x.signedMantissa_le
  have hlt := hx.1.mantissa_lt
  intro heven
  rw [Nat.even_iff] at heven
  have hmantissa : x.signedMantissa ≤ 2 ^ 53 - 2 := by omega
  have hvalue := value_le_of_double (by norm_num) hmantissa hx.2
  have hstep : (0 : ℚ) < 2 ^ maxExponent := by positivity
  rw [value_largest] at hlargest
  push_cast at hvalue
  linarith

theorem IsNumber.tooLarge_le (hx : x.IsNumber) (hsign : x.negative = false)
    (hexponent : maxExponent < x.exponent) : tooLarge.value ≤ x.value := by
  have hmin : x.exponent ≠ minExponent := by
    have hlt : minExponent < maxExponent := by decide
    omega
  have hmantissa : ((2 ^ 52 : ℕ) : ℚ) ≤ x.mantissa := by
    exact_mod_cast hx.normal.resolve_left hmin
  have hstep : (2 : ℚ) ^ (maxExponent + 1) ≤ 2 ^ x.exponent :=
    zpow_le_zpow_right₀ one_le_two (by omega)
  rw [value_of_positive hsign, value_of_positive rfl]
  calc ((2 ^ 52 : ℕ) : ℚ) * 2 ^ (maxExponent + 1)
      ≤ x.mantissa * 2 ^ (maxExponent + 1) := by gcongr
    _ ≤ x.mantissa * 2 ^ x.exponent := by gcongr

/-- The quotients that are too large are those from the middle between the largest
double and what would come behind it. -/
theorem Nearest.exponent_le_iff (hx : Nearest IsNumber q x)
    (hsign : x.negative = false) :
    x.exponent ≤ maxExponent ↔ 2 * q < (2 ^ 54 - 1) * 2 ^ maxExponent := by
  have hstep : (0 : ℚ) < 2 ^ maxExponent := by positivity
  have hmiddle : largest.value + tooLarge.value =
      (2 ^ 54 - 1) * 2 ^ maxExponent := by
    rw [value_largest, value_tooLarge]
    ring
  have hgap : largest.value < tooLarge.value := by
    rw [value_largest, value_tooLarge]
    linarith
  rw [← hmiddle]
  constructor
  · intro hexponent
    have hdouble : x.IsDouble := ⟨hx.mem, hexponent⟩
    have hbelow := hdouble.value_le_largest
    have hlt : x.value < tooLarge.value := by linarith
    have hside := (abs_sub_le_iff_of_lt hlt q).mp (hx.le _ isNumber_tooLarge)
    by_contra hfar
    rw [not_lt] at hfar
    -- Only the middle itself is left, and there the largest double is odd.
    have htie : |tooLarge.value - q| = |x.value - q| := by
      apply le_antisymm
      · rw [abs_sub_le_iff_of_gt hlt]
        linarith
      · exact hx.le _ isNumber_tooLarge
    rcases hx.even _ isNumber_tooLarge htie with heq | heven
    · exact hlt.ne' heq
    · exact hdouble.not_even_largest (by linarith) heven
  · intro hq
    by_contra hexponent
    rw [not_le] at hexponent
    have hfar := hx.mem.tooLarge_le hsign hexponent
    have hlt : largest.value < x.value := by linarith
    have hside := (abs_sub_le_iff_of_gt hlt q).mp (hx.le _ isNumber_largest)
    linarith

end

end Binary64

end CallRegistry
