import Gamebook.Decimal.Shortest
import Mathlib.Algebra.Order.Field.Power
import Mathlib.Algebra.Order.Ring.Rat
import Mathlib.Tactic.Linarith
import Mathlib.Tactic.Positivity
import Mathlib.Tactic.Ring

/-!
# The nearest number

A rational number lies between two neighbours among the finite numbers. Their distance is a power of
two, and of the finite numbers only the multiples of it can be near.
-/

namespace Gamebook.Decimal

variable {x y : Float} {q z : ℚ} {r n t : ℤ}

/-! ## Values -/

/-- The number that a magnitude stands for; zero if that is none. -/
def Magnitude.value : Magnitude → ℚ
  | .finite significand exponent => significand * 2 ^ exponent
  | .zero | .infinite | .notANumber => 0

/-- The rational number that a finite number is. -/
def value (x : Float) : ℚ := (if isNegative x then -1 else 1) * (magnitude x).value

/-- Whether the significand of a number is even; that of zero is. -/
def HasEvenSignificand (x : Float) : Prop := ∀ m e, magnitude x = .finite m e → m % 2 = 0

/-- Whether `x` is the finite number nearest to `q`, of two equally near ones the one with the even
significand. -/
structure IsNearest (x : Float) (q : ℚ) : Prop where
  finite : isFinite x = true
  le : ∀ y, isFinite y = true → |value x - q| ≤ |value y - q|
  even : ∀ y, isFinite y = true → value y ≠ value x → |value y - q| = |value x - q| →
    HasEvenSignificand x

/-- Whether a number rounds to a finite one: it is nearer to the largest of them than to the power of
two that would come next. -/
def InRange (q : ℚ) : Prop := |q| < 2 ^ 1024 - 2 ^ 970

/-- Whether a significand and an exponent are those of the format: a significand that is not full has the
least exponent. The largest exponent is left open. -/
structure IsCanonical (m : Nat) (e : ℤ) : Prop where
  pos : 0 < m
  lt : m < 2 ^ 53
  least : -1074 ≤ e
  le : 2 ^ 52 ≤ m ∨ e = -1074

theorem isCanonical_of_magnitude {m : Nat} {e : ℤ} (h : magnitude x = .finite m e) :
    IsCanonical m e ∧ e ≤ 971 := by
  have h52 : Nat.pow 2 52 = 2 ^ 52 := rfl
  have h11 : Nat.pow 2 11 = 2 ^ 11 := rfl
  simp only [magnitude, h52, h11] at h
  split at h
  · split at h <;> cases h
  · split at h
    · split at h
      · cases h
      · cases h
        exact ⟨⟨by omega, by omega, le_rfl, .inr rfl⟩, by decide⟩
    · cases h
      exact ⟨⟨by omega, by omega, by omega, .inl (by omega)⟩, by omega⟩

theorem Magnitude.value_nonneg : (m : Magnitude) → 0 ≤ m.value
  | .finite _ _ => by rw [value]; positivity
  | .zero | .infinite | .notANumber => le_rfl

theorem value_eq_of_pos (h : 0 < value y) : value y = (magnitude y).value := by
  have := (magnitude y).value_nonneg
  cases hn : isNegative y with
  | false => simp [value, hn]
  | true =>
      simp only [value, hn, if_true] at h
      linarith

/-! ## Integers -/

/-- Whether `r` is the integer nearest to `z`, of two equally near ones the even one. -/
def IsRounded (r : ℤ) (z : ℚ) : Prop := |r - z| ≤ 1 / 2 ∧ (|r - z| = 1 / 2 → r % 2 = 0)

theorem one_le_dist_add_dist (h : n ≠ r) (z : ℚ) : 1 ≤ |n - z| + |r - z| := by
  calc (1 : ℚ) ≤ |(n : ℚ) - r| := by exact_mod_cast Int.one_le_abs (sub_ne_zero.2 h)
    _ ≤ |n - z| + |z - r| := abs_sub_le _ _ _
    _ = |n - z| + |r - z| := by rw [abs_sub_comm z]

theorem IsRounded.le (h : IsRounded r z) (n : ℤ) : |r - z| ≤ |n - z| := by
  by_cases hn : n = r
  · rw [hn]
  · have := one_le_dist_add_dist hn z
    linarith [h.1]

theorem IsRounded.even (h : IsRounded r z) (hn : n ≠ r) (he : |n - z| = |r - z|) : r % 2 = 0 := by
  have := one_le_dist_add_dist hn z
  exact h.2 (le_antisymm h.1 (by linarith))

/-- Half an integer below an even one rounds up to it. -/
theorem IsRounded.lt_iff (h : IsRounded r z) (hn : n % 2 = 0) : r < n ↔ z < n - 1 / 2 := by
  have hd := abs_le.1 h.1
  constructor
  · intro hlt
    have hle : (r : ℚ) ≤ n - 1 := by exact_mod_cast Int.le_sub_one_of_lt hlt
    refine lt_of_le_of_ne (by linarith) fun he => ?_
    have hr : (n - 1 : ℚ) ≤ r := by linarith
    have hr : n - 1 ≤ r := by exact_mod_cast hr
    obtain rfl : r = n - 1 := by omega
    have := h.2 (by rw [he]; norm_num)
    omega
  · intro hlt
    have : (r : ℚ) < n := by linarith
    exact_mod_cast this

/-! ## Neighbours -/

/-- Whether the finite numbers on both sides of `q` are multiples of `2 ^ t` that follow each other. -/
structure IsSpacing (t : ℤ) (q : ℚ) : Prop where
  least : -1074 ≤ t
  lt : q < 2 ^ (t + 53)
  le : t = -1074 ∨ 2 ^ (t + 52) ≤ q

theorem two_zpow_add (t : ℤ) (n : ℕ) : (2 : ℚ) ^ (t + n) = 2 ^ n * 2 ^ t := by
  rw [add_comm, zpow_add₀ two_ne_zero, zpow_natCast]

theorem dist_eq_mul (n t : ℤ) (q : ℚ) : |n * 2 ^ t - q| = |n - q / 2 ^ t| * 2 ^ t := by
  have hp : (0 : ℚ) < 2 ^ t := by positivity
  rw [← abs_of_pos hp, ← abs_mul, abs_of_pos hp, sub_mul, div_mul_cancel₀ q hp.ne']

/-- A magnitude is a multiple of a power of two, or it is below the binade with that spacing. -/
theorem IsCanonical.multiple_or_below {m : Nat} {e : ℤ} (h : IsCanonical m e) (t : ℤ) :
    (∃ n : ℤ, (m : ℚ) * 2 ^ e = n * 2 ^ t) ∨ -1074 < t ∧ (m : ℚ) * 2 ^ e < 2 ^ (t + 52) := by
  have hleast := h.least
  by_cases hte : t ≤ e
  · refine .inl ⟨m * 2 ^ (e - t).toNat, ?_⟩
    have hz : (2 : ℚ) ^ e = 2 ^ (e - t).toNat * 2 ^ t := by
      rw [← two_zpow_add, Int.toNat_of_nonneg (by omega), add_sub_cancel]
    rw [hz, ← mul_assoc]
    norm_cast
  · refine .inr ⟨by omega, ?_⟩
    have hm : (m : ℚ) < 2 ^ 53 := by exact_mod_cast h.lt
    calc (m : ℚ) * 2 ^ e < 2 ^ 53 * 2 ^ e := mul_lt_mul_of_pos_right hm (by positivity)
      _ = 2 ^ (e + (53 : Nat)) := (two_zpow_add e 53).symm
      _ ≤ 2 ^ (t + 52) := zpow_le_zpow_right₀ one_le_two (by omega)

/-- A finite number is a multiple of the spacing, or farther away than one. -/
theorem IsSpacing.multiple_or_farther (h : IsSpacing t q) (hq : 0 ≤ q) (hy : isFinite y = true) :
    ∃ n : ℤ, value y = n * 2 ^ t ∨ |n * 2 ^ t - q| < |value y - q| := by
  rcases lt_trichotomy (value y) 0 with hv | hv | hv
  · refine ⟨0, .inr ?_⟩
    have : value y - q < 0 := by linarith
    rw [abs_of_neg this, Int.cast_zero, zero_mul, zero_sub, abs_neg, abs_of_nonneg hq]
    linarith
  · exact ⟨0, .inl (by rw [hv, Int.cast_zero, zero_mul])⟩
  · have hval := value_eq_of_pos hv
    cases hm : magnitude y with
    | finite m e =>
        rw [hm, Magnitude.value] at hval
        rcases (isCanonical_of_magnitude hm).1.multiple_or_below t with ⟨n, hn⟩ | ⟨ht, hlt⟩
        · exact ⟨n, .inl (hval.trans hn)⟩
        · -- the least number of the binade lies between
          have hle : 2 ^ (t + 52) ≤ q := h.le.resolve_left (by omega)
          have hpow : ((2 ^ 52 : ℤ) : ℚ) * 2 ^ t = 2 ^ (t + 52) := by
            rw [Int.cast_pow]
            exact (two_zpow_add t 52).symm
          rw [← hval] at hlt
          refine ⟨2 ^ 52, .inr ?_⟩
          rw [hpow, abs_of_nonpos (by linarith), abs_of_neg (by linarith)]
          linarith
    | zero =>
        rw [hval, hm] at hv
        exact absurd hv (lt_irrefl _)
    | infinite => simp [isFinite, hm] at hy
    | notANumber => simp [isFinite, hm] at hy

theorem IsSpacing.rounded_le (h : IsSpacing t q) (hr : IsRounded r (q / 2 ^ t)) : r ≤ 2 ^ 53 := by
  have hz : q / 2 ^ t < 2 ^ 53 := by
    rw [div_lt_iff₀ (by positivity)]
    exact two_zpow_add t 53 ▸ h.lt
  have hd := (abs_le.1 hr.1).2
  by_contra hlt
  have : (2 ^ 53 + 1 : ℚ) ≤ r := by exact_mod_cast not_le.1 hlt
  linarith

theorem IsSpacing.le_rounded (h : IsSpacing t q) (hr : IsRounded r (q / 2 ^ t)) :
    t = -1074 ∨ 2 ^ 52 ≤ r := by
  refine h.le.imp_right fun hle => ?_
  have hz : (2 : ℚ) ^ 52 ≤ q / 2 ^ t := by
    rw [le_div_iff₀ (by positivity)]
    exact two_zpow_add t 52 ▸ hle
  have hd := (abs_le.1 hr.1).1
  by_contra hlt
  have : (r : ℚ) + 1 ≤ 2 ^ 52 := by exact_mod_cast not_le.1 hlt
  linarith

/-! ## The range -/

/-- The range ends half a spacing of the last binade in front of the power of two. -/
theorem two_pow_sub_eq : (2 : ℚ) ^ 1024 - 2 ^ 970 = ((2 ^ 53 : ℤ) - 1 / 2) * 2 ^ (971 : ℤ) := by
  have htop : (2 : ℚ) ^ 1024 = 2 ^ 53 * 2 ^ 971 := pow_add 2 53 971
  have hhalf : (2 : ℚ) ^ 971 = 2 * 2 ^ 970 := pow_succ' 2 970
  have hz : (2 : ℚ) ^ (971 : ℤ) = 2 ^ 971 := rfl
  rw [htop, hz, hhalf]
  generalize (2 : ℚ) ^ 970 = u
  push_cast
  ring

theorem IsSpacing.below_last (h : IsSpacing t q) (hr : IsRounded r (q / 2 ^ t)) (ht : t < 971) :
    q < 2 ^ 1024 - 2 ^ 970 ∧ r * 2 ^ t < (2 : ℚ) ^ 1024 := by
  have hr53 : (r : ℚ) ≤ 2 ^ 53 := by exact_mod_cast h.rounded_le hr
  have htop : (2 : ℚ) ^ 1024 = 2 * 2 ^ 1023 := pow_succ' 2 1023
  have hlt : (2 : ℚ) ^ 970 ≤ 2 ^ 1023 := pow_le_pow_right₀ one_le_two (by decide)
  have hpos : (0 : ℚ) < 2 ^ 970 := by positivity
  have hle : (2 : ℚ) ^ (t + 53) ≤ 2 ^ 1023 :=
    zpow_le_zpow_right₀ one_le_two (by omega : t + 53 ≤ (1023 : ℕ))
  have hrt : r * (2 : ℚ) ^ t ≤ 2 ^ (t + 53) := by
    rw [show t + 53 = t + (53 : ℕ) from rfl, two_zpow_add]
    exact mul_le_mul_of_nonneg_right hr53 (by positivity)
  have hq := h.lt
  rw [htop]
  clear htop
  -- arithmetic is not to compute powers of this size
  generalize (2 : ℚ) ^ 1023 = v at hle hlt ⊢
  generalize (2 : ℚ) ^ 970 = u at hpos hlt ⊢
  constructor <;> linarith

theorem IsSpacing.above_last (h : IsSpacing t q) (hr : IsRounded r (q / 2 ^ t)) (ht : 971 < t) :
    2 ^ 1024 ≤ q ∧ (2 : ℚ) ^ 1024 ≤ r * 2 ^ t := by
  have htop : (2 : ℚ) ^ 1024 ≤ 2 ^ (t + 52) := by
    rw [← zpow_natCast]
    exact zpow_le_zpow_right₀ one_le_two (by omega)
  have hr52 : (2 : ℚ) ^ 52 ≤ r := by exact_mod_cast (h.le_rounded hr).resolve_left (by omega)
  refine ⟨htop.trans (h.le.resolve_left (by omega)), htop.trans ?_⟩
  calc (2 : ℚ) ^ (t + 52) = 2 ^ 52 * 2 ^ t := two_zpow_add t 52
    _ ≤ r * 2 ^ t := mul_le_mul_of_nonneg_right hr52 (by positivity)

/-- In the last binade the half spacing in front of the power of two is rounded up to it. -/
theorem IsRounded.last_iff (hr : IsRounded r (q / 2 ^ (971 : ℤ))) :
    q < 2 ^ 1024 - 2 ^ 970 ↔ r * 2 ^ (971 : ℤ) < (2 : ℚ) ^ 1024 := by
  have hpos : (0 : ℚ) < 2 ^ (971 : ℤ) := by positivity
  have htop : (2 : ℚ) ^ 1024 = ((2 ^ 53 : ℤ) : ℚ) * 2 ^ (971 : ℤ) := by
    rw [Int.cast_pow]
    exact pow_add 2 53 971
  rw [two_pow_sub_eq, ← div_lt_iff₀ hpos, htop, mul_lt_mul_iff_left₀ hpos, Int.cast_lt,
    hr.lt_iff (by decide)]

/-- A number is in range if what it is rounded to is below the power of two that would come next. -/
theorem IsSpacing.inRange_iff (h : IsSpacing t q) (hq : 0 ≤ q) (hr : IsRounded r (q / 2 ^ t)) :
    InRange q ↔ r * 2 ^ t < (2 : ℚ) ^ 1024 := by
  rw [InRange, abs_of_nonneg hq]
  rcases lt_trichotomy t 971 with ht | rfl | ht
  · obtain ⟨hlt, hrt⟩ := h.below_last hr ht
    exact iff_of_true hlt hrt
  · exact hr.last_iff
  · obtain ⟨hle, hrt⟩ := h.above_last hr ht
    have hout : (2 : ℚ) ^ 1024 - 2 ^ 970 ≤ q := (sub_le_self _ (by positivity)).trans hle
    exact iff_of_false hout.not_gt hrt.not_gt

/-! ## What rounding finds -/

/-- The multiple of the spacing that is nearest, with ties to the even one, is the nearest number. -/
theorem IsSpacing.isNearest (h : IsSpacing t q) (hq : 0 ≤ q) (hr : IsRounded r (q / 2 ^ t))
    (hx : isFinite x = true) (hv : value x = r * 2 ^ t) (he : r % 2 = 0 → HasEvenSignificand x) :
    IsNearest x q := by
  have hp : (0 : ℚ) < 2 ^ t := by positivity
  have hle (n : ℤ) : |value x - q| ≤ |n * 2 ^ t - q| := by
    rw [hv, dist_eq_mul, dist_eq_mul]
    exact mul_le_mul_of_nonneg_right (hr.le n) hp.le
  refine ⟨hx, fun y hy => ?_, fun y hy hne heq => ?_⟩
  · obtain ⟨n, hn | hn⟩ := h.multiple_or_farther hq hy
    · exact hn ▸ hle n
    · exact (hle n).trans hn.le
  · obtain ⟨n, hn | hn⟩ := h.multiple_or_farther hq hy
    · have hnr : n ≠ r := fun hnr => hne (by rw [hn, hv, hnr])
      rw [hn, hv, dist_eq_mul, dist_eq_mul] at heq
      exact he (hr.even hnr (mul_right_cancel₀ hp.ne' heq))
    · exact absurd (heq ▸ hle n) hn.not_ge

end Gamebook.Decimal
