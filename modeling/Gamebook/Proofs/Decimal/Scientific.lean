import Gamebook.Decimal.Literal
import Gamebook.Proofs.Decimal.Rounding

/-!
# Rounding a decimal

A number that is a significand times a power of ten is rounded once: products and quotients are exact
until their last step. So it becomes the nearest number, or it is out of range.
-/

namespace Gamebook.Decimal

open Float.Model Float.Model.UnpackedFloat

variable {x y : Float} {q z : ℚ} {m n r : Nat} {e k t : ℤ} {acc : Accuracy}

/-- Whether `x` is what `q`, which is not negative, is rounded to. -/
structure Rounds (x : Float) (q : ℚ) : Prop where
  nearest : InRange q → IsNearest x q
  infinite : ¬ InRange q → magnitude x = .infinite
  positive : isNegative x = false

/-! ## Results of arithmetic -/

theorem IsCanonical.lt_iff (h : IsCanonical m e) : (m : ℚ) * 2 ^ e < 2 ^ 1024 ↔ e ≤ 971 := by
  have hpos : (0 : ℚ) < 2 ^ e := by positivity
  have htop : (2 : ℚ) ^ 1024 = 2 ^ (1024 : ℤ) := rfl
  rw [htop]
  constructor
  · intro hlt
    by_contra he
    have hm : (2 : ℚ) ^ 52 ≤ m := by exact_mod_cast h.le.resolve_right (by omega)
    refine hlt.not_ge ?_
    calc (2 : ℚ) ^ (1024 : ℤ) ≤ 2 ^ (e + (52 : Nat)) := zpow_le_zpow_right₀ one_le_two (by omega)
      _ = 2 ^ 52 * 2 ^ e := two_zpow_add e 52
      _ ≤ m * 2 ^ e := mul_le_mul_of_nonneg_right hm hpos.le
  · intro he
    have hm : (m : ℚ) < 2 ^ 53 := by exact_mod_cast h.lt
    calc (m : ℚ) * 2 ^ e < 2 ^ 53 * 2 ^ e := mul_lt_mul_of_pos_right hm hpos
      _ = 2 ^ (e + (53 : Nat)) := (two_zpow_add e 53).symm
      _ ≤ 2 ^ (1024 : ℤ) := zpow_le_zpow_right₀ one_le_two (by omega)

/-- A number other than zero is put into the format without a change of its value. -/
theorem carried_eq_finite {s : Sign} (ht : -1074 ≤ t) (h0 : r ≠ 0) (hr : r ≤ 2 ^ 53)
    (hn : t = -1074 ∨ 2 ^ 52 ≤ r) : ∃ m e, ∃ hc : IsCanonical m e,
      carried s r t = .finite s m e hc.pos ∧ (m : ℚ) * 2 ^ e = r * 2 ^ t ∧ (r % 2 = 0 → m % 2 = 0) := by
  by_cases hlt : r < 2 ^ 53
  · refine ⟨r, t, ⟨Nat.pos_of_ne_zero h0, hlt, ht, hn.symm⟩, ?_, rfl, id⟩
    simp only [carried, h0, hlt, dif_neg, if_true, not_false_eq_true]
  · obtain rfl : r = 2 ^ 53 := by omega
    refine ⟨2 ^ 52, t + 1, ⟨by decide, by decide, by omega, .inl le_rfl⟩, rfl, ?_, fun _ => rfl⟩
    have hup : (2 : ℚ) ^ (t + 1) = 2 ^ 1 * 2 ^ t := two_zpow_add t 1
    rw [hup]
    push_cast
    ring

theorem IsSpacing.rounds_carried (h : IsSpacing t q) (hq : 0 ≤ q) (hr : IsRounded r (q / 2 ^ t)) :
    Rounds (packed (carried (signOf false) r t)) q := by
  have hrange := h.inRange_iff hq hr
  by_cases h0 : r = 0
  · subst h0
    have hz : HasFields (packed (.zero (signOf false))) false 0 0 := hasFields_packed_zero
    have hm : magnitude (packed (.zero (signOf false))) = .zero := hz.magnitude
    have hx : carried (signOf false) 0 t = .zero (signOf false) := rfl
    rw [Int.cast_natCast, Nat.cast_zero, zero_mul] at hrange
    rw [hx]
    refine ⟨fun _ => ?_, fun hout => absurd (hrange.2 (pow_pos two_pos _)) hout, hz.isNegative⟩
    refine h.isNearest hq hr (by rw [isFinite, hm]) (by simp [value, hm, Magnitude.value]) ?_
    intro _ m e he
    rw [hm] at he
    cases he
  · obtain ⟨m, e, hc, he, hv, heven⟩ := carried_eq_finite (s := signOf false) h.least h0
      (by exact_mod_cast h.rounded_le hr) ((h.le_rounded hr).imp_right fun h => by exact_mod_cast h)
    rw [Int.cast_natCast, ← hv, hc.lt_iff] at hrange
    rw [he]
    refine ⟨fun hin => ?_, fun hout => ?_, isNegative_packed_finite hc⟩
    · have hm : magnitude (packed (.finite (signOf false) m e hc.pos)) = .finite m e :=
        magnitude_packed_finite hc (hrange.1 hin)
      refine h.isNearest hq hr (by rw [isFinite, hm]) ?_ ?_
      · rw [value, hm, isNegative_packed_finite hc, Magnitude.value, Int.cast_natCast, ← hv]
        simp
      · intro h2 m' e' hm'
        rw [hm] at hm'
        cases hm'
        exact heven (by exact_mod_cast h2)
    · exact magnitude_packed_infinite hc (not_le.1 (mt hrange.2 hout))

theorem rounds_roundWithAccuracy (h : 2 ^ 52 ≤ m ∨ e ≤ -1074)
    (hz : Represents (.ofMantissaAndAccuracy m acc) z) :
    Rounds (packed (roundWithAccuracy .binary64 (signOf false) m e acc)) (z * 2 ^ e) := by
  have hm : (ExtendedMantissa.ofMantissaAndAccuracy m acc).mantissa = m := by
    rcases acc with _ | (_ | _ | _) <;> rfl
  have hb := hz.bounds
  rw [hm] at hb
  have hz0 : 0 ≤ z := le_trans (Nat.cast_nonneg m) hb.1
  obtain ⟨he, hs⟩ := isSpacing_targetExponent h hb.1 hb.2
  generalize ht : Format.binary64.targetExponent (totalExponent m e) = t at he hs
  have hq : z * 2 ^ e / 2 ^ t = z / 2 ^ (t - e).toNat := by
    rw [← zpow_natCast, Int.toNat_of_nonneg (by omega), zpow_sub₀ two_ne_zero, div_div_eq_mul_div]
  have hr := (hz.shiftRight (t - e).toNat).isRounded
  rw [← hq] at hr
  have hle := hs.rounded_le hr
  rw [roundWithAccuracy_eq_carried ht he rfl (by exact_mod_cast hle)]
  exact hs.rounds_carried (by positivity) hr

theorem rounds_mul (hm : 0 < m) (hn : 0 < n) (h : 2 ^ 52 ≤ m * n) :
    Rounds (packed (UnpackedFloat.mul .binary64 (.finite .positive m e hm) (.finite .positive n k hn)))
      (m * 2 ^ e * (n * 2 ^ k)) := by
  have hq : (m : ℚ) * 2 ^ e * (n * 2 ^ k) = (m * n : Nat) * 2 ^ (e + k) := by
    rw [zpow_add₀ two_ne_zero]
    push_cast
    ring
  rw [hq]
  exact rounds_roundWithAccuracy (.inl h) (represents_exact _)

/-- A quotient is computed to more digits than the format has, or down to the least exponent. -/
theorem divCore_digits {shift : Nat} (hm : 0 < m) (hn : 0 < n)
    (h : 53 + n.log2 ≤ m.log2 + shift) : 2 ^ 52 ≤ m <<< shift / n := by
  rw [Nat.le_div_iff_mul_le hn, Nat.shiftLeft_eq]
  calc 2 ^ 52 * n ≤ 2 ^ 52 * 2 ^ (n.log2 + 1) := Nat.mul_le_mul_left _ Nat.lt_log2_self.le
    _ = 2 ^ (53 + n.log2) := by rw [← pow_add]; congr 1; omega
    _ ≤ 2 ^ (m.log2 + shift) := Nat.pow_le_pow_right two_pos h
    _ = 2 ^ m.log2 * 2 ^ shift := pow_add _ _ _
    _ ≤ m * 2 ^ shift := Nat.mul_le_mul_right _ (Nat.log2_self_le hm.ne')

theorem rounds_div (hm : 0 < m) (hn : 0 < n) :
    Rounds (packed (UnpackedFloat.div .binary64 (.finite .positive m e hm) (.finite .positive n k hn)))
      (m * 2 ^ e / (n * 2 ^ k)) := by
  let t := min (e - k) (Format.binary64.targetExponent (totalExponent m e - totalExponent n k))
  let shift := (e - k - t).toNat
  have hshift : e - k = t + shift := by omega
  have hn0 : (n : ℚ) ≠ 0 := by exact_mod_cast hn.ne'
  have hz : ((m <<< shift / n : Nat) : ℚ) + (m <<< shift % n : Nat) / n = m * 2 ^ shift / n := by
    rw [eq_div_iff hn0, add_mul, div_mul_cancel₀ _ hn0]
    exact_mod_cast (Nat.div_add_mod' _ n).trans (Nat.shiftLeft_eq m shift)
  have hq : (m : ℚ) * 2 ^ e / (n * 2 ^ k) = m * 2 ^ shift / n * 2 ^ t := by
    rw [mul_div_mul_comm, ← zpow_sub₀ two_ne_zero, hshift, two_zpow_add]
    ring
  have hdigits : 2 ^ 52 ≤ m <<< shift / n ∨ t ≤ -1074 := by
    refine or_iff_not_imp_right.2 fun ht => divCore_digits hm hn ?_
    have : t ≤ Format.binary64.targetExponent (totalExponent m e - totalExponent n k) := min_le_right _ _
    rw [targetExponent_eq, totalExponent, totalExponent] at this
    omega
  rw [hq, ← hz]
  exact rounds_roundWithAccuracy hdigits (represents_fraction _ (Nat.mod_lt _ hn))

/-! ## Powers of ten -/

theorem rounds_unpacked_ofScientific (hm : m ≠ 0) (he : e ≤ 2048) (he' : -(2048 + (m.log2 : ℤ)) ≤ e) :
    Rounds (packed (UnpackedFloat.ofScientific .binary64 m e)) (m * 10 ^ e) := by
  have hpos := Nat.pos_of_ne_zero hm
  have htop : ¬ e > 2 ^ Format.binary64.exponentBits := not_lt.2 he
  have hlow : ¬ e < -((2 ^ Format.binary64.exponentBits : ℤ) + m.log2) := not_lt.2 he'
  rw [UnpackedFloat.ofScientific, dif_neg hm, if_neg htop, if_neg hlow]
  split
  · next h0 =>
      have hten : 0 < 10 ^ e.toNat := Nat.pow_pos (by decide)
      have hbig : 2 ^ 52 ≤ m <<< 53 * 10 ^ e.toNat := by
        rw [Nat.shiftLeft_eq]
        exact le_trans (by omega) (Nat.le_mul_of_pos_right _ hten)
      have hq : (m : ℚ) * (10 : ℚ) ^ e =
          (m <<< 53 : Nat) * 2 ^ (-53 : ℤ) * ((10 ^ e.toNat : Nat) * 2 ^ (0 : ℤ)) := by
        have h10 : (10 : ℚ) ^ e = 10 ^ e.toNat := by rw [← zpow_natCast, Int.toNat_of_nonneg h0]
        rw [Nat.shiftLeft_eq, h10]
        push_cast
        norm_num
        ring
      rw [hq]
      exact rounds_mul _ _ hbig
  · next h0 =>
      have hq : (m : ℚ) * (10 : ℚ) ^ e = m * 2 ^ (0 : ℤ) / ((10 ^ (-e).toNat : Nat) * 2 ^ (0 : ℤ)) := by
        have h10 : (10 : ℚ) ^ e = (10 ^ (-e).toNat)⁻¹ := by
          rw [← zpow_natCast, Int.toNat_of_nonneg (by omega), zpow_neg, inv_inv]
        rw [h10, zpow_zero, mul_one, mul_one, div_eq_mul_inv]
        push_cast
        rfl
      rw [hq]
      exact rounds_div _ _

/-- Whether a number is `v`, which is positive and has a significand of full length. -/
def IsNormal (x : Float) (v : ℚ) : Prop := ∃ (n : Nat) (e : ℤ) (hn : 0 < n),
  2 ^ 52 ≤ n ∧ n * 2 ^ e = v ∧ unpacked x = .finite .positive n e hn

theorem IsNormal.rounds_mul {v w : ℚ} (hx : IsNormal x v) (hy : IsNormal y w) : Rounds (x * y) (v * w) := by
  obtain ⟨m, e, hm, hm52, rfl, hx⟩ := hx
  obtain ⟨n, k, hn, -, rfl, hy⟩ := hy
  have h := Decimal.rounds_mul (e := e) (k := k) hm hn (hm52.trans (Nat.le_mul_of_pos_right m hn))
  rw [← hx, ← hy] at h
  exact h

theorem IsNormal.rounds_div {v w : ℚ} (hx : IsNormal x v) (hy : IsNormal y w) : Rounds (x / y) (v / w) := by
  obtain ⟨m, e, hm, -, rfl, hx⟩ := hx
  obtain ⟨n, k, hn, -, rfl, hy⟩ := hy
  have h := Decimal.rounds_div (e := e) (k := k) hm hn
  rw [← hx, ← hy] at h
  exact h

theorem IsCanonical.targetExponent (h : IsCanonical m e) :
    Format.binary64.targetExponent (totalExponent m e) = e := by
  have hlog := (Nat.log2_lt h.pos.ne').2 h.lt
  have hle := h.le.imp_left (Nat.le_log2 h.pos.ne').2
  have hleast := h.least
  rw [targetExponent_eq, totalExponent]
  omega

theorem IsCanonical.roundWithAccuracy (h : IsCanonical m e) (s : Sign) :
    roundWithAccuracy .binary64 s m e .exact = .finite s m e h.pos := by
  have h0 : (e - e).toNat = 0 := by omega
  rw [roundWithAccuracy_eq_carried h.targetExponent le_rfl (r := m) (by rw [h0]; rfl) h.lt.le]
  simp only [carried, h.pos.ne', h.lt, dif_neg, if_true, not_false_eq_true]

theorem isNormal_of_magnitude (h : magnitude x = .finite m e) (hs : isNegative x = false)
    (h52 : 2 ^ 52 ≤ m) : IsNormal x (m * 2 ^ e) := by
  have hp := isPartsOf_unpacked x
  generalize hu : unpacked x = u at hp
  rw [h, hs] at hp
  cases hp with
  | finite hm => exact ⟨m, e, hm, h52, rfl, hu⟩

theorem isCanonical_shiftLeft (hm : 0 < m) (hlt : m < 2 ^ 53) :
    2 ^ 52 ≤ m <<< (52 - m.log2) ∧ IsCanonical (m <<< (52 - m.log2)) (-(52 - m.log2 : Nat)) := by
  have hlog : m.log2 < 53 := (Nat.log2_lt hm.ne').2 hlt
  have h52 : 2 ^ 52 ≤ m <<< (52 - m.log2) := by
    calc 2 ^ 52 = 2 ^ m.log2 * 2 ^ (52 - m.log2) := by rw [← pow_add]; congr 1; omega
      _ ≤ m * 2 ^ (52 - m.log2) := Nat.mul_le_mul_right _ (Nat.log2_self_le hm.ne')
      _ = m <<< (52 - m.log2) := (Nat.shiftLeft_eq _ _).symm
  refine ⟨h52, by omega, ?_, by omega, .inl h52⟩
  calc m <<< (52 - m.log2) = m * 2 ^ (52 - m.log2) := Nat.shiftLeft_eq _ _
    _ < 2 ^ (m.log2 + 1) * 2 ^ (52 - m.log2) :=
        Nat.mul_lt_mul_of_pos_right Nat.lt_log2_self (by positivity)
    _ = 2 ^ 53 := by rw [← pow_add]; congr 1; omega

theorem isNormal_toFloat (hm : 0 < m) (hlt : m < 2 ^ 53) : IsNormal m.toUInt64.toFloat m := by
  obtain ⟨h52, hc⟩ := isCanonical_shiftLeft hm hlt
  have hlog : m.log2 < 53 := (Nat.log2_lt hm.ne').2 hlt
  have hnat : m.toUInt64.toNat = m := UInt64.toNat_ofNat_of_lt (hlt.trans (by decide))
  have hgt : compare (m : ℤ) 0 = .gt := compare_gt_iff_gt.2 (by omega)
  have htarget : (-Format.binary64.targetExponent (totalExponent m 0)).toNat = 52 - m.log2 := by
    rw [targetExponent_eq, totalExponent]
    omega
  have hu : UnpackedFloat.ofUInt64 .binary64 m.toUInt64 =
      .finite (signOf false) (m <<< (52 - m.log2)) (-(52 - m.log2 : Nat)) hc.pos := by
    simp only [UnpackedFloat.ofUInt64, UnpackedFloat.ofNat, UnpackedFloat.ofInt, hnat,
      UnpackedFloat.normalize, hgt, UnpackedFloat.round, decreaseExponent, Int.toNat_natCast, zero_sub,
      htarget]
    exact hc.roundWithAccuracy _
  have hx : m.toUInt64.toFloat = packed (UnpackedFloat.ofUInt64 .binary64 m.toUInt64) := rfl
  have hv : ((m <<< (52 - m.log2) : Nat) : ℚ) * 2 ^ (-(52 - m.log2 : Nat) : ℤ) = m := by
    rw [Nat.shiftLeft_eq, zpow_neg, zpow_natCast]
    push_cast
    exact mul_inv_cancel_right₀ (by positivity) _
  rw [hx, hu]
  exact hv ▸ isNormal_of_magnitude (magnitude_packed_finite hc (by omega))
    (isNegative_packed_finite hc) h52

theorem powersOfTen_fields : ∀ k : Fin Float.exactlyRepresentablePowersOfTen.size,
    let p := Float.exactlyRepresentablePowersOfTen[k]
    let n := 10 ^ (k : Nat) * 2 ^ 52 / 2 ^ (10 ^ (k : Nat)).log2
    magnitude p = .finite n ((10 ^ (k : Nat)).log2 - 52) ∧ isNegative p = false ∧ 2 ^ 52 ≤ n ∧
      n * 2 ^ (10 ^ (k : Nat)).log2 = 10 ^ (k : Nat) * 2 ^ 52 := by
  decide +kernel

theorem isNormal_powerOfTen {k : Nat} (h : k < Float.exactlyRepresentablePowersOfTen.size) :
    IsNormal Float.exactlyRepresentablePowersOfTen[k] (10 ^ k) := by
  obtain ⟨hm, hs, h52, hv⟩ := powersOfTen_fields ⟨k, h⟩
  have hv : ((10 ^ k * 2 ^ 52 / 2 ^ (10 ^ k).log2 : Nat) : ℚ) * 2 ^ (10 ^ k).log2 = 10 ^ k * 2 ^ 52 := by
    exact_mod_cast hv
  have hq : ((10 ^ k * 2 ^ 52 / 2 ^ (10 ^ k).log2 : Nat) : ℚ) * 2 ^ (((10 ^ k).log2 : ℤ) - 52) = 10 ^ k := by
    rw [zpow_sub₀ two_ne_zero, zpow_natCast, ← mul_div_assoc, hv]
    exact mul_div_cancel_right₀ _ (by positivity)
  exact hq ▸ isNormal_of_magnitude hm hs h52

theorem rounds_ofScientific (hm : m ≠ 0) (he : e ≤ 2048) (he' : -(2048 + (m.log2 : ℤ)) ≤ e) :
    Rounds (Float.ofScientific m (e < 0) e.natAbs) (m * 10 ^ e) := by
  rw [Float.ofScientific]
  split
  · next h =>
      have hx := isNormal_toFloat (Nat.pos_of_ne_zero hm) h.1
      have hp := isNormal_powerOfTen (k := e.natAbs) (Nat.lt_succ_of_le h.2)
      by_cases h0 : e < 0
      · have hq : (m : ℚ) * (10 : ℚ) ^ e = m / 10 ^ e.natAbs := by
          rw [← zpow_natCast, Int.ofNat_natAbs_of_nonpos h0.le, zpow_neg, div_inv_eq_mul]
        rw [if_pos (decide_eq_true h0), hq]
        exact hx.rounds_div hp
      · have hq : (m : ℚ) * (10 : ℚ) ^ e = m * 10 ^ e.natAbs := by
          rw [← zpow_natCast, Int.natAbs_of_nonneg (not_lt.1 h0)]
        rw [if_neg (by simpa using h0), hq]
        exact hx.rounds_mul hp
  · have hs : (if decide (e < 0) = true then Int.negOfNat e.natAbs else Int.ofNat e.natAbs) = e := by
      split
      · next h0 =>
          have h0 : e ≤ 0 := (of_decide_eq_true h0).le
          rw [Int.negOfNat_eq, Int.ofNat_eq_natCast, Int.ofNat_natAbs_of_nonpos h0, neg_neg]
      · next h0 => exact Int.natAbs_of_nonneg (by simpa using h0)
    rw [hs]
    exact rounds_unpacked_ofScientific hm he he'

/-! ## Literals -/

theorem pow_length_digits_le (hm : m ≠ 0) : 10 ^ ((digits m).length - 1) ≤ m := by
  by_cases h0 : (digits m).length - 1 = 0
  · rw [h0]
    exact Nat.pos_of_ne_zero hm
  · have hlen : ¬ (digits m).length ≤ (digits m).length - 1 := by omega
    exact not_lt.1 (mt (Nat.length_toDigits_le_iff (by decide) (Nat.pos_of_ne_zero h0)).2 hlen)

theorem length_digits_le_log2 (hm : m ≠ 0) : (digits m).length ≤ m.log2 + 1 := by
  have h2 : 2 ^ ((digits m).length - 1) ≤ m :=
    (Nat.pow_le_pow_left (by decide) _).trans (pow_length_digits_le hm)
  have := (Nat.le_log2 hm).2 h2
  omega

theorem mul_ten_zpow_le (m : Nat) (e : ℤ) : (m : ℚ) * 10 ^ e ≤ 10 ^ ((digits m).length + e : ℤ) := by
  have hm : m < 10 ^ (digits m).length :=
    (Nat.length_toDigits_le_iff (by decide) Nat.length_toDigits_pos).1 le_rfl
  have hm : (m : ℚ) ≤ 10 ^ (digits m).length := by exact_mod_cast hm.le
  rw [zpow_add₀ (by norm_num), zpow_natCast]
  exact mul_le_mul_of_nonneg_right hm (by positivity)

theorem ten_zpow_le_mul (hm : m ≠ 0) (e : ℤ) :
    10 ^ (((digits m).length - 1 : Nat) + e : ℤ) ≤ (m : ℚ) * 10 ^ e := by
  have hm : (10 : ℚ) ^ ((digits m).length - 1) ≤ m := by exact_mod_cast pow_length_digits_le hm
  rw [zpow_add₀ (by norm_num), zpow_natCast]
  exact mul_le_mul_of_nonneg_right hm (by positivity)

theorem ten_zpow_le_two_zpow : (10 : ℚ) ^ (-401 : ℤ) ≤ 2 ^ (-1075 : ℤ) := by
  have h : 2 ^ 1075 ≤ 10 ^ 401 := by decide +kernel
  have h' : (2 : ℚ) ^ 1075 ≤ 10 ^ 401 := by exact_mod_cast h
  exact inv_anti₀ (by positivity) h'

theorem two_pow_le_ten_zpow : (2 : ℚ) ^ 1024 ≤ 10 ^ (400 : ℤ) := by
  have h : 2 ^ 1024 ≤ 10 ^ 400 := by decide +kernel
  exact_mod_cast h

/-- What is at most half as large as the least positive number becomes zero. -/
theorem rounds_zero (hq : 0 ≤ q) (h : q ≤ 2 ^ (-1075 : ℤ)) : Rounds 0 q := by
  have hs : IsSpacing (-1074) q :=
    ⟨le_rfl, h.trans_lt (zpow_lt_zpow_right₀ one_lt_two (by decide)), .inl rfl⟩
  have hhalf : (2 : ℚ) ^ (-1075 : ℤ) = 1 / 2 * 2 ^ (-1074 : ℤ) := by
    rw [one_div, ← zpow_neg_one, ← zpow_add₀ two_ne_zero]
    rfl
  have hr : IsRounded (0 : Nat) (q / 2 ^ (-1074 : ℤ)) := by
    refine ⟨?_, fun _ => rfl⟩
    rw [Nat.cast_zero, Int.cast_zero, zero_sub, abs_neg, abs_of_nonneg (by positivity),
      div_le_iff₀ (by positivity)]
    exact hhalf ▸ h
  have h0 : (0 : Float) = packed (carried (signOf false) 0 (-1074)) := by decide +kernel
  exact h0 ▸ hs.rounds_carried hq hr

theorem rounds_infinity (h : 2 ^ 1024 ≤ q) : Rounds infinity q := by
  have hout : ¬ InRange q := by
    rw [InRange, not_lt]
    exact (sub_le_self _ (by positivity)).trans (h.trans (le_abs_self q))
  exact ⟨fun hin => absurd hin hout, fun _ => by decide +kernel, by decide +kernel⟩

/-- A decimal that is not negative becomes the number nearest to it, or it is out of range. -/
theorem rounds_nearest (m : Nat) (e : ℤ) : Rounds (nearest m e) (m * 10 ^ e) := by
  have hpos : 0 < (digits m).length := Nat.length_toDigits_pos
  simp only [nearest, Bool.or_eq_true, decide_eq_true_eq]
  split
  · next h =>
      refine rounds_zero (by positivity) ?_
      rcases h with rfl | h
      · rw [Nat.cast_zero, zero_mul]
        positivity
      · calc (m : ℚ) * 10 ^ e ≤ 10 ^ ((digits m).length + e : ℤ) := mul_ten_zpow_le m e
          _ ≤ 10 ^ (-401 : ℤ) := zpow_le_zpow_right₀ (by norm_num) (by omega)
          _ ≤ 2 ^ (-1075 : ℤ) := ten_zpow_le_two_zpow
  · next h =>
      obtain ⟨hm, hlow⟩ := not_or.1 h
      split
      · next htop =>
          refine rounds_infinity ?_
          calc (2 : ℚ) ^ 1024 ≤ 10 ^ (400 : ℤ) := two_pow_le_ten_zpow
            _ ≤ 10 ^ (((digits m).length - 1 : Nat) + e : ℤ) :=
                zpow_le_zpow_right₀ (by norm_num) (by omega)
            _ ≤ m * 10 ^ e := ten_zpow_le_mul hm e
      · have hlog := length_digits_le_log2 hm
        exact rounds_ofScientific hm (by omega) (by omega)

end Gamebook.Decimal
