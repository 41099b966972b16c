import Gamebook.Proofs.Decimal.Nearest
import Mathlib

/-!
# How arithmetic rounds

An exact result is a significand with two bits that say what is behind it. The significand is shifted to
the spacing of the result, and the bits decide whether it is rounded up. It is packed as a sign, an
exponent and the digits of the significand behind the first; what is too large for that is infinite.
-/

namespace Gamebook.Decimal

open Float.Model Float.Model.UnpackedFloat

variable {em : ExtendedMantissa} {z : ℚ} {m : Nat} {e t : ℤ} {acc : Accuracy} {s : Sign}
variable {x : Float} {negative : Bool} {exponent : BitVec 11} {fraction : BitVec 52}

/-! ## Residual bits -/

/-- Whether a significand with its residual bits is what is known of `z`: the round bit is a half, the
sticky bit tells whether anything is behind it. -/
def Represents (em : ExtendedMantissa) (z : ℚ) : Prop :=
  ∃ rest : ℚ, z = em.mantissa + (if em.roundBit then 1 / 2 else 0) + rest ∧
    0 ≤ rest ∧ rest < 1 / 2 ∧ (em.stickyBit = true ↔ rest ≠ 0)

theorem represents_exact (m : Nat) : Represents (.ofMantissaAndAccuracy m .exact) m :=
  ⟨0, by simp [ExtendedMantissa.ofMantissaAndAccuracy]⟩

theorem represents_fraction (m : Nat) {num den : Nat} (h : num < den) :
    Represents (.ofMantissaAndAccuracy m (accuracyOfFraction num den)) (m + num / den) := by
  have hden : (0 : ℚ) < den := by exact_mod_cast Nat.zero_lt_of_lt h
  have hlt : (num : ℚ) / den < 1 := by
    rw [div_lt_one hden]
    exact_mod_cast h
  rw [accuracyOfFraction]
  split
  · next h0 => simpa [h0] using represents_exact m
  · next h0 =>
      have hpos : (0 : ℚ) < num / den := by
        have : (0 : ℚ) < num := by exact_mod_cast Nat.pos_of_ne_zero h0
        positivity
      cases hc : compare (2 * num) den with
      | lt =>
          have hh : (num : ℚ) / den < 1 / 2 := by
            rw [div_lt_div_iff₀ hden two_pos]
            exact_mod_cast (by have := Nat.compare_eq_lt.1 hc; omega : num * 2 < 1 * den)
          exact ⟨num / den, by simp [ExtendedMantissa.ofMantissaAndAccuracy], hpos.le, hh,
            by simp [ExtendedMantissa.ofMantissaAndAccuracy, hpos.ne']⟩
      | eq =>
          have hh : (num : ℚ) / den = 1 / 2 := by
            rw [div_eq_div_iff hden.ne' two_ne_zero]
            exact_mod_cast (by have := Nat.compare_eq_eq.1 hc; omega : num * 2 = 1 * den)
          exact ⟨0, by simp [ExtendedMantissa.ofMantissaAndAccuracy, hh]⟩
      | gt =>
          have hh : 1 / 2 < (num : ℚ) / den := by
            rw [div_lt_div_iff₀ two_pos hden]
            exact_mod_cast (by have := Nat.compare_eq_gt.1 hc; omega : 1 * den < num * 2)
          refine ⟨num / den - 1 / 2, by simp [ExtendedMantissa.ofMantissaAndAccuracy], by linarith,
            by linarith, ?_⟩
          simpa [ExtendedMantissa.ofMantissaAndAccuracy, sub_ne_zero] using hh.ne'

theorem Represents.shiftRightOne (h : Represents em z) : Represents em.shiftRightOne (z / 2) := by
  obtain ⟨rest, hz, h0, hlt, hs⟩ := h
  have hm : (em.mantissa : ℚ) = (em.mantissa % 2 : Nat) + 2 * (em.mantissa / 2 : Nat) := by
    exact_mod_cast (Nat.mod_add_div em.mantissa 2).symm
  refine ⟨(if em.roundBit then 1 / 4 else 0) + rest / 2, ?_, ?_, ?_, ?_⟩
  · rw [hz, hm]
    rcases Nat.mod_two_eq_zero_or_one em.mantissa with h2 | h2 <;>
      cases em.roundBit <;> simp [ExtendedMantissa.shiftRightOne, h2] <;> ring
  · split <;> linarith
  · split <;> linarith
  · cases hr : em.roundBit with
    | false => simp [ExtendedMantissa.shiftRightOne, hr, hs]
    | true => simpa [ExtendedMantissa.shiftRightOne, hr] using (by linarith : 1 / 4 + rest / 2 ≠ 0)

theorem Represents.shiftRight (h : Represents em z) (n : Nat) : Represents (em >>> n) (z / 2 ^ n) := by
  change Represents (n.repeat ExtendedMantissa.shiftRightOne em) _
  induction n with
  | zero => simpa [Nat.repeat] using h
  | succ n ih =>
      rw [pow_succ, ← div_div]
      exact ih.shiftRightOne

theorem Represents.isRounded (h : Represents em z) : IsRounded em.roundedMantissa z := by
  obtain ⟨rest, rfl, h0, hlt, hs⟩ := h
  obtain ⟨m, round, sticky⟩ := em
  have hsmall {d : ℚ} (hd : |d| < 1 / 2) (r : ℤ) : |d| ≤ 1 / 2 ∧ (|d| = 1 / 2 → r % 2 = 0) :=
    ⟨hd.le, fun he => absurd he hd.ne⟩
  cases round with
  | false =>
      refine hsmall ?_ _
      rw [abs_lt]
      cases sticky <;> constructor <;> simp [ExtendedMantissa.roundedMantissa,
        ExtendedMantissa.accuracy, Accuracy.roundToNearestEven] <;> linarith
  | true =>
      cases sticky with
      | false =>
          obtain rfl : rest = 0 := by simpa using hs
          have hr : ExtendedMantissa.roundedMantissa ⟨m, true, false⟩ = m + m % 2 := rfl
          refine ⟨le_of_eq ?_, fun _ => by rw [hr]; omega⟩
          rw [hr]
          rcases Nat.mod_two_eq_zero_or_one m with h2 | h2
          · simp [h2]
          · norm_num [h2]
      | true =>
          refine hsmall ?_ _
          have hpos : 0 < rest := lt_of_le_of_ne h0 (Ne.symm (hs.1 rfl))
          rw [abs_lt]
          constructor <;> simp [ExtendedMantissa.roundedMantissa, ExtendedMantissa.accuracy,
            Accuracy.roundToNearestEven] <;> linarith

theorem Represents.bounds (h : Represents em z) : em.mantissa ≤ z ∧ z < em.mantissa + 1 := by
  obtain ⟨rest, rfl, h0, hlt, hs⟩ := h
  constructor <;> split <;> linarith

/-! ## Shifting to the spacing -/

theorem targetExponent_eq (k : ℤ) : Format.binary64.targetExponent k = max (k - 53) (-1074) := rfl

theorem shiftToTargetExponent_of_le (h : e ≤ Format.binary64.targetExponent (totalExponent m e)) :
    shiftToTargetExponent .binary64 m e acc =
      let t := Format.binary64.targetExponent (totalExponent m e)
      (ExtendedMantissa.ofMantissaAndAccuracy m acc >>> (t - e).toNat, t) := by
  simp only [shiftToTargetExponent, shiftToExponent, Prod.mk.injEq, true_and]
  omega

theorem shiftToTargetExponent_of_ge (h : Format.binary64.targetExponent (totalExponent m e) ≤ e) :
    shiftToTargetExponent .binary64 m e .exact = (⟨m, false, false⟩, e) := by
  have h0 : (Format.binary64.targetExponent (totalExponent m e) - e).toNat = 0 := by omega
  simp only [shiftToTargetExponent, shiftToExponent, h0]
  exact Prod.ext rfl (add_zero e)

/-- How a rounded significand is put into the format. -/
def carried (s : Sign) (r : Nat) (t : ℤ) : UnpackedFloat :=
  if h : r = 0 then .zero s
  else if r < 2 ^ 53 then .finite s r t (Nat.pos_of_ne_zero h)
  else .finite s (2 ^ 52) (t + 1) (by decide)

/-- What is rounded up to too many digits is shifted once more. -/
theorem roundWithAccuracy_eq_carried {r : Nat}
    (ht : Format.binary64.targetExponent (totalExponent m e) = t) (he : e ≤ t)
    (hr : (ExtendedMantissa.ofMantissaAndAccuracy m acc >>> (t - e).toNat).roundedMantissa = r)
    (hle : r ≤ 2 ^ 53) : roundWithAccuracy .binary64 s m e acc = carried s r t := by
  have hleast : -1074 ≤ t := by
    rw [← ht, targetExponent_eq]
    omega
  simp only [roundWithAccuracy, shiftToTargetExponent_of_le (ht.symm ▸ he), ht, hr]
  by_cases hlt : r < 2 ^ 53
  · have hlog : r.log2 < 53 := by
      by_cases h0 : r = 0
      · simp [h0]
      · exact (Nat.log2_lt h0).2 hlt
    have hge : Format.binary64.targetExponent (totalExponent r t) ≤ t := by
      rw [targetExponent_eq, totalExponent]
      omega
    simp only [shiftToTargetExponent_of_ge hge, carried, hlt, if_true]
  · obtain rfl : r = 2 ^ 53 := by omega
    have hup : Format.binary64.targetExponent (totalExponent (2 ^ 53) t) = t + 1 := by
      rw [targetExponent_eq, totalExponent, Nat.log2_two_pow]
      omega
    have hone : (t + 1 - t).toNat = 1 := by omega
    simp only [shiftToTargetExponent_of_le (hup.symm ▸ (by omega : t ≤ t + 1)), hup, hone]
    rfl

/-- A significand with enough digits, or with an exponent that is small enough, is shifted to the spacing
of the number. -/
theorem isSpacing_targetExponent (h : 2 ^ 52 ≤ m ∨ e ≤ -1074)
    (hm : m ≤ z) (hm' : z < m + 1) :
    e ≤ Format.binary64.targetExponent (totalExponent m e) ∧
      IsSpacing (Format.binary64.targetExponent (totalExponent m e)) (z * 2 ^ e) := by
  have hlog : 2 ^ 52 ≤ m → 52 ≤ m.log2 := fun hm => (Nat.le_log2 (by omega)).2 hm
  have hpos : (0 : ℚ) < 2 ^ e := by positivity
  rw [targetExponent_eq, totalExponent]
  refine ⟨by omega, ⟨by omega, ?_, ?_⟩⟩
  · have hz : z < 2 ^ (m.log2 + 1) := by
      have : (m : ℚ) + 1 ≤ 2 ^ (m.log2 + 1) := by exact_mod_cast Nat.lt_log2_self
      linarith
    calc z * 2 ^ e < 2 ^ (m.log2 + 1) * 2 ^ e := mul_lt_mul_of_pos_right hz hpos
      _ = 2 ^ (e + (m.log2 + 1 : Nat)) := (two_zpow_add e _).symm
      _ ≤ _ := zpow_le_zpow_right₀ one_le_two (by omega)
  · by_cases h0 : m = 0
    · subst h0
      rw [Nat.log2_zero]
      omega
    · refine or_iff_not_imp_left.2 fun hne => ?_
      have hz : (2 : ℚ) ^ m.log2 ≤ z := by
        have : (2 : ℚ) ^ m.log2 ≤ m := by exact_mod_cast Nat.log2_self_le h0
        linarith
      calc (2 : ℚ) ^ (max (m.log2 + 1 + e - 53) (-1074) + 52) = 2 ^ (e + (m.log2 : Nat)) := by
            congr 1
            omega
        _ = 2 ^ m.log2 * 2 ^ e := two_zpow_add e _
        _ ≤ z * 2 ^ e := mul_le_mul_of_nonneg_right hz hpos.le

/-! ## Fields -/

/-- The number that is packed from its parts. -/
def packed (u : UnpackedFloat) : Float := .ofModel (.pack u)

/-- The parts of a number. -/
def unpacked (x : Float) : UnpackedFloat := x.toModel.unpack

/-- The sign of a number, by whether it is negative. -/
def signOf (negative : Bool) : Sign := if negative then .negative else .positive

theorem toNat_packComponents (s : Sign) (exponent : BitVec 11) (fraction : BitVec 52) :
    (packComponents .binary64 s exponent fraction).toNat =
      s.toBitVec.toNat * 2 ^ 63 + exponent.toNat * 2 ^ 52 + fraction.toNat := by
  have he := exponent.isLt
  have hf := fraction.isLt
  rw [packComponents, BitVec.toNat_append, BitVec.toNat_append, ← Nat.shiftLeft_add_eq_or_of_lt hf,
    ← Nat.shiftLeft_add_eq_or_of_lt he]
  simp only [Nat.shiftLeft_eq]
  ring

/-- Whether the bits of a number are these three fields. -/
def HasFields (x : Float) (negative : Bool) (exponent : BitVec 11) (fraction : BitVec 52) : Prop :=
  x.toModel.toBits.toBitVec = packComponents .binary64 (signOf negative) exponent fraction

theorem exists_fields (x : Float) : ∃ negative exponent fraction,
    HasFields x negative exponent fraction := by
  let bits : BitVec (Format.numBits .binary64) := x.toModel.toBits.toBitVec
  have hbit : ∀ b : BitVec 1, b = 0 ∨ b = 1 := by decide
  have hsign : signOf (unpackSign bits = 1) = Sign.ofBitVec (unpackSign bits) := by
    rcases hbit (unpackSign bits) with hb | hb <;> rw [hb] <;> rfl
  refine ⟨unpackSign bits = 1, unpackExponent bits, unpackMantissa bits, ?_⟩
  rw [HasFields, hsign]
  exact (packComponents_unpackSign_unpackExponent_unpackMantissa bits).symm

theorem HasFields.toNat_toBits (h : HasFields x negative exponent fraction) : x.toBits.toNat =
    negative.toNat * 2 ^ 63 + exponent.toNat * 2 ^ 52 + fraction.toNat := by
  have hs : (signOf negative).toBitVec.toNat = negative.toNat := by cases negative <;> rfl
  rw [← hs, ← toNat_packComponents, ← h]
  rfl

theorem HasFields.isNegative (h : HasFields x negative exponent fraction) :
    isNegative x = negative := by
  have hE := exponent.isLt
  have hF := fraction.isLt
  have h63 : Nat.pow 2 63 = 2 ^ 63 := rfl
  rw [Decimal.isNegative, h.toNat_toBits, h63]
  cases negative <;> simp <;> omega

theorem HasFields.magnitude (h : HasFields x negative exponent fraction) : magnitude x =
    if exponent.toNat = 2047 then if fraction.toNat = 0 then .infinite else .notANumber
    else if exponent.toNat = 0 then if fraction.toNat = 0 then .zero else .finite fraction.toNat (-1074)
    else .finite (2 ^ 52 + fraction.toNat) (exponent.toNat - 1075) := by
  have hE := exponent.isLt
  have hF := fraction.isLt
  have h52 : Nat.pow 2 52 = 2 ^ 52 := rfl
  have h11 : Nat.pow 2 11 = 2 ^ 11 := rfl
  have he : (negative.toNat * 2 ^ 63 + exponent.toNat * 2 ^ 52 + fraction.toNat) / 2 ^ 52 % 2 ^ 11 =
    exponent.toNat := by omega
  have hf : (negative.toNat * 2 ^ 63 + exponent.toNat * 2 ^ 52 + fraction.toNat) % 2 ^ 52 =
    fraction.toNat := by omega
  simp only [Decimal.magnitude, h.toNat_toBits, h52, h11, he, hf]

/-! ## Packing -/

theorem hasFields_packed {u : UnpackedFloat} : HasFields (packed u) negative exponent fraction ↔
    UnpackedFloat.pack .binary64 u = packComponents .binary64 (signOf negative) exponent fraction :=
  Iff.rfl

theorem pack_finite (hm : 0 < m) : UnpackedFloat.pack .binary64 (.finite s m e hm) =
    if 2048 ≤ (e + 1023 + 52).toNat + 1 then packedInfinity .binary64 s
    else if m.log2 + 1 = 53 then packComponents .binary64 s (.ofNat 11 (e + 1023 + 52).toNat) (.ofNat 52 m)
    else packComponents .binary64 s 0#11 (.ofNat 52 m) := rfl

theorem hasFields_packed_finite (hc : IsCanonical m e) (he : e ≤ 971) :
    HasFields (packed (.finite (signOf negative) m e hc.pos)) negative
      (if 2 ^ 52 ≤ m then .ofNat 11 (e + 1023 + 52).toNat else 0) (.ofNat 52 m) := by
  have hsmall : ¬ 2048 ≤ (e + 1023 + 52).toNat + 1 := by omega
  have hlog : m.log2 + 1 = 53 ↔ 2 ^ 52 ≤ m := by
    have h0 := hc.pos.ne'
    have hlt := (Nat.log2_lt h0).2 hc.lt
    rw [← Nat.le_log2 h0]
    omega
  rw [hasFields_packed, pack_finite, if_neg hsmall]
  simp only [hlog]
  split <;> rfl

theorem hasFields_packed_infinite (hc : IsCanonical m e) (he : 971 < e) :
    HasFields (packed (.finite (signOf negative) m e hc.pos)) negative (-1#11) 0 := by
  have hbig : 2048 ≤ (e + 1023 + 52).toNat + 1 := by omega
  rw [hasFields_packed, pack_finite, if_pos hbig]
  rfl

theorem hasFields_packed_infinity :
    HasFields (packed (.infinity (signOf negative))) negative (-1#11) 0 := rfl

theorem hasFields_packed_zero : HasFields (packed (.zero (signOf negative))) negative 0 0 := rfl

theorem isNegative_packed_finite (hc : IsCanonical m e) :
    isNegative (packed (.finite (signOf negative) m e hc.pos)) = negative := by
  by_cases he : e ≤ 971
  · exact (hasFields_packed_finite hc he).isNegative
  · exact (hasFields_packed_infinite hc (by omega)).isNegative

theorem magnitude_packed_finite (hc : IsCanonical m e) (he : e ≤ 971) :
    magnitude (packed (.finite (signOf negative) m e hc.pos)) = .finite m e := by
  have hm := hc.lt
  have hpos := hc.pos
  have hleast := hc.least
  rw [(hasFields_packed_finite hc he).magnitude]
  by_cases hn : 2 ^ 52 ≤ m
  · have hexp : (BitVec.ofNat 11 (e + 1023 + 52).toNat).toNat = (e + 1075).toNat := by
      rw [BitVec.toNat_ofNat]
      omega
    have hfrac : 2 ^ 52 + (BitVec.ofNat 52 m).toNat = m := by
      rw [BitVec.toNat_ofNat]
      omega
    rw [if_pos hn, hexp, hfrac, if_neg (by omega), if_neg (by omega), Int.toNat_of_nonneg (by omega),
      add_sub_cancel_right]
  · obtain rfl := hc.le.resolve_left hn
    have hfrac : (BitVec.ofNat 52 m).toNat = m := by
      rw [BitVec.toNat_ofNat]
      omega
    rw [if_neg hn, hfrac]
    simp [hpos.ne']

theorem magnitude_packed_infinite (hc : IsCanonical m e) (he : 971 < e) :
    magnitude (packed (.finite (signOf negative) m e hc.pos)) = .infinite :=
  (hasFields_packed_infinite hc he).magnitude

/-! ## Unpacking -/

theorem toNat_append_one (fraction : BitVec 52) : (1#1 ++ fraction).toNat = 2 ^ 52 + fraction.toNat := by
  rw [BitVec.toNat_append, ← Nat.shiftLeft_add_eq_or_of_lt fraction.isLt]
  rfl

/-- Whether these are the parts of a number with that sign and magnitude. -/
inductive IsPartsOf (negative : Bool) : Magnitude → UnpackedFloat → Prop
  | zero : IsPartsOf negative .zero (.zero (signOf negative))
  | finite {m : Nat} {e : ℤ} (hm : 0 < m) :
      IsPartsOf negative (.finite m e) (.finite (signOf negative) m e hm)
  | infinite : IsPartsOf negative .infinite (.infinity (signOf negative))
  | notANumber : IsPartsOf negative .notANumber .notANumber

theorem isPartsOf_unpacked (x : Float) : IsPartsOf (isNegative x) (magnitude x) (unpacked x) := by
  obtain ⟨negative, exponent, fraction, hx⟩ := exists_fields x
  have hbias : Format.binary64.exponentBias = 1023 := rfl
  have hu : unpacked x =
      UnpackedFloat.unpack .binary64 (packComponents .binary64 (signOf negative) exponent fraction) :=
    congrArg (UnpackedFloat.unpack .binary64) hx
  have h2047 : exponent.toNat = 2047 ↔ exponent = -1#11 := BitVec.toNat_inj (y := -1#11)
  have h0 : exponent.toNat = 0 ↔ exponent = 0#11 := BitVec.toNat_inj (y := 0#11)
  have hf : fraction.toNat = 0 ↔ fraction = 0#52 := BitVec.toNat_inj (y := 0#52)
  rw [hx.isNegative, hx.magnitude, hu]
  simp only [UnpackedFloat.unpack, hbias, unpackMantissa_packComponents, unpackExponent_packComponents,
    unpackSign_packComponents, Sign.ofBitVec_toBitVec, toNat_append_one, h2047, h0, hf]
  by_cases he : exponent = -1#11
  · rw [if_pos he, if_pos he]
    split <;> constructor
  · rw [if_neg he, if_neg he]
    by_cases hz : exponent = 0#11
    · rw [if_pos hz, if_pos hz]
      subst hz
      split <;> constructor
    · rw [if_neg hz, if_neg hz]
      constructor

/-- Packing gives back the number whose parts they are. -/
theorem IsPartsOf.packed {μ : Magnitude} {u : UnpackedFloat} (h : IsPartsOf negative μ u)
    (hμ : ∀ m e, μ = .finite m e → IsCanonical m e ∧ e ≤ 971) (hnan : μ ≠ .notANumber) :
    Decimal.magnitude (packed u) = μ ∧ isNegative (packed u) = negative := by
  cases h with
  | zero => exact ⟨hasFields_packed_zero.magnitude, hasFields_packed_zero.isNegative⟩
  | finite hm =>
      obtain ⟨hc, he⟩ := hμ _ _ rfl
      exact ⟨magnitude_packed_finite hc he, isNegative_packed_finite hc⟩
  | infinite => exact ⟨hasFields_packed_infinity.magnitude, hasFields_packed_infinity.isNegative⟩
  | notANumber => exact absurd rfl hnan

theorem IsPartsOf.neg {μ : Magnitude} {u : UnpackedFloat} (h : IsPartsOf negative μ u) :
    IsPartsOf (!negative) μ u.neg := by
  have hsign : -signOf negative = signOf !negative := by cases negative <;> rfl
  cases h <;> simp only [UnpackedFloat.neg, hsign] <;> constructor

/-! ## The opposite number -/

theorem magnitude_neg (h : magnitude x ≠ .notANumber) :
    magnitude (-x) = magnitude x ∧ isNegative (-x) = !isNegative x :=
  (isPartsOf_unpacked x).neg.packed (fun _ _ hm => isCanonical_of_magnitude hm) h

theorem neg_of_isFinite (h : isFinite x = true) :
    magnitude (-x) = magnitude x ∧ isNegative (-x) = !isNegative x :=
  magnitude_neg fun hm => by simp [isFinite, hm] at h

theorem isFinite_neg (h : isFinite x = true) : isFinite (-x) = true := by
  rwa [isFinite, (neg_of_isFinite h).1]

theorem value_neg (h : isFinite x = true) : value (-x) = -value x := by
  obtain ⟨hm, hs⟩ := neg_of_isFinite h
  rw [value, value, hm, hs]
  cases isNegative x <;> simp

theorem IsNearest.neg {q : ℚ} (h : IsNearest x q) : IsNearest (-x) (-q) := by
  have hdist (v : ℚ) : |v - -q| = |-v - q| := by rw [← abs_neg]; ring_nf
  have hx : |value (-x) - -q| = |value x - q| := by rw [hdist, value_neg h.finite, neg_neg]
  have hy {y : Float} (hy : isFinite y = true) : |value y - -q| = |value (-y) - q| := by
    rw [hdist, value_neg hy]
  refine ⟨isFinite_neg h.finite, fun y hf => ?_, fun y hf hne he => ?_⟩
  · rw [hx, hy hf]
    exact h.le _ (isFinite_neg hf)
  · rw [hx, hy hf] at he
    rw [value_neg h.finite] at hne
    have := h.even _ (isFinite_neg hf) (by rwa [value_neg hf, Ne, neg_eq_iff_eq_neg]) he
    intro m e hm
    exact this m e ((neg_of_isFinite h.finite).1 ▸ hm)

end Gamebook.Decimal
