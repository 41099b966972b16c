import Gamebook.Proofs.Json.RoundTrip
import Gamebook.Proofs.PageId.Written

/-!
# Natural numbers of a data file

A natural number of 64 bits reads back from its written form. Where a number of some bits is due it
is one that fits in them.
-/

namespace Gamebook

namespace Decimal

/-- Only zero is written with a zero in front. -/
theorem digits_head? (n : Nat) (h : (digits n).head? = some '0') : digits n = ['0'] := by
  induction n using Nat.strongRecOn with
  | ind n ih =>
      by_cases hn : n < 10
      · rw [digits, Nat.toDigits_of_lt_base hn] at h ⊢
        simp only [List.head?_cons, Option.some.injEq] at h
        rw [h]
      · have hd : digits n = digits (n / 10) ++ [(n % 10).digitChar] :=
          Nat.toDigits_of_base_le (by decide) (by omega)
        have hz : (digits (n / 10)).head? = some '0' := by
          rw [hd] at h
          cases hq : digits (n / 10) with
          | nil => exact absurd hq (digits_ne_nil _)
          | cons c ds =>
              rw [hq] at h
              exact h
        have h₀ := ofDigits_digits (n / 10)
        rw [ih (n / 10) (by omega) hz] at h₀
        have : n / 10 = 0 := h₀.symm
        omega

end Decimal

namespace Json

theorem le_foldl_digits (m : Nat) (ds : Text) :
    m ≤ ds.foldl (fun n d => 10 * n + (d.toNat - '0'.toNat)) m := by
  induction ds generalizing m with
  | nil => exact Nat.le_refl m
  | cons d ds ih => exact Nat.le_trans (by simp only; omega) (ih _)

theorem significand_eq (m : Nat) (ds : Text)
    (h : ds.foldl (fun n d => 10 * n + (d.toNat - '0'.toNat)) m < Nat.pow 2 64) :
    significand m ds = (ds.foldl (fun n d => 10 * n + (d.toNat - '0'.toNat)) m, []) := by
  induction ds generalizing m with
  | nil => rfl
  | cons d ds ih =>
      rw [List.foldl_cons] at h ⊢
      have hm := Nat.lt_of_le_of_lt (le_foldl_digits _ ds) h
      simp only [significand, if_pos hm]
      exact ih _ h

theorem readsBack_whole {n : Nat} (h : n < Nat.pow 2 64) : (Number.whole n).ReadsBack := by
  have hw : (Number.whole n).write = Decimal.digits n := by simp [Number.write]
  have hs : Decimal.splitDigits (Decimal.digits n) = (Decimal.digits n, []) := by
    have := Decimal.splitDigits_append (r := []) (Decimal.digits_all n) nofun
    rwa [List.append_nil] at this
  have hz : ¬ (Decimal.digits n = [] ∨
      (Decimal.digits n).head? = some '0' ∧ Decimal.digits n ≠ ['0']) := by
    rintro (h | ⟨h, hn⟩)
    · exact Decimal.digits_ne_nil n h
    · exact hn (Decimal.digits_head? n h)
  have hv : significand 0 (Decimal.digits n) = (n, []) := by
    have hd : Decimal.ofDigits (Decimal.digits n) = n := Decimal.ofDigits_digits n
    rw [Decimal.ofDigits] at hd
    rw [significand_eq 0 _ (by rw [hd]; exact h), hd]
  have hu : ofUnsigned? false (Decimal.digits n) = some (.number (.whole n)) := by
    simp only [ofUnsigned?, hs, if_neg hz, splitFraction, numberOfParts, hv]
    simp
  rw [Number.ReadsBack, hw]
  unfold ofLexeme?
  split
  · next r hr =>
    have := Decimal.digits_all n '-' (hr ▸ List.mem_cons_self ..)
    cases this
  · exact hu

theorem natOfBits?_nat {bits n : Nat} (h : n < Nat.pow 2 bits) :
    (nat n).natOfBits? bits = some n := by
  have hn : (0 : Int) ≤ n ∧ (n : Int) < Nat.pow 2 bits := ⟨by omega, by exact_mod_cast h⟩
  simp only [nat, natOfBits?]
  rw [if_pos hn]
  rfl

theorem natOfBits?_lt {bits n : Nat} {v : Json} (h : v.natOfBits? bits = some n) :
    n < Nat.pow 2 bits := by
  unfold natOfBits? at h
  split at h
  · split at h
    · next hn =>
      cases h
      omega
    · cases h
  · cases h

end Json
end Gamebook
