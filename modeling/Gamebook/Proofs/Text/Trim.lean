import Gamebook.Text.Basic
import Mathlib.Data.List.DropRight

/-!
# Dropping ends

What is dropped at the end of a text depends on the end alone, so a text is trimmed from either side
first.
-/

namespace Gamebook.Text

variable {p : Char → Bool}

theorem dropEndWhile_cons (p : Char → Bool) (c : Char) (t : Text) :
    dropEndWhile p (c :: t) =
      if dropEndWhile p t = [] then (if p c then [] else [c]) else c :: dropEndWhile p t := by
  simp only [dropEndWhile, List.reverse_cons, List.dropWhile_append, List.isEmpty_iff,
    List.reverse_eq_nil_iff]
  split
  · next h => by_cases hc : p c <;> simp [hc]
  · simp

theorem dropEndWhile_eq_nil {t : Text} (h : ∀ c ∈ t, p c = true) : dropEndWhile p t = [] := by
  induction t with
  | nil => rfl
  | cons c t ih =>
      rw [dropEndWhile_cons, ih fun d hd => h d (by simp [hd]), if_pos rfl, if_pos (h c (by simp))]

theorem dropWhile_eq_nil {t : Text} (h : ∀ c ∈ t, p c = true) : t.dropWhile p = [] := by
  induction t with
  | nil => rfl
  | cons c t ih =>
      obtain ⟨hc, ht⟩ := List.forall_mem_cons.1 h
      rw [List.dropWhile_cons_of_pos hc, ih ht]

theorem dropWhile_dropEndWhile (p : Char → Bool) (t : Text) :
    (dropEndWhile p t).dropWhile p = dropEndWhile p (t.dropWhile p) := by
  induction t with
  | nil => rfl
  | cons c t ih =>
      by_cases hc : p c = true
      · rw [List.dropWhile_cons_of_pos hc, ← ih, dropEndWhile_cons]
        by_cases ht : dropEndWhile p t = []
        · simp [ht, hc]
        · simp [ht, hc]
      · rw [List.dropWhile_cons_of_neg hc, dropEndWhile_cons]
        by_cases ht : dropEndWhile p t = []
        · simp [ht, hc]
        · simp [ht, hc]

/-- What is trimmed is known from the text without the blanks at its end. -/
theorem trim_eq (t : Text) : trim t = (dropEndWhile isBlank t).dropWhile isBlank :=
  (dropWhile_dropEndWhile isBlank t).symm

theorem trim_trim (t : Text) : trim (trim t) = trim t := by
  have hd (s : Text) : dropEndWhile isBlank (dropEndWhile isBlank s) = dropEndWhile isBlank s :=
    List.rdropWhile_idempotent isBlank s
  rw [trim, trim, dropWhile_dropEndWhile, List.dropWhile_idempotent, hd]

theorem trim_congr {s t : Text} (h : dropEndWhile isBlank s = dropEndWhile isBlank t) :
    trim s = trim t := by
  rw [trim_eq, trim_eq, h]

/-- What is dropped at the end of a text are characters to drop. -/
theorem dropEndWhile_append_eq (p : Char → Bool) (t : Text) :
    ∃ dropped : Text, t = dropEndWhile p t ++ dropped ∧ ∀ c ∈ dropped, p c = true := by
  refine ⟨(t.reverse.takeWhile p).reverse, ?_, fun c hc => ?_⟩
  · rw [dropEndWhile, ← List.reverse_append, List.takeWhile_append_dropWhile, List.reverse_reverse]
  · exact List.all_eq_true.1 List.all_takeWhile c (List.mem_reverse.1 hc)

theorem dropEndWhile_append_cons {c : Char} (hc : p c = false) (s t : Text) :
    dropEndWhile p (s ++ c :: t) = s ++ c :: dropEndWhile p t := by
  induction s with
  | nil =>
      rw [List.nil_append, dropEndWhile_cons, hc]
      split
      · next h => rw [h]; rfl
      · rfl
  | cons d s ih =>
      rw [List.cons_append, dropEndWhile_cons, ih, if_neg (by simp)]
      rfl

theorem isBlank_of_isGap {c : Char} (h : isGap c = true) : isBlank c = true := by
  simp only [isGap, Bool.or_eq_true, beq_iff_eq] at h
  rcases h with rfl | rfl <;> rfl

theorem length_dropEndWhile_le (p : Char → Bool) (t : Text) :
    (dropEndWhile p t).length ≤ t.length := by
  obtain ⟨dropped, ht, -⟩ := dropEndWhile_append_eq p t
  have hl := congrArg List.length ht
  rw [List.length_append] at hl
  omega

theorem length_trim_le (t : Text) : (trim t).length ≤ t.length :=
  Nat.le_trans (length_dropEndWhile_le _ _) (List.dropWhile_suffix _).length_le

theorem mem_of_mem_trim {t : Text} {x : Char} (h : x ∈ trim t) : x ∈ t := by
  have hd := List.mem_reverse.1 ((List.dropWhile_suffix _).mem (List.mem_reverse.1 h))
  exact (List.dropWhile_suffix _).mem hd

/-- The spaces and tabs in front are trimmed anyway. -/
theorem trim_skipGap (t : Text) : trim (skipGap t) = trim t := by
  have hb : ∀ c ∈ t.takeWhile isGap, isBlank c = true :=
    fun c hc => isBlank_of_isGap (List.all_eq_true.1 List.all_takeWhile c hc)
  have ht : (t.takeWhile isGap ++ skipGap t).dropWhile isBlank = (skipGap t).dropWhile isBlank :=
    List.dropWhile_append_of_pos hb
  rw [skipGap, List.takeWhile_append_dropWhile] at ht
  rw [trim, trim, skipGap, ht]

theorem skipGap_of_trimmed {t : Text} (h : trim t = t) : skipGap t = t := by
  cases t with
  | nil => rfl
  | cons c t =>
      by_cases hg : isGap c = true
      · have hl : (trim (c :: t)).length ≤ t.length := by
          rw [trim, List.dropWhile_cons_of_pos (isBlank_of_isGap hg)]
          exact length_trim_le t
        rw [h, List.length_cons] at hl
        omega
      · exact List.dropWhile_cons_of_neg hg

/-! ## Letters -/

theorem isUpper_iff {c : Char} : c.isUpper = true ↔ 65 ≤ c.toNat ∧ c.toNat ≤ 90 := by
  have h : c.isUpper = decide (c.val ≥ 'A'.val ∧ c.val ≤ 'Z'.val) := rfl
  rw [h, decide_eq_true_eq, ge_iff_le, UInt32.le_iff_toNat_le, UInt32.le_iff_toNat_le]
  rfl

theorem isLower_iff {c : Char} : c.isLower = true ↔ 97 ≤ c.toNat ∧ c.toNat ≤ 122 := by
  have h : c.isLower = (decide (c.val ≥ 'a'.val) && decide (c.val ≤ 'z'.val)) := rfl
  rw [h, Bool.and_eq_true, decide_eq_true_eq, decide_eq_true_eq, ge_iff_le,
    UInt32.le_iff_toNat_le, UInt32.le_iff_toNat_le]
  rfl

theorem isAlpha_iff {c : Char} : c.isAlpha = true ↔ c.isUpper = true ∨ c.isLower = true := by
  have h : c.isAlpha = (c.isUpper || c.isLower) := rfl
  rw [h, Bool.or_eq_true]

theorem not_isBlank_of_isAlpha {c : Char} (h : c.isAlpha = true) : isBlank c = false := by
  rw [isAlpha_iff, isUpper_iff, isLower_iff] at h
  simp only [isBlank, Bool.or_eq_false_iff, Bool.and_eq_false_iff, decide_eq_false_iff_not,
    beq_eq_false_iff_ne]
  omega

theorem isDigit_iff {c : Char} : c.isDigit = true ↔ 48 ≤ c.toNat ∧ c.toNat ≤ 57 := by
  have h : c.isDigit = (decide (c.val ≥ '0'.val) && decide (c.val ≤ '9'.val)) := rfl
  rw [h, Bool.and_eq_true, decide_eq_true_eq, decide_eq_true_eq, ge_iff_le,
    UInt32.le_iff_toNat_le, UInt32.le_iff_toNat_le]
  rfl

theorem not_isBlank_of_isAlphanum {c : Char} (h : c.isAlphanum = true) : isBlank c = false := by
  rcases Bool.or_eq_true_iff.1 h with ha | hd
  · exact not_isBlank_of_isAlpha ha
  · rw [isDigit_iff] at hd
    simp only [isBlank, Bool.or_eq_false_iff, Bool.and_eq_false_iff, decide_eq_false_iff_not,
      beq_eq_false_iff_ne]
    omega

/-! ## Nothing to drop -/

theorem dropEndWhile_eq_self {t : Text} (h : ∀ c ∈ t, p c = false) : dropEndWhile p t = t := by
  obtain ⟨dropped, ht, hp⟩ := dropEndWhile_append_eq p t
  cases dropped with
  | nil => rw [List.append_nil] at ht; exact ht.symm
  | cons c cs =>
      have hc := h c (by rw [ht]; simp)
      cases hc.symm.trans (hp c (by simp))

theorem trim_eq_self {t : Text} (h : ∀ c ∈ t, isBlank c = false) : trim t = t := by
  have hd : t.dropWhile isBlank = t := by
    cases t with
    | nil => rfl
    | cons c t => exact List.dropWhile_cons_of_neg (by simp [h c])
  rw [trim, hd, dropEndWhile_eq_self h]

end Gamebook.Text
