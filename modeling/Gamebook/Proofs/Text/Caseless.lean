import Gamebook.Proofs.Text.Trim
import Gamebook.Text.Caseless

/-!
# Words and their folded form

Two words are the same without regard to case when they fold to the same lower-case word. The long s
and the Kelvin sign fold to ASCII letters, so a word can fold to a keyword that it does not become
when ASCII letters alone are lowered.
-/

namespace Gamebook.Text

/-- The lower-case form of a character. -/
def foldLetter (c : Char) : Char :=
  if c = '\u017f' then 's' else if c = '\u212a' then 'k' else c.toLower

/-- The lower-case form of a text. -/
def fold (t : Text) : Text := t.map foldLetter

variable {k c : Char} {w t r : Text}

theorem foldLetter_mem_fold (h : c ∈ t) : foldLetter c ∈ fold t := List.mem_map_of_mem h

theorem sameLetter_iff (hk : foldLetter k = k) : sameLetter k c = true ↔ foldLetter c = k := by
  have hs : k ≠ '\u017f' := by rintro rfl; revert hk; decide
  have hK : k ≠ '\u212a' := by rintro rfl; revert hk; decide
  simp only [sameLetter, Bool.or_eq_true, Bool.and_eq_true, beq_iff_eq]
  by_cases h₁ : c = '\u017f'
  · subst h₁
    constructor
    · rintro ((h | ⟨h, -⟩) | ⟨-, h⟩)
      · exact absurd h.symm hs
      · exact h.symm
      · exact absurd h (by decide)
    · exact fun h => .inl (.inr ⟨h.symm, rfl⟩)
  · by_cases h₂ : c = '\u212a'
    · subst h₂
      constructor
      · rintro ((h | ⟨-, h⟩) | ⟨h, -⟩)
        · exact absurd h.symm hK
        · exact absurd h (by decide)
        · exact h.symm
      · exact fun h => .inr ⟨h.symm, rfl⟩
    · simp only [foldLetter, h₁, h₂, if_false, and_false, or_false]

/-- What is left behind a word is left behind a text that folds to it. -/
theorem afterWord?_eq_some_iff (hw : fold w = w) :
    afterWord? w t = some r ↔ ∃ x, t = x ++ r ∧ fold x = w := by
  induction w generalizing t with
  | nil =>
      simp only [afterWord?, Option.some.injEq, fold, List.map_eq_nil_iff]
      exact ⟨fun h => ⟨[], h, rfl⟩, fun ⟨x, h, hx⟩ => by simpa [hx] using h⟩
  | cons k ks ih =>
      obtain ⟨hk, hks⟩ := List.cons.inj hw
      cases t with
      | nil =>
          refine ⟨nofun, ?_⟩
          rintro ⟨x, h, hx⟩
          obtain ⟨rfl, -⟩ := List.append_eq_nil_iff.1 h.symm
          cases hx
      | cons c t =>
          by_cases hc : foldLetter c = k
          · rw [afterWord?, if_pos ((sameLetter_iff hk).2 hc), ih hks]
            constructor
            · rintro ⟨x, rfl, hx⟩
              exact ⟨c :: x, rfl, by rw [← hx, ← hc]; rfl⟩
            · rintro ⟨x, h, hx⟩
              cases x with
              | nil => cases hx
              | cons d x =>
                  obtain ⟨rfl, rfl⟩ := List.cons.inj h
                  exact ⟨x, rfl, (List.cons.inj hx).2⟩
          · rw [afterWord?, if_neg (hc ∘ (sameLetter_iff hk).1)]
            refine ⟨nofun, ?_⟩
            rintro ⟨x, h, hx⟩
            cases x with
            | nil => cases hx
            | cons d x =>
                obtain ⟨rfl, rfl⟩ := List.cons.inj h
                exact absurd (List.cons.inj hx).1 hc

theorem afterWord?_append (hw : fold w = w) (r : Text) : afterWord? w (w ++ r) = some r :=
  (afterWord?_eq_some_iff hw).2 ⟨w, rfl, hw⟩

theorem isWord_iff (hw : fold w = w) : isWord w t = true ↔ fold t = w := by
  rw [isWord, beq_iff_eq, afterWord?_eq_some_iff hw]
  constructor
  · rintro ⟨x, rfl, hx⟩
    rwa [List.append_nil]
  · exact fun h => ⟨t, (List.append_nil t).symm, h⟩

/-- A text with neither of the two characters that fold to ASCII letters folds as ASCII lowers it. -/
theorem fold_eq_lower (hs : '\u017f' ∉ t) (hK : '\u212a' ∉ t) : fold t = lower t := by
  refine List.map_congr_left fun c hc => ?_
  have h₁ : c ≠ '\u017f' := by rintro rfl; exact hs hc
  have h₂ : c ≠ '\u212a' := by rintro rfl; exact hK hc
  rw [foldLetter, if_neg h₁, if_neg h₂]

theorem toNat_toLower {c : Char} (h : c.isUpper = true) : c.toLower.toNat = c.toNat + 32 := by
  have hu : c.val ≥ 'A'.val ∧ c.val ≤ 'Z'.val := of_decide_eq_true h
  have hl : c.toLower.val = c.val + ('a'.val - 'A'.val) := congrArg Char.val (dif_pos hu)
  have hd : ('a'.val - 'A'.val).toNat = 32 := rfl
  have hc : c.val.toNat = c.toNat := rfl
  rw [isUpper_iff] at h
  rw [← Char.toNat_val, hl, UInt32.toNat_add, hd]
  omega

/-- Lowering leaves a character alone or makes a lower-case letter of an upper-case one. -/
theorem toLower_eq_self_or (c : Char) :
    c.toLower = c ∨ c.isUpper = true ∧ c.toLower.isLower = true := by
  by_cases h : c.isUpper = true
  · refine .inr ⟨h, ?_⟩
    rw [isLower_iff, toNat_toLower h]
    rw [isUpper_iff] at h
    omega
  · exact .inl (dif_neg fun hu => h (decide_eq_true hu))

theorem isAlpha_of_toLower (h : c.toLower.isLower = true) : c.isAlpha = true := by
  rcases toLower_eq_self_or c with hc | ⟨hu, -⟩
  · exact isAlpha_iff.2 (.inr (hc ▸ h))
  · exact isAlpha_iff.2 (.inl hu)

theorem eq_of_foldLetter (h : foldLetter c = k) (hk : k.isLower = false) : c = k := by
  unfold foldLetter at h
  split at h
  · subst h
    cases hk
  · split at h
    · subst h
      cases hk
    · subst h
      rcases toLower_eq_self_or c with h | ⟨-, h⟩
      · exact h.symm
      · cases h.symm.trans hk

theorem foldLetter_of_isBlank (h : isBlank c = true) : foldLetter c = c := by
  unfold foldLetter
  split
  · next hc =>
      subst hc
      cases h
  · split
    · next hc =>
        subst hc
        cases h
    · rcases toLower_eq_self_or c with hc | ⟨hc, -⟩
      · exact hc
      · cases h.symm.trans (not_isBlank_of_isAlpha (isAlpha_iff.2 (.inl hc)))

/-! ## Words of letters -/

theorem not_isBlank_of_fold (hw : ∀ c ∈ w, c.isLower = true) (h : fold t = w) :
    ∀ c ∈ t, isBlank c = false := by
  intro c hc
  have hl := hw _ (h ▸ foldLetter_mem_fold hc)
  refine Bool.eq_false_iff.2 fun hb => ?_
  rw [foldLetter_of_isBlank hb] at hl
  cases hb.symm.trans (not_isBlank_of_isAlpha (isAlpha_iff.2 (.inr hl)))

/-- What folds to letters without `k` and has no long s is the same when ASCII letters are lowered. -/
theorem lower_trim_of_fold (hw : ∀ c ∈ w, c.isLower = true ∧ c ≠ 'k') (h : fold t = w)
    (hs : '\u017f' ∉ t) : lower (trim t) = w := by
  have hK : '\u212a' ∉ t := fun hm => (hw _ (h ▸ foldLetter_mem_fold hm)).2 rfl
  rw [trim_eq_self (not_isBlank_of_fold (fun c hc => (hw c hc).1) h), ← fold_eq_lower hs hK, h]

/-- A long s is still there when ASCII letters are lowered. -/
theorem mem_lower_trim_of_fold (hw : ∀ c ∈ w, c.isLower = true) (h : fold t = w)
    (hs : '\u017f' ∈ t) : '\u017f' ∈ lower (trim t) := by
  rw [trim_eq_self (not_isBlank_of_fold hw h)]
  exact List.mem_map_of_mem (f := Char.toLower) hs

end Gamebook.Text
