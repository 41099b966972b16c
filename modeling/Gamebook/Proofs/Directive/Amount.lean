import Gamebook.Proofs.Decimal.Scientific
import Gamebook.Proofs.Directive.Around
import Gamebook.Proofs.Directive.ReadingOrder

/-!
# Written amounts

The amount of a token that adds or subtracts is the number nearest to what is written, unless that is
out of range.
-/

namespace Gamebook.Directive

open Text Piece Decimal

variable {t inner name amount : Text} {keyword : String} {make : String → Float → Assignment}

/-! ## What is written -/

/-- The number that digits and a point are written for: each digit counts by its place. -/
def writtenUnsigned (t : Text) : ℚ :=
  let (whole, r) := splitDigits t
  let fraction := r.drop 1
  ofDigits whole + ofDigits fraction / 10 ^ fraction.length

/-- The number that an amount is written for. -/
def written (t : Text) : ℚ :=
  let (negative, r) := splitSign t
  (if negative then -1 else 1) * writtenUnsigned r

example : written "-12.5".toList = -25 / 2 := by decide +kernel

/-! ## Literals -/

theorem ofDigits_append (ds fs : Text) :
    ofDigits (ds ++ fs) = 10 ^ fs.length * ofDigits ds + ofDigits fs := by
  have h (ds : Text) : ofDigits ds = Nat.ofDigitChars 10 ds 0 := rfl
  rw [h, h, h, Nat.ofDigitChars_append, Nat.ofDigitChars_eq_ofDigitChars_zero]

/-- Digits with a point between them are rounded to the number that they are written for. -/
theorem rounds_nearest_digits (ds fs : Text) : Rounds (nearest (ofDigits (ds ++ fs)) (0 - fs.length))
    (ofDigits ds + ofDigits fs / 10 ^ fs.length) := by
  have hq : (ofDigits (ds ++ fs) : ℚ) * 10 ^ (0 - fs.length : ℤ) =
      ofDigits ds + ofDigits fs / 10 ^ fs.length := by
    rw [ofDigits_append, zero_sub, zpow_neg, zpow_natCast]
    push_cast
    field_simp
  exact hq ▸ rounds_nearest _ _

theorem IsUnsigned.lower_ne (h : IsUnsigned t) {c : Char} (word : Text) (hc : c ∈ word)
    (hd : c.isDigit = false) (hp : c ≠ '.') : lower t ≠ word := by
  have hl : lower t = t := by
    refine (List.map_congr_left fun c hc => ?_).trans (List.map_id t)
    rcases h.forall_mem.2 c hc with hd | rfl
    · have : lower [c] = [c] := lower_digits (by simpa using hd)
      simpa [lower] using this
    · rfl
  rw [hl]
  rintro rfl
  rcases h.forall_mem.2 c hc with hc | hc
  · cases hd.symm.trans hc
  · exact hp hc

/-- An amount without its sign reads as the number that is nearest to it, or as an infinite one. -/
theorem unsigned?_of_isUnsigned (h : IsUnsigned t) :
    ∃ x, unsigned? t = some x ∧ Rounds x (writtenUnsigned t) := by
  have hinf : lower t ≠ ['i', 'n', 'f'] := h.lower_ne (c := 'i') _ (by simp) rfl (by decide)
  have hinfinity : lower t ≠ ['i', 'n', 'f', 'i', 'n', 'i', 't', 'y'] :=
    h.lower_ne (c := 'i') _ (by simp) rfl (by decide)
  have hnan : lower t ≠ "nan".toList := h.lower_ne (c := 'n') _ (by simp) rfl (by decide)
  have hb := isUnsigned_iff.2 h
  rw [unsigned?, if_neg (by simpa using ⟨hinf, hinfinity⟩), if_neg hnan, writtenUnsigned]
  rw [isUnsigned] at hb
  cases hs : splitDigits t with
  | mk whole r =>
      simp only [hs] at hb ⊢
      split at hb
      · have hne : ¬ (whole = [] ∧ ([] : Text) = []) := fun h => by simp [h.1] at hb
        exact ⟨_, if_neg hne, rounds_nearest_digits whole []⟩
      · next fs =>
          simp only [Bool.and_eq_true, Bool.or_eq_true, decide_eq_true_eq] at hb
          have hf : splitDigits fs = (fs, []) := by
            have := splitDigits_append (r := []) (List.all_eq_true.1 hb.1) (by simp)
            rwa [List.append_nil] at this
          have hne : ¬ (whole = [] ∧ fs = []) := fun h => hb.2.elim (· h.1) (· h.2)
          simp only [hf]
          exact ⟨_, if_neg hne, rounds_nearest_digits whole fs⟩
      · cases hb

/-- With its sign, an amount reads as the number nearest to it, and out of range as no finite one. -/
theorem literal?_of_isSigned (h : IsSigned t) : ∃ x, literal? t = some x ∧
    (InRange (written t) → IsNearest x (written t) ∧ isNegative x = (splitSign t).1) ∧
    (¬ InRange (written t) → isFinite x = false) := by
  have hb := isAmount_iff.2 h
  rw [isAmount_eq, isUnsigned_iff] at hb
  obtain ⟨x, hx, hr⟩ := unsigned?_of_isUnsigned hb
  cases hs : splitSign t with
  | mk negative r =>
      simp only [hs] at hx hr
      simp only [literal?, written, hs, hx, Option.map_some]
      cases negative with
      | false =>
          refine ⟨x, rfl, ?_⟩
          simp only [Bool.false_eq_true, if_false, one_mul]
          exact ⟨fun hin => ⟨hr.nearest hin, hr.positive⟩,
            fun hout => by rw [isFinite, hr.infinite hout]⟩
      | true =>
          have hrange : InRange (-1 * writtenUnsigned r) ↔ InRange (writtenUnsigned r) := by
            rw [InRange, InRange, neg_one_mul, abs_neg]
          refine ⟨-x, rfl, ?_⟩
          simp only [if_true, hrange]
          refine ⟨fun hin => ⟨?_, ?_⟩, fun hout => ?_⟩
          · rw [neg_one_mul]
            exact (hr.nearest hin).neg
          · rw [(neg_of_isFinite (hr.nearest hin).finite).2, hr.positive]
            rfl
          · have hi := hr.infinite hout
            rw [isFinite, (magnitude_neg (by simp [hi])).1, hi]

theorem finiteLiteral?_of_isSigned (h : IsSigned t) :
    (InRange (written t) → ∃ x, finiteLiteral? t = some x ∧ IsNearest x (written t) ∧
      isNegative x = (splitSign t).1) ∧
    (¬ InRange (written t) → finiteLiteral? t = none) := by
  obtain ⟨x, hx, hin, hout⟩ := literal?_of_isSigned h
  constructor
  · intro hr
    obtain ⟨hn, hs⟩ := hin hr
    exact ⟨x, by rw [finiteLiteral?, hx, Option.filter_some, if_pos hn.finite], hn, hs⟩
  · intro hr
    rw [finiteLiteral?, hx, Option.filter_some, hout hr]
    rfl

/-! ## Tokens -/

/-- The keywords of the tokens that change a variable by an amount, and the changes that they make. -/
inductive Changes : String → (String → Float → Assignment) → Prop
  | add : Changes "add:" .add
  | sub : Changes "sub:" .sub

/-- Whether the inside of a token is written with a keyword, a name and an amount, with spaces and tabs
between them. -/
def IsWrittenWith (keyword : String) (inner name amount : Text) : Prop :=
  ∃ before behind, Introduces keyword inner name ('=' :: (before ++ (amount ++ behind))) ∧
    (∀ c ∈ before, isGap c = true) ∧ IsSigned amount ∧ ∀ c ∈ behind, isGap c = true

theorem IsWrittenWith.changePattern
    (h : IsWrittenWith keyword inner name amount) :
    ChangePattern keyword make (token inner).source
      (make (String.ofList name) ((finiteLiteral? amount).getD 1)) := by
  obtain ⟨before, behind, hi, hb, ha, hb'⟩ := h
  exact .byAmount hi hb ha hb'

theorem IsWrittenWith.assignment? (hk : Changes keyword make)
    (h : IsWrittenWith keyword inner name amount) : inner.filter isMark = [] ∧
      assignment? inner = some (make (String.ofList name) ((finiteLiteral? amount).getD 1)) := by
  have hp : ChangePattern keyword make _ _ := h.changePattern
  have hread (read : Text → Option Assignment) (hr : read ∈ assignmentReaders)
      (ht : Find.IsTokenwise (ChangePattern keyword make) read) : inner.filter isMark = [] ∧
        Directive.assignment? inner = some (make (String.ofList name) ((finiteLiteral? amount).getD 1)) := by
    obtain ⟨i, hi, he, hsome⟩ := (ht _ _).1 hp
    obtain rfl : inner = i := by simpa [source_token] using he
    refine ⟨hi, Option.mem_toList.1 ?_⟩
    rw [← filterMap_assignmentReaders]
    exact List.mem_filterMap.2 ⟨read, hr, hsome⟩
  cases hk with
  | add => exact hread add? (by simp [assignmentReaders]) (isTokenwise_change (by decide) (by simp [isMark]))
  | sub => exact hread sub? (by simp [assignmentReaders]) (isTokenwise_change (by decide) (by simp [isMark]))

/-- Wherever a token stands that names an amount, it makes one change: by the number nearest to the
amount, with its sign, if that is in range, and otherwise by one. -/
theorem assignments_written_amount (hk : Changes keyword make)
    (h : IsWrittenWith keyword inner name amount) (s r : Text) :
    ∃ x, assignments (s ++ ((token inner).source ++ r)) =
        assignments s ++ make (String.ofList name) x :: assignments r ∧
      (InRange (written amount) → IsNearest x (written amount) ∧ isNegative x = (splitSign amount).1) ∧
      (¬ InRange (written amount) → x = 1) := by
  obtain ⟨hi, ha⟩ := h.assignment? hk
  obtain ⟨-, -, -, -, hs, -⟩ := h
  obtain ⟨hin, hout⟩ := finiteLiteral?_of_isSigned hs
  refine ⟨(finiteLiteral? amount).getD 1, ?_, fun hr => ?_, fun hr => by rw [hout hr]; rfl⟩
  · rw [assignments, Find.gather_append_token hi, filterMap_assignmentReaders, ha]
    rfl
  · obtain ⟨x, hx, hn⟩ := hin hr
    rw [hx]
    exact hn

theorem assignments_written_amount_tenth : ∃ x,
    assignments "Pay \x7bsub: coins = -.1 \x7d!".toList = [.sub "coins" x] ∧ IsNearest x (-1 / 10) ∧
      isNegative x = true := by
  have hi : Introduces "sub:" "sub: coins = -.1 ".toList "coins".toList "= -.1 ".toList :=
    ⟨"sub:".toList, [' '], [' '], by decide, by decide, by simp [isGap], by decide, by simp [isGap]⟩
  have hw : IsWrittenWith "sub:" "sub: coins = -.1 ".toList "coins".toList "-.1".toList :=
    ⟨[' '], [' '], hi, by simp [isGap], isAmount_iff.1 (by decide), by simp [isGap]⟩
  have hv : written "-.1".toList = -1 / 10 := by decide +kernel
  have hr : InRange (written "-.1".toList) := by
    rw [hv, InRange]
    decide +kernel
  have hs : assignments "Pay ".toList = [] := by decide +kernel
  have hb : assignments "!".toList = [] := by decide +kernel
  obtain ⟨x, ha, hin, -⟩ := assignments_written_amount .sub hw "Pay ".toList "!".toList
  obtain ⟨hn, hneg⟩ := hin hr
  rw [hs, hb, String.ofList_toList] at ha
  exact ⟨x, ha, hv ▸ hn, hneg⟩

/-- A power of ten above the largest finite number, written out. -/
def tooLarge : Text := '1' :: List.replicate 309 '0'

/-- A token whose amount is out of range is neither refused nor left in the text. -/
theorem assignments_too_large :
    IsSigned tooLarge ∧ ¬ InRange (written tooLarge) ∧
      assignments ("\x7badd:coins=".toList ++ (tooLarge ++ "\x7d".toList)) = [.add "coins" 1] ∧
      dropAssignments ("\x7badd:coins=".toList ++ (tooLarge ++ "\x7d".toList)) = [] := by
  refine ⟨isAmount_iff.1 (by decide +kernel), ?_, by decide +kernel, by decide +kernel⟩
  rw [InRange]
  decide +kernel

end Gamebook.Directive
