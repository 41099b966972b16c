import Gamebook.Proofs.PageId.Tree
import Gamebook.Proofs.PageId.Written
import Gamebook.Proofs.Text.Caseless

/-!
# The spellings of page ids

A page id is spelled with one digit or more and then letters a to e in either case. It is read exactly
from its spellings, and its written form is each of them in lower case and without the zeros in front.
Every operation that puts an id together from a number and letters gives what reading these parts
gives, so none of them leads out of the ids.
-/

namespace Gamebook

open Text

/-! ## Digits -/

namespace Decimal

variable {ds : Text}

theorem digitValue_lt {c : Char} (h : c.isDigit = true) : c.toNat - '0'.toNat < 10 := by
  have hz : '0'.toNat = 48 := rfl
  rw [isDigit_iff] at h
  omega

theorem digitChar_value {c : Char} (h : c.isDigit = true) :
    Nat.digitChar (c.toNat - '0'.toNat) = c := by
  apply Char.toNat_inj.1
  rw [Nat.toNat_digitChar_of_lt_ten (digitValue_lt h)]
  have hz : '0'.toNat = 48 := rfl
  rw [isDigit_iff] at h
  omega

/-- What digits behind a positive number make is written with the digits of the number in front. -/
theorem digits_ofDigitChars {n : Nat} (hd : ∀ c ∈ ds, c.isDigit = true) (hn : 0 < n) :
    digits (Nat.ofDigitChars 10 ds n) = digits n ++ ds := by
  induction ds generalizing n with
  | nil => rw [Nat.ofDigitChars_nil, List.append_nil]
  | cons c ds ih =>
      obtain ⟨hc, hds⟩ := List.forall_mem_cons.1 hd
      have hv := digitValue_lt hc
      have hs : digits n ++ [c] = digits (10 * n + (c.toNat - '0'.toNat)) := by
        rw [digits, digits, ← Nat.toDigits_append_toDigits (by decide) hn hv,
          Nat.toDigits_of_lt_base hv, digitChar_value hc]
      rw [Nat.ofDigitChars_cons, ih hds (by omega), ← hs, List.append_assoc]
      rfl

/-- The digits of a positive number are those that it is read from without the zeros in front. -/
theorem digits_ofDigitChars_zero (hd : ∀ c ∈ ds, c.isDigit = true)
    (hn : 0 < Nat.ofDigitChars 10 ds 0) :
    digits (Nat.ofDigitChars 10 ds 0) = ds.dropWhile (· = '0') := by
  induction ds with
  | nil => cases hn
  | cons c ds ih =>
      obtain ⟨hc, hds⟩ := List.forall_mem_cons.1 hd
      by_cases h0 : c = '0'
      · subst h0
        have hv : Nat.ofDigitChars 10 ('0' :: ds) 0 = Nat.ofDigitChars 10 ds 0 := rfl
        rw [hv] at hn ⊢
        rw [ih hds hn, List.dropWhile_cons_of_pos (by decide)]
      · have hp : 0 < c.toNat - '0'.toNat := by
          have hz : '0'.toNat = 48 := rfl
          have hne : c.toNat ≠ 48 := fun he => h0 (Char.toNat_inj.1 he)
          rw [isDigit_iff] at hc
          omega
        rw [Nat.ofDigitChars_cons, Nat.mul_zero, Nat.zero_add, digits_ofDigitChars hds hp, digits,
          Nat.toDigits_of_lt_base (digitValue_lt hc), digitChar_value hc,
          List.dropWhile_cons_of_neg (by simpa using h0)]
        rfl

theorem eq_of_splitDigits {t ls : Text} (h : splitDigits t = (ds, ls)) :
    t = ds ++ ls ∧ ∀ c ∈ ds, c.isDigit = true := by
  cases h
  exact ⟨List.takeWhile_append_dropWhile.symm, fun c => List.all_eq_true.1 List.all_takeWhile c⟩

theorem lower_digits (hd : ∀ c ∈ ds, c.isDigit = true) : lower ds = ds := by
  refine (List.map_congr_left fun c hc => ?_).trans (List.map_id ds)
  have hc := hd c hc
  rcases toLower_eq_self_or c with h | ⟨h, -⟩
  · exact h
  · rw [isUpper_iff] at h
    rw [isDigit_iff] at hc
    omega

end Decimal

/-! ## Letters -/

namespace Letter

/-- The letters in either case. -/
def cased : List Char := ['a', 'b', 'c', 'd', 'e', 'A', 'B', 'C', 'D', 'E']

variable {ch : Char} {t : Text}

theorem mem_cased_iff : ch ∈ cased ↔ ∃ l : Letter, l.toChar = ch.toLower := by
  constructor
  · intro h
    simp only [cased, List.mem_cons, List.not_mem_nil, or_false] at h
    rcases h with rfl | rfl | rfl | rfl | rfl | rfl | rfl | rfl | rfl | rfl
    · exact ⟨.a, rfl⟩
    · exact ⟨.b, rfl⟩
    · exact ⟨.c, rfl⟩
    · exact ⟨.d, rfl⟩
    · exact ⟨.e, rfl⟩
    · exact ⟨.a, rfl⟩
    · exact ⟨.b, rfl⟩
    · exact ⟨.c, rfl⟩
    · exact ⟨.d, rfl⟩
    · exact ⟨.e, rfl⟩
  · rintro ⟨l, hl⟩
    rcases toLower_eq_self_or ch with h | ⟨h, -⟩
    · rw [← h, ← hl]
      cases l <;> simp [cased, toChar]
    · have hn := toNat_toLower h
      rw [← hl] at hn
      have hu {d : Char} (hd : d.toNat + 32 = l.toChar.toNat) : ch = d :=
        Char.toNat_inj.1 (by omega)
      cases l with
      | a => simp [cased, hu (d := 'A') rfl]
      | b => simp [cased, hu (d := 'B') rfl]
      | c => simp [cased, hu (d := 'C') rfl]
      | d => simp [cased, hu (d := 'D') rfl]
      | e => simp [cased, hu (d := 'E') rfl]

theorem isSome_ofChar?_iff : (ofChar? ch.toLower).isSome = true ↔ ch ∈ cased := by
  rw [mem_cased_iff, Option.isSome_iff_exists]
  constructor
  · rintro ⟨l, hl⟩
    exact ⟨l, toChar_of_ofChar? hl⟩
  · rintro ⟨l, hl⟩
    exact ⟨l, by rw [← hl, ofChar?_toChar]⟩

theorem isDigit_of_mem_cased (h : ch ∈ cased) : ch.isDigit = false := by
  simp only [cased, List.mem_cons, List.not_mem_nil, or_false] at h
  rcases h with rfl | rfl | rfl | rfl | rfl | rfl | rfl | rfl | rfl | rfl <;> rfl

theorem find?_isNone_eq_none_iff :
    (t.find? fun ch => (ofChar? ch.toLower).isNone) = none ↔ ∀ ch ∈ t, ch ∈ cased := by
  simp only [List.find?_eq_none, Bool.not_eq_true, Option.isNone_eq_false_iff, isSome_ofChar?_iff]

/-- Letters in either case are read as the letters that they are in lower case. -/
theorem map_toChar_filterMap (h : ∀ ch ∈ t, ch ∈ cased) :
    (t.filterMap fun ch => ofChar? ch.toLower).map toChar = lower t := by
  induction t with
  | nil => rfl
  | cons ch t ih =>
      obtain ⟨hc, ht⟩ := List.forall_mem_cons.1 h
      obtain ⟨l, hl⟩ := mem_cased_iff.1 hc
      rw [List.filterMap_cons, ← hl, ofChar?_toChar]
      dsimp only
      rw [List.map_cons, ih ht, hl]
      rfl

theorem lower_map_toChar (path : List Letter) : lower (path.map toChar) = path.map toChar := by
  simp [lower]

theorem toChar_injective {l m : Letter} (h : l.toChar = m.toChar) : l = m := by
  have hs : ofChar? l.toChar = ofChar? m.toChar := congrArg ofChar? h
  simpa using hs

end Letter

/-! ## Parts of ids -/

namespace PageId

variable {p q : PageId} {ds ls t : Text} {n : Nat}

theorem eq_of_number_pathText (hn : p.number = q.number) (ht : p.pathText = q.pathText) : p = q :=
  eq_of_number_path hn ((List.map_inj_right fun _ _ => Letter.toChar_injective).1 ht)

theorem mem_cased_of_lower_eq (h : p.pathText = lower t) : ∀ ch ∈ t, ch ∈ Letter.cased := by
  intro ch hc
  have hm : ch.toLower ∈ p.pathText := h ▸ List.mem_map_of_mem hc
  obtain ⟨l, -, hl⟩ := List.mem_map.1 hm
  exact Letter.mem_cased_iff.2 ⟨l, hl⟩

/-- An id is put together from its number and its letters in either case. -/
theorem ofParts_eq_ok_iff : ofParts n t = .ok p ↔ p.number = n ∧ p.pathText = lower t := by
  constructor
  · intro h
    rw [ofParts] at h
    split at h
    · cases h
    · split at h
      · cases h
      · next hf =>
        split at h
        · cases h
          exact ⟨rfl, Letter.map_toChar_filterMap (Letter.find?_isNone_eq_none_iff.1 hf)⟩
        · cases h
  · rintro ⟨rfl, ht⟩
    have hc := mem_cased_of_lower_eq ht
    have h0 : p.number ≠ 0 := Nat.pos_iff_ne_zero.1 p.one_le
    rw [ofParts, dif_neg h0, Letter.find?_isNone_eq_none_iff.2 hc]
    dsimp only
    rw [dif_pos p.le_max]
    congr 1
    exact eq_of_number_pathText rfl ((Letter.map_toChar_filterMap hc).trans ht.symm)

theorem exists_parts_iff :
    (∃ p : PageId, p.number = n ∧ p.pathText = lower t) ↔
      1 ≤ n ∧ n ≤ maxPageNumber ∧ ∀ ch ∈ t, ch ∈ Letter.cased := by
  constructor
  · rintro ⟨p, rfl, ht⟩
    exact ⟨p.one_le, p.le_max, mem_cased_of_lower_eq ht⟩
  · rintro ⟨h1, hm, hc⟩
    let path := t.filterMap fun ch => Letter.ofChar? ch.toLower
    exact ⟨⟨n, path, h1, hm⟩, rfl, Letter.map_toChar_filterMap hc⟩

/-! ## Spellings -/

/-- Whether digits and letters have the shape of a page id, whatever number the digits make. -/
structure Shaped (ds ls : Text) : Prop where
  ne_nil : ds ≠ []
  digits : ∀ ch ∈ ds, ch.isDigit = true
  letters : ∀ ch ∈ ls, ch ∈ Letter.cased

/-- Whether a text spells an id: digits that make its number, and its letters in either case. -/
def Spells (t : Text) (p : PageId) : Prop :=
  ∃ ds ls, t = ds ++ ls ∧ Shaped ds ls ∧ Nat.ofDigitChars 10 ds 0 = p.number ∧
    p.pathText = lower ls

theorem Shaped.splitDigits_append (h : Shaped ds ls) {r : Text}
    (hr : ∀ ch, r.head? = some ch → ch.isDigit = false) :
    Decimal.splitDigits (ds ++ (ls ++ r)) = (ds, ls ++ r) := by
  refine Decimal.splitDigits_append h.digits fun ch hc => ?_
  cases ls with
  | nil => exact hr ch hc
  | cons l ls =>
      obtain rfl : l = ch := by simpa using hc
      exact Letter.isDigit_of_mem_cased (h.letters l (by simp))

theorem Shaped.splitDigits (h : Shaped ds ls) : Decimal.splitDigits (ds ++ ls) = (ds, ls) := by
  simpa using h.splitDigits_append (r := []) (by simp)

theorem all_isSome_iff : (ls.all fun ch => (Letter.ofChar? ch.toLower).isSome) = true ↔
    ∀ ch ∈ ls, ch ∈ Letter.cased := by
  simp only [List.all_eq_true, Letter.isSome_ofChar?_iff]

/-- An id is read from the texts that spell it. -/
theorem parse_eq_ok_iff {raw : String} : parse raw = .ok p ↔ Spells raw.toList p := by
  constructor
  · intro h
    cases hsplit : Decimal.splitDigits raw.toList with
    | mk ds ls =>
        obtain ⟨hraw, hd⟩ := Decimal.eq_of_splitDigits hsplit
        rw [parse, hsplit] at h
        dsimp only at h
        split at h
        · cases h
        · next hs =>
          rw [not_or, Decidable.not_not, all_isSome_iff] at hs
          split at h
          · cases h
          · obtain ⟨hn, ht⟩ := ofParts_eq_ok_iff.1 h
            exact ⟨ds, ls, hraw, ⟨hs.1, hd, hs.2⟩, hn.symm, ht⟩
  · rintro ⟨ds, ls, hraw, hs, hn, ht⟩
    have hv : Decimal.ofDigits ds = p.number := hn
    simp only [parse, hraw, hs.splitDigits, hs.ne_nil, all_isSome_iff.2 hs.letters, hv, not_true_eq_false,
      or_self, ↓reduceIte, if_neg (Nat.not_lt.2 p.le_max)]
    exact ofParts_eq_ok_iff.2 ⟨rfl, ht⟩

theorem parse?_eq_some_iff {raw : String} : parse? raw = some p ↔ Spells raw.toList p := by
  rw [← parse_eq_ok_iff, parse?]
  cases parse raw with
  | error e => exact iff_of_false (Option.some_ne_none p).symm fun h => by cases h
  | ok q => simp [Except.toOption]

theorem toList_toString (p : PageId) : (toString p).toList = p.toText := String.toList_ofList

theorem spells_toText (p : PageId) : Spells p.toText p :=
  p.toList_toString ▸ parse_eq_ok_iff.1 p.parse_toString

theorem exists_spells_iff : (∃ p, Spells t p) ↔ ∃ ds ls, t = ds ++ ls ∧ Shaped ds ls ∧
    1 ≤ Nat.ofDigitChars 10 ds 0 ∧ Nat.ofDigitChars 10 ds 0 ≤ maxPageNumber := by
  constructor
  · rintro ⟨p, ds, ls, ht, hs, hn, -⟩
    exact ⟨ds, ls, ht, hs, hn ▸ p.one_le, hn ▸ p.le_max⟩
  · rintro ⟨ds, ls, ht, hs, h1, hm⟩
    obtain ⟨p, hn, hp⟩ := exists_parts_iff.2 ⟨h1, hm, hs.letters⟩
    exact ⟨p, ds, ls, ht, hs, hn.symm, hp⟩

/-- What has the shape of an id is one if its digits make a number in range. -/
theorem Shaped.exists_spells_iff (h : Shaped ds ls) : (∃ p, Spells (ds ++ ls) p) ↔
    1 ≤ Nat.ofDigitChars 10 ds 0 ∧ Nat.ofDigitChars 10 ds 0 ≤ maxPageNumber := by
  rw [PageId.exists_spells_iff]
  constructor
  · rintro ⟨ds', ls', ht, h', hv⟩
    have hsplit := h.splitDigits
    rw [ht, h'.splitDigits] at hsplit
    obtain ⟨rfl, -⟩ := Prod.mk.inj hsplit
    exact hv
  · exact fun hv => ⟨ds, ls, rfl, h, hv⟩

/-- An id is written as each of its spellings is in lower case and without the zeros in front. -/
theorem Spells.toText (h : Spells t p) : p.toText = (lower t).dropWhile (· = '0') := by
  obtain ⟨ds, ls, rfl, hs, hn, hp⟩ := h
  have hd : Decimal.digits p.number = ds.dropWhile (· = '0') := by
    have h1 : 0 < Nat.ofDigitChars 10 ds 0 := hn ▸ p.one_le
    rw [← hn, Decimal.digits_ofDigitChars_zero hs.digits h1]
  have hne : (ds.dropWhile (· = '0')).isEmpty = false :=
    List.isEmpty_eq_false_iff.2 (hd ▸ Decimal.digits_ne_nil _)
  have hl : lower (ds ++ ls) = ds ++ p.pathText := by
    rw [lower, List.map_append, hp]
    exact congrArg (· ++ lower ls) (Decimal.lower_digits hs.digits)
  rw [PageId.toText, hd, hl, List.dropWhile_append, hne]
  rfl

/-! ## Operations on ids -/

theorem lower_pathText (p : PageId) : lower p.pathText = p.pathText :=
  Letter.lower_map_toChar p.path

theorem childAt?_eq_some_iff {ch : Char} : p.childAt? ch = some q ↔
    ofParts (min (p.number + 1) maxPageNumber) (p.pathText ++ [ch]) = .ok q := by
  have hl : lower (p.pathText ++ [ch]) = p.pathText ++ [ch.toLower] := by
    rw [lower, List.map_append]
    exact congrArg (· ++ [ch.toLower]) p.lower_pathText
  have hc (l : Letter) : (p.child l).pathText = p.pathText ++ [l.toChar] := List.map_append
  rw [ofParts_eq_ok_iff, hl, childAt?, Option.map_eq_some_iff]
  constructor
  · rintro ⟨l, hs, rfl⟩
    exact ⟨rfl, by rw [hc, Letter.toChar_of_ofChar? hs]⟩
  · rintro ⟨hn, hp⟩
    have hm : ch.toLower ∈ q.pathText := by simp [hp]
    obtain ⟨l, -, hs⟩ := List.mem_map.1 hm
    refine ⟨l, by rw [← hs, Letter.ofChar?_toChar], ?_⟩
    exact eq_of_number_pathText hn.symm (by rw [hc, hp, hs])

theorem continuation_eq_iff : p.continuation = q ↔
    ofParts (min (p.number + 1) maxPageNumber) p.pathText = .ok q := by
  rw [ofParts_eq_ok_iff, lower_pathText]
  constructor
  · rintro rfl
    exact ⟨rfl, rfl⟩
  · rintro ⟨hn, hp⟩
    exact eq_of_number_pathText hn.symm hp.symm

theorem parent?_eq_some_iff : p.parent? = some q ↔
    ofParts (p.number - 1) p.pathText.dropLast = .ok q := by
  have hl : lower p.pathText.dropLast = p.path.dropLast.map Letter.toChar := by
    rw [pathText, ← List.map_dropLast, Letter.lower_map_toChar]
  rw [ofParts_eq_ok_iff, hl, parent?]
  by_cases h1 : p.number ≤ 1
  · rw [dif_pos h1]
    refine iff_of_false (Option.some_ne_none q).symm fun h => ?_
    have hn := h.1
    have hq := q.one_le
    omega
  · rw [dif_neg h1, Option.some.injEq]
    constructor
    · rintro rfl
      exact ⟨rfl, rfl⟩
    · rintro ⟨hn, hp⟩
      exact eq_of_number_pathText hn.symm hp.symm

/-- The letters behind others are the text behind their text. -/
theorem map_toChar_pathBehind (front path : List Letter) :
    (pathBehind front path).map Letter.toChar =
      (after? (front.map Letter.toChar) (path.map Letter.toChar)).getD (path.map Letter.toChar) := by
  by_cases h : front <+: path
  · obtain ⟨w, rfl⟩ := h
    rw [List.map_append, after?_append, pathBehind,
      if_pos (List.isPrefixOf_iff_prefix.2 (List.prefix_append ..)), List.drop_left]
    rfl
  · have hn : after? (front.map Letter.toChar) (path.map Letter.toChar) = none := by
      refine Option.eq_none_iff_forall_ne_some.2 fun r hr => h ?_
      obtain ⟨v, w, rfl, hv, -⟩ := List.map_eq_append_iff.1 (after?_eq_some hr)
      rw [← (List.map_inj_right fun _ _ => Letter.toChar_injective).1 hv]
      exact List.prefix_append ..
    rw [hn, pathBehind, if_neg fun hp => h (List.isPrefixOf_iff_prefix.1 hp)]
    rfl

theorem relocate?_eq_some_iff_parts {source target : PageId} :
    source.relocate? target p = some q ↔
      ∃ n : Nat, (n : Int) = p.number - source.number + target.number ∧
        ofParts n (target.pathText ++ (after? source.pathText p.pathText).getD p.pathText) = .ok q := by
  have hl : lower (target.pathText ++ (after? source.pathText p.pathText).getD p.pathText) =
      (target.path ++ pathBehind source.path p.path).map Letter.toChar := by
    rw [pathText, pathText, pathText, ← map_toChar_pathBehind, ← List.map_append,
      Letter.lower_map_toChar]
  have h1 := q.one_le
  have hm := q.le_max
  simp only [ofParts_eq_ok_iff, hl]
  rw [relocate?]
  constructor
  · intro h
    split at h
    · next hr =>
      obtain rfl := Option.some.inj h
      exact ⟨_, Int.toNat_of_nonneg (by omega), rfl, rfl⟩
    · cases h
  · rintro ⟨n, hn, rfl, hp⟩
    rw [dif_pos (by omega), Option.some.injEq]
    refine eq_of_number_pathText ?_ hp.symm
    change Int.toNat _ = q.number
    omega

/-! ## Ids and their spellings -/

/-- Ids and texts correspond as follows. A text is read exactly if it is digits and letters a to e in
either case that make a number from 1 on in 64 bits, and the id that is read is written as the text in
lower case without the zeros in front. Each id has such a number and lower-case letters, is read from its
written form, and shares it with no other. A number and letters make an id under the same conditions, and
child, continuation, parent and relocation give the id that their number and letters make, if any. -/
theorem read_exactly_from_spellings :
    (∀ raw, (∃ p, parse raw = .ok p) ↔ ∃ ds ls, raw.toList = ds ++ ls ∧ Shaped ds ls ∧
      1 ≤ Nat.ofDigitChars 10 ds 0 ∧ Nat.ofDigitChars 10 ds 0 ≤ maxPageNumber) ∧
    (∀ raw p, parse raw = .ok p →
      (toString p).toList = (lower raw.toList).dropWhile (· = '0')) ∧
    (∀ p, 1 ≤ number p ∧ p.number ≤ maxPageNumber ∧
      (∀ ch ∈ p.pathText, ch ∈ ['a', 'b', 'c', 'd', 'e']) ∧ parse (toString p) = .ok p) ∧
    (∀ p q : PageId, toString p = toString q → p = q) ∧
    (∀ n t, (∃ p, ofParts n t = .ok p) ↔
      1 ≤ n ∧ n ≤ maxPageNumber ∧ ∀ ch ∈ t, ch ∈ Letter.cased) ∧
    (∀ n t p, ofParts n t = .ok p → p.number = n ∧ p.pathText = lower t) ∧
    (∀ p ch q, childAt? p ch = some q ↔
      ofParts (min (p.number + 1) maxPageNumber) (p.pathText ++ [ch]) = .ok q) ∧
    (∀ p q, continuation p = q ↔ ofParts (min (p.number + 1) maxPageNumber) p.pathText = .ok q) ∧
    (∀ p q, parent? p = some q ↔ ofParts (p.number - 1) p.pathText.dropLast = .ok q) ∧
    ∀ source target p q, relocate? source target p = some q ↔
      ∃ n : Nat, (n : Int) = p.number - source.number + target.number ∧
        ofParts n (target.pathText ++ (after? source.pathText p.pathText).getD p.pathText) = .ok q := by
  refine ⟨fun raw => ?_, fun raw p h => ?_, fun p => ?_, fun p q h => ?_, fun n t => ?_,
    fun n t p => ofParts_eq_ok_iff.1, fun p ch q => childAt?_eq_some_iff,
    fun p q => continuation_eq_iff, fun p q => parent?_eq_some_iff,
    fun source target p q => relocate?_eq_some_iff_parts⟩
  · simp only [parse_eq_ok_iff]
    exact exists_spells_iff
  · rw [toList_toString]
    exact (parse_eq_ok_iff.1 h).toText
  · refine ⟨p.one_le, p.le_max, fun ch hc => ?_, p.parse_toString⟩
    obtain ⟨l, -, rfl⟩ := List.mem_map.1 hc
    cases l <;> simp [Letter.toChar]
  · have hp := p.parse_toString
    rw [h, q.parse_toString] at hp
    exact (Except.ok.inj hp).symm
  · simp only [ofParts_eq_ok_iff]
    exact exists_parts_iff

end PageId
end Gamebook
