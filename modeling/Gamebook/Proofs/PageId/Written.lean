import Gamebook.Page.Json

/-!
# The written form of a page id

A page id is read from its written form.
-/

namespace Gamebook

namespace Decimal

theorem digits_all (n : Nat) : ∀ c ∈ digits n, c.isDigit = true :=
  fun _ hc => Nat.isDigit_of_mem_toDigits (by decide) (by decide) hc

theorem digits_ne_nil (n : Nat) : digits n ≠ [] := Nat.toDigits_ne_nil

@[simp] theorem ofDigits_digits (n : Nat) : ofDigits (digits n) = n := by
  have h : ofDigits (digits n) = Nat.ofDigitChars 10 (Nat.toDigits 10 n) 0 := rfl
  rw [h, Nat.ofDigitChars_ten_toDigits]

theorem splitDigits_append {ds r : Text} (hd : ∀ c ∈ ds, c.isDigit = true)
    (hr : ∀ c, r.head? = some c → c.isDigit = false) : splitDigits (ds ++ r) = (ds, r) := by
  have ht : r.takeWhile Char.isDigit = [] ∧ r.dropWhile Char.isDigit = r := by
    cases r with
    | nil => exact ⟨rfl, rfl⟩
    | cons c r => simp [hr c rfl]
  rw [splitDigits, List.takeWhile_append_of_pos hd, List.dropWhile_append_of_pos hd, ht.1, ht.2,
    List.append_nil]

end Decimal

namespace Letter

@[simp] theorem toLower_toChar (l : Letter) : l.toChar.toLower = l.toChar := by cases l <;> rfl

theorem isDigit_toChar (l : Letter) : l.toChar.isDigit = false := by cases l <;> rfl

theorem isLower_toChar (l : Letter) : l.toChar.isLower = true := by cases l <;> rfl

end Letter

namespace PageId

theorem filterMap_pathText (path : List Letter) :
    (path.map Letter.toChar).filterMap (fun ch => Letter.ofChar? ch.toLower) = path := by
  simp [List.filterMap_map, Function.comp_def]

theorem splitDigits_toText (p : PageId) :
    Decimal.splitDigits p.toText = (Decimal.digits p.number, p.pathText) := by
  refine Decimal.splitDigits_append (Decimal.digits_all _) fun c hc => ?_
  obtain ⟨l, -, rfl⟩ := List.mem_map.1 (List.mem_of_mem_head? hc)
  exact l.isDigit_toChar

theorem isAlphanum_of_mem_toText {p : PageId} {c : Char} (h : c ∈ p.toText) :
    c.isAlphanum = true := by
  rcases List.mem_append.1 h with h | h
  · rw [Char.isAlphanum, Decimal.digits_all _ _ h, Bool.or_true]
  · obtain ⟨l, -, rfl⟩ := List.mem_map.1 h
    cases l <;> rfl

theorem not_mem_toText {c : Char} (h : c.isAlphanum = false) (p : PageId) : c ∉ p.toText :=
  fun hc => Bool.false_ne_true (h.symm.trans (isAlphanum_of_mem_toText hc))

theorem parse_toString (p : PageId) : parse (toString p) = .ok p := by
  have ht : (toString p).toList = p.toText := String.toList_ofList
  have hl : p.pathText.all (fun ch => (Letter.ofChar? ch.toLower).isSome) = true := by
    simp [pathText]
  have hf : p.pathText.find? (fun ch => (Letter.ofChar? ch.toLower).isNone) = none := by
    simp [pathText]
  have h0 : p.number ≠ 0 := Nat.pos_iff_ne_zero.1 p.one_le
  have hm : ¬ maxPageNumber < p.number := Nat.not_lt.2 p.le_max
  simp only [parse, ht, splitDigits_toText, hl, Decimal.digits_ne_nil, Decimal.ofDigits_digits,
    not_true_eq_false, or_self, ↓reduceIte, if_neg hm, ofParts, dif_neg h0, hf, dif_pos p.le_max]
  congr 1
  exact eq_of_number_path rfl (filterMap_pathText p.path)

theorem parse?_toText (p : PageId) : parse? (String.ofList p.toText) = some p := by
  have h : parse (String.ofList p.toText) = .ok p := p.parse_toString
  rw [parse?, h]
  rfl

theorem ofJson?_toJson (p : PageId) : ofJson? p.toJson = some p := by
  simp [ofJson?, toJson, Json.string?, parse?, parse_toString, Except.toOption]

end PageId
end Gamebook
