import Gamebook.Asset.Source
import Gamebook.Proofs.Html.Spelling

/-!
# Quoted values in the text of a tag

Attributes are looked for in the text of a tag. The quotation marks in it are those around the values,
so a find begins where a name begins, or at the end of a value that looks like a name.
-/

namespace Gamebook.Asset

open Html Text

/-! ## Finds -/

theorem takeWhile_quote {x : Text} (h : '"' ∉ x) (r : Text) :
    (x ++ '"' :: r).takeWhile (· ≠ '"') = x := by
  have hp : ∀ c ∈ x, decide (c ≠ '"') = true := by
    intro c hc
    rw [decide_eq_true_eq]
    rintro rfl
    exact h hc
  rw [List.takeWhile_append_of_pos hp, List.takeWhile_cons_of_neg (by decide), List.append_nil]

variable {opening : String} {stem tail : Text}

/-- Nothing is found where the text before the next quotation mark is not what is looked for. -/
theorem quoted?_eq_none (ho : opening.toList = stem ++ '"' :: tail) (hs : '"' ∉ stem) {t : Text}
    (h : t.takeWhile (· ≠ '"') ≠ stem) : quoted? opening t = none := by
  cases ha : after? opening.toList t with
  | none =>
      rw [quoted?, ha]
      rfl
  | some r =>
      have ht := after?_eq_some ha
      rw [ho, List.append_assoc, List.cons_append] at ht
      rw [ht, takeWhile_quote hs] at h
      exact absurd rfl h

theorem quoted?_eq_some {opening : String} {value : Text} (h : '"' ∉ value) (rest : Text) :
    quoted? opening (opening.toList ++ (value ++ '"' :: rest)) = some (value, rest) := by
  have ht := takeWhile_quote h rest
  have hd : (value ++ '"' :: rest).drop value.length = '"' :: rest := List.drop_left
  rw [quoted?, after?_append]
  simp only [Option.bind_eq_bind, Option.bind_some, ht, hd]

/-- Nothing is found in front of the attributes of a tag. -/
theorem quoted?_front (ho : opening.toList = stem ++ '"' :: tail) (hs : '"' ∉ stem)
    (hb : ' ' ∉ stem ∧ '>' ∉ stem) {s : Text} (hq : '"' ∉ s) (as : List (String × Text)) :
    quoted? opening (s ++ spellRest as) = none := by
  refine quoted?_eq_none ho hs fun he => ?_
  obtain ⟨c, r, hr, hc⟩ := head_spellRest as
  have hp : ∀ x ∈ s ++ [c], decide (x ≠ '"') = true := by
    intro x hx
    rw [decide_eq_true_eq]
    rintro rfl
    rcases List.mem_append.1 hx with hx | hx
    · exact hq hx
    · rcases hc with rfl | rfl <;> exact absurd hx (by decide)
  have ht : (s ++ [c] ++ r).takeWhile (· ≠ '"') = s ++ [c] ++ r.takeWhile (· ≠ '"') :=
    List.takeWhile_append_of_pos hp
  rw [List.append_assoc, List.singleton_append, ← hr, he] at ht
  have hm : c ∈ stem := ht ▸ by simp
  rcases hc with rfl | rfl
  · exact hb.1 hm
  · exact hb.2 hm

/-! ## One attribute -/

/-- Where a find may begin in an attribute: in its name, at the quotation mark behind it, or in the
value. -/
theorem suffix_spell {name : String} {w s : Text} (h : s <:+ spell name w) (hs : s ≠ []) :
    (∃ n, n <:+ ' ' :: name.toList ∧ s = n ++ '=' :: '"' :: w ++ ['"']) ∨ s = '"' :: w ++ ['"'] ∨
      ∃ v, v <:+ w ∧ s = v ++ ['"'] := by
  have hsp : spell name w = (' ' :: name.toList) ++ ('=' :: ('"' :: (w ++ ['"']))) := by
    simp [spell]
  rw [hsp] at h
  rcases suffix_append_cases h with h | ⟨n, -, hn, rfl⟩
  · rcases List.suffix_cons_iff.1 h with rfl | h
    · exact .inl ⟨[], List.nil_suffix, by simp⟩
    · rcases List.suffix_cons_iff.1 h with rfl | h
      · exact .inr (.inl (by simp))
      · rcases suffix_append_cases h with h | ⟨v, -, hv, rfl⟩
        · rcases List.suffix_cons_iff.1 h with rfl | h
          · exact .inr (.inr ⟨[], List.nil_suffix, rfl⟩)
          · exact absurd (List.suffix_nil.1 h) hs
        · exact .inr (.inr ⟨v, hv, rfl⟩)
  · exact .inl ⟨n, hn, by simp⟩

section Attributes

variable {key w rest : Text}

theorem not_quote_key (hk : '"' ∉ key) : '"' ∉ key ++ ['='] := by
  rw [List.mem_append, not_or]
  exact ⟨hk, by decide⟩

/-- Nothing is found from within a name, unless it is the one that is looked for and the value is. -/
theorem quoted?_name (ho : opening.toList = key ++ '=' :: '"' :: tail) (hk : '"' ∉ key) {n : Text}
    (hn : '"' ∉ n) (hname : n = key → after? tail (w ++ '"' :: rest) = none) :
    quoted? opening (n ++ '=' :: '"' :: (w ++ '"' :: rest)) = none := by
  by_cases he : n = key
  · subst he
    cases hf : after? opening.toList (n ++ '=' :: '"' :: (w ++ '"' :: rest)) with
    | none =>
        rw [quoted?, hf]
        rfl
    | some r =>
        have ht := after?_eq_some hf
        rw [ho] at ht
        simp only [List.append_assoc, List.cons_append, List.append_cancel_left_eq, List.cons.injEq,
          true_and] at ht
        have hnone := hname rfl
        rw [ht, after?_append] at hnone
        cases hnone
  · have ho' : opening.toList = (key ++ ['=']) ++ '"' :: tail := by rw [ho]; simp
    refine quoted?_eq_none ho' (not_quote_key hk) ?_
    have ht := takeWhile_quote (not_quote_key hn) (w ++ '"' :: rest)
    rw [List.append_assoc, List.singleton_append] at ht
    rw [ht]
    exact fun h => he (List.append_cancel_right h)

/-- Nothing is found from within a value, unless the rest of it looks like the name. -/
theorem quoted?_value (ho : opening.toList = key ++ '=' :: '"' :: tail) (hk : '"' ∉ key) {v : Text}
    (hv : '"' ∉ v)
    (hvalue : v = key ++ ['='] → quoted? opening (key ++ '=' :: '"' :: rest) = none) :
    quoted? opening (v ++ '"' :: rest) = none := by
  by_cases he : v = key ++ ['=']
  · have h := hvalue he
    rwa [he, List.append_assoc, List.singleton_append]
  · have ho' : opening.toList = (key ++ ['=']) ++ '"' :: tail := by rw [ho]; simp
    refine quoted?_eq_none ho' (not_quote_key hk) ?_
    rwa [takeWhile_quote hv]

/-- Nothing is found in an attribute whose name is not the one that is looked for, or whose value is
not, and whose value does not end in that name. -/
theorem quoted?_spell (ho : opening.toList = key ++ '=' :: '"' :: tail) (hk : '"' ∉ key)
    {name : String} (hn : '"' ∉ name.toList) (hw : '"' ∉ w)
    (hname : key <:+ ' ' :: name.toList → after? tail (w ++ '"' :: rest) = none)
    (hvalue : key ++ ['='] <:+ w → quoted? opening (key ++ '=' :: '"' :: rest) = none)
    {s : Text} (hs : s ≠ []) (hsuf : s <:+ spell name w) : quoted? opening (s ++ rest) = none := by
  rcases suffix_spell hsuf hs with ⟨n, hsn, rfl⟩ | rfl | ⟨v, hv, rfl⟩
  · have hq : '"' ∉ n := by
      intro hm
      rcases List.mem_cons.1 (hsn.mem hm) with h | h
      · exact absurd h (by decide)
      · exact hn h
    have h := quoted?_name ho hk hq fun he => hname (he ▸ hsn)
    simpa using h
  · have h : quoted? opening ([] ++ '"' :: (w ++ '"' :: rest)) = none :=
      quoted?_value ho hk (by simp) (by simp)
    simpa using h
  · have h := quoted?_value ho hk (fun hm => hw (hv.mem hm)) fun he => hvalue (he ▸ hv)
    simpa using h

end Attributes

end Gamebook.Asset
