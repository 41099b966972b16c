import Gamebook.Proofs.Page.ChoiceLine

/-!
# The words of a choice and of its line

Between a choice and its line words are lost at brackets. A choice without a target is read back unless
its words begin with what could be one; and a line keeps its words unless it names a target in brackets
whose number is out of range.
-/

namespace Gamebook.Choice

open Text

variable {t line : Text} {c : Choice}

/-- Whether a text begins with what has the shape of a page id in brackets, and more follows. -/
def BeginsWithTarget (t : Text) : Prop :=
  ∃ ds ls rest, PageId.Shaped ds ls ∧ rest ≠ [] ∧ t = '[' :: (ds ++ ls ++ ']' :: rest)

theorem splitTarget?_eq_none_iff : splitTarget? t = none ↔ ¬ BeginsWithTarget t := by
  constructor
  · rintro h ⟨ds, ls, rest, hs, hne, ht⟩
    have hsome := splitTarget?_eq_some_iff.2 ⟨hne, ht, ds, ls, rfl, hs⟩
    rw [h] at hsome
    cases hsome
  · intro h
    refine Option.eq_none_iff_forall_ne_some.2 fun ⟨target, rest⟩ hs => h ?_
    obtain ⟨hne, ht, ds, ls, rfl, hsh⟩ := splitTarget?_eq_some_iff.1 hs
    exact ⟨ds, ls, rest, hsh, hne, ht⟩

/-- A choice under one of the letters is what its line offers exactly if its words are one line, have no
blanks at either end, and do not begin with what could be its target, unless it has one. -/
theorem offered_by_own_line_iff (l : Letter) (words : String) (goto : Option PageId) :
    ofLine? (toLine ⟨l.toChar, words, goto⟩) = some ⟨l.toChar, words, goto⟩ ↔
      '\n' ∉ words.toList ∧ trim words.toList = words.toList ∧
        (goto ≠ none ∨ ¬ BeginsWithTarget words.toList) := by
  rw [ofLine?_toLine_eq_some_iff, splitTarget?_eq_none_iff, Decidable.imp_iff_not_or]

/-! ## The words of a line -/

/-- Whether a choice has all the words that stand behind the letter of its line: behind a spelling of its
target in brackets, or by themselves. -/
def KeepsWords (behind : Text) (c : Choice) : Prop :=
  match c.goto with
  | some p => ∃ spelling blanks, PageId.Spells spelling p ∧ (∀ ch ∈ blanks, isBlank ch = true) ∧
      trim behind = '[' :: (spelling ++ ']' :: (blanks ++ c.text.toList))
  | none => trim behind = c.text.toList

/-- Whether a text begins, behind spaces and tabs, with what has the shape of a page id in brackets but
makes no page number, and more follows. -/
def BeginsOutOfRange (t : Text) : Prop :=
  ∃ ds ls rest, PageId.Shaped ds ls ∧ rest ≠ [] ∧ skipGap t = '[' :: (ds ++ ls ++ ']' :: rest) ∧
    (Nat.ofDigitChars 10 ds 0 = 0 ∨ maxPageNumber < Nat.ofDigitChars 10 ds 0)

theorem trim_bracketed (m rest : Text) :
    trim ('[' :: (m ++ ']' :: rest)) = '[' :: (m ++ ']' :: dropEndWhile isBlank rest) := by
  have he : dropEndWhile isBlank (('[' :: m) ++ ']' :: rest) =
      ('[' :: m) ++ ']' :: dropEndWhile isBlank rest := dropEndWhile_append_cons rfl _ _
  rw [trim, List.dropWhile_cons_of_neg (by decide)]
  exact he

/-- What is left when the blanks at the end are dropped are the blanks in front and the trimmed text. -/
theorem dropEndWhile_eq_append_trim (t : Text) :
    dropEndWhile isBlank t = (dropEndWhile isBlank t).takeWhile isBlank ++ trim t := by
  rw [trim_eq, List.takeWhile_append_dropWhile]

theorem parse?_eq_none_iff {ds ls : Text} (h : PageId.Shaped ds ls) :
    PageId.parse? (String.ofList (ds ++ ls)) = none ↔
      Nat.ofDigitChars 10 ds 0 = 0 ∨ maxPageNumber < Nat.ofDigitChars 10 ds 0 := by
  have hp : (∃ p, PageId.parse? (String.ofList (ds ++ ls)) = some p) ↔
      ∃ p, PageId.Spells (ds ++ ls) p := by
    simp only [PageId.parse?_eq_some_iff, String.toList_ofList]
  rw [Option.eq_none_iff_forall_ne_some, ← not_exists, hp, h.exists_spells_iff]
  omega

theorem beginsOutOfRange_iff {target rest : Text}
    (hs : splitTarget? (skipGap t) = some (target, rest)) :
    BeginsOutOfRange t ↔ PageId.parse? (String.ofList target) = none := by
  constructor
  · rintro ⟨ds, ls, rest', hsh, hne, hb, hv⟩
    have hs' := splitTarget?_eq_some_iff.2 ⟨hne, hb, ds, ls, rfl, hsh⟩
    rw [hs] at hs'
    cases hs'
    exact (parse?_eq_none_iff hsh).2 hv
  · intro hp
    obtain ⟨hne, hb, ds, ls, rfl, hsh⟩ := splitTarget?_eq_some_iff.1 hs
    exact ⟨ds, ls, rest, hsh, hne, hb, (parse?_eq_none_iff hsh).1 hp⟩

/-- A line keeps its words exactly unless a target in brackets stands in front of them whose number is out
of range: the brackets are taken off then all the same, and the choice has no target. -/
theorem keepsWords_iff (h : ofLine? line = some c) :
    KeepsWords (line.drop 2) c ↔ ¬ BeginsOutOfRange (line.drop 2) := by
  obtain ⟨ch, l, r, rfl, -, -, -, -, hw⟩ := ofLine?_cases h
  change KeepsWords r c ↔ ¬ BeginsOutOfRange r
  rcases hw with ⟨hs, hg, ht⟩ | ⟨target, rest, hs, hg, ht⟩
  · rw [splitTarget?_eq_none_iff] at hs
    refine iff_of_true ?_ ?_
    · rw [KeepsWords, hg]
      exact ht.symm
    · rintro ⟨ds, ls, rest, hsh, hne, hb, -⟩
      exact hs ⟨ds, ls, rest, hsh, hne, hb⟩
  · have htrim : trim r = '[' :: (target ++ ']' :: dropEndWhile isBlank rest) := by
      rw [← trim_skipGap, (splitTarget?_eq_some_iff.1 hs).2.1, trim_bracketed]
    have hrest := dropEndWhile_eq_append_trim rest
    rw [beginsOutOfRange_iff hs]
    cases hp : PageId.parse? (String.ofList target) with
    | some p =>
        refine iff_of_true ?_ nofun
        have hsp : PageId.Spells target p := by simpa using PageId.parse?_eq_some_iff.1 hp
        rw [KeepsWords, hg, hp, ht, htrim]
        refine ⟨target, _, hsp, ?_, congrArg (fun t => '[' :: (target ++ ']' :: t)) hrest⟩
        exact fun ch => List.all_eq_true.1 List.all_takeWhile ch
    | none =>
        refine iff_of_false ?_ (not_not_intro rfl)
        rw [KeepsWords, hg, hp, ht, htrim]
        intro he
        have hl := congrArg List.length he
        have hr := congrArg List.length hrest
        simp only [List.length_cons, List.length_append] at hl hr
        omega

theorem keepsWords_cave :
    ofLine? "b) [3ab] Return to the cave".toList =
        some ⟨'b', "Return to the cave", some ⟨3, [.a, .b], by decide, by decide⟩⟩ ∧
      (KeepsWords ("b) [3ab] Return to the cave".toList.drop 2)
          ⟨'b', "Return to the cave", some ⟨3, [.a, .b], by decide, by decide⟩⟩ ↔
        ¬ BeginsOutOfRange ("b) [3ab] Return to the cave".toList.drop 2)) :=
  have h : ofLine? "b) [3ab] Return to the cave".toList =
      some ⟨'b', "Return to the cave", some ⟨3, [.a, .b], by decide, by decide⟩⟩ := by decide
  ⟨h, keepsWords_iff h⟩

/-- The brackets around page zero are taken off the words. -/
theorem not_keepsWords_zero : ofLine? "a) [0] Go on".toList = some ⟨'a', "Go on", none⟩ ∧
    ¬ KeepsWords ("a) [0] Go on".toList.drop 2) ⟨'a', "Go on", none⟩ := by
  refine ⟨by decide, fun h => ?_⟩
  have hl : trim ("a) [0] Go on".toList.drop 2) = "[0] Go on".toList := by decide
  have he : "[0] Go on".toList = "Go on".toList := hl.symm.trans h
  exact absurd he (by decide)

end Gamebook.Choice
