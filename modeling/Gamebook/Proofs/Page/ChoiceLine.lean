import Gamebook.Page.ChoiceLine
import Gamebook.Proofs.PageId.Spelling
import Gamebook.Proofs.Text.LineEnd
import Gamebook.Proofs.Text.Trim

/-!
# Choices as lines

Which choices a line can say, and what a text offers when lines are put behind it.
-/

namespace Gamebook.Choice

open Text

/-! ## The line of a choice -/

/-- Whether a line can say a choice: its letter is one, its words are one line without blanks at
either end, and without a target they do not look as if they began with one. -/
structure FitsLine (c : Choice) : Prop where
  letter : ∃ l : Letter, c.letter = l.toChar
  oneLine : '\n' ∉ c.text.toList ∧ '\r' ∉ c.text.toList
  trimmed : trim c.text.toList = c.text.toList
  plain : c.goto = none → splitTarget? c.text.toList = none

theorem trim_space (t : Text) : trim (' ' :: t) = trim t := rfl

theorem skipGap_space (t : Text) : skipGap (' ' :: t) = skipGap t := rfl

theorem letters_before_bracket {ls r : Text} (hl : ∀ ch ∈ ls, ch ∈ Letter.cased) :
    (ls ++ ']' :: r).takeWhile (fun ch => (Letter.ofChar? ch.toLower).isSome) = ls ∧
      (ls ++ ']' :: r).dropWhile (fun ch => (Letter.ofChar? ch.toLower).isSome) = ']' :: r := by
  have hp : ∀ ch ∈ ls, (Letter.ofChar? ch.toLower).isSome = true :=
    fun ch hc => Letter.isSome_ofChar?_iff.2 (hl ch hc)
  rw [List.takeWhile_append_of_pos hp, List.dropWhile_append_of_pos hp]
  exact ⟨List.append_nil ls, rfl⟩

/-- A target is split off where what has the shape of a page id stands in brackets and something
follows. -/
theorem splitTarget?_eq_some_iff {t target rest : Text} :
    splitTarget? t = some (target, rest) ↔
      rest ≠ [] ∧ t = '[' :: (target ++ ']' :: rest) ∧
        ∃ ds ls, target = ds ++ ls ∧ PageId.Shaped ds ls := by
  constructor
  · intro h
    unfold splitTarget? at h
    split at h
    · next r =>
      cases hsplit : Decimal.splitDigits r with
      | mk ds behind =>
          obtain ⟨rfl, hd⟩ := Decimal.eq_of_splitDigits hsplit
          rw [hsplit] at h
          dsimp only at h
          split at h
          · next d ds rest hb =>
            split at h
            · cases h
            · next hne =>
              cases h
              have hr := List.takeWhile_append_dropWhile (l := behind)
                (p := fun ch => (Letter.ofChar? ch.toLower).isSome)
              rw [hb] at hr
              refine ⟨hne, ?_, _, _, rfl, List.cons_ne_nil _ _, hd, fun ch hc => ?_⟩
              · rw [List.append_assoc, hr]
              · exact Letter.isSome_ofChar?_iff.1 (List.all_eq_true.1 List.all_takeWhile ch hc)
          · cases h
    · cases h
  · rintro ⟨hne, rfl, ds, ls, rfl, hs⟩
    obtain ⟨ht, hd⟩ := letters_before_bracket (r := rest) hs.letters
    have hsplit : Decimal.splitDigits (ds ++ ls ++ ']' :: rest) = (ds, ls ++ ']' :: rest) := by
      rw [List.append_assoc]
      exact hs.splitDigits_append fun ch hc => by rw [← Option.some.inj hc]; rfl
    cases ds with
    | nil => exact absurd rfl hs.ne_nil
    | cons d ds => simp only [splitTarget?, hsplit, hd, ht, if_neg hne]

/-- A target in brackets is split off the words that follow it after a space. -/
theorem splitTarget?_target (p : PageId) (t : Text) :
    splitTarget? ('[' :: (p.toText ++ ']' :: ' ' :: t)) = some (p.toText, ' ' :: t) := by
  obtain ⟨ds, ls, ht, hs, -⟩ := p.spells_toText
  exact splitTarget?_eq_some_iff.2 ⟨List.cons_ne_nil _ _, rfl, ds, ls, ht, hs⟩

theorem ofLine?_letter (l : Letter) {r : Text} (hr : r ≠ []) (hn : '\n' ∉ r) :
    ofLine? (l.toChar :: ')' :: r) =
      match splitTarget? (skipGap r) with
      | some (target, rest) =>
        some ⟨l.toChar, String.ofList (trim rest), PageId.parse? (String.ofList target)⟩
      | none => some ⟨l.toChar, String.ofList (trim r), none⟩ := by
  have hb : ¬ (r = [] ∨ '\n' ∈ r) := not_or.2 ⟨hr, hn⟩
  rw [ofLine?, Letter.toLower_toChar, Letter.ofChar?_toChar]
  exact if_neg hb

/-- What a line offers: its letter, and what stands behind the parenthesis, with the target taken off the
front if there is one. -/
theorem ofLine?_cases {line : Text} {c : Choice} (h : ofLine? line = some c) :
    ∃ ch l r, line = ch :: ')' :: r ∧ Letter.ofChar? ch.toLower = some l ∧ c.letter = l.toChar ∧
      r ≠ [] ∧ '\n' ∉ r ∧
      (splitTarget? (skipGap r) = none ∧ c.goto = none ∧ c.text.toList = trim r ∨
        ∃ target rest, splitTarget? (skipGap r) = some (target, rest) ∧
          c.goto = PageId.parse? (String.ofList target) ∧ c.text.toList = trim rest) := by
  unfold ofLine? at h
  split at h
  · next ch r =>
    split at h
    · cases h
    · next l hl =>
      split at h
      · cases h
      · next hr =>
        obtain ⟨hne, hn⟩ := not_or.1 hr
        refine ⟨ch, l, r, rfl, hl, ?_⟩
        split at h
        · next target rest hs =>
          cases h
          exact ⟨rfl, hne, hn, .inr ⟨target, rest, hs, rfl, String.toList_ofList⟩⟩
        · next hs =>
          cases h
          exact ⟨rfl, hne, hn, .inl ⟨hs, rfl, String.toList_ofList⟩⟩
  · cases h

theorem letter_of_ofLine? {line : Text} {c : Choice} (h : ofLine? line = some c) :
    ∃ l : Letter, c.letter = l.toChar := by
  obtain ⟨ch, l, r, -, -, hl, -⟩ := ofLine?_cases h
  exact ⟨l, hl⟩

theorem not_mem_lineFeed_of_ofLine? {a b : Char} {r : Text} {c : Choice}
    (h : ofLine? (a :: b :: r) = some c) : '\n' ∉ r := by
  obtain ⟨ch, l, r', he, -, -, -, hn, -⟩ := ofLine?_cases h
  cases he
  exact hn

theorem mem_of_ofLine? {line : Text} {c : Choice} (h : ofLine? line = some c) {x : Char}
    (hx : x ∈ c.text.toList) : x ∈ line ∧ x ≠ '\n' := by
  obtain ⟨ch, l, r, rfl, -, -, -, hn, hw⟩ := ofLine?_cases h
  have hr : x ∈ r := by
    rcases hw with ⟨-, -, ht⟩ | ⟨target, rest, hs, -, ht⟩
    · exact mem_of_mem_trim (ht ▸ hx)
    · obtain ⟨-, hg, -⟩ := splitTarget?_eq_some_iff.1 hs
      have hm : x ∈ skipGap r := by
        rw [hg]
        simp [mem_of_mem_trim (ht ▸ hx)]
      exact (List.dropWhile_suffix _).mem hm
  exact ⟨by simp [hr], fun he => hn (he ▸ hr)⟩

/-- A line break: no character of the written forms of ids and letters. -/
def IsBreak (x : Char) : Prop := x = '\n' ∨ x = '\r'

theorem IsBreak.not_mem_toText {x : Char} (hx : IsBreak x) (p : PageId) : x ∉ p.toText := by
  rcases hx with rfl | rfl
  · exact p.not_mem_toText rfl
  · exact p.not_mem_toText rfl

theorem IsBreak.not_mem_toLine {x : Char} {c : Choice} (hx : IsBreak x)
    (hl : ∃ l : Letter, c.letter = l.toChar) (ht : x ∉ c.text.toList) : x ∉ c.toLine := by
  obtain ⟨letter, words, target⟩ := c
  obtain ⟨l, rfl⟩ := hl
  have h₁ : x ≠ l.toChar := by
    rcases hx with rfl | rfl <;> cases l <;> decide
  have h₂ : x ∉ [')', ' ', '[', ']'] := by
    rcases hx with rfl | rfl <;> decide
  cases target with
  | some p =>
      have h₃ := hx.not_mem_toText p
      simp only [List.mem_cons, List.not_mem_nil, or_false, not_or] at h₂
      simp [toLine, h₁, h₂, h₃, ht]
  | none =>
      simp only [List.mem_cons, List.not_mem_nil, or_false, not_or] at h₂
      simp [toLine, h₁, h₂, ht]

theorem ofLine?_target (l : Letter) (p : PageId) {t : Text} (hn : '\n' ∉ t) :
    ofLine? (l.toChar :: ')' :: ' ' :: '[' :: p.toText ++ ']' :: ' ' :: t) =
      some ⟨l.toChar, String.ofList (trim t), some p⟩ := by
  have hm : '\n' ∉ ' ' :: '[' :: (p.toText ++ ']' :: ' ' :: t) := by
    simp [IsBreak.not_mem_toText (.inl rfl), hn]
  simp only [List.cons_append]
  rw [ofLine?_letter l (List.cons_ne_nil _ _) hm, skipGap_space]
  have hs : skipGap ('[' :: (p.toText ++ ']' :: ' ' :: t)) =
      '[' :: (p.toText ++ ']' :: ' ' :: t) := rfl
  rw [hs, splitTarget?_target]
  simp only [trim_space, PageId.parse?_toText]

theorem ofLine?_plain (l : Letter) {t : Text} (hn : '\n' ∉ t)
    (hp : splitTarget? (skipGap t) = none) :
    ofLine? (l.toChar :: ')' :: ' ' :: t) = some ⟨l.toChar, String.ofList (trim t), none⟩ := by
  have hm : '\n' ∉ ' ' :: t := by simp [hn]
  rw [ofLine?_letter l (List.cons_ne_nil _ _) hm, skipGap_space, hp]
  rfl

theorem eq_ofList_iff {s : String} {t : Text} : String.ofList t = s ↔ t = s.toList := by
  rw [String.ext_iff, String.toList_ofList]

/-- Words that look as if they began with a target are not all of the words that are read. -/
theorem splitTarget?_eq_none {l : Letter} {words : String} (hn : '\n' ∉ words.toList)
    (h : ofLine? (l.toChar :: ')' :: ' ' :: words.toList) = some ⟨l.toChar, words, none⟩) :
    splitTarget? (skipGap words.toList) = none := by
  cases hs : splitTarget? (skipGap words.toList) with
  | none => rfl
  | some found =>
      obtain ⟨target, rest⟩ := found
      have hm : '\n' ∉ ' ' :: words.toList := by simp [hn]
      rw [ofLine?_letter l (List.cons_ne_nil _ _) hm, skipGap_space, hs] at h
      simp only [Option.some.injEq, Choice.mk.injEq, true_and, eq_ofList_iff] at h
      obtain ⟨-, ht, -⟩ := splitTarget?_eq_some_iff.1 hs
      have h₁ := congrArg List.length ht
      have h₂ : (skipGap words.toList).length ≤ words.toList.length :=
        (List.dropWhile_suffix _).length_le
      have h₃ := length_trim_le rest
      rw [List.length_cons, List.length_append, List.length_cons] at h₁
      rw [h.1] at h₃
      omega

/-- A choice is what its line offers exactly if its words are one line without blanks at either end, and
if, should it have no target, no target is split off its words. -/
theorem ofLine?_toLine_eq_some_iff {l : Letter} {words : String} {target : Option PageId} :
    ofLine? (toLine ⟨l.toChar, words, target⟩) = some ⟨l.toChar, words, target⟩ ↔
      '\n' ∉ words.toList ∧ trim words.toList = words.toList ∧
        (target = none → splitTarget? words.toList = none) := by
  cases target with
  | some p =>
      constructor
      · intro h
        have hn : '\n' ∉ words.toList := by
          have := not_mem_lineFeed_of_ofLine? h
          simp only [List.append_eq, List.mem_append, List.mem_cons, not_or] at this
          exact this.2.2.2
        rw [toLine, ofLine?_target l p hn] at h
        simp only [Option.some.injEq, Choice.mk.injEq, true_and, and_true, eq_ofList_iff] at h
        exact ⟨hn, h, nofun⟩
      · rintro ⟨hn, ht, -⟩
        rw [toLine, ofLine?_target l p hn, ht, String.ofList_toList]
  | none =>
      constructor
      · intro h
        have hn : '\n' ∉ words.toList := by
          have := not_mem_lineFeed_of_ofLine? h
          simp only [List.mem_cons, not_or] at this
          exact this.2
        have hs := splitTarget?_eq_none hn h
        rw [toLine, ofLine?_plain l hn hs] at h
        simp only [Option.some.injEq, Choice.mk.injEq, true_and, and_true, eq_ofList_iff] at h
        refine ⟨hn, h, fun _ => ?_⟩
        rwa [skipGap_of_trimmed h] at hs
      · rintro ⟨hn, ht, hp⟩
        rw [toLine, ofLine?_plain l hn (by rw [skipGap_of_trimmed ht]; exact hp rfl), ht,
          String.ofList_toList]

/-- A choice is what its line offers exactly if a line can say it. The line as it is may hold a carriage
return, but not as a line of a text. -/
theorem ofLine?_toLine_iff {c : Choice} (hl : ∃ l : Letter, c.letter = l.toChar) :
    ('\r' ∉ c.text.toList ∧ ofLine? c.toLine = some c) ↔ c.FitsLine := by
  obtain ⟨letter, words, target⟩ := c
  obtain ⟨l, rfl⟩ := hl
  rw [ofLine?_toLine_eq_some_iff]
  constructor
  · rintro ⟨hr, hn, ht, hp⟩
    exact ⟨⟨l, rfl⟩, ⟨hn, hr⟩, ht, hp⟩
  · rintro ⟨-, ⟨hn, hr⟩, ht, hp⟩
    exact ⟨hr, hn, ht, hp⟩

/-! ## What is offered line by line -/

/-- The choices of a text's lines, those of one letter not yet reduced to the first. -/
def offers (t : Text) : List Choice := (lines t).filterMap fun l => ofLine? (dropLineFeed l)

/-- The text without the lines that offer choices. -/
def remains (t : Text) : Text :=
  ((lines t).filter fun l => (ofLine? (dropLineFeed l)).isNone).flatten

theorem split_eq (t : Text) :
    split t = ((offers (unixLines t)).foldl addNew [], remains (unixLines t)) := rfl

theorem mem_remains {t : Text} {x : Char} (h : x ∈ remains t) : x ∈ t := by
  obtain ⟨l, hl, hx⟩ := List.mem_flatten.1 h
  exact mem_of_mem_lines (List.mem_filter.1 hl).1 hx

theorem offers_last {s : Text} (h : '\n' ∉ s) : offers s = (ofLine? s).toList := by
  rw [offers, lines_of_not_mem h]
  by_cases hs : s = []
  · rw [hs]
    rfl
  · rw [if_neg hs, List.filterMap_cons, dropLineFeed_of_not_mem h]
    cases ofLine? s <;> rfl

theorem offers_line {s : Text} (h : '\n' ∉ s) (r : Text) :
    offers (s ++ '\n' :: r) = (ofLine? s).toList ++ offers r := by
  rw [offers, lines_append_cons h, List.filterMap_cons, dropLineFeed_concat, offers]
  cases ofLine? s <;> rfl

theorem remains_last {s : Text} (h : '\n' ∉ s) :
    remains s = if ofLine? s = none then s else [] := by
  rw [remains, lines_of_not_mem h]
  by_cases hs : s = []
  · rw [hs]
    rfl
  · rw [if_neg hs, List.filter_cons, dropLineFeed_of_not_mem h]
    cases ofLine? s <;> simp

theorem remains_line {s : Text} (h : '\n' ∉ s) (r : Text) :
    remains (s ++ '\n' :: r) =
      (if ofLine? s = none then s ++ ['\n'] else []) ++ remains r := by
  rw [remains, lines_append_cons h, List.filter_cons, dropLineFeed_concat, remains]
  cases ofLine? s <;> simp

theorem remains_eq_self {t : Text} (h : offers t = []) : remains t = t := by
  induction t using byLines with
  | last s hs =>
      rw [offers_last hs] at h
      rw [remains_last hs, if_pos (Option.toList_eq_nil_iff.1 h)]
  | line s r hs ih =>
      rw [offers_line hs] at h
      obtain ⟨h₁, h₂⟩ := List.append_eq_nil_iff.1 h
      rw [remains_line hs, if_pos (Option.toList_eq_nil_iff.1 h₁), ih h₂, List.append_assoc]
      rfl

theorem offers_remains (t : Text) : offers (remains t) = [] := by
  induction t using byLines with
  | last s hs =>
      rw [remains_last hs]
      split
      · next hn => rw [offers_last hs, hn]; rfl
      · rfl
  | line s r hs ih =>
      rw [remains_line hs]
      split
      · next hn =>
        rw [List.append_assoc, List.singleton_append, offers_line hs, hn, ih]
        rfl
      · exact ih

/-- A text and one behind it, on lines of its own, offer what each of them offers. -/
theorem offers_append (s t : Text) :
    offers (s ++ '\n' :: t) = offers (s ++ ['\n']) ++ offers t := by
  induction s using byLines with
  | last s hs =>
      rw [offers_line hs, offers_line hs, offers_last (s := []) (by simp)]
      simp [ofLine?]
  | line s r hs ih =>
      rw [List.append_assoc, List.append_assoc, List.cons_append, List.cons_append, offers_line hs,
        offers_line hs, ih, List.append_assoc]

theorem remains_append (s t : Text) :
    remains (s ++ '\n' :: t) = remains (s ++ ['\n']) ++ remains t := by
  induction s using byLines with
  | last s hs =>
      rw [remains_line hs, remains_line hs, remains_last (s := []) (by simp)]
      simp [ofLine?]
  | line s r hs ih =>
      rw [List.append_assoc, List.append_assoc, List.cons_append, List.cons_append,
        remains_line hs, remains_line hs, ih, List.append_assoc]

theorem offers_lineEnd (t : Text) : offers (t ++ ['\n']) = offers t := by
  induction t using byLines with
  | last s hs =>
      rw [offers_line hs, offers_last hs]
      simp [offers, lines]
  | line s r hs ih =>
      rw [List.append_assoc, List.cons_append, offers_line hs, offers_line hs, ih]

end Gamebook.Choice
