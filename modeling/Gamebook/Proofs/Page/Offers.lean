import Gamebook.Proofs.Page.ChoiceLine
import Mathlib.Data.List.Induction

/-!
# What a text offers

A text is parted line by line: the lines that offer choices give the choices, the first of each letter,
and the others, as they stand, the prose, which offers nothing any more.
-/

namespace Gamebook.Choice

open Text

/-! ## First choices of a letter -/

/-- Choices are added behind others in their order, some of them left out. -/
theorem foldl_addNew_sublist (cs xs : List Choice) :
    ∃ ys, xs.foldl addNew cs = cs ++ ys ∧ ys.Sublist xs := by
  induction xs generalizing cs with
  | nil => exact ⟨[], by simp, .slnil⟩
  | cons x xs ih =>
      rw [List.foldl_cons, addNew]
      split
      · obtain ⟨ys, he, hs⟩ := ih cs
        exact ⟨ys, he, hs.cons x⟩
      · obtain ⟨ys, he, hs⟩ := ih (cs ++ [x])
        exact ⟨x :: ys, by rw [he]; simp, hs.cons_cons x⟩

theorem foldl_addNew_eq {cs xs : List Choice} (h : ((cs ++ xs).map (·.letter)).Nodup) :
    xs.foldl addNew cs = cs ++ xs := by
  induction xs generalizing cs with
  | nil => simp
  | cons x xs ih =>
      have hx : cs.any (fun d => d.letter == x.letter) = false := by
        rw [List.any_eq_false]
        intro d hd he
        rw [List.map_append, List.nodup_append] at h
        exact h.2.2 _ (List.mem_map_of_mem hd) _ (List.mem_cons_self ..) (by simpa using he)
      rw [List.foldl_cons, addNew, hx]
      have hs : xs.foldl addNew (cs ++ [x]) = cs ++ [x] ++ xs := ih (by simpa using h)
      simpa using hs

theorem foldl_addNew_eq_nil_iff {cs : List Choice} : cs.foldl addNew [] = [] ↔ cs = [] := by
  constructor
  · intro h
    cases cs with
    | nil => rfl
    | cons c cs =>
        obtain ⟨ys, he, -⟩ := foldl_addNew_sublist (addNew [] c) cs
        rw [List.foldl_cons, he] at h
        cases h
  · rintro rfl
    rfl

theorem any_letter_foldl_addNew (x : Char) (cs xs : List Choice) :
    ((xs.foldl addNew cs).any fun d => d.letter == x) =
      ((cs.any fun d => d.letter == x) || xs.any fun d => d.letter == x) := by
  induction xs generalizing cs with
  | nil => exact (Bool.or_false _).symm
  | cons c xs ih =>
      have hc : ((addNew cs c).any fun d => d.letter == x) =
          ((cs.any fun d => d.letter == x) || c.letter == x) := by
        rw [addNew]
        split
        · next ha =>
          by_cases he : c.letter = x
          · subst he
            rw [ha, Bool.true_or]
          · rw [beq_eq_false_iff_ne.2 he, Bool.or_false]
        · simp
      rw [List.foldl_cons, ih, hc, List.any_cons, Bool.or_assoc]

/-! ## Choices under different letters -/

/-- Whether choices stand under letters, each under one of its own. -/
def Lettered (cs : List Choice) : Prop :=
  (∀ c ∈ cs, ∃ l : Letter, c.letter = l.toChar) ∧ (cs.map (·.letter)).Nodup

theorem lettered_nil : Lettered [] := ⟨List.forall_mem_nil _, List.nodup_nil⟩

theorem Lettered.left {cs rest : List Choice} (h : Lettered (cs ++ rest)) : Lettered cs :=
  ⟨fun c hc => h.1 c (List.mem_append_left rest hc),
    ((List.sublist_append_left cs rest).map _).nodup h.2⟩

theorem lettered_concat_iff {cs : List Choice} {c : Choice} :
    Lettered (cs ++ [c]) ↔ Lettered cs ∧ (∃ l : Letter, c.letter = l.toChar) ∧
      (cs.any fun d => d.letter == c.letter) = false := by
  have hd : (∀ a ∈ cs.map (·.letter), ∀ b ∈ [c.letter], a ≠ b) ↔
      (cs.any fun d => d.letter == c.letter) = false := by
    simp [List.any_eq_false]
  rw [Lettered, List.forall_mem_append, List.forall_mem_singleton, List.map_append, List.map_singleton,
    List.nodup_append, hd, Lettered]
  constructor
  · rintro ⟨⟨hl, hc⟩, hn, -, ha⟩
    exact ⟨⟨hl, hn⟩, hc, ha⟩
  · rintro ⟨⟨hl, hn⟩, hc, ha⟩
    exact ⟨⟨hl, hc⟩, hn, List.pairwise_singleton .., ha⟩

theorem Lettered.addNew {cs : List Choice} (h : Lettered cs) {c : Choice}
    (hl : ∃ l : Letter, c.letter = l.toChar) : Lettered (addNew cs c) := by
  rw [Choice.addNew]
  split
  · exact h
  · next hn => exact lettered_concat_iff.2 ⟨h, hl, Bool.eq_false_iff.2 hn⟩

theorem lettered_foldl_addNew {cs xs : List Choice} (h : Lettered cs)
    (hx : ∀ c ∈ xs, ∃ l : Letter, c.letter = l.toChar) : Lettered (xs.foldl Choice.addNew cs) := by
  induction xs generalizing cs with
  | nil => exact h
  | cons x xs ih =>
      exact ih (h.addNew (hx x (List.mem_cons_self ..))) fun c hc => hx c (List.mem_cons_of_mem _ hc)

theorem Lettered.mem_letters {cs : List Choice} (h : Lettered cs) :
    ∀ c ∈ cs, c.letter ∈ Letter.all.map Letter.toChar := by
  intro c hc
  obtain ⟨l, hl⟩ := h.1 c hc
  rw [hl]
  cases l <;> simp [Letter.all]

theorem Lettered.length_le {cs : List Choice} (h : Lettered cs) : cs.length ≤ 5 := by
  have hs : cs.map (·.letter) ⊆ Letter.all.map Letter.toChar := by
    intro ch hch
    obtain ⟨c, hc, rfl⟩ := List.mem_map.1 hch
    exact h.mem_letters c hc
  have hl := h.2.length_le_of_subset hs
  rwa [List.length_map] at hl

theorem lettered_split (t : Text) : Lettered (split t).1 := by
  refine lettered_foldl_addNew lettered_nil fun c hc => ?_
  obtain ⟨l, -, ho⟩ := List.mem_filterMap.1 hc
  exact letter_of_ofLine? ho

theorem split_eq_nil_iff {t : Text} :
    (split t).1 = [] ↔
      ∀ line ∈ lines (unixLines t), ofLine? (dropLineFeed line) = none := by
  rw [split_eq, foldl_addNew_eq_nil_iff, offers, List.filterMap_eq_nil_iff]

/-! ## First offers -/

/-- The choice that a line offers, if the lines before it offer none of its letter. -/
def firstOffer? (before : List Text) (l : Text) : Option Choice :=
  (ofLine? (dropLineFeed l)).filter fun c =>
    (before.filterMap fun k => ofLine? (dropLineFeed k)).all fun d => d.letter != c.letter

/-- The choices that lines offer, the first of each letter. -/
def firstOffers (ls : List Text) : List Choice :=
  ls.zipIdx.filterMap fun (l, i) => firstOffer? (ls.take i) l

theorem firstOffers_concat (ls : List Text) (l : Text) :
    firstOffers (ls ++ [l]) = firstOffers ls ++ (firstOffer? ls l).toList := by
  have hls : (ls.zipIdx.filterMap fun (k, i) => firstOffer? ((ls ++ [l]).take i) k) =
      firstOffers ls := by
    refine List.filterMap_congr fun ⟨k, i⟩ hk => ?_
    have hi : i < ls.length := by simpa using List.snd_lt_of_mem_zipIdx hk
    dsimp only
    rw [List.take_append_of_le_length (Nat.le_of_lt hi)]
  rw [firstOffers, List.zipIdx_append, List.filterMap_append, hls, Nat.zero_add,
    List.zipIdx_singleton, List.filterMap_cons]
  dsimp only
  rw [List.take_left]
  cases firstOffer? ls l <;> rfl

/-- The lines of a text give the choices that they offer first. -/
theorem foldl_addNew_eq_firstOffers (ls : List Text) :
    (ls.filterMap fun l => ofLine? (dropLineFeed l)).foldl addNew [] = firstOffers ls := by
  induction ls using List.reverseRecOn with
  | nil => rfl
  | append_singleton ls l ih =>
      rw [List.filterMap_append, List.foldl_append, ih, firstOffers_concat, firstOffer?,
        List.filterMap_cons]
      cases ofLine? (dropLineFeed l) with
      | none => exact (List.append_nil _).symm
      | some c =>
          -- The letters offered so far are those of the choices kept so far.
          have hk : ((ls.filterMap fun k => ofLine? (dropLineFeed k)).all
              fun d => d.letter != c.letter) =
                !(firstOffers ls).any fun d => d.letter == c.letter := by
            rw [← ih, any_letter_foldl_addNew, List.any_nil, Bool.false_or, List.not_any_eq_all_not]
            rfl
          rw [Option.filter_some, hk]
          change addNew (firstOffers ls) c = _
          rw [addNew]
          cases (firstOffers ls).any fun d => d.letter == c.letter with
          | true => exact (List.append_nil _).symm
          | false => rfl

/-! ## Parting a text -/

theorem exists_line_of_mem_split {t : Text} {c : Choice} (h : c ∈ (split t).1) :
    ∃ l ∈ lines (unixLines t), ofLine? (dropLineFeed l) = some c := by
  obtain ⟨ys, he, hs⟩ := foldl_addNew_sublist [] (offers (unixLines t))
  rw [split_eq, he, List.nil_append] at h
  exact List.mem_filterMap.1 (hs.mem h)

theorem trim_of_mem_split {t : Text} {c : Choice} (h : c ∈ (split t).1) :
    trim c.text.toList = c.text.toList := by
  obtain ⟨line, -, ho⟩ := exists_line_of_mem_split h
  obtain ⟨ch, l, r, -, -, -, -, -, hw⟩ := ofLine?_cases ho
  rcases hw with ⟨-, -, ht⟩ | ⟨target, rest, -, -, ht⟩
  · rw [ht, trim_trim]
  · rw [ht, trim_trim]

/-- What is left of a text is left of itself, and offers nothing. -/
theorem split_remains (t : Text) :
    split (remains (unixLines t)) = ([], remains (unixLines t)) := by
  have hr : '\r' ∉ remains (unixLines t) := fun h => unixLines_not_mem t (mem_remains h)
  have ho := offers_remains (unixLines t)
  rw [split_eq, unixLines_of_not_mem hr, ho, remains_eq_self ho]
  rfl

/-- A text is parted by its lines, into which it is cut in one way. The prose is the lines that offer no
choice, one behind the other. The choices are those that the lines offer first, so at most five under
different letters from a to e, their words without blanks at either end. The prose offers no choice, and
is its own prose. -/
theorem split_parts_lines (t : Text) : ∃ ls, (∀ ms, Cut (unixLines t) ms ↔ ms = ls) ∧
    (split t).2 = (ls.filter fun l => (ofLine? (dropLineFeed l)).isNone).flatten ∧
    (split t).1 = firstOffers ls ∧ ((split t).1.map (·.letter)).Nodup ∧
    (∀ c ∈ (split t).1, c.letter ∈ ['a', 'b', 'c', 'd', 'e']) ∧ (split t).1.length ≤ 5 ∧
    (∀ c ∈ (split t).1, trim c.text.toList = c.text.toList) ∧
    split (split t).2 = ([], (split t).2) := by
  have hl := lettered_split t
  refine ⟨lines (unixLines t), fun ms => cut_iff, ?_, ?_, hl.2, hl.mem_letters, hl.length_le,
    fun c => trim_of_mem_split, ?_⟩
  · rw [split_eq, remains]
  · rw [split_eq]
    exact foldl_addNew_eq_firstOffers _
  · rw [split_eq]
    exact split_remains t

end Gamebook.Choice
