import Gamebook.Proofs.Markup.LineEnd
import Gamebook.Proofs.Text.Line

/-!
# Paragraphs as groups of lines

A text is split at blank lines with both line feeds around them, so of several blank lines in a row some
are left at the start of a part, and one may be left at its end. Trimming removes them: the paragraphs are
the groups of lines between blank lines, each line of a group shown in its place.
-/

namespace Gamebook.Markup

open Text

variable {s t u : Text}

/-! ## Groups of lines -/

/-- Whether a line is made only of spaces and tabs. -/
def isBlankLine (l : Text) : Bool := l.all isGap

/-- The lines of a text between one blank line and the next, which may be none. -/
def blocks (t : Text) : List (List Text) := (splitLines t).splitOnP isBlankLine

/-- The maximal groups of consecutive lines of a text that are not blank. -/
def groups (t : Text) : List (List Text) := (blocks t).filter (· ≠ [])

/-- Lines as a text. -/
def ofLines (ls : List Text) : Text := join ['\n'] ls

/-- The lines of the paragraph of a group: those of the trimmed group, each trimmed. -/
def shownLines (g : List Text) : List Text := (splitLines (trim (ofLines g))).map trim

theorem splitLines_of_not_mem (h : '\n' ∉ s) : splitLines s = [s] := splitOn_of_not_mem h

theorem splitLines_line (h : '\n' ∉ s) (t : Text) :
    splitLines (s ++ '\n' :: t) = s :: splitLines t := by
  rw [splitLines, splitOn_append_cons, splitOn_of_not_mem h]
  rfl

theorem isBlank_of_isBlankLine (h : isBlankLine s = true) : ∀ c ∈ s, isBlank c = true :=
  fun c hc => isBlank_of_isGap (List.all_eq_true.1 h c hc)

theorem blocks_last (h : '\n' ∉ s) :
    blocks s = if isBlankLine s then [[], []] else [[s]] := by
  rw [blocks, splitLines_of_not_mem h, List.splitOnP_cons_eq_if_modifyHead, List.splitOnP_nil]
  rfl

theorem blocks_line (h : '\n' ∉ s) (t : Text) : blocks (s ++ '\n' :: t) =
    if isBlankLine s then [] :: blocks t else (blocks t).modifyHead (s :: ·) := by
  rw [blocks, splitLines_line h, List.splitOnP_cons_eq_if_modifyHead]
  rfl

theorem ofLines_cons {b : List Text} (h : b ≠ []) (s : Text) :
    ofLines (s :: b) = s ++ '\n' :: ofLines b := by
  obtain ⟨u, b, rfl⟩ := List.exists_cons_of_ne_nil h
  rw [ofLines, join_cons_cons, List.append_assoc]
  rfl

/-! ## Parts between blank lines -/

/-- The parts of a text between blank lines. -/
def parts (t : Text) : List Text := splitAll afterBlankLine? t

/-- The text behind a blank line in front. -/
theorem afterBlankLine?_line (h : isBlankLine u = true) (t : Text) :
    afterBlankLine? ('\n' :: (u ++ '\n' :: t)) = some t := by
  have hg : skipGap (u ++ '\n' :: t) = '\n' :: t := by
    rw [skipGap, List.dropWhile_append_of_pos (List.all_eq_true.1 h)]
    rfl
  rw [afterBlankLine?_lineFeed, hg]
  rfl

/-- The first line of a text. -/
def firstLine (t : Text) : Text := t.takeWhile (· ≠ '\n')

theorem firstLine_last (h : '\n' ∉ s) : firstLine s = s :=
  List.takeWhile_eq_self_iff.2 fun _ hc => decide_eq_true fun he => h (he ▸ hc)

theorem firstLine_line (h : '\n' ∉ s) (t : Text) : firstLine (s ++ '\n' :: t) = s := by
  have hs : ∀ c ∈ s, decide (c ≠ '\n') = true := fun _ hc => decide_eq_true fun he => h (he ▸ hc)
  rw [firstLine, List.takeWhile_append_of_pos hs]
  exact List.append_nil s

/-- Where no blank line is found in front of a text, its first line is not blank, or it is the last one. -/
theorem afterBlankLine?_eq_none (h : afterBlankLine? ('\n' :: t) = none)
    (hb : isBlankLine (firstLine t) = true) : '\n' ∉ t := by
  induction t using byLines with
  | last s hs => exact hs
  | line s r hs _ =>
      rw [firstLine_line hs] at hb
      cases h.symm.trans (afterBlankLine?_line hb r)

theorem exists_of_afterBlankLine? {rest : Text} (h : afterBlankLine? ('\n' :: t) = some rest) :
    ∃ u, '\n' ∉ u ∧ isBlankLine u = true ∧ t = u ++ '\n' :: rest := by
  rw [afterBlankLine?_lineFeed] at h
  have hr : skipGap t = '\n' :: rest := after?_eq_some h
  have hg : ∀ c ∈ t.takeWhile isGap, isGap c = true :=
    fun c hc => List.all_eq_true.1 List.all_takeWhile c hc
  refine ⟨t.takeWhile isGap, fun hm => ?_, List.all_takeWhile, ?_⟩
  · cases hg _ hm
  · rw [← hr, skipGap, List.takeWhile_append_dropWhile]

theorem splitFrom_drop (f : Text → Option Text) (x t : Text) :
    splitFrom f x.length (x ++ t) = splitAll f t := by
  induction x with
  | nil => rfl
  | cons c x ih => exact ih

theorem parts_last (h : '\n' ∉ s) : parts s = [s] := by
  induction s with
  | nil => rfl
  | cons c s ih =>
      rw [List.mem_cons, not_or] at h
      have hs := ih h.2
      rw [parts, splitAll] at hs
      rw [parts, splitAll, splitFrom, afterBlankLine?_of_ne (Ne.symm h.1)]
      simp only [hs, consFirst]

theorem parts_ne_nil (t : Text) : parts t ≠ [] := by
  cases t with
  | nil => exact List.cons_ne_nil _ _
  | cons c r =>
      rw [parts, splitAll, splitFrom]
      split
      · exact List.cons_ne_nil _ _
      · unfold consFirst
        split
        · exact List.cons_ne_nil _ _
        · exact List.cons_ne_nil _ _

/-- What stands before a line feed is in one part with it, or ends its part. -/
theorem parts_append (h : '\n' ∉ s) (t : Text) : parts (s ++ '\n' :: t) =
    (parts ('\n' :: t)).modifyHead (s ++ ·) := by
  induction s with
  | nil =>
      obtain ⟨p, ps, hp⟩ := List.exists_cons_of_ne_nil (parts_ne_nil ('\n' :: t))
      rw [List.nil_append, hp]
      rfl
  | cons c s ih =>
      rw [List.mem_cons, not_or] at h
      have hs := ih h.2
      obtain ⟨p, ps, hp⟩ := List.exists_cons_of_ne_nil (parts_ne_nil ('\n' :: t))
      rw [hp] at hs ⊢
      rw [parts, splitAll] at hs
      rw [parts, splitAll, List.cons_append, splitFrom, afterBlankLine?_of_ne (Ne.symm h.1)]
      simp only [hs, List.modifyHead, consFirst, List.cons_append]

theorem parts_line (h : '\n' ∉ s) (hn : afterBlankLine? ('\n' :: t) = none) :
    parts (s ++ '\n' :: t) = (parts t).modifyHead (s ++ '\n' :: ·) := by
  obtain ⟨p, ps, hp⟩ := List.exists_cons_of_ne_nil (parts_ne_nil t)
  have ht : parts ('\n' :: t) = ('\n' :: p) :: ps := by
    rw [parts, splitAll] at hp
    rw [parts, splitAll, splitFrom, hn]
    simp only [hp, consFirst]
  rw [parts_append h, ht, hp]
  rfl

theorem parts_blank (hs : '\n' ∉ s) (hb : isBlankLine u = true) (t : Text) :
    parts (s ++ '\n' :: (u ++ '\n' :: t)) = s :: parts t := by
  have hl : (u ++ '\n' :: t).length - t.length = (u ++ ['\n']).length := by
    rw [List.length_append, List.length_append, List.length_cons, List.length_singleton]
    omega
  have hd := splitFrom_drop afterBlankLine? (u ++ ['\n']) t
  rw [← List.append_cons] at hd
  have ht : parts ('\n' :: (u ++ '\n' :: t)) = [] :: parts t := by
    rw [parts, splitAll, splitFrom, afterBlankLine?_line hb]
    simp only [hl, hd]
    rfl
  rw [parts_append hs, ht]
  simp [List.modifyHead]

/-! ## Blanks around a part -/

theorem trim_append_of_blank {z : Text} (h : ∀ c ∈ z, isBlank c = true) (t : Text) :
    trim (t ++ z) = trim t := by
  have hz : ∀ c ∈ z.reverse, isBlank c = true := fun c hc => h c (List.mem_reverse.1 hc)
  refine trim_congr ?_
  rw [dropEndWhile, List.reverse_append, List.dropWhile_append_of_pos hz]
  rfl

theorem trim_blank_append {z : Text} (h : ∀ c ∈ z, isBlank c = true) (t : Text) :
    trim (z ++ t) = trim t := by
  rw [trim, trim, List.dropWhile_append_of_pos h]

theorem isBlank_line (h : isBlankLine s = true) : ∀ c ∈ s ++ ['\n'], isBlank c = true := by
  intro c hc
  rcases List.mem_append.1 hc with hc | hc
  · exact isBlank_of_isBlankLine h c hc
  · rw [List.mem_singleton.1 hc]
    rfl

/-! ## Parts and groups -/

theorem shown_cons (p : Text) (ps : List Text) : shown (p :: ps) = shown [p] ++ shown ps := by
  rw [shown, List.map_cons, ← List.singleton_append, List.filter_append]
  rfl

theorem shown_of_blank (h : ∀ c ∈ s, isBlank c = true) (ps : List Text) :
    shown (s :: ps) = shown ps := by
  have hs : trim s = [] := by
    have ht := trim_blank_append h []
    rwa [List.append_nil] at ht
  rw [shown, List.map_cons, hs]
  rfl

theorem shown_congr {p q : Text} (h : trim p = trim q) (ps : List Text) :
    shown (p :: ps) = shown (q :: ps) := by
  rw [shown, shown, List.map_cons, List.map_cons, h]

/-- What is shown of blocks of lines. -/
def shownBlocks (bs : List (List Text)) : List Text := shown (bs.map ofLines)

theorem shownBlocks_cons (b : List Text) (bs : List (List Text)) :
    shownBlocks (b :: bs) = shown (ofLines b :: bs.map ofLines) := rfl

/-- Whether the first part of a text is its first block, but for blanks at its end, and the others show what
the other blocks show. -/
def BeginsAlike (t : Text) : Prop :=
  ∃ p ps b bs z, parts t = p :: ps ∧ blocks t = b :: bs ∧ b ≠ [] ∧ p = ofLines b ++ z ∧
    (∀ c ∈ z, isBlank c = true) ∧ shown ps = shownBlocks bs

theorem BeginsAlike.shown_eq (h : BeginsAlike t) : shown (parts t) = shownBlocks (blocks t) := by
  obtain ⟨p, ps, b, bs, z, hp, hb, -, rfl, hz, hs⟩ := h
  rw [hp, hb, shownBlocks_cons, shown_congr (trim_append_of_blank hz _), shown_cons, hs,
    shown_cons (ofLines b) (bs.map ofLines)]
  rfl

/-- A line that is not blank in front of another goes to the first part and to the first block. -/
theorem BeginsAlike.line (h : BeginsAlike t) (hs : '\n' ∉ s) (hb : isBlankLine s = false)
    (hn : afterBlankLine? ('\n' :: t) = none) : BeginsAlike (s ++ '\n' :: t) := by
  obtain ⟨p, ps, b, bs, z, hp, hbs, hne, rfl, hz, hshown⟩ := h
  refine ⟨s ++ '\n' :: (ofLines b ++ z), ps, s :: b, bs, z, ?_, ?_, List.cons_ne_nil s b, ?_, hz,
    hshown⟩
  · rw [parts_line hs hn, hp]
    rfl
  · rw [blocks_line hs, hb, hbs]
    rfl
  · rw [ofLines_cons hne, List.append_assoc]
    rfl

theorem beginsAlike_end (hs : '\n' ∉ s) (hb : isBlankLine s = false) (hu : '\n' ∉ u)
    (hbu : isBlankLine u = true) (hn : afterBlankLine? ('\n' :: u) = none) :
    BeginsAlike (s ++ '\n' :: u) := by
  refine ⟨s ++ '\n' :: u, [], [s], [[]], '\n' :: u, ?_, ?_, List.cons_ne_nil s [], rfl,
    List.forall_mem_cons.2 ⟨rfl, isBlank_of_isBlankLine hbu⟩, rfl⟩
  · rw [parts_line hs hn, parts_last hu]
    rfl
  · rw [blocks_line hs, blocks_last hu, hb, hbu]
    rfl

theorem beginsAlike_blank (hs : '\n' ∉ s) (hb : isBlankLine s = false) (hu : '\n' ∉ u)
    (hbu : isBlankLine u = true) (h : shown (parts t) = shownBlocks (blocks t)) :
    BeginsAlike (s ++ '\n' :: (u ++ '\n' :: t)) := by
  refine ⟨s, parts t, [s], blocks t, [], parts_blank hs hbu t, ?_, List.cons_ne_nil s [],
    (List.append_nil s).symm, fun _ hc => absurd hc List.not_mem_nil, h⟩
  rw [blocks_line hs, blocks_line hu, hb, hbu]
  rfl

theorem beginsAlike_last (hs : '\n' ∉ s) (hb : isBlankLine s = false) : BeginsAlike s := by
  refine ⟨s, [], [s], [], [], parts_last hs, ?_, List.cons_ne_nil s [], (List.append_nil s).symm,
    fun _ hc => absurd hc List.not_mem_nil, rfl⟩
  rw [blocks_last hs, hb]
  rfl

theorem shown_parts_blank (hs : '\n' ∉ s) (hb : isBlankLine s = true)
    (hn : afterBlankLine? ('\n' :: t) = none) : shown (parts (s ++ '\n' :: t)) = shown (parts t) := by
  obtain ⟨p, ps, hp⟩ := List.exists_cons_of_ne_nil (parts_ne_nil t)
  have ht : trim (s ++ '\n' :: p) = trim p := by
    rw [List.append_cons, trim_blank_append (isBlank_line hb)]
  rw [parts_line hs hn, hp]
  exact shown_congr ht ps

/-- The parts of a text show what its blocks show. The induction is on the length: behind a blank line two
lines are done at once. -/
theorem shown_parts (t : Text) : shown (parts t) = shownBlocks (blocks t) ∧
    (isBlankLine (firstLine t) = false → BeginsAlike t) := by
  induction hl : t.length using Nat.strongRecOn generalizing t with
  | ind n ih =>
      suffices h : (isBlankLine (firstLine t) = true → shown (parts t) = shownBlocks (blocks t)) ∧
          (isBlankLine (firstLine t) = false → BeginsAlike t) by
        cases hb : isBlankLine (firstLine t) with
        | true => exact ⟨h.1 hb, fun hf => nomatch hf⟩
        | false => exact ⟨(h.2 hb).shown_eq, fun _ => h.2 hb⟩
      induction t using byLines with
      | last s hs =>
          rw [firstLine_last hs]
          refine ⟨fun hb => ?_, beginsAlike_last hs⟩
          rw [parts_last hs, blocks_last hs, hb, shown_of_blank (isBlank_of_isBlankLine hb)]
          rfl
      | line s r hs _ =>
          have hlr : r.length < n := by
            rw [← hl, List.length_append, List.length_cons]
            omega
          obtain ⟨hr, hbegins⟩ := ih r.length hlr r rfl
          rw [firstLine_line hs]
          cases hn : afterBlankLine? ('\n' :: r) with
          | some rest =>
              obtain ⟨u, hu, hbu, rfl⟩ := exists_of_afterBlankLine? hn
              have hlt : rest.length < n := by
                rw [List.length_append, List.length_cons] at hlr
                omega
              obtain ⟨hrest, -⟩ := ih rest.length hlt rest rfl
              refine ⟨fun hb => ?_, fun hb => beginsAlike_blank hs hb hu hbu hrest⟩
              rw [parts_blank hs hbu, shown_of_blank (isBlank_of_isBlankLine hb), hrest,
                blocks_line hs, blocks_line hu, hb, hbu]
              rfl
          | none =>
              refine ⟨fun hb => ?_, fun hb => ?_⟩
              · rw [shown_parts_blank hs hb hn, hr, blocks_line hs, hb]
                rfl
              · cases hbr : isBlankLine (firstLine r) with
                | false => exact (hbegins hbr).line hs hb hn
                | true =>
                    have hnr := afterBlankLine?_eq_none hn hbr
                    rw [firstLine_last hnr] at hbr
                    exact beginsAlike_end hs hb hnr hbr hn

/-! ## Lines that are shown -/

/-- A blank in front of a text is in front of its first line, or a line that shows nothing. -/
theorem shown_splitLines_cons {c : Char} (hc : isBlank c = true) (t : Text) :
    shown (splitLines (c :: t)) = shown (splitLines t) := by
  by_cases hn : c = '\n'
  · subst hn
    exact (congrArg shown (splitLines_line (s := []) List.not_mem_nil t)).trans
      (shown_of_blank (fun _ h => absurd h List.not_mem_nil) _)
  · obtain ⟨l, ls, hl⟩ := List.exists_cons_of_ne_nil (splitOn_ne_nil '\n' t)
    have hcl : splitLines (c :: t) = (c :: l) :: ls := by
      rw [splitLines, splitOn, if_neg hn, hl]
    rw [hcl, splitLines, hl]
    exact shown_congr (trim_blank_append (List.forall_mem_singleton.2 hc) l) ls

/-- A blank behind a text is behind its last line, or a line that shows nothing. -/
theorem shown_splitLines_concat {c : Char} (hc : isBlank c = true) (t : Text) :
    shown (splitLines (t ++ [c])) = shown (splitLines t) := by
  induction t using byLines with
  | last s hs =>
      rw [splitLines_of_not_mem hs]
      by_cases hn : c = '\n'
      · subst hn
        rw [splitLines_line hs, shown_cons]
        exact List.append_nil _
      · have hsc : '\n' ∉ s ++ [c] := by simp [hs, Ne.symm hn]
        rw [splitLines_of_not_mem hsc]
        exact shown_congr (trim_append_of_blank (List.forall_mem_singleton.2 hc) s) []
  | line s r hs ih =>
      rw [List.append_assoc, List.cons_append, splitLines_line hs, splitLines_line hs, shown_cons, ih,
        shown_cons s (splitLines r)]

/-- To trim a text trims its lines and drops some that show nothing. -/
theorem shown_splitLines_trim (t : Text) : shown (splitLines (trim t)) = shown (splitLines t) := by
  have hfront (z u : Text) (hz : ∀ c ∈ z, isBlank c = true) :
      shown (splitLines (z ++ u)) = shown (splitLines u) := by
    induction z with
    | nil => rfl
    | cons c z ih =>
        obtain ⟨hc, hz⟩ := List.forall_mem_cons.1 hz
        rw [List.cons_append, shown_splitLines_cons hc, ih hz]
  have hback (z u : Text) (hz : ∀ c ∈ z, isBlank c = true) :
      shown (splitLines (u ++ z)) = shown (splitLines u) := by
    induction z generalizing u with
    | nil => rw [List.append_nil]
    | cons c z ih =>
        obtain ⟨hc, hz⟩ := List.forall_mem_cons.1 hz
        rw [List.append_cons, ih _ hz, shown_splitLines_concat hc]
  obtain ⟨z, hz, hb⟩ := dropEndWhile_append_eq isBlank (t.dropWhile isBlank)
  have ht := hfront (t.takeWhile isBlank) (t.dropWhile isBlank) fun c hc =>
    List.all_eq_true.1 List.all_takeWhile c hc
  have hd := hback z (trim t) hb
  rw [List.takeWhile_append_dropWhile] at ht
  rw [trim, ← hz] at hd
  rw [ht, hd, trim]

theorem not_mem_of_mem_splitLines {l : Text} (h : l ∈ splitLines t) : '\n' ∉ l := by
  induction t using byLines with
  | last s hs =>
      rw [splitLines_of_not_mem hs, List.mem_singleton] at h
      exact h ▸ hs
  | line s r hs ih =>
      rw [splitLines_line hs] at h
      rcases List.mem_cons.1 h with rfl | h
      · exact hs
      · exact ih h

theorem splitLines_ofLines {ls : List Text} (hne : ls ≠ []) (h : ∀ l ∈ ls, '\n' ∉ l) :
    splitLines (ofLines ls) = ls := by
  induction ls with
  | nil => exact absurd rfl hne
  | cons l ls ih =>
      obtain ⟨hl, hls⟩ := List.forall_mem_cons.1 h
      by_cases hn : ls = []
      · subst hn
        exact splitLines_of_not_mem hl
      · rw [ofLines_cons hn, splitLines_line hl, ih hn hls]

theorem flatten_splitOnP {α : Type} (p : α → Bool) (xs : List α) :
    (xs.splitOnP p).flatten = xs.filter fun x => !p x := by
  induction xs with
  | nil => rfl
  | cons x xs ih =>
      obtain ⟨b, bs, hb⟩ := List.exists_cons_of_ne_nil (List.splitOnP_ne_nil p xs)
      rw [List.splitOnP_cons_eq_if_modifyHead]
      rw [hb] at ih ⊢
      cases hp : p x with
      | true => simpa [hp] using ih
      | false => simpa [hp] using ih

/-- The lines of the groups are the lines of the text that are not blank, in their order. -/
theorem flatten_groups (t : Text) :
    (groups t).flatten = (splitLines t).filter fun l => !isBlankLine l := by
  rw [← flatten_splitOnP]
  change ((blocks t).filter (· ≠ [])).flatten = (blocks t).flatten
  induction blocks t with
  | nil => rfl
  | cons b bs ih => cases b <;> simp_all

/-- The paragraph of a group shows the lines of the group, in their order, and no other text. -/
theorem shownLines_eq {g : List Text} (h : g ∈ groups t) :
    (shownLines g).filter (· ≠ []) = (g.map trim).filter (· ≠ []) := by
  have hne : g ≠ [] := by simpa using (List.mem_filter.1 h).2
  have hl : ∀ l ∈ g, '\n' ∉ l := by
    intro l hl
    have hm : l ∈ (splitLines t).filter fun l => !isBlankLine l :=
      flatten_groups t ▸ List.mem_flatten_of_mem h hl
    exact not_mem_of_mem_splitLines (List.mem_filter.1 hm).1
  have hs := shown_splitLines_trim (ofLines g)
  rwa [splitLines_ofLines hne hl] at hs

theorem paragraph_eq (t : Text) : paragraph t =
    "<p>".toList ++ join "<br>".toList ((splitLines t).map trim) ++ "</p>".toList := by
  simp [paragraph, element]

/-- The paragraphs of a text are its groups of lines, in their order, but for those with nothing but blanks:
every line that is not blank is in one group, and a paragraph shows what its lines show. -/
theorem paragraphs_are_groups (t : Text) :
    paragraphs t = ((groups t).filter fun g => trim (ofLines g) ≠ []).flatMap
      (fun g => "<p>".toList ++ join "<br>".toList (shownLines g) ++ "</p>".toList) ∧
    (groups t).flatten = (splitLines t).filter (fun l => !isBlankLine l) ∧
    (groups t).map (fun g => (shownLines g).filter (· ≠ [])) =
      (groups t).map fun g => (g.map trim).filter (· ≠ []) := by
  refine ⟨?_, flatten_groups t, List.map_congr_left fun g hg => shownLines_eq hg⟩
  have hp : paragraphs t = (shownBlocks (blocks t)).flatMap paragraph :=
    congrArg (·.flatMap paragraph) (shown_parts t).1
  have hb : (blocks t).filter (fun b => trim (ofLines b) ≠ []) =
      (groups t).filter fun g => trim (ofLines g) ≠ [] := by
    rw [groups, List.filter_filter]
    refine List.filter_congr fun b _ => ?_
    cases b with
    | nil => rfl
    | cons l b => simp
  rw [hp, shownBlocks, shown, List.map_map, List.filter_map, List.flatMap_map, ← hb]
  exact congrArg (List.flatMap · _) (funext fun g => paragraph_eq _)

/-- Blank lines at the start and in a row, and a line that holds a blank of another kind. -/
example : let t := " \n\nA \nB\n\n \n\t\n\u00a0\n\nC\n ".toList
    groups t = [["A ".toList, ['B']], [['\u00a0']], [['C']]] ∧
      paragraphs t = "<p>A<br>B</p><p>C</p>".toList := by
  decide +kernel

end Gamebook.Markup
