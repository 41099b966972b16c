import Gamebook.Text.Line

/-!
# Parts and lines

How the parts of a text between separators, and its lines, come out when texts are put together.
-/

namespace Gamebook.Text

theorem splitOn_ne_nil (sep : Char) (t : Text) : splitOn sep t ≠ [] := by
  cases t with
  | nil => exact List.cons_ne_nil _ _
  | cons c r =>
      rw [splitOn]
      split
      · exact List.cons_ne_nil _ _
      · split <;> exact List.cons_ne_nil _ _

theorem splitOn_of_not_mem {sep : Char} {t : Text} (h : sep ∉ t) : splitOn sep t = [t] := by
  induction t with
  | nil => rfl
  | cons c t ih =>
      rw [List.mem_cons, not_or] at h
      rw [splitOn, if_neg (Ne.symm h.1), ih h.2]

/-- A text before a separator has its own parts. -/
theorem splitOn_append_cons (sep : Char) (t r : Text) :
    splitOn sep (t ++ sep :: r) = splitOn sep t ++ splitOn sep r := by
  induction t with
  | nil => simp [splitOn]
  | cons c t ih =>
      rw [List.cons_append, splitOn, splitOn, ih]
      by_cases hc : c = sep
      · simp [hc]
      · cases hs : splitOn sep t with
        | nil => exact absurd hs (splitOn_ne_nil sep t)
        | cons l ls => simp [hc]

theorem join_cons_cons (sep t u : Text) (ts : List Text) :
    join sep (t :: u :: ts) = t ++ sep ++ join sep (u :: ts) := by
  rw [join]
  exact List.cons_ne_nil _ _

theorem not_mem_join {sep : Text} {ts : List Text} {x : Char} (hs : x ∉ sep)
    (ht : ∀ t ∈ ts, x ∉ t) : x ∉ join sep ts := by
  induction ts with
  | nil => exact List.not_mem_nil
  | cons t ts ih =>
      cases ts with
      | nil => exact ht t (by simp)
      | cons u ts =>
          rw [join_cons_cons]
          have := ih fun v hv => ht v (by simp [hv])
          simp [ht t (by simp), hs, this]

/-! ## Lines -/

/-- Every text is a line without a line feed, or a line and a text behind it. -/
@[elab_as_elim] theorem byLines {motive : Text → Prop} (last : ∀ s, '\n' ∉ s → motive s)
    (line : ∀ s r, '\n' ∉ s → motive r → motive (s ++ '\n' :: r)) (t : Text) : motive t := by
  have h : ∀ u s, '\n' ∉ s → motive (s ++ u) := by
    intro u
    induction u with
    | nil =>
        intro s hs
        rw [List.append_nil]
        exact last s hs
    | cons c u ih =>
        intro s hs
        by_cases hc : c = '\n'
        · subst hc
          exact line s u hs (ih [] (by simp))
        · have hu : s ++ c :: u = (s ++ [c]) ++ u := by simp
          rw [hu]
          exact ih (s ++ [c]) (by simp [hs, Ne.symm hc])
  exact h t [] (by simp)

theorem lines_of_not_mem {s : Text} (h : '\n' ∉ s) : lines s = if s = [] then [] else [s] := by
  induction s with
  | nil => rfl
  | cons c s ih =>
      simp only [List.mem_cons, not_or] at h
      rw [lines, ih h.2, if_neg (Ne.symm h.1)]
      by_cases hs : s = [] <;> simp [hs]

theorem lines_append_cons {s : Text} (h : '\n' ∉ s) (r : Text) :
    lines (s ++ '\n' :: r) = (s ++ ['\n']) :: lines r := by
  induction s with
  | nil => simp [lines]
  | cons c s ih =>
      simp only [List.mem_cons, not_or] at h
      rw [List.cons_append, lines, ih h.2, if_neg (Ne.symm h.1)]
      rfl

/-- How a text is cut into lines: each goes to its line feed and keeps it, and what is left behind the
last line feed is a line as well, unless it is empty. -/
inductive Cut : Text → List Text → Prop
  | done : Cut [] []
  | rest {s : Text} (hs : s ≠ []) (hn : '\n' ∉ s) : Cut s [s]
  | line {s t : Text} {ls : List Text} (hn : '\n' ∉ s) (h : Cut t ls) :
      Cut (s ++ '\n' :: t) ((s ++ ['\n']) :: ls)

/-- A text is cut into its lines and in no other way. -/
theorem cut_iff {t : Text} {ls : List Text} : Cut t ls ↔ ls = lines t := by
  constructor
  · intro h
    induction h with
    | done => rfl
    | rest hs hn => rw [lines_of_not_mem hn, if_neg hs]
    | line hn _ ih => rw [lines_append_cons hn, ih]
  · rintro rfl
    induction t using byLines with
    | last s hn =>
        rw [lines_of_not_mem hn]
        by_cases hs : s = []
        · rw [if_pos hs, hs]
          exact .done
        · rw [if_neg hs]
          exact .rest hs hn
    | line s r hn ih =>
        rw [lines_append_cons hn]
        exact .line hn ih

theorem mem_of_mem_lines {t l : Text} (h : l ∈ lines t) {x : Char} (hx : x ∈ l) : x ∈ t := by
  rw [← flatten_lines t]
  exact List.mem_flatten_of_mem h hx

theorem mem_of_mem_dropLineFeed {l : Text} {x : Char} (h : x ∈ dropLineFeed l) : x ∈ l := by
  unfold dropLineFeed at h
  split at h
  · exact (List.dropLast_prefix l).mem h
  · exact h

theorem dropLineFeed_of_not_mem {s : Text} (h : '\n' ∉ s) : dropLineFeed s = s := by
  rw [dropLineFeed, if_neg fun hl => h (List.mem_of_getLast? hl)]

theorem dropLineFeed_concat (s : Text) : dropLineFeed (s ++ ['\n']) = s := by
  simp [dropLineFeed]

theorem unixLines_of_not_mem {t : Text} (h : '\r' ∉ t) : unixLines t = t := by
  fun_induction unixLines t with
  | case1 => rfl
  | case2 r ih => simp at h
  | case3 c r _ ih =>
      simp only [List.mem_cons, not_or] at h
      rw [ih h.2, if_neg (Ne.symm h.1)]

theorem unixLines_cons {c : Char} (h : c ≠ '\r') (t : Text) :
    unixLines (c :: t) = c :: unixLines t := by
  rw [unixLines]
  · rw [if_neg h]
  · rintro r rfl -
    exact h rfl

theorem unixLines_return {t : Text} (h : t.head? ≠ some '\n') :
    unixLines ('\r' :: t) = '\n' :: unixLines t := by
  rw [unixLines]
  · rfl
  · rintro r - rfl
    exact h rfl

theorem unixLines_append_of_not_mem {s : Text} (h : '\r' ∉ s) (t : Text) :
    unixLines (s ++ t) = s ++ unixLines t := by
  induction s with
  | nil => rfl
  | cons c s ih =>
      rw [List.mem_cons, not_or] at h
      rw [List.cons_append, unixLines_cons (Ne.symm h.1), ih h.2]
      rfl

/-- Line breaks are counted part by part where no part begins with a line feed. -/
theorem unixLines_append (s : Text) {t : Text} (h : t.head? ≠ some '\n') :
    unixLines (s ++ t) = unixLines s ++ unixLines t := by
  fun_induction unixLines s with
  | case1 => rfl
  | case2 r ih => rw [List.cons_append, List.cons_append, unixLines, ih, List.cons_append]
  | case3 c r hr ih =>
      by_cases hc : c = '\r'
      · subst hc
        have hn : (r ++ t).head? ≠ some '\n' := by
          cases r with
          | nil => exact h
          | cons d r =>
              rintro hd
              exact hr r rfl (by rw [← Option.some.inj hd])
        rw [List.cons_append, unixLines_return hn, ih, if_pos rfl]
        rfl
      · rw [List.cons_append, unixLines_cons hc, ih, if_neg hc]
        rfl

/-- To write line breaks as line feeds makes suffixes of suffixes. -/
theorem suffix_unixLines {s t : Text} (h : s <:+ t) : unixLines s <:+ unixLines t := by
  fun_induction unixLines t with
  | case1 =>
      obtain rfl := List.suffix_nil.1 h
      exact List.suffix_refl _
  | case2 r ih =>
      rcases List.suffix_cons_iff.1 h with rfl | h
      · exact List.suffix_refl _
      · rcases List.suffix_cons_iff.1 h with rfl | h
        · exact unixLines_cons (by decide : '\n' ≠ '\r') r ▸ List.suffix_refl _
        · exact (ih h).trans (List.suffix_cons ..)
  | case3 c r hcr ih =>
      rcases List.suffix_cons_iff.1 h with rfl | h
      · exact unixLines.eq_3 c r hcr ▸ List.suffix_refl _
      · exact (ih h).trans (List.suffix_cons ..)

end Gamebook.Text
