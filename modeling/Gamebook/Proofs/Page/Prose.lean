import Gamebook.Play.Rendering
import Gamebook.Proofs.Page.ChoiceLine
import Gamebook.Proofs.Text.TokenLine

/-!
# The tokens of the prose

A page's prose is its text without the lines that offer choices, line breaks being line feeds. So its
tokens are those that stand on the other lines and hold no carriage return, in their order.
-/

namespace Gamebook

open Text Piece

namespace Choice

/-- The insides of the tokens that a line leaves to the prose: none if it offers a choice. -/
def proseInsides (l : Text) : List Text :=
  if (ofLine? (dropLineFeed l)).isSome then [] else insides (ofText l)

theorem proseInsides_of_not_mem {s : Text} (h : '\n' ∉ s) :
    proseInsides s = if ofLine? s = none then insides (ofText s) else [] := by
  rw [proseInsides, dropLineFeed_of_not_mem h]
  cases ofLine? s <;> rfl

theorem proseInsides_concat (s : Text) :
    proseInsides (s ++ ['\n']) = if ofLine? s = none then insides (ofText s) else [] := by
  rw [proseInsides, dropLineFeed_concat, insides_line s []]
  cases ofLine? s <;> simp [ofText, scan, insides]

theorem insides_lines (t : Text) :
    insides (ofText t) = (lines t).flatMap fun l => insides (ofText l) := by
  induction t using byLines with
  | last s hs =>
      rw [lines_of_not_mem hs]
      split
      · next he => rw [he]; rfl
      · simp
  | line s r hs ih =>
      rw [insides_line, lines_append_cons hs, List.flatMap_cons, ← ih, insides_line s []]
      simp [ofText, scan, insides]

theorem insides_remains (t : Text) :
    insides (ofText (remains t)) = (lines t).flatMap proseInsides := by
  induction t using byLines with
  | last s hs =>
      rw [remains_last hs, lines_of_not_mem hs]
      by_cases he : s = []
      · rw [he]
        rfl
      · rw [if_neg he, List.flatMap_cons, proseInsides_of_not_mem hs, List.flatMap_nil,
          List.append_nil]
        split <;> rfl
  | line s r hs ih =>
      rw [remains_line hs, lines_append_cons hs, List.flatMap_cons, proseInsides_concat, ← ih]
      split
      · rw [List.append_assoc]
        exact insides_line s (remains r)
      · rfl

theorem mem_insides_of_remains {t i : Text} (h : i ∈ insides (ofText (remains t))) :
    i ∈ insides (ofText t) := by
  rw [insides_remains, List.mem_flatMap] at h
  obtain ⟨l, hl, hi⟩ := h
  rw [insides_lines, List.mem_flatMap]
  refine ⟨l, hl, ?_⟩
  unfold proseInsides at hi
  split at hi
  · cases hi
  · exact hi

end Choice

namespace Page

variable {p : Page} {i : Text}

theorem prose_eq_remains (p : Page) : p.prose = Choice.remains (unixLines p.content.toList) := by
  rw [prose, Choice.split_eq]

theorem mem_insides_of_prose (h : i ∈ insides (ofText p.prose)) :
    i ∈ insides (ofText p.content.toList) := by
  rw [prose_eq_remains] at h
  have hu := Choice.mem_insides_of_remains h
  rw [insides_unixLines] at hu
  exact (List.mem_filter.1 hu).1

end Page
end Gamebook
