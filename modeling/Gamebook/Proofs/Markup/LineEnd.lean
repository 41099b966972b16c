import Gamebook.Markup.Paragraph
import Gamebook.Markup.Placeholder
import Gamebook.Proofs.Text.LineEnd
import Gamebook.Proofs.Text.Trim

/-!
# Markup and the end of a text

Styles and placeholders leave a line feed at the end of a text where it is, and paragraphs are the
same with it and without it.
-/

namespace Gamebook.Markup

open Text

/-! ## Styles -/

theorem span?_lineEnd {mark : Text} (hm : '\n' ∉ mark) (stop : Char) (t : Text) :
    span? mark stop (t ++ ['\n']) =
      (span? mark stop t).map fun (inside, rest) => (inside, rest ++ ['\n']) := by
  simp only [span?, after?_lineEnd hm]
  cases after? mark t with
  | none => rfl
  | some r =>
      have ht : (r ++ ['\n']).takeWhile (fun c => c ≠ stop ∧ c ≠ '\n') =
          r.takeWhile fun c => c ≠ stop ∧ c ≠ '\n' :=
        takeWhile_lineEnd (by simp) r
      have hl : (r.takeWhile fun c => c ≠ stop ∧ c ≠ '\n').length ≤ r.length :=
        (List.takeWhile_prefix _).length_le
      simp only [Option.map_some, Option.bind_eq_bind, Option.bind_some, ht]
      split
      · rfl
      · rw [List.drop_append_of_le_length hl, after?_lineEnd hm, Option.map_map, Option.map_map]
        rfl

theorem span?_alone {mark : Text} (hm : '\n' ∉ mark) (hn : mark ≠ []) (stop : Char) :
    span? mark stop ['\n'] = none := by
  cases mark with
  | nil => exact absurd rfl hn
  | cons p ps =>
      simp only [List.mem_cons, not_or] at hm
      simp [span?, after?, Ne.symm hm.1]

theorem keepsLineEnd_styleSpans {mark : String} (hm : '\n' ∉ mark.toList) (hn : mark.toList ≠ [])
    (stop : Char) (name : String) : KeepsLineEnd (styleSpans mark stop name) := by
  refine keepsLineEnd_replaceMatches ⟨fun _ c r => ?_, fun _ => ?_⟩
  · rw [span?_lineEnd hm, Option.map_map, Option.map_map]
    rfl
  · rw [span?_alone hm hn]
    rfl

theorem keepsLineEnd_italicizeUnderscores : KeepsLineEnd italicizeUnderscores := by
  have hw : isWordLetter '\n' = false := by decide +kernel
  refine keepsLineEnd_replaceMatches ⟨fun before c r => ?_, fun _ => ?_⟩
  · rw [span?_lineEnd (by decide)]
    cases span? ['_'] '_' (c :: r) with
    | none => rfl
    | some found =>
        obtain ⟨inside, rest⟩ := found
        have hr : (rest ++ ['\n']).head?.any isWordLetter = rest.head?.any isWordLetter := by
          cases rest with
          | nil => simp [hw]
          | cons c rest => rfl
        simp only [Option.map_some, hr]
        split <;> rfl
  · rw [span?_alone (by decide) (by decide)]

theorem keepsLineEnd_styleRun : KeepsLineEnd styleRun := by
  have hd : KeepsLineEnd setDashes :=
    (keepsLineEnd_replaceAll _ (by decide) (by decide)).comp
      ((keepsLineEnd_replaceAll _ (by decide) (by decide)).comp
        (keepsLineEnd_replaceAll _ (by decide) (by decide)))
  exact hd.comp (keepsLineEnd_italicizeUnderscores.comp
    ((keepsLineEnd_styleSpans (by decide) (by decide) _ _).comp
      ((keepsLineEnd_styleSpans (by decide) (by decide) _ _).comp
        (keepsLineEnd_styleSpans (by decide) (by decide) _ _))))

theorem keepsLineEnd_style : KeepsLineEnd style := by
  intro t
  have hn : styleRun ['\n'] = ['\n'] := keepsLineEnd_styleRun []
  rw [style, Piece.ofText_lineEnd]
  exact Piece.flatMap_addLineEnd (fun run => keepsLineEnd_styleRun run) hn _

theorem keepsLineEnd_placeholders (config : RenderConfig) : KeepsLineEnd (placeholders config) :=
  Piece.keepsLineEnd_replaceTokens _

/-! ## Paragraphs -/

/-- What is shown of parts: the trimmed ones that are not empty. -/
def shown (ps : List Text) : List Text := (ps.map trim).filter (· ≠ [])

theorem skipGap_of_gaps {t : Text} (h : t.all isGap = true) : skipGap t = [] := by
  have hg : (t ++ []).dropWhile isGap = [] := List.dropWhile_append_of_pos (List.all_eq_true.1 h)
  rwa [List.append_nil] at hg

theorem skipGap_of_not_gaps {t : Text} (h : ¬ t.all isGap = true) (s : Text) :
    ∃ c r, skipGap t = c :: r ∧ skipGap (t ++ s) = c :: r ++ s := by
  induction t with
  | nil => exact absurd rfl h
  | cons d t ih =>
      by_cases hd : isGap d = true
      · simp only [skipGap, List.cons_append, List.dropWhile_cons_of_pos hd] at ih ⊢
        exact ih fun ht => h (by simp [hd, ht])
      · exact ⟨d, t, List.dropWhile_cons_of_neg hd, List.dropWhile_cons_of_neg hd⟩

theorem afterBlankLine?_lineFeed (r : Text) :
    afterBlankLine? ('\n' :: r) = after? ['\n'] (skipGap r) := by
  simp only [afterBlankLine?]
  split
  · next h => rw [h]; rfl
  · next h =>
    cases hr : skipGap r with
    | nil => rfl
    | cons d rest =>
        have hd : '\n' ≠ d := fun hd => h rest (hd ▸ hr)
        simp [after?, hd]

theorem afterBlankLine?_of_ne {c : Char} (hc : c ≠ '\n') (r : Text) :
    afterBlankLine? (c :: r) = none := by
  unfold afterBlankLine?
  split
  · next h => cases h; exact absurd rfl hc
  · rfl

/-- A line feed behind a text ends a blank line or stays in what follows one. -/
theorem afterBlankLine?_lineEnd (c : Char) (r : Text) :
    afterBlankLine? (c :: r ++ ['\n']) =
      if c = '\n' ∧ r.all isGap = true then some []
      else (afterBlankLine? (c :: r)).map (· ++ ['\n']) := by
  by_cases hc : c = '\n'
  · subst hc
    rw [List.cons_append, afterBlankLine?_lineFeed, afterBlankLine?_lineFeed]
    by_cases hr : r.all isGap = true
    · have hg : skipGap (r ++ ['\n']) = ['\n'] := by
        rw [skipGap, List.dropWhile_append_of_pos (List.all_eq_true.1 hr)]
        rfl
      rw [hg, if_pos ⟨rfl, hr⟩]
      rfl
    · obtain ⟨d, rest, h₁, h₂⟩ := skipGap_of_not_gaps hr ['\n']
      rw [h₁, h₂, if_neg fun h => hr h.2]
      by_cases hd : '\n' = d <;> simp [after?, hd]
  · rw [List.cons_append, afterBlankLine?_of_ne hc, afterBlankLine?_of_ne hc,
      if_neg fun h => hc h.1]
    rfl

theorem splitFrom_skipped (f : Text → Option Text) {t : Text} {skip : Nat} (h : t.length ≤ skip) :
    splitFrom f skip t = [[]] := by
  induction t generalizing skip with
  | nil => rfl
  | cons c t ih =>
      cases skip with
      | zero => cases h
      | succ skip => exact ih (Nat.le_of_succ_le_succ h)

theorem splitFrom_gaps {t : Text} (h : t.all isGap = true) :
    splitFrom afterBlankLine? 0 t = [t] := by
  induction t with
  | nil => rfl
  | cons c t ih =>
      simp only [List.all_cons, Bool.and_eq_true] at h
      have hn : afterBlankLine? (c :: t) = none := by
        refine afterBlankLine?_of_ne ?_ t
        rintro rfl
        cases h.1
      simp only [splitFrom, hn, ih h.2]
      rfl

theorem dropEndWhile_cons_congr {p : Char → Bool} {s t : Text}
    (h : dropEndWhile p s = dropEndWhile p t) (c : Char) :
    dropEndWhile p (c :: s) = dropEndWhile p (c :: t) := by
  rw [dropEndWhile_cons, dropEndWhile_cons, h]

/-- The induction is on the text and keeps the first part, up to blanks at its end, apart from what is
shown of the others: the first part is the one that still grows. -/
theorem splitFrom_lineEnd (t : Text) {skip : Nat} (hs : skip ≤ t.length) :
    ∃ p ps q qs, splitFrom afterBlankLine? skip t = p :: ps ∧
      splitFrom afterBlankLine? skip (t ++ ['\n']) = q :: qs ∧
      dropEndWhile isBlank q = dropEndWhile isBlank p ∧ shown qs = shown ps := by
  induction t generalizing skip with
  | nil =>
      cases Nat.le_zero.1 hs
      exact ⟨[], [], ['\n'], [], rfl, rfl, rfl, rfl⟩
  | cons c r ih =>
      cases skip with
      | succ skip => exact ih (Nat.le_of_succ_le_succ hs)
      | zero =>
          have hf := afterBlankLine?_lineEnd c r
          rw [List.cons_append] at hf ⊢
          by_cases hb : c = '\n' ∧ r.all isGap = true
          · obtain ⟨rfl, hr⟩ := hb
            have hn : afterBlankLine? ('\n' :: r) = none := by
              rw [afterBlankLine?_lineFeed, skipGap_of_gaps hr]
              rfl
            rw [if_pos ⟨rfl, hr⟩] at hf
            refine ⟨'\n' :: r, [], [], [[]], ?_, ?_, ?_, rfl⟩
            · simp only [splitFrom, hn, splitFrom_gaps hr]
              rfl
            · simp only [splitFrom, hf]
              rw [splitFrom_skipped _ (by simp)]
            · refine (dropEndWhile_eq_nil fun d hd => ?_).symm
              rcases List.mem_cons.1 hd with rfl | hd
              · rfl
              · exact isBlank_of_isGap (List.all_eq_true.1 hr d hd)
          · rw [if_neg hb] at hf
            cases ha : afterBlankLine? (c :: r) with
            | none =>
                rw [ha, Option.map_none] at hf
                obtain ⟨p, ps, q, qs, h₁, h₂, h₃, h₄⟩ := ih (Nat.zero_le _)
                refine ⟨c :: p, ps, c :: q, qs, ?_, ?_, dropEndWhile_cons_congr h₃ c, h₄⟩
                · simp only [splitFrom, ha, h₁]
                  rfl
                · simp only [splitFrom, hf, h₂]
                  rfl
            | some rest =>
                rw [ha, Option.map_some] at hf
                obtain ⟨p, ps, q, qs, h₁, h₂, h₃, h₄⟩ := ih (Nat.sub_le r.length rest.length)
                refine ⟨[], p :: ps, [], q :: qs, ?_, ?_, rfl, ?_⟩
                · simp only [splitFrom, ha, h₁]
                · simp only [splitFrom, hf, List.length_append, Nat.add_sub_add_right, h₂]
                · have ht := trim_congr h₃
                  simp only [shown, List.map_cons, List.filter_cons, ht] at h₄ ⊢
                  rw [h₄]

/-- Paragraphs are the same with a line feed at the end of the text and without it. -/
theorem paragraphs_lineEnd (t : Text) : paragraphs (t ++ ['\n']) = paragraphs t := by
  obtain ⟨p, ps, q, qs, h₁, h₂, h₃, h₄⟩ := splitFrom_lineEnd t (Nat.zero_le _)
  have hs : shown (splitAll afterBlankLine? (t ++ ['\n'])) = shown (splitAll afterBlankLine? t) := by
    rw [splitAll, splitAll, h₁, h₂]
    simp only [shown, List.map_cons, List.filter_cons, trim_congr h₃] at h₄ ⊢
    rw [h₄]
  exact congrArg (·.flatMap paragraph) hs

end Gamebook.Markup
