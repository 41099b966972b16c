import Gamebook.Proofs.Directive.Around
import Gamebook.Proofs.Markup.Styled

/-!
# What styling keeps and what it clears

Styling works on the runs between the tokens of a text. So the tokens stay where they are, with the
assets that they name, and so do the line feeds and braces; and as hyphens and dots are replaced last,
no run has two hyphens together or three dots.
-/

namespace Gamebook

open Text Piece

/-! ## Replaced marks -/

theorem Text.rewritten_character {old : Text} (ho : old ≠ []) (c : Char) (t : Text) :
    Rewritten (fun _ new => new = [c]) t (replaceAll old [c] t) := by
  refine rewritten_replaceAll ho ?_ t
  rfl

/-- Replacing a text by a character that it does not have leaves none of it. -/
theorem Text.not_infix_replaceAll {old : Text} {c : Char} (ho : old ≠ []) (hc : c ∉ old) (t : Text) :
    ¬ old <:+: replaceAll old [c] t := by
  have hfront {t : Text} (h : old <+: c :: t) : False := by
    cases old with
    | nil => exact ho rfl
    | cons d old => exact hc ((List.cons_prefix_cons.1 h).1 ▸ List.mem_cons_self)
  -- The induction is on the length, as what stands behind an occurrence is shorter by all of it.
  induction hn : t.length using Nat.strong_induction_on generalizing t with
  | _ n ih =>
      by_cases hp : old <+: t
      · obtain ⟨rest, rfl⟩ := hp
        have hrest : rest.length < n := by
          have := List.length_pos_iff.2 ho
          rw [List.length_append] at hn
          omega
        rw [replaceAll_append ho, List.singleton_append, List.infix_cons_iff]
        rintro (h | h)
        · exact hfront h
        · exact ih _ hrest rest rfl h
      · cases t with
        | nil => exact fun h => ho (List.infix_nil.1 h)
        | cons a r =>
            have hr : r.length < n := hn ▸ Nat.lt_succ_self _
            rw [replaceAll_cons hp, List.infix_cons_iff]
            rintro (h | h)
            · -- What stands in front of the replaced text stood in front of the text itself.
              have hw : Rewritten (fun _ new => new = [c]) (a :: r) (a :: replaceAll old [c] r) :=
                .keep a (rewritten_character ho c r)
              exact hp (hw.prefix_of (fun _ _ he => ⟨c, he, hc⟩) h)
            · exact ih _ hr r rfl h

namespace Markup

/-- No run has two hyphens together once it is styled, or three dots. -/
theorem not_infix_styleRun (run : Text) :
    ¬ ['-', '-'] <:+: styleRun run ∧ ¬ ['.', '.', '.'] <:+: styleRun run := by
  rw [styleRun]
  generalize italicizeUnderscores _ = t
  refine ⟨fun h => ?_, not_infix_replaceAll (by decide) (by decide) _⟩
  -- The dots are replaced after the hyphens, and by no hyphen.
  have hd := (rewritten_character (by decide) _ _).infix_of (by decide) (fun _ _ he => ⟨_, he, by decide⟩) h
  exact not_infix_replaceAll (by decide) (by decide) _ hd

theorem assets_style (t : Text) : Directive.assets (style t) = Directive.assets t := by
  rw [Directive.assets, Directive.assets, Find.gather_eq_insides, Find.gather_eq_insides,
    insides_style]

/-- Styling keeps the tokens of a text, with its assets, its braces and its line feeds; what stands
between the tokens has no two hyphens together, and no three dots. -/
theorem style_keeps_tokens (t : Text) :
    insides (ofText (style t)) = insides (ofText t) ∧
      Directive.assets (style t) = Directive.assets t ∧
      (style t).filter isMark = t.filter isMark ∧
      ∀ run, .plain run ∈ ofText (style t) → ¬ ['-', '-'] <:+: run ∧ ¬ ['.', '.', '.'] <:+: run := by
  refine ⟨insides_style t, assets_style t,
    (reworked_style t).filter_eq fun _ _ => Styles.filter_isMark, fun run hr => ?_⟩
  rw [ofText_style] at hr
  obtain ⟨p, -, he⟩ := List.mem_map.1 hr
  cases p with
  | plain s =>
      cases he
      exact not_infix_styleRun s
  | token inner => cases he

end Markup
end Gamebook
