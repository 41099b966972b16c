import Mathlib.Logic.Relation
import Gamebook.Text.Brace
import Gamebook.Text.Replace

/-!
# Texts with parts swapped

Where matches are replaced, some parts of a text give way to others and all characters between them
stay in their order. A text that is styled is such a text of such a text, and so on.
-/

namespace Gamebook.Text

/-- Whether the second text is the first with some parts swapped. -/
inductive Rewritten (swaps : Text → Text → Prop) : Text → Text → Prop
  | nil : Rewritten swaps [] []
  | keep (c : Char) {r r' : Text} : Rewritten swaps r r' → Rewritten swaps (c :: r) (c :: r')
  | swap {used new r r' : Text} :
      swaps used new → Rewritten swaps r r' → Rewritten swaps (used ++ r) (new ++ r')

/-- Whether the second text is the first with parts swapped again and again. -/
abbrev Reworked (swaps : Text → Text → Prop) : Text → Text → Prop :=
  Relation.ReflTransGen (Rewritten swaps)

variable {swaps : Text → Text → Prop} {s s' t t' : Text}

namespace Rewritten

theorem refl (t : Text) : Rewritten swaps t t := by
  induction t with
  | nil => exact .nil
  | cons c t ih => exact .keep c ih

theorem append (hs : Rewritten swaps s s') (ht : Rewritten swaps t t') :
    Rewritten swaps (s ++ t) (s' ++ t') := by
  induction hs with
  | nil => exact ht
  | keep c _ ih => exact .keep c ih
  | swap h _ ih =>
      rw [List.append_assoc, List.append_assoc]
      exact .swap h ih

/-- Characters that swapped parts have alike are those of the whole text. -/
theorem filter_eq {p : Char → Bool} (h : Rewritten swaps t t')
    (hp : ∀ used new, swaps used new → new.filter p = used.filter p) : t'.filter p = t.filter p := by
  induction h with
  | nil => rfl
  | keep c _ ih => rw [List.filter_cons, List.filter_cons, ih]
  | swap h _ ih => rw [List.filter_append, List.filter_append, hp _ _ h, ih]

theorem ne_nil (h : Rewritten swaps t t') (hs : ∀ used new, swaps used new → new ≠ [])
    (ht : t ≠ []) : t' ≠ [] := by
  cases h with
  | nil => exact ht
  | keep c _ => exact List.cons_ne_nil c _
  | swap h _ => exact List.append_ne_nil_of_left_ne_nil (hs _ _ h) _

/-- What stands in front of a text whose swapped parts are characters of other kinds stood there before. -/
theorem prefix_of {w : Text} (h : Rewritten swaps t t')
    (hw : ∀ used new, swaps used new → ∃ c, new = [c] ∧ c ∉ w) (hp : w <+: t') : w <+: t := by
  induction h generalizing w with
  | nil => exact hp
  | keep c _ ih =>
      cases w with
      | nil => exact List.nil_prefix
      | cons d w =>
          obtain ⟨rfl, hrest⟩ := List.cons_prefix_cons.1 hp
          have hr : ∀ used new, swaps used new → ∃ c, new = [c] ∧ c ∉ w := by
            intro used new hs
            obtain ⟨c, he, hc⟩ := hw used new hs
            exact ⟨c, he, fun hm => hc (List.mem_cons_of_mem _ hm)⟩
          exact List.cons_prefix_cons.2 ⟨rfl, ih hr hrest⟩
  | swap hs _ _ =>
      obtain ⟨c, rfl, hc⟩ := hw _ _ hs
      cases w with
      | nil => exact List.nil_prefix
      | cons d w => exact absurd (List.cons_prefix_cons.1 hp).1 fun he => hc (he ▸ List.mem_cons_self)

/-- What a text has whose swapped parts are characters of other kinds, it had before. -/
theorem infix_of {w : Text} (h : Rewritten swaps t t') (hn : w ≠ [])
    (hw : ∀ used new, swaps used new → ∃ c, new = [c] ∧ c ∉ w) (hp : w <:+: t') : w <:+: t := by
  induction h with
  | nil => exact hp
  | keep c hr ih =>
      rcases List.infix_cons_iff.1 hp with hp | hp
      · exact (prefix_of (.keep c hr) hw hp).isInfix
      · exact (ih hp).trans (List.suffix_cons ..).isInfix
  | swap hs _ ih =>
      obtain ⟨c, rfl, hc⟩ := hw _ _ hs
      rcases List.infix_cons_iff.1 hp with hp | hp
      · cases w with
        | nil => exact absurd rfl hn
        | cons d w =>
            exact absurd (List.cons_prefix_cons.1 hp).1 fun he => hc (he ▸ List.mem_cons_self)
      · exact (ih hp).trans (List.suffix_append ..).isInfix

end Rewritten

namespace Reworked

theorem append (hs : Reworked swaps s s') (ht : Reworked swaps t t') :
    Reworked swaps (s ++ t) (s' ++ t') := by
  have hl : Reworked swaps (s ++ t) (s' ++ t) :=
    hs.lift (· ++ t) fun _ _ h => h.append (.refl t)
  exact hl.trans (ht.lift (s' ++ ·) fun _ _ h => Rewritten.append (.refl s') h)

theorem filter_eq {p : Char → Bool} (h : Reworked swaps t t')
    (hp : ∀ used new, swaps used new → new.filter p = used.filter p) : t'.filter p = t.filter p := by
  induction h with
  | refl => rfl
  | tail _ h ih => rw [h.filter_eq hp, ih]

theorem ne_nil (h : Reworked swaps t t') (hs : ∀ used new, swaps used new → new ≠ [])
    (ht : t ≠ []) : t' ≠ [] := by
  induction h with
  | refl => exact ht
  | tail _ h ih => exact h.ne_nil hs ih

theorem flatMap {α : Type} {f g : α → Text} (h : ∀ a, Reworked swaps (f a) (g a)) (l : List α) :
    Reworked swaps (l.flatMap f) (l.flatMap g) := by
  induction l with
  | nil => exact .refl
  | cons a l ih => exact (h a).append ih

end Reworked

/-! ## Replacing matches -/

/-- Whether each match of a matcher swaps a part of the text in front of the rest. -/
def Matcher.Swaps (f : Matcher) (swaps : Text → Text → Prop) : Prop :=
  ∀ before t new rest, f before t = some (new, rest) →
    ∃ c x, t = c :: x ++ rest ∧ swaps (c :: x) new

theorem rewritten_replaceFrom {f : Matcher} (hf : f.Swaps swaps) (before : Option Char) (skip : Nat)
    (t : Text) : Rewritten swaps (t.drop skip) (replaceFrom f before skip t) := by
  induction t generalizing before skip with
  | nil =>
      rw [List.drop_nil]
      exact .nil
  | cons c r ih =>
      cases skip with
      | succ skip => exact ih _ skip
      | zero =>
          rw [replaceFrom]
          split
          · next new rest h =>
              obtain ⟨d, x, he, hs⟩ := hf _ _ _ _ h
              have hx : r = x ++ rest := (List.cons.inj he).2
              subst hx
              obtain rfl : c = d := (List.cons.inj he).1
              have hr := ih (some c) ((x ++ rest).length - rest.length)
              rw [List.length_append, Nat.add_sub_cancel, List.drop_left] at hr
              rw [List.length_append, Nat.add_sub_cancel]
              exact .swap hs hr
          · exact .keep c (ih _ 0)

theorem rewritten_replaceMatches {f : Matcher} (hf : f.Swaps swaps) (t : Text) :
    Rewritten swaps t (replaceMatches f t) :=
  rewritten_replaceFrom hf none 0 t

/-- Replacing every occurrence of a text swaps it each time. -/
theorem rewritten_replaceAll {old new : Text} (ho : old ≠ []) (h : swaps old new) (t : Text) :
    Rewritten swaps t (replaceAll old new t) := by
  refine rewritten_replaceMatches (fun _ t x rest hf => ?_) t
  obtain ⟨r, hr, he⟩ := Option.map_eq_some_iff.1 hf
  cases he
  obtain ⟨c, y, rfl⟩ := List.exists_cons_of_ne_nil ho
  exact ⟨c, y, after?_eq_some hr, h⟩

/-! ## Replacing tokens -/

/-- Replacing tokens swaps each token that is replaced. -/
theorem rewritten_replaceTokens {f : Text → Option Text} (ps : List Piece)
    (h : ∀ i new, .token i ∈ ps → f i = some new → swaps (Piece.token i).source new) :
    Rewritten swaps (ps.flatMap Piece.source) (Piece.replaceTokens f ps) := by
  induction ps with
  | nil => exact .nil
  | cons p ps ih =>
      have hps := ih fun i new hi => h i new (List.mem_cons_of_mem _ hi)
      cases p with
      | plain run => exact Rewritten.append (.refl run) hps
      | token i =>
          cases hf : f i with
          | none =>
              have he : Piece.replaceTokens f (.token i :: ps) =
                  (Piece.token i).source ++ Piece.replaceTokens f ps := by
                simp [Piece.replaceTokens, hf]
              rw [he]
              exact Rewritten.append (.refl _) hps
          | some new =>
              have he : Piece.replaceTokens f (.token i :: ps) =
                  new ++ Piece.replaceTokens f ps := by
                simp [Piece.replaceTokens, hf]
              rw [he]
              exact .swap (h i new List.mem_cons_self hf) hps

end Gamebook.Text
