import Gamebook.Markup.Style
import Gamebook.Proofs.Html.MediaTag
import Gamebook.Proofs.Text.TokenLine

/-!
# Styled texts

Styling swaps the marks around a span for the tags of an element, and some marks for a single character.
So it keeps the braces and line feeds of a text, with them the tokens, and brings no media tag about.
-/

namespace Gamebook

open Text Piece

namespace Piece

variable {s t : Text}

/-! ## Tokens and marks -/

/-- Whether a text has tokens is seen from its braces and line feeds. -/
theorem insides_filter_eq_nil : insides (ofText (t.filter isMark)) = [] ↔ insides (ofText t) = [] := by
  induction t with
  | nil => rfl
  | cons c t ih =>
      by_cases hb : c = '\x7b'
      · have hc : Closes (t.filter isMark) ↔ Closes t := by
          rw [Closes, Closes, List.filter_filter]
          simp only [Bool.and_self]
        subst hb
        rw [List.filter_cons_of_pos (by decide), insides_brace, insides_brace, List.append_eq_nil_iff,
          List.append_eq_nil_iff, ih]
        refine and_congr_left fun _ => ?_
        by_cases h : Closes t
        · obtain ⟨a, b, rfl, ha⟩ := h.exists_eq
          rw [List.filter_append, ha, List.filter_cons_of_pos (by decide), List.nil_append,
            closed?_append ha]
          simp [closed?]
        · rw [closed?_eq_none h, closed?_eq_none (mt hc.1 h)]
      · rw [insides_cons hb, List.filter_cons]
        split
        · rw [insides_cons hb, ih]
        · exact ih

theorem insides_eq_nil_congr (h : s.filter isMark = t.filter isMark) :
    insides (ofText s) = [] ↔ insides (ofText t) = [] := by
  rw [← insides_filter_eq_nil, h, insides_filter_eq_nil]

/-- A piece with its run rewritten. -/
def mapRun (g : Text → Text) : Piece → Piece
  | plain run => plain (g run)
  | token inner => token inner

theorem insides_mapRun (g : Text → Text) (ps : List Piece) :
    insides (ps.map (mapRun g)) = insides ps := by
  induction ps with
  | nil => rfl
  | cons p ps ih =>
      cases p with
      | plain run => exact ih
      | token inner => exact congrArg (inner :: ·) ih

theorem Divided.mapRun {g : Text → Text} {ps : List Piece} (h : Divided ps)
    (hg : ∀ run, run ≠ [] → g run ≠ []) : Divided (ps.map (mapRun g)) := by
  induction ps with
  | nil => trivial
  | cons p ps ih =>
      cases p with
      | token inner => exact ih h
      | plain run =>
          obtain ⟨hr, hnext, h⟩ := h
          refine ⟨hg run hr, fun s qs he => ?_, ih h⟩
          cases ps with
          | nil => cases he
          | cons p ps =>
              cases p with
              | plain s => exact hnext s ps rfl
              | token inner => cases he

/-- Runs may be rewritten where their braces and line feeds stay: the text keeps its tokens, and the
rewritten runs between them. -/
theorem ofText_flatMap_mapRun {g : Text → Text} (hn : ∀ run, run ≠ [] → g run ≠ [])
    (hg : ∀ run, (g run).filter isMark = run.filter isMark) (t : Text) :
    ofText ((ofText t).flatMap fun p => (mapRun g p).source) = (ofText t).map (mapRun g) := by
  have hp : ∀ q ∈ (ofText t).map (mapRun g), q.Proper := by
    intro q hq
    obtain ⟨p, hp, rfl⟩ := List.mem_map.1 hq
    have hp := proper_of_mem_ofText hp
    cases p with
    | plain run => exact (insides_eq_nil_congr (hg run)).2 hp
    | token inner => exact hp
  have hs : (ofText t).flatMap (fun p => (mapRun g p).source) =
      ((ofText t).map (mapRun g)).flatMap source := (List.flatMap_map ..).symm
  rw [hs, ((divided_ofText t).mapRun hn).ofText_flatMap_source hp]

end Piece

namespace Markup

open Html

/-! ## Parts that styling swaps -/

/-- The marks around the spans of a text. -/
def spanMarks : List Text := [['*', '*'], ['_', '_'], ['*'], ['_']]

/-- The marks that become a single character. -/
def dashMarks : List (Text × Char) :=
  [("---".toList, '\u2014'), ("--".toList, '\u2013'), ("...".toList, '\u2026')]

/-- What styling swaps: a span with its marks for an element, or marks for a character. -/
inductive Styles : Text → Text → Prop
  | span {mark inside : Text} {name : String} : mark ∈ spanMarks → name ∈ ["strong", "em"] →
      Styles (mark ++ inside ++ mark) (element name inside)
  | dash {old : Text} {c : Char} : (old, c) ∈ dashMarks → Styles old [c]

theorem Styles.ne_nil {used new : Text} (h : Styles used new) : new ≠ [] := by
  cases h with
  | span _ _ => exact List.cons_ne_nil _ _
  | dash _ => exact List.cons_ne_nil _ _

theorem Styles.filter_isMark {used new : Text} (h : Styles used new) :
    new.filter isMark = used.filter isMark := by
  cases h with
  | @span mark inside name hm hn =>
      have hall : ∀ m ∈ spanMarks, m.filter isMark = [] := by decide
      have hname : ∀ n ∈ ["strong", "em"], n.toList.filter isMark = [] := by decide
      have hmark := hall mark hm
      have hnm := hname name hn
      simp [element, hmark, hnm, isMark]
  | dash h =>
      have hall : ∀ e ∈ dashMarks, [e.2].filter isMark = e.1.filter isMark := by decide
      exact hall _ h

/-- What styling puts in opens media tags only where the span has them. -/
theorem Styles.seals {used new : Text} (h : Styles used new) : Seals (fun _ => False) used new := by
  cases h with
  | @span mark inside name hm hn =>
      refine ⟨⟨'<', _, rfl, by decide⟩, fun hu t ht => ?_⟩
      have hi : NoMedia inside := (hu.left).suffix (List.suffix_append _ _)
      have hname : ∀ n ∈ ["strong", "em"], '<' ∉ n.toList ++ ['>'] ∧
          ∃ d x, n.toList = d :: x ∧ d.toLower ∉ ['i', 'v'] :=
        List.forall_mem_cons.2 ⟨⟨by decide, 's', "trong".toList, by decide, by decide⟩,
          List.forall_mem_singleton.2 ⟨by decide, 'e', "m".toList, by decide, by decide⟩⟩
      obtain ⟨hb, d, x, hx, hd⟩ := hname name hn
      have he : element name inside ++ t =
          '<' :: (name.toList ++ ['>'] ++ (inside ++ '<' :: '/' :: (name.toList ++ ['>'] ++ t))) := by
        simp [element]
      have hclose : NoMedia ('<' :: '/' :: (name.toList ++ ['>'] ++ t)) :=
        (mediaHas_tag (by decide)).2
          ((mediaHas_cons_of_ne (by decide)).2 ((mediaHas_append_of_not_mem hb).2 ht))
      rw [he, hx, List.cons_append, List.cons_append, mediaHas_tag hd, ← List.cons_append,
        ← List.cons_append, ← hx, mediaHas_append_of_not_mem hb]
      exact hi.append_cons (by decide) hclose
  | dash h =>
      have hall : ∀ e ∈ dashMarks, e.2.isAlpha = false ∧ e.2 ≠ '<' := by decide
      obtain ⟨ha, hb⟩ := hall _ h
      exact ⟨⟨_, _, rfl, ha⟩, fun _ t ht => (mediaHas_cons_of_ne hb).2 ht⟩

/-! ## Styling -/

theorem span?_eq_some {mark t inside rest : Text} {stop : Char}
    (h : span? mark stop t = some (inside, rest)) : t = mark ++ inside ++ mark ++ rest := by
  rw [span?, Option.bind_eq_bind, Option.bind_eq_some_iff] at h
  obtain ⟨r, hr, h⟩ := h
  dsimp only at h
  split at h
  · cases h
  · obtain ⟨behind, hb, he⟩ := Option.map_eq_some_iff.1 h
    cases he
    have hp := List.prefix_append_drop (List.takeWhile_prefix (l := r) fun c => c ≠ stop ∧ c ≠ '\n')
    rw [after?_eq_some hb] at hp
    rw [after?_eq_some hr, List.append_assoc, List.append_assoc, ← hp]

theorem swaps_span {mark t inside rest : Text} {stop : Char} {name : String} (hm : mark ∈ spanMarks)
    (hn : name ∈ ["strong", "em"]) (h : span? mark stop t = some (inside, rest)) :
    ∃ c x, t = c :: x ++ rest ∧ Styles (c :: x) (element name inside) := by
  have hne : ∀ m ∈ spanMarks, m ≠ [] := by decide
  obtain ⟨c, x, hx⟩ := List.exists_cons_of_ne_nil
    (List.append_ne_nil_of_right_ne_nil (mark ++ inside) (hne mark hm))
  exact ⟨c, x, hx ▸ span?_eq_some h, hx ▸ .span hm hn⟩

theorem rewritten_styleSpans (mark name : String) (hm : mark.toList ∈ spanMarks)
    (hn : name ∈ ["strong", "em"]) (stop : Char) (t : Text) :
    Rewritten Styles t (styleSpans mark stop name t) := by
  refine rewritten_replaceMatches (fun _ t new rest hf => ?_) t
  obtain ⟨⟨inside, behind⟩, hs, he⟩ := Option.map_eq_some_iff.1 hf
  cases he
  exact swaps_span hm hn hs

theorem rewritten_italicizeUnderscores (t : Text) : Rewritten Styles t (italicizeUnderscores t) := by
  refine rewritten_replaceMatches (fun before t new rest hf => ?_) t
  split at hf
  · cases hf
  · next inside behind hs =>
      split at hf
      · cases hf
      · cases hf
        exact swaps_span (by decide) (by decide) hs

theorem rewritten_dash {old : Text} {c : Char} (h : (old, c) ∈ dashMarks) (t : Text) :
    Rewritten Styles t (replaceAll old [c] t) := by
  have ho : ∀ e ∈ dashMarks, e.1 ≠ [] := by decide
  exact rewritten_replaceAll (ho _ h) (.dash h) t

theorem reworked_setDashes (t : Text) : Reworked Styles t (setDashes t) := by
  have hlong : Rewritten Styles t (replaceAll "---".toList ['\u2014'] t) :=
    rewritten_dash (by decide) t
  exact ((Relation.ReflTransGen.single hlong).tail (rewritten_dash (by decide) _)).tail
    (rewritten_dash (by decide) _)

theorem reworked_styleRun (run : Text) : Reworked Styles run (styleRun run) := by
  have hb := rewritten_styleSpans "**" "strong" (by decide) (by decide) '*' run
  have hu := rewritten_styleSpans "__" "strong" (by decide) (by decide) '_'
    (styleSpans "**" '*' "strong" run)
  have he := rewritten_styleSpans "*" "em" (by decide) (by decide) '*'
    (styleSpans "__" '_' "strong" (styleSpans "**" '*' "strong" run))
  exact ((((Relation.ReflTransGen.single hb).tail hu).tail he).tail
    (rewritten_italicizeUnderscores _)).trans (reworked_setDashes _)

theorem style_eq (t : Text) : style t = (ofText t).flatMap fun p => (mapRun styleRun p).source := by
  refine List.flatMap_congr fun p _ => ?_
  cases p <;> rfl

theorem reworked_style (t : Text) : Reworked Styles t (style t) := by
  have hp (p : Piece) : Reworked Styles p.source (mapRun styleRun p).source := by
    cases p with
    | plain run => exact reworked_styleRun run
    | token inner => exact .refl
  have h := Reworked.flatMap hp (ofText t)
  rwa [source_ofText, ← style_eq] at h

/-- A styled text has the tokens of the text, and its runs are the runs styled. -/
theorem ofText_style (t : Text) : ofText (style t) = (ofText t).map (mapRun styleRun) := by
  rw [style_eq]
  exact ofText_flatMap_mapRun
    (fun run => (reworked_styleRun run).ne_nil fun _ _ => Styles.ne_nil)
    (fun run => (reworked_styleRun run).filter_eq fun _ _ => Styles.filter_isMark) t

theorem insides_style (t : Text) : insides (ofText (style t)) = insides (ofText t) := by
  rw [ofText_style, insides_mapRun]

theorem noMedia_style {t : Text} (h : NoMedia t) : NoMedia (style t) := by
  generalize style t = s, reworked_style t = hs
  induction hs with
  | refl => exact h
  | tail _ hs ih => exact .of_rewritten (fun _ _ => Styles.seals) hs ih

end Markup
end Gamebook
