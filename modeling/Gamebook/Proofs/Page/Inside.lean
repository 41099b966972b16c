import Gamebook.Play.Rendering
import Gamebook.Proofs.Page.ChoiceLine

/-!
# What stands inside a line

Whether a line offers a choice is decided by its first characters. So a part of a text that stands on
one line and begins with a brace is prose or is no prose whatever follows that brace, and what stands
around it is the same prose.
-/

namespace Gamebook

open Text

namespace Choice

variable {s t line : Text}

/-- Whether a text begins as the line of a choice does: with a letter and a closing parenthesis. -/
def Starts (t : Text) : Prop :=
  ∃ ch r, t = ch :: ')' :: r ∧ (Letter.ofChar? ch.toLower).isSome = true

/-- A line offers a choice exactly if it begins as one and more follows. -/
theorem isSome_ofLine?_iff : (ofLine? line).isSome = true ↔
    Starts line ∧ ¬ (line.drop 2 = [] ∨ '\n' ∈ line.drop 2) := by
  unfold ofLine?
  split
  · next ch r =>
      have hs : Starts (ch :: ')' :: r) ↔ (Letter.ofChar? ch.toLower).isSome = true := by
        constructor
        · rintro ⟨ch', r', he, h⟩
          cases he
          exact h
        · exact fun h => ⟨ch, r, rfl, h⟩
      rw [hs]
      cases Letter.ofChar? ch.toLower with
      | none => simp
      | some l =>
          by_cases hr : r = [] ∨ '\n' ∈ r
          · simp only [if_pos hr]
            exact ⟨nofun, fun h => absurd hr h.2⟩
          · simp only [if_neg hr]
            refine ⟨fun _ => ⟨rfl, hr⟩, fun _ => ?_⟩
            cases splitTarget? (skipGap r) <;> rfl
  · next hn =>
      refine ⟨nofun, ?_⟩
      rintro ⟨⟨ch, r, he, -⟩, -⟩
      exact absurd he (hn ch r)

/-- A brace decides nothing about whether its line offers a choice, and what stands behind it neither. -/
theorem isSome_ofLine?_brace (s m : Text) (h : '\n' ∉ s ++ '\x7b' :: m) :
    (ofLine? (s ++ '\x7b' :: m)).isSome = true ↔ Starts s := by
  rw [isSome_ofLine?_iff]
  constructor
  · rintro ⟨⟨ch, r, he, hl⟩, -⟩
    match s with
    | [] =>
        cases he
        cases hl
    | [a] => cases he
    | a :: b :: s =>
        cases he
        exact ⟨_, s, rfl, hl⟩
  · rintro ⟨ch, r, rfl, hl⟩
    refine ⟨⟨ch, r ++ '\x7b' :: m, rfl, hl⟩, fun hr => ?_⟩
    rcases hr with hr | hr
    · simp at hr
    · exact h (List.mem_of_mem_drop hr)

theorem ofLine?_brace_congr {s m m' : Text} (h : '\n' ∉ s ++ '\x7b' :: m)
    (h' : '\n' ∉ s ++ '\x7b' :: m') :
    ofLine? (s ++ '\x7b' :: m) = none ↔ ofLine? (s ++ '\x7b' :: m') = none := by
  rw [← Option.not_isSome_iff_eq_none, ← Option.not_isSome_iff_eq_none,
    isSome_ofLine?_brace s m h, isSome_ofLine?_brace s m' h']

/-- Around a part that begins with a brace and has no line feed, the same remains, and the part itself
remains or it does not, whatever follows its brace. -/
theorem remains_inside (s t : Text) :
    (∃ x, ∀ m, '\n' ∉ m → remains (s ++ '\x7b' :: (m ++ t)) = x) ∨
      ∃ x y, ∀ m, '\n' ∉ m → remains (s ++ '\x7b' :: (m ++ t)) = x ++ '\x7b' :: (m ++ y) := by
  induction s using byLines with
  | line a r ha ih =>
      have hs (m : Text) : remains ((a ++ '\n' :: r) ++ '\x7b' :: (m ++ t)) =
          (if ofLine? a = none then a ++ ['\n'] else []) ++ remains (r ++ '\x7b' :: (m ++ t)) := by
        rw [List.append_assoc, List.cons_append, remains_line ha]
      rcases ih with ⟨x, h⟩ | ⟨x, y, h⟩
      · exact .inl ⟨_, fun m hm => by rw [hs, h m hm]⟩
      · exact .inr ⟨_, y, fun m hm => by rw [hs, h m hm, ← List.append_assoc]⟩
  | last a ha =>
      -- the line on which the part stands goes on to the first line feed behind it
      have hline {b m : Text} (hb : '\n' ∉ b) (hm : '\n' ∉ m) : '\n' ∉ a ++ '\x7b' :: (m ++ b) := by
        simp [ha, hb, hm]
      have hcongr {b m : Text} (hb : '\n' ∉ b) (hm : '\n' ∉ m) :
          ofLine? (a ++ '\x7b' :: (m ++ b)) = none ↔ ofLine? (a ++ ['\x7b']) = none :=
        ofLine?_brace_congr (hline hb hm) (by simp [ha])
      by_cases hn : ofLine? (a ++ ['\x7b']) = none
      · right
        induction t using byLines with
        | last b hb =>
            refine ⟨a, b, fun m hm => ?_⟩
            rw [remains_last (hline hb hm), if_pos ((hcongr hb hm).2 hn)]
        | line b r hb _ =>
            refine ⟨a, b ++ '\n' :: remains r, fun m hm => ?_⟩
            have he : a ++ '\x7b' :: (m ++ (b ++ '\n' :: r)) =
                (a ++ '\x7b' :: (m ++ b)) ++ '\n' :: r := by simp
            rw [he, remains_line (hline hb hm), if_pos ((hcongr hb hm).2 hn)]
            simp
      · left
        induction t using byLines with
        | last b hb =>
            refine ⟨[], fun m hm => ?_⟩
            rw [remains_last (hline hb hm), if_neg (mt (hcongr hb hm).1 hn)]
        | line b r hb _ =>
            refine ⟨remains r, fun m hm => ?_⟩
            have he : a ++ '\x7b' :: (m ++ (b ++ '\n' :: r)) =
                (a ++ '\x7b' :: (m ++ b)) ++ '\n' :: r := by simp
            rw [he, remains_line (hline hb hm), if_neg (mt (hcongr hb hm).1 hn), List.nil_append]

end Choice

/-- The prose of pages that differ in a part of one line, behind the brace that it begins with, is the
same or differs in that part. -/
theorem Page.prose_inside (a c : Text) :
    (∃ x, ∀ m, '\n' ∉ m → '\r' ∉ m →
      (Page.ofSource (String.ofList (a ++ '\x7b' :: (m ++ c)))).prose = x) ∨
    ∃ x y, ∀ m, '\n' ∉ m → '\r' ∉ m →
      (Page.ofSource (String.ofList (a ++ '\x7b' :: (m ++ c)))).prose = x ++ '\x7b' :: (m ++ y) := by
  have hp {m : Text} (hr : '\r' ∉ m) :
      (Page.ofSource (String.ofList (a ++ '\x7b' :: (m ++ c)))).prose =
        Choice.remains (unixLines a ++ '\x7b' :: (m ++ unixLines c)) := by
    have hb : '\r' ∉ '\x7b' :: m := by simp [hr]
    have hu : unixLines (a ++ ('\x7b' :: m ++ c)) = unixLines a ++ ('\x7b' :: m ++ unixLines c) := by
      rw [unixLines_append a (by simp), unixLines_append_of_not_mem hb]
    rw [Page.prose, Page.ofSource, Choice.split_eq, String.toList_ofList]
    exact congrArg Choice.remains hu
  rcases Choice.remains_inside (unixLines a) (unixLines c) with ⟨x, h⟩ | ⟨x, y, h⟩
  · exact .inl ⟨x, fun m hn hr => (hp hr).trans (h m hn)⟩
  · exact .inr ⟨x, y, fun m hn hr => (hp hr).trans (h m hn)⟩

end Gamebook
