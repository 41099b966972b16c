import Gamebook.Proofs.Text.Brace
import Gamebook.Proofs.Text.Line

/-!
# Tokens and lines

A token stands on one line, so the tokens of a text are those of its lines. To write every line break
as a line feed breaks up the tokens that hold a carriage return, and brings none about.
-/

namespace Gamebook.Piece

open Text

variable {inner t : Text}

/-- What stands before the closing brace with which a text ends a token, if it does. -/
def closed? : Text → Option Text
  | [] => none
  | c :: r =>
    if c = '\x7d' then some [] else if isMark c then none else (closed? r).map (c :: ·)

theorem closed?_append (h : inner.filter isMark = []) (t : Text) :
    closed? (inner ++ '\x7d' :: t) = some inner := by
  induction inner with
  | nil => rfl
  | cons c inner ih =>
      have hc : ¬ isMark c = true := List.filter_eq_nil_iff.1 h c List.mem_cons_self
      have hb : c ≠ '\x7d' := fun he => hc (he ▸ rfl)
      have hi : inner.filter isMark = [] := by rwa [List.filter_cons_of_neg hc] at h
      rw [List.cons_append, closed?, if_neg hb, if_neg hc, ih hi]
      rfl

theorem closed?_eq_none (h : ¬ Closes t) : closed? t = none := by
  induction t with
  | nil => rfl
  | cons c t ih =>
      rw [closes_cons, not_or, not_and] at h
      rw [closed?, if_neg h.1]
      split
      · rfl
      · next hc => rw [ih (h.2 (Bool.eq_false_iff.2 hc))]; rfl

theorem insides_cons {c : Char} (h : c ≠ '\x7b') (t : Text) :
    insides (ofText (c :: t)) = insides (ofText t) := by
  rw [ofText_cons fun he => absurd he h, insides_consPlain]

theorem insides_append_of_not_mem {s : Text} (h : '\x7b' ∉ s) (t : Text) :
    insides (ofText (s ++ t)) = insides (ofText t) := by
  induction s with
  | nil => rfl
  | cons c s ih =>
      simp only [List.mem_cons, not_or] at h
      obtain ⟨hc, hs⟩ := h
      rw [List.cons_append, insides_cons (Ne.symm hc), ih hs]

theorem insides_brace (t : Text) :
    insides (ofText ('\x7b' :: t)) = (closed? t).toList ++ insides (ofText t) := by
  by_cases h : Closes t
  · obtain ⟨a, b, rfl, ha⟩ := h.exists_eq
    have hn : '\x7b' ∉ a := fun hm => List.filter_eq_nil_iff.1 ha _ hm rfl
    rw [ofText_token ha, closed?_append ha, insides_append_of_not_mem hn, insides_cons (by decide)]
    rfl
  · rw [ofText_cons fun _ => h, insides_consPlain, closed?_eq_none h]
    rfl

/-! ## Lines -/

theorem closed?_line (s r : Text) : closed? (s ++ '\n' :: r) = closed? s := by
  induction s with
  | nil => rfl
  | cons c s ih => rw [List.cons_append, closed?, ih, closed?]

theorem insides_line (s r : Text) :
    insides (ofText (s ++ '\n' :: r)) = insides (ofText s) ++ insides (ofText r) := by
  induction s with
  | nil => exact insides_cons (by decide) r
  | cons c s ih =>
      rw [List.cons_append]
      by_cases hc : c = '\x7b'
      · subst hc
        rw [insides_brace, insides_brace, closed?_line, ih, List.append_assoc]
      · rw [insides_cons hc, insides_cons hc, ih]

/-! ## Line breaks -/

/-- Whether an inside stays whole when carriage returns become line feeds. -/
def isWhole (i : Text) : Bool := '\r' ∉ i

theorem closed?_unixLines (t : Text) : closed? (unixLines t) = (closed? t).filter isWhole := by
  fun_induction unixLines t with
  | case1 => rfl
  | case2 r ih => rfl
  | case3 c r _ ih =>
      rw [closed?, closed?, ih]
      by_cases hr : c = '\r'
      · subst hr
        cases closed? r <;> simp [isMark, isWhole, Option.filter]
      · rw [if_neg hr]
        by_cases hb : c = '\x7d'
        · rw [if_pos hb, if_pos hb]
          rfl
        · rw [if_neg hb, if_neg hb]
          cases isMark c with
          | true => rfl
          | false =>
              have hw (i : Text) : isWhole (c :: i) = isWhole i := by simp [isWhole, Ne.symm hr]
              cases closed? r with
              | none => rfl
              | some i => cases h : isWhole i <;> simp [Option.filter, hw, h]

/-- The tokens of a text whose line breaks are all line feeds are those that held no carriage
return. -/
theorem insides_unixLines (t : Text) :
    insides (ofText (unixLines t)) = (insides (ofText t)).filter isWhole := by
  fun_induction unixLines t with
  | case1 => rfl
  | case2 r ih =>
      rw [insides_cons (by decide), ih, insides_cons (by decide), insides_cons (by decide)]
  | case3 c r _ ih =>
      by_cases hc : c = '\x7b'
      · subst hc
        rw [if_neg (by decide), insides_brace, insides_brace, closed?_unixLines, ih,
          List.filter_append]
        cases closed? r with
        | none => rfl
        | some i => cases h : isWhole i <;> simp [Option.filter, h]
      · have hu : (if c = '\r' then '\n' else c) ≠ '\x7b' := by
          split
          · decide
          · exact hc
        rw [insides_cons hu, insides_cons hc, ih]

end Gamebook.Piece
