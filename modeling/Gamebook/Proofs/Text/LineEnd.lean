import Gamebook.Proofs.Text.Line
import Gamebook.Text.Brace
import Gamebook.Text.Replace

/-!
# A line feed at the end

No token and no match that is replaced reaches over the end of a line, so what happens to a text
happens to it in the same way when a line feed stands behind it.
-/

namespace Gamebook

namespace Text

/-- Whether a line feed behind a text stays where it is. -/
def KeepsLineEnd (f : Text → Text) : Prop := ∀ t, f (t ++ ['\n']) = f t ++ ['\n']

theorem KeepsLineEnd.comp {f g : Text → Text} (hg : KeepsLineEnd g) (hf : KeepsLineEnd f) :
    KeepsLineEnd fun t => g (f t) :=
  fun t => (congrArg g (hf t)).trans (hg (f t))

/-- Some line feeds. -/
def lineFeeds (n : Nat) : Text := List.replicate n '\n'

theorem append_lineFeeds_succ (t : Text) (n : Nat) :
    t ++ lineFeeds (n + 1) = (t ++ lineFeeds n) ++ ['\n'] := by
  rw [lineFeeds, List.replicate_succ', ← List.append_assoc]
  rfl

theorem KeepsLineEnd.lineFeeds {f : Text → Text} (hf : KeepsLineEnd f) (t : Text) (n : Nat) :
    f (t ++ lineFeeds n) = f t ++ lineFeeds n := by
  induction n with
  | zero => simp [Text.lineFeeds]
  | succ n ih => rw [append_lineFeeds_succ, hf, ih, append_lineFeeds_succ]

theorem ignores_lineFeeds {α : Type} {f : Text → α} (hf : ∀ t, f (t ++ ['\n']) = f t) (t : Text)
    (n : Nat) : f (t ++ lineFeeds n) = f t := by
  induction n with
  | zero => simp [lineFeeds]
  | succ n ih => rw [append_lineFeeds_succ, hf, ih]

/-! ## Replacing -/

theorem takeWhile_lineEnd {p : Char → Bool} (hp : p '\n' = false) (t : Text) :
    (t ++ ['\n']).takeWhile p = t.takeWhile p := by
  induction t with
  | nil => simp [hp]
  | cons c r ih =>
      rw [List.cons_append, List.takeWhile_cons, List.takeWhile_cons, ih]

theorem after?_lineEnd {pre : Text} (h : '\n' ∉ pre) (t : Text) :
    after? pre (t ++ ['\n']) = (after? pre t).map (· ++ ['\n']) := by
  induction pre generalizing t with
  | nil => rfl
  | cons p ps ih =>
      simp only [List.mem_cons, not_or] at h
      obtain ⟨hp, hps⟩ := h
      cases t with
      | nil => simp [after?, Ne.symm hp]
      | cons c r =>
          simp only [List.cons_append, after?]
          by_cases hc : p = c
          · simp only [hc, ↓reduceIte]
            exact ih hps r
          · simp [hc]

/-- Whether a matcher finds the same matches when a line feed stands behind the text, and no match
in the line feed itself. -/
structure Matcher.IgnoresLineEnd (f : Matcher) : Prop where
  append : ∀ before c r,
    f before (c :: r ++ ['\n']) = (f before (c :: r)).map fun (x, rest) => (x, rest ++ ['\n'])
  alone : ∀ before, f before ['\n'] = none

theorem replaceFrom_lineEnd {f : Matcher} (hf : f.IgnoresLineEnd) (t : Text) (before : Option Char)
    {skip : Nat} (hs : skip ≤ t.length) :
    replaceFrom f before skip (t ++ ['\n']) = replaceFrom f before skip t ++ ['\n'] := by
  induction t generalizing before skip with
  | nil =>
      cases Nat.le_zero.1 hs
      simp [replaceFrom, hf.alone]
  | cons c r ih =>
      rw [List.cons_append]
      cases skip with
      | succ skip =>
          simp only [replaceFrom]
          exact ih _ (Nat.le_of_succ_le_succ hs)
      | zero =>
          have hm := hf.append before c r
          rw [List.cons_append] at hm
          cases hfc : f before (c :: r) with
          | none =>
              rw [hfc, Option.map_none] at hm
              simp only [replaceFrom, hfc, hm, ih _ (Nat.zero_le _), List.cons_append]
          | some found =>
              obtain ⟨x, rest⟩ := found
              rw [hfc, Option.map_some] at hm
              simp only [replaceFrom, hfc, hm, List.length_append, Nat.add_sub_add_right,
                ih _ (Nat.sub_le _ _), List.append_assoc]

theorem keepsLineEnd_replaceMatches {f : Matcher} (hf : f.IgnoresLineEnd) :
    KeepsLineEnd (replaceMatches f) :=
  fun t => replaceFrom_lineEnd hf t none (Nat.zero_le _)

theorem keepsLineEnd_replaceAll {old : Text} (new : Text) (h : '\n' ∉ old) (hn : old ≠ []) :
    KeepsLineEnd (replaceAll old new) := by
  refine keepsLineEnd_replaceMatches ⟨fun _ c r => ?_, fun _ => ?_⟩
  · rw [after?_lineEnd h, Option.map_map, Option.map_map]
    rfl
  · cases old with
    | nil => exact absurd rfl hn
    | cons p ps =>
        simp only [List.mem_cons, not_or] at h
        simp [after?, Ne.symm h.1]

end Text

/-! ## Pieces -/

namespace Piece

/-- Pieces with a line feed behind them, in the plain run that they end with. -/
def addLineEnd : List Piece → List Piece
  | [] => [plain ['\n']]
  | [plain run] => [plain (run ++ ['\n'])]
  | p :: ps => p :: addLineEnd ps

theorem addLineEnd_token (inner : Text) (ps : List Piece) :
    addLineEnd (token inner :: ps) = token inner :: addLineEnd ps := by
  cases ps <;> rfl

theorem addLineEnd_cons_cons (p q : Piece) (ps : List Piece) :
    addLineEnd (p :: q :: ps) = p :: addLineEnd (q :: ps) := by
  cases p <;> rfl

theorem addLineEnd_consPlain (c : Char) (ps : List Piece) :
    addLineEnd (consPlain c ps) = consPlain c (addLineEnd ps) := by
  match ps with
  | [] => rfl
  | [plain run] => rfl
  | plain run :: p :: ps => rfl
  | [token inner] => rfl
  | token inner :: p :: ps => rfl

theorem scan_lineEnd (t : Text) :
    scan (t ++ ['\n']) =
      (addLineEnd (scan t).1, (scan t).2.map fun (inner, rest) => (inner, addLineEnd rest)) := by
  induction t with
  | nil => rfl
  | cons c r ih =>
      simp only [List.cons_append, scan, ih]
      generalize scan r = found
      obtain ⟨ps, closing⟩ := found
      by_cases h₁ : c = '\x7d'
      · simp [h₁, addLineEnd_consPlain]
      · by_cases h₂ : c = '\x7b'
        · cases closing with
          | none => simp [h₂, addLineEnd_consPlain]
          | some p => simp [h₂, addLineEnd_token]
        · by_cases h₃ : c = '\n'
          · simp [h₃, addLineEnd_consPlain]
          · cases closing <;> simp [h₁, h₂, h₃, addLineEnd_consPlain]

theorem ofText_lineEnd (t : Text) : ofText (t ++ ['\n']) = addLineEnd (ofText t) := by
  rw [ofText, scan_lineEnd, ofText]

theorem tokens_lineEnd (t : Text) : tokens (t ++ ['\n']) = tokens t := by
  have h (ps : List Piece) (start : Nat) :
      (locate start (addLineEnd ps)).filterMap tokenAt? =
        (locate start ps).filterMap tokenAt? := by
    induction ps generalizing start with
    | nil => rfl
    | cons p ps ih =>
        cases ps with
        | nil => cases p <;> rfl
        | cons q qs =>
            rw [addLineEnd_cons_cons, locate, locate, List.filterMap_cons, List.filterMap_cons, ih]
  rw [tokens, ofText_lineEnd, h, tokens]

/-- What is made of the pieces one by one ends with the line feed that stands behind them. -/
theorem flatMap_addLineEnd {g : Piece → Text}
    (hg : ∀ run, g (plain (run ++ ['\n'])) = g (plain run) ++ ['\n'])
    (hn : g (plain ['\n']) = ['\n']) (ps : List Piece) :
    (addLineEnd ps).flatMap g = ps.flatMap g ++ ['\n'] := by
  induction ps with
  | nil => simp [addLineEnd, hn]
  | cons p ps ih =>
      cases ps with
      | nil =>
          cases p with
          | plain run => simp [addLineEnd, hg]
          | token inner => simp [addLineEnd, hn]
      | cons q qs =>
          rw [addLineEnd_cons_cons, List.flatMap_cons, ih, ← List.append_assoc]
          rfl

theorem keepsLineEnd_replaceTokens (f : Text → Option Text) :
    Text.KeepsLineEnd fun t => replaceTokens f (ofText t) := by
  intro t
  simp only [replaceTokens, ofText_lineEnd]
  exact flatMap_addLineEnd (fun _ => rfl) rfl _

theorem keepsLineEnd_dropTokens (p : Text → Bool) : Text.KeepsLineEnd (dropTokens p) :=
  keepsLineEnd_replaceTokens _

end Piece
end Gamebook
