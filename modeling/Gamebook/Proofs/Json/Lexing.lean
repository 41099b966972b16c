import Gamebook.Json.Printer
import Gamebook.Json.Token
import Mathlib.Tactic.SplitIfs

/-!
# The tokens of what is written

`lex` reads a text from the front and gives its tokens as it goes, where `tokens?` collects them. What
stands for a string, a number or a word in a written value is read as that one token, whatever comes
behind it, as long as it does not run on.
-/

namespace Gamebook.Json

/-! ## Reading from the front -/

/-- The tokens of a text for a lexer that is in the middle of `s`. -/
def lex (s : Lexer) : Text → Option (List Token)
  | [] => s.finish
  | c :: r => (s.step c).bind fun (ts, next) => (lex next r).map (ts ++ ·)

theorem lex_cons (s : Lexer) (c : Char) (r : Text) :
    lex s (c :: r) = (s.step c).bind fun (ts, next) => (lex next r).map (ts ++ ·) := rfl

private abbrev collect (st : Option (List Token × Lexer)) (c : Char) :
    Option (List Token × Lexer) := do
  let (read, s) ← st
  let (ts, s) ← s.step c
  some (ts.reverse ++ read, s)

private theorem foldl_collect_none (t : Text) : t.foldl collect none = none := by
  induction t with
  | nil => rfl
  | cons c r ih => exact ih

private theorem foldl_collect (t : Text) (read : List Token) (s : Lexer) :
    ((t.foldl collect (some (read, s))).bind fun (read, s) =>
      s.finish.map fun ts => read.reverse ++ ts) = (lex s t).map (read.reverse ++ ·) := by
  induction t generalizing read s with
  | nil => rfl
  | cons c r ih =>
      rw [List.foldl_cons, lex_cons]
      cases hs : s.step c with
      | none =>
          have : collect (some (read, s)) c = none := by simp [collect, hs]
          rw [this, foldl_collect_none]
          rfl
      | some next =>
          obtain ⟨ts, next⟩ := next
          have : collect (some (read, s)) c = some (ts.reverse ++ read, next) := by
            simp [collect, hs]
          rw [this, ih]
          simp [Option.map_map, Function.comp_def]

theorem tokens?_eq_lex (t : Text) : tokens? t = lex .between t := by
  have h := foldl_collect t [] .between
  simp only [List.reverse_nil, List.nil_append, Option.map_id'] at h
  exact h

/-! ## Strings -/

/-- The escape of a control character reads back as it. -/
private theorem hexUnit?_control :
    ∀ n < 0x20, hexUnit? '0' '0' (hexDigit (n / 16)) (hexDigit n) = some n := by
  decide

theorem unescape?_plain {c : Char} (hc : c ≠ '\\') (r : Text) :
    unescape? (c :: r) = (unescape? r).map fun s => ⟨c :: s.text, s.sound⟩ := by
  rw [unescape?.eq_def]
  split <;> simp_all

theorem unescape?_short {x c : Char} (hx : escaped? x = some c) (hu : x ≠ 'u') (r : Text) :
    unescape? ('\\' :: x :: r) = (unescape? r).map fun s => ⟨c :: s.text, s.sound⟩ := by
  rw [unescape?.eq_def]
  split
  · next h => cases h
  · next h => cases h; exact absurd rfl hu
  · next h => cases h; exact absurd rfl hu
  · next h => cases h; rw [hx]
  · next h₁ h => cases h; exact absurd rfl (h₁ _ _ rfl)

theorem unescape?_control {c : Char} (hc : c.toNat < 0x20) (r : Text) :
    unescape? ('\\' :: 'u' :: '0' :: '0' :: hexDigit (c.toNat / 16) :: hexDigit c.toNat :: r) =
      (unescape? r).map fun s => ⟨c :: s.text, s.sound⟩ := by
  have hu := hexUnit?_control c.toNat hc
  have hs : ¬ 0xD800 ≤ c.toNat := by omega
  have ht : ¬ 0xDC00 ≤ c.toNat := by omega
  rw [unescape?.eq_def]
  split
  · next h => cases h
  · next h => cases h; simp [hu, hs, ht]
  · next h => cases h; simp [hu, hs]
  · next h₁ h => cases h; exact absurd rfl (h₁ _ _ _ _ _ rfl)
  · next h₁ h => cases h; exact absurd rfl (h₁ _ _ rfl)

theorem unescape?_escape (c : Char) (r : Text) :
    unescape? (escape c ++ r) = (unescape? r).map fun s => ⟨c :: s.text, s.sound⟩ := by
  unfold escape
  split_ifs with h₁ h₂ h₃ h₄ h₅ h₆ h₇ h₈
  · subst h₁; exact unescape?_short rfl (by decide) r
  · subst h₂; exact unescape?_short rfl (by decide) r
  · subst h₃; exact unescape?_short rfl (by decide) r
  · subst h₄; exact unescape?_short rfl (by decide) r
  · subst h₅; exact unescape?_short rfl (by decide) r
  · subst h₆; exact unescape?_short rfl (by decide) r
  · subst h₇; exact unescape?_short rfl (by decide) r
  · exact unescape?_control h₈ r
  · exact unescape?_plain h₂ r

theorem unescape?_flatMap_escape (t : Text) : unescape? (t.flatMap escape) = some ⟨t, true⟩ := by
  induction t with
  | nil => rfl
  | cons c r ih => rw [List.flatMap_cons, unescape?_escape, ih]; rfl

theorem ofInside?_flatMap_escape (t : Text) :
    ofInside? (t.flatMap escape) = some (.string (String.ofList t)) := by
  rw [ofInside?, unescape?_flatMap_escape]
  rfl

theorem lex_string_plain {c : Char} (hq : c ≠ '"') (hb : c ≠ '\\') (hc : ¬ c.toNat < 0x20)
    (read r : Text) : lex (.string read false) (c :: r) = lex (.string (c :: read) false) r := by
  have hb : (c == '\\') = false := by simpa using hb
  rw [lex_cons]
  simp only [Lexer.step, if_neg hq, if_neg hc, hb, Option.bind_some, List.nil_append,
    Option.map_id']

theorem lex_string_backslash {c : Char} (hc : ¬ c.toNat < 0x20) (read r : Text) :
    lex (.string read false) ('\\' :: c :: r) = lex (.string (c :: '\\' :: read) false) r := by
  have hb : ¬ ('\\').toNat < 0x20 := by decide
  rw [lex_cons]
  simp only [Lexer.step, if_neg hb, Option.bind_some, List.nil_append, Option.map_id', lex_cons,
    if_neg hc, beq_self_eq_true, ↓reduceIte, Char.reduceEq]

/-- Hexadecimal digits neither end a string nor begin an escape in it. -/
private theorem hexDigit_plain :
    ∀ n < 16, Nat.digitChar n ≠ '"' ∧ Nat.digitChar n ≠ '\\' ∧ ¬ (Nat.digitChar n).toNat < 0x20 := by
  decide

theorem lex_string_hexDigit (n : Nat) (read r : Text) :
    lex (.string read false) (hexDigit n :: r) = lex (.string (hexDigit n :: read) false) r := by
  obtain ⟨hq, hb, hc⟩ := hexDigit_plain (n % 16) (by omega)
  exact lex_string_plain hq hb hc read r

theorem lex_string_escape (c : Char) (read r : Text) :
    lex (.string read false) (escape c ++ r) =
      lex (.string ((escape c).reverse ++ read) false) r := by
  unfold escape
  split_ifs with h₁ h₂ h₃ h₄ h₅ h₆ h₇ h₈
  · exact lex_string_backslash (by decide) read r
  · exact lex_string_backslash (by decide) read r
  · exact lex_string_backslash (by decide) read r
  · exact lex_string_backslash (by decide) read r
  · exact lex_string_backslash (by decide) read r
  · exact lex_string_backslash (by decide) read r
  · exact lex_string_backslash (by decide) read r
  · simp only [List.cons_append, List.nil_append, List.reverse_cons, List.reverse_nil]
    rw [lex_string_backslash (by decide), lex_string_plain (by decide) (by decide) (by decide),
      lex_string_plain (by decide) (by decide) (by decide), lex_string_hexDigit,
      lex_string_hexDigit]
  · exact lex_string_plain h₁ h₂ h₈ read r

theorem lex_string_flatMap_escape (t read r : Text) :
    lex (.string read false) (t.flatMap escape ++ r) =
      lex (.string ((t.flatMap escape).reverse ++ read) false) r := by
  induction t generalizing read with
  | nil => rfl
  | cons c t ih =>
      rw [List.flatMap_cons, List.append_assoc, lex_string_escape, ih, List.reverse_append,
        List.append_assoc]

/-- A written string is read as one token. -/
theorem lex_quote (t r : Text) :
    lex .between (quote t ++ r) =
      (lex .between r).map ([.scalar (.string (String.ofList t))] ++ ·) := by
  have hq : Lexer.step .between '"' = some ([], .string [] false) := rfl
  rw [quote, List.cons_append, List.cons_append, List.append_assoc, lex_cons, hq]
  simp only [Option.bind_some, List.nil_append, Option.map_id']
  rw [lex_string_flatMap_escape, List.append_nil, List.singleton_append, lex_cons]
  simp only [Lexer.step, ↓reduceIte, List.reverse_reverse, ofInside?_flatMap_escape,
    Option.map_some, Option.bind_some]

/-! ## Blanks, punctuation and words -/

theorem lex_space {c : Char} (hc : Lexer.isSpace c = true) (r : Text) :
    lex .between (c :: r) = lex .between r := by
  rw [lex_cons]
  simp only [Lexer.step, Lexer.begin, hc, ↓reduceIte, Option.bind_some, List.nil_append,
    Option.map_id']

theorem lex_indentation (level : Nat) (r : Text) :
    lex .between (indentation level ++ r) = lex .between r := by
  have hr (n : Nat) : lex .between (List.replicate n ' ' ++ r) = lex .between r := by
    induction n with
    | zero => rfl
    | succ n ih => rw [List.replicate_succ, List.cons_append, lex_space rfl, ih]
  rw [indentation, List.cons_append, lex_space rfl, hr]

/-- Where a number or a word that stands before the text ends. -/
def Ends (r : Text) : Prop :=
  ∀ c, r.head? = some c → Lexer.isNumeric c = false ∧ c.isLower = false

theorem ends_cons {c : Char} (hn : Lexer.isNumeric c = false) (hl : c.isLower = false) (r : Text) :
    Ends (c :: r) := by
  intro d hd
  cases hd
  exact ⟨hn, hl⟩

theorem ends_nil : Ends [] := by
  intro c hc
  cases hc

theorem ends_indentation (level : Nat) (r : Text) : Ends (indentation level ++ r) :=
  ends_cons rfl rfl _

/-- Whether a token in the middle goes on at the characters of one kind and ends at all others. -/
structure Collects (s : Text → Lexer) (p : Char → Bool) : Prop where
  goesOn : ∀ read c, p c = true → (s read).step c = some ([], s (c :: read))
  ends : ∀ read c, p c = false → (s read).step c =
    (Lexer.begin c).bind fun (ts, next) => (s read).finish.bind fun us => some (us ++ ts, next)

theorem collects_word : Collects .word Char.isLower where
  goesOn read c hc := by simp only [Lexer.step, hc, ↓reduceIte]
  ends read c hc := by
    simp only [Lexer.step, hc, Bool.false_eq_true, ↓reduceIte]
    rfl

theorem collects_number : Collects .number Lexer.isNumeric where
  goesOn read c hc := by simp only [Lexer.step, hc, ↓reduceIte]
  ends read c hc := by
    simp only [Lexer.step, hc, Bool.false_eq_true, ↓reduceIte]
    rfl

namespace Collects

variable {s : Text → Lexer} {p : Char → Bool}

theorem lex_run (hs : Collects s p) {t : Text} (ht : ∀ c ∈ t, p c = true) (read r : Text) :
    lex (s read) (t ++ r) = lex (s (t.reverse ++ read)) r := by
  induction t generalizing read with
  | nil => rfl
  | cons c t ih =>
      rw [List.cons_append, lex_cons, hs.goesOn read c (ht c (List.mem_cons_self ..))]
      simp only [Option.bind_some, List.nil_append, Option.map_id']
      rw [ih (fun d hd => ht d (List.mem_cons_of_mem _ hd)), List.reverse_cons, List.append_assoc]
      rfl

theorem lex_end (hs : Collects s p) {read r : Text} {v : Json}
    (hf : (s read).finish = some [.scalar v]) (hr : ∀ c, r.head? = some c → p c = false) :
    lex (s read) r = (lex .between r).map ([.scalar v] ++ ·) := by
  cases r with
  | nil =>
      rw [lex, hf]
      rfl
  | cons c r =>
      rw [lex_cons, lex_cons, hs.ends read c (hr c rfl), hf]
      simp only [Lexer.step]
      cases Lexer.begin c <;> simp [Function.comp_def]

/-- A token is read as one, from its first character to where it ends. -/
theorem lex_token (hs : Collects s p) {c : Char} {t r : Text} {v : Json}
    (hb : Lexer.begin c = some ([], s [c])) (ht : ∀ d ∈ t, p d = true)
    (hf : (s (c :: t).reverse).finish = some [.scalar v])
    (hr : ∀ d, r.head? = some d → p d = false) :
    lex .between (c :: t ++ r) = (lex .between r).map ([.scalar v] ++ ·) := by
  rw [List.reverse_cons] at hf
  rw [List.cons_append, lex_cons]
  simp only [Lexer.step, hb, Option.bind_some, List.nil_append, Option.map_id']
  rw [hs.lex_run ht, hs.lex_end hf hr]

end Collects

theorem lex_word {c : Char} {t r : Text} {v : Json} (hb : Lexer.begin c = some ([], .word [c]))
    (ht : ∀ d ∈ t, d.isLower = true) (hw : Lexer.word? (c :: t) = some v) (hr : Ends r) :
    lex .between (c :: t ++ r) = (lex .between r).map ([.scalar v] ++ ·) := by
  have hf : (Lexer.word (c :: t).reverse).finish = some [.scalar v] := by
    rw [Lexer.finish, List.reverse_reverse, hw]
    rfl
  exact collects_word.lex_token hb ht hf fun d hd => (hr d hd).2

/-! ## Numbers -/

theorem splitDigits_eq {t ds r : Text} (h : Decimal.splitDigits t = (ds, r)) :
    t = ds ++ r ∧ ds.all Char.isDigit = true := by
  cases h
  exact ⟨List.takeWhile_append_dropWhile.symm, List.all_takeWhile ..⟩

theorem numeric_digits {ds : Text} (h : ds.all Char.isDigit = true) :
    ∀ c ∈ ds, Lexer.isNumeric c = true := by
  intro c hc
  simp only [Lexer.isNumeric, List.all_eq_true.1 h c hc, Bool.true_or]

theorem numeric_splitSign {t : Text} (h : (Decimal.splitSign t).2.all Char.isDigit = true) :
    ∀ c ∈ t, Lexer.isNumeric c = true := by
  unfold Decimal.splitSign at h
  split at h
  · exact List.forall_mem_cons.2 ⟨rfl, numeric_digits h⟩
  · exact List.forall_mem_cons.2 ⟨rfl, numeric_digits h⟩
  · exact numeric_digits h

theorem numeric_exponent {t : Text} {e : Int} (h : Decimal.exponent? t = some e) :
    ∀ c ∈ t, Lexer.isNumeric c = true := by
  cases t with
  | nil => exact List.forall_mem_nil _
  | cons m r =>
      simp only [Decimal.exponent?] at h
      split at h
      · next hm =>
        split at h
        · next hr =>
          refine List.forall_mem_cons.2 ⟨?_, numeric_splitSign hr.2⟩
          rcases hm with rfl | rfl <;> rfl
        · cases h
      · cases h

theorem numeric_splitFraction {t fraction r : Text} {b : Bool}
    (h : splitFraction t = (fraction, b, r)) (hr : ∀ c ∈ r, Lexer.isNumeric c = true) :
    ∀ c ∈ t, Lexer.isNumeric c = true := by
  unfold splitFraction at h
  split at h
  · next behind =>
    cases hs : Decimal.splitDigits behind with
    | mk ds rest =>
        obtain ⟨rfl, hd⟩ := splitDigits_eq hs
        rw [hs] at h
        cases h
        refine List.forall_mem_cons.2 ⟨rfl, fun c hc => ?_⟩
        rcases List.mem_append.1 hc with hc | hc
        · exact numeric_digits hd c hc
        · exact hr c hc
  · cases h
    exact hr

theorem numeric_of_ofUnsigned? {b : Bool} {t : Text} {v : Json} (h : ofUnsigned? b t = some v) :
    ∃ c r, t = c :: r ∧ c.isDigit = true ∧ ∀ d ∈ r, Lexer.isNumeric d = true := by
  unfold ofUnsigned? at h
  cases hs : Decimal.splitDigits t with
  | mk whole rest =>
      obtain ⟨rfl, hw⟩ := splitDigits_eq hs
      rw [hs] at h
      by_cases hn : whole = [] ∨ whole.head? = some '0' ∧ whole ≠ ['0']
      · simp [if_pos hn] at h
      · simp only [if_neg hn] at h
        have hr : ∀ c ∈ rest, Lexer.isNumeric c = true := by
          cases hf : splitFraction rest with
          | mk fraction behind =>
              obtain ⟨hasFraction, left⟩ := behind
              refine numeric_splitFraction hf ?_
              simp only [hf] at h
              by_cases hl : left = []
              · simp [hl]
              · by_cases hd : hasFraction = true ∧ fraction = []
                · simp [if_pos hd] at h
                · simp only [if_neg hd, if_neg hl] at h
                  obtain ⟨e, he, -⟩ := Option.map_eq_some_iff.1 h
                  exact numeric_exponent he
        cases whole with
        | nil => exact absurd (.inl rfl) hn
        | cons c ds =>
            simp only [List.all_cons, Bool.and_eq_true] at hw
            refine ⟨c, ds ++ rest, rfl, hw.1, fun d hd => ?_⟩
            rcases List.mem_append.1 hd with hd | hd
            · exact numeric_digits hw.2 d hd
            · exact hr d hd

/-- A number's written form is made of the characters of numbers and begins with a minus or a digit. -/
theorem numeric_of_ofLexeme? {t : Text} {v : Json} (h : ofLexeme? t = some v) :
    ∃ c r, t = c :: r ∧ (c = '-' ∨ c.isDigit = true) ∧ ∀ d ∈ r, Lexer.isNumeric d = true := by
  unfold ofLexeme? at h
  split at h
  · next r =>
    obtain ⟨c, ds, rfl, hc, hr⟩ := numeric_of_ofUnsigned? h
    exact ⟨'-', c :: ds, rfl, .inl rfl,
      List.forall_mem_cons.2 ⟨by simp only [Lexer.isNumeric, hc, Bool.true_or], hr⟩⟩
  · obtain ⟨c, ds, rfl, hc, hr⟩ := numeric_of_ofUnsigned? h
    exact ⟨c, ds, rfl, .inr hc, hr⟩

theorem begin_number {c : Char} (h : c = '-' ∨ c.isDigit = true) :
    Lexer.begin c = some ([], .number [c]) := by
  have hs : Lexer.isSpace c = false := by
    cases hs : Lexer.isSpace c with
    | false => rfl
    | true =>
        simp only [Lexer.isSpace, Bool.or_eq_true, beq_iff_eq] at hs
        rcases hs with ((rfl | rfl) | rfl) | rfl <;> rcases h with h | h <;> cases h
  have hq : c ≠ '"' := by
    rintro rfl
    rcases h with h | h <;> cases h
  simp only [Lexer.begin, hs, Bool.false_eq_true, if_neg hq, if_pos h, ↓reduceIte]

/-- A written number is read as one token, whatever number that is. -/
theorem lex_lexeme {t r : Text} {v : Json} (hv : ofLexeme? t = some v) (hr : Ends r) :
    lex .between (t ++ r) = (lex .between r).map ([.scalar v] ++ ·) := by
  obtain ⟨c, ds, rfl, hc, hd⟩ := numeric_of_ofLexeme? hv
  have hf : (Lexer.number (c :: ds).reverse).finish = some [.scalar v] := by
    rw [Lexer.finish, List.reverse_reverse, hv]
    rfl
  exact collects_number.lex_token (begin_number hc) hd hf fun d hd => (hr d hd).1

end Gamebook.Json
