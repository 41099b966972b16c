import Gamebook.Json.Reader
import Gamebook.Proofs.Json.Lexing

/-!
# What is written is read back

A value whose numbers read back is what both its written forms hold, compact and indented.
-/

namespace Gamebook.Json

/-- Whether a number's written form holds it. -/
def Number.ReadsBack (n : Number) : Prop := ofLexeme? n.write = some (.number n)

mutual
/-- Whether all numbers in a value read back, and nothing in it is malformed. -/
def ReadsBack : Json → Prop
  | .number n => n.ReadsBack
  | .malformed => False
  | .array items => ItemsReadBack items
  | .object fields => FieldsReadBack fields
  | _ => True
/-- Whether all items read back. -/
def ItemsReadBack : List Json → Prop
  | [] => True
  | v :: vs => ReadsBack v ∧ ItemsReadBack vs
/-- Whether the values of all fields read back. -/
def FieldsReadBack : List (String × Json) → Prop
  | [] => True
  | (_, v) :: fs => ReadsBack v ∧ FieldsReadBack fs
end

theorem itemsReadBack_map {α : Type} {write : α → Json} {xs : List α}
    (h : ∀ x ∈ xs, (write x).ReadsBack) : ItemsReadBack (xs.map write) := by
  induction xs with
  | nil => trivial
  | cons x xs ih => exact ⟨h x (by simp), ih fun y hy => h y (by simp [hy])⟩

mutual
/-- The tokens that a value is made of. -/
def toks : Json → List Token
  | .array items => .openArray :: itemToks items ++ [.closeArray]
  | .object fields => .openObject :: fieldToks fields ++ [.closeObject]
  | v => [.scalar v]
/-- The tokens of items. -/
def itemToks : List Json → List Token
  | [] => []
  | [v] => toks v
  | v :: vs => toks v ++ .comma :: itemToks vs
/-- The tokens of fields. -/
def fieldToks : List (String × Json) → List Token
  | [] => []
  | [(k, v)] => .scalar (.string k) :: .colon :: toks v
  | (k, v) :: fs => .scalar (.string k) :: .colon :: toks v ++ .comma :: fieldToks fs
end

/-! ## From the text to the tokens -/

theorem lex_mark {c : Char} {t : Token} (hc : Lexer.begin c = some ([t], .between)) (r : Text) :
    lex .between (c :: r) = (lex .between r).map ([t] ++ ·) := by
  rw [lex_cons]
  simp only [Lexer.step, hc, Option.bind_some]

mutual

theorem lex_write : (v : Json) → v.ReadsBack → {r : Text} → Ends r →
    lex .between (write v ++ r) = (lex .between r).map (toks v ++ ·)
  | .null, _, r, hr => by
      exact lex_word (c := 'n') (t := "ull".toList) rfl (List.all_eq_true.1 rfl) rfl hr
  | .bool true, _, r, hr => by
      exact lex_word (c := 't') (t := "rue".toList) rfl (List.all_eq_true.1 rfl) rfl hr
  | .bool false, _, r, hr => by
      exact lex_word (c := 'f') (t := "alse".toList) rfl (List.all_eq_true.1 rfl) rfl hr
  | .number n, h, r, hr => lex_lexeme h hr
  | .string s, _, r, hr => by
      have := lex_quote s.toList r
      rwa [String.ofList_toList] at this
  | .array vs, h, r, hr => by
      simp only [write, toks, List.cons_append, List.append_assoc, List.nil_append]
      rw [lex_mark (t := .openArray) rfl, lex_writeItems vs h (ends_cons rfl rfl _),
        lex_mark (t := .closeArray) rfl]
      simp [Function.comp_def]
  | .object fs, h, r, hr => by
      simp only [write, toks, List.cons_append, List.append_assoc, List.nil_append]
      rw [lex_mark (t := .openObject) rfl, lex_writeFields fs h (ends_cons rfl rfl _),
        lex_mark (t := .closeObject) rfl]
      simp [Function.comp_def]

theorem lex_writeItems : (vs : List Json) → ItemsReadBack vs → {r : Text} → Ends r →
    lex .between (writeItems vs ++ r) = (lex .between r).map (itemToks vs ++ ·)
  | [], _, r, _ => by simp [writeItems, itemToks]
  | [v], h, r, hr => lex_write v h.1 hr
  | v :: w :: vs, h, r, hr => by
      simp only [writeItems, itemToks, List.append_assoc, List.cons_append]
      rw [lex_write v h.1 (ends_cons rfl rfl _), lex_mark (t := .comma) rfl,
        lex_writeItems (w :: vs) h.2 hr]
      simp [Function.comp_def]

theorem lex_writeFields : (fs : List (String × Json)) → FieldsReadBack fs → {r : Text} → Ends r →
    lex .between (writeFields fs ++ r) = (lex .between r).map (fieldToks fs ++ ·)
  | [], _, r, _ => by simp [writeFields, fieldToks]
  | [(k, v)], h, r, hr => by
      simp only [writeFields, fieldToks, List.append_assoc, List.cons_append]
      rw [lex_quote, lex_mark (t := .colon) rfl, lex_write v h.1 hr]
      simp [Function.comp_def]
  | (k, v) :: f :: fs, h, r, hr => by
      simp only [writeFields, fieldToks, List.append_assoc, List.cons_append]
      rw [lex_quote, lex_mark (t := .colon) rfl, lex_write v h.1 (ends_cons rfl rfl _),
        lex_mark (t := .comma) rfl, lex_writeFields (f :: fs) h.2 hr]
      simp [Function.comp_def]

end

mutual

theorem lex_writeIndented (level : Nat) : (v : Json) → v.ReadsBack → {r : Text} → Ends r →
    lex .between (writeIndented level v ++ r) = (lex .between r).map (toks v ++ ·)
  | .null, h, _, hr => lex_write .null h hr
  | .bool b, h, _, hr => lex_write (.bool b) h hr
  | .number n, h, _, hr => lex_write (.number n) h hr
  | .string s, h, _, hr => lex_write (.string s) h hr
  | .array [], _, r, hr => by
      simp only [writeIndented, List.cons_append, List.nil_append]
      rw [lex_mark (t := .openArray) rfl, lex_mark (t := .closeArray) rfl]
      simp [toks, itemToks, Function.comp_def]
  | .array (v :: vs), h, r, hr => by
      simp only [writeIndented, List.cons_append, List.append_assoc, List.nil_append]
      rw [lex_mark (t := .openArray) rfl,
        lex_writeIndentedItems (level + 1) (v :: vs) h (ends_indentation level _),
        lex_indentation, lex_mark (t := .closeArray) rfl]
      simp [toks, Function.comp_def]
  | .object [], _, r, hr => by
      simp only [writeIndented, List.cons_append, List.nil_append]
      rw [lex_mark (t := .openObject) rfl, lex_mark (t := .closeObject) rfl]
      simp [toks, fieldToks, Function.comp_def]
  | .object (f :: fs), h, r, hr => by
      simp only [writeIndented, List.cons_append, List.append_assoc, List.nil_append]
      rw [lex_mark (t := .openObject) rfl,
        lex_writeIndentedFields (level + 1) (f :: fs) h (ends_indentation level _),
        lex_indentation, lex_mark (t := .closeObject) rfl]
      simp [toks, Function.comp_def]

theorem lex_writeIndentedItems (level : Nat) : (vs : List Json) → ItemsReadBack vs → {r : Text} →
    Ends r →
    lex .between (writeIndentedItems level vs ++ r) = (lex .between r).map (itemToks vs ++ ·)
  | [], _, r, _ => by simp [writeIndentedItems, itemToks]
  | [v], h, r, hr => by
      simp only [writeIndentedItems, itemToks, List.append_assoc]
      rw [lex_indentation, lex_writeIndented level v h.1 hr]
  | v :: w :: vs, h, r, hr => by
      simp only [writeIndentedItems, itemToks, List.append_assoc, List.cons_append]
      rw [lex_indentation, lex_writeIndented level v h.1 (ends_cons rfl rfl _),
        lex_mark (t := .comma) rfl, lex_writeIndentedItems level (w :: vs) h.2 hr]
      simp [Function.comp_def]

theorem lex_writeIndentedFields (level : Nat) : (fs : List (String × Json)) → FieldsReadBack fs →
    {r : Text} → Ends r →
    lex .between (writeIndentedFields level fs ++ r) = (lex .between r).map (fieldToks fs ++ ·)
  | [], _, r, _ => by simp [writeIndentedFields, fieldToks]
  | [(k, v)], h, r, hr => by
      simp only [writeIndentedFields, fieldToks, List.append_assoc, List.cons_append]
      rw [lex_indentation, lex_quote, lex_mark (t := .colon) rfl, lex_space rfl,
        lex_writeIndented level v h.1 hr]
      simp [Function.comp_def]
  | (k, v) :: f :: fs, h, r, hr => by
      simp only [writeIndentedFields, fieldToks, List.append_assoc, List.cons_append]
      rw [lex_indentation, lex_quote, lex_mark (t := .colon) rfl, lex_space rfl,
        lex_writeIndented level v h.1 (ends_cons rfl rfl _), lex_mark (t := .comma) rfl,
        lex_writeIndentedFields level (f :: fs) h.2 hr]
      simp [Function.comp_def]

end

/-! ## From the tokens to the value -/

namespace Progress

/-- No value begins with the token that closes an array. -/
theorem toks_ne_closeArray : (v : Json) → ∃ t ts, toks v = t :: ts ∧ t ≠ .closeArray
  | .array _ => ⟨_, _, rfl, nofun⟩
  | .object _ => ⟨_, _, rfl, nofun⟩
  | .null => ⟨_, _, rfl, nofun⟩
  | .bool _ => ⟨_, _, rfl, nofun⟩
  | .number _ => ⟨_, _, rfl, nofun⟩
  | .string _ => ⟨_, _, rfl, nofun⟩
  | .malformed => ⟨_, _, rfl, nofun⟩

/-- An array that may close is read on as one that may not, unless it closes. -/
theorem run_valueOrClose (stack : List Frame) (v : Json) (ts : List Token) :
    (toks v ++ ts).foldlM step (.reading stack .valueOrClose) =
      (toks v ++ ts).foldlM step (.reading stack .value) := by
  obtain ⟨t, r, hv, ht⟩ := toks_ne_closeArray v
  have hs : step (.reading stack .valueOrClose) t = step (.reading stack .value) t := by
    cases t <;> first | rfl | exact absurd rfl ht
  rw [hv, List.cons_append, List.foldlM_cons, List.foldlM_cons, hs]

theorem run_itemToks (stack : List Frame) (v : Json) (vs : List Json) (ts : List Token) :
    (itemToks (v :: vs) ++ ts).foldlM step (.reading stack .valueOrClose) =
      (itemToks (v :: vs) ++ ts).foldlM step (.reading stack .value) := by
  cases vs with
  | nil => exact run_valueOrClose stack v ts
  | cons w vs =>
      simp only [itemToks, List.append_assoc]
      exact run_valueOrClose stack v _

theorem run_fieldToks (fields : List (String × Json)) (k : String) (b : Bool) (st : List Frame)
    (f : String × Json) (fs : List (String × Json)) (ts : List Token) :
    (fieldToks (f :: fs) ++ ts).foldlM step (.reading (.object fields k b :: st) .keyOrClose) =
      (fieldToks (f :: fs) ++ ts).foldlM step (.reading (.object fields k b :: st) .key) := by
  obtain ⟨name, v⟩ := f
  cases fs <;> rfl

mutual

theorem run_toks : (v : Json) → (stack : List Frame) → (ts : List Token) →
    (toks v ++ ts).foldlM step (.reading stack .value) = ts.foldlM step (complete v stack)
  | .null, _, _ => rfl
  | .bool _, _, _ => rfl
  | .number _, _, _ => rfl
  | .string _, _, _ => rfl
  | .malformed, _, _ => rfl
  | .array [], _, _ => rfl
  | .array (v :: vs), stack, ts => by
      simp only [toks, List.cons_append, List.append_assoc, List.nil_append, List.foldlM_cons]
      show (itemToks (v :: vs) ++ _).foldlM step (.reading (.array [] :: stack) .valueOrClose) = _
      rw [run_itemToks, run_items (v :: vs) (by simp) [] stack]
      simp [step, close]
  | .object [], _, _ => rfl
  | .object (f :: fs), stack, ts => by
      simp only [toks, List.cons_append, List.append_assoc, List.nil_append, List.foldlM_cons]
      show (fieldToks (f :: fs) ++ _).foldlM step
        (.reading (.object [] "" true :: stack) .keyOrClose) = _
      rw [run_fieldToks, run_fields (f :: fs) (by simp) [] stack]
      simp [step, close]

theorem run_items : (vs : List Json) → vs ≠ [] → (items : List Json) → (stack : List Frame) →
    (ts : List Token) → (itemToks vs ++ ts).foldlM step (.reading (.array items :: stack) .value) =
      ts.foldlM step (.reading (.array (vs.reverse ++ items) :: stack) .separator)
  | [], h, _, _, _ => absurd rfl h
  | [v], _, items, stack, ts => run_toks v (.array items :: stack) ts
  | v :: w :: vs, _, items, stack, ts => by
      simp only [itemToks, List.append_assoc, List.cons_append]
      rw [run_toks v (.array items :: stack)]
      simp only [complete, List.foldlM_cons]
      show (itemToks (w :: vs) ++ _).foldlM step (.reading (.array (v :: items) :: stack) .value) = _
      rw [run_items (w :: vs) (by simp) (v :: items) stack]
      simp

theorem run_fields : (fs : List (String × Json)) → fs ≠ [] → (fields : List (String × Json)) →
    (stack : List Frame) → (ts : List Token) →
    (fieldToks fs ++ ts).foldlM step (.reading (.object fields "" true :: stack) .key) =
      ts.foldlM step (.reading (.object (fs.reverse ++ fields) "" true :: stack) .separator)
  | [], h, _, _, _ => absurd rfl h
  | [(k, v)], _, fields, stack, ts => run_toks v (.object fields k true :: stack) ts
  | (k, v) :: f :: fs, _, fields, stack, ts => by
      simp only [fieldToks, List.append_assoc, List.cons_append, List.foldlM_cons]
      show (toks v ++ _).foldlM step (.reading (.object fields k true :: stack) .value) = _
      rw [run_toks v (.object fields k true :: stack)]
      simp only [complete, List.foldlM_cons]
      show (fieldToks (f :: fs) ++ _).foldlM step
        (.reading (.object ((k, v) :: fields) "" true :: stack) .key) = _
      rw [run_fields (f :: fs) (by simp) ((k, v) :: fields) stack]
      simp

end

end Progress

/-- A text of the tokens of a value holds the value. -/
theorem ofText?_of_tokens? {t : Text} {v : Json} (h : tokens? t = some (toks v)) :
    ofText? t = some v := by
  have hr : (toks v).foldlM Progress.step (.reading [] .value) = some (.finished v) := by
    have := Progress.run_toks v [] []
    rw [List.append_nil] at this
    exact this
  rw [ofText?, h]
  simp [hr]

/-- What the compact form of a value holds is the value. -/
theorem parse?_compact {v : Json} (h : v.ReadsBack) : parse? v.compact = some v := by
  have hl := lex_write v h ends_nil
  rw [List.append_nil] at hl
  rw [parse?, compact, String.toList_ofList]
  exact ofText?_of_tokens? (by rw [tokens?_eq_lex, hl]; simp [lex, Lexer.finish])

/-- What the indented form of a value holds is the value. -/
theorem parse?_pretty {v : Json} (h : v.ReadsBack) : parse? v.pretty = some v := by
  have hl := lex_writeIndented 0 v h ends_nil
  rw [List.append_nil] at hl
  rw [parse?, pretty, String.toList_ofList]
  exact ofText?_of_tokens? (by rw [tokens?_eq_lex, hl]; simp [lex, Lexer.finish])

end Gamebook.Json
