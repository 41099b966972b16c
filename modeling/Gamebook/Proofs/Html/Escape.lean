import Gamebook.Html.Escape
import Gamebook.Html.Fragment
import Gamebook.Proofs.Text.Replace
import Gamebook.Proofs.Text.Trim

/-!
# Escaped text

What is escaped holds no bracket, and no quotation mark if it stands in a value. Its references read
back as the characters that they stand for.
-/

namespace Gamebook.Html

open Text

/-! ## Characters -/

/-- Whether every character is written as it is or by a reference that stands for it. -/
def Faithful (w : Char → Text) : Prop :=
  ∀ c, (w c = [c] ∧ c ≠ '&') ∨
    ∃ name, (name, [c]) ∈ Reference.writtenNames ∧ w c = '&' :: name ++ [';']

/-- Whether no character is written with one of some others. -/
def Avoids (xs : List Char) (w : Char → Text) : Prop := ∀ c, ∀ x ∈ xs, x ∉ w c

theorem faithful_writeChar (quoted : Bool) : Faithful (writeChar quoted) := by
  intro c
  by_cases ha : c = '&'
  · exact .inr ⟨"amp".toList, by rw [ha]; decide, by rw [writeChar, if_pos ha]; rfl⟩
  by_cases hs : c = '\u00a0'
  · exact .inr ⟨"nbsp".toList, by rw [hs]; decide, by rw [writeChar, if_neg ha, if_pos hs]; rfl⟩
  by_cases hl : c = '<'
  · refine .inr ⟨"lt".toList, by rw [hl]; decide, ?_⟩
    rw [writeChar, if_neg ha, if_neg hs, if_pos hl]
    rfl
  by_cases hg : c = '>'
  · refine .inr ⟨"gt".toList, by rw [hg]; decide, ?_⟩
    rw [writeChar, if_neg ha, if_neg hs, if_neg hl, if_pos hg]
    rfl
  by_cases hq : c = '"' ∧ quoted = true
  · refine .inr ⟨"quot".toList, by rw [hq.1]; decide, ?_⟩
    rw [writeChar, if_neg ha, if_neg hs, if_neg hl, if_neg hg, if_pos hq]
    rfl
  · refine .inl ⟨?_, ha⟩
    rw [writeChar, if_neg ha, if_neg hs, if_neg hl, if_neg hg, if_neg hq]

/-- But for a no-break space, a character stands in a value as it is written there. -/
theorem attributeChar_of_ne {c : Char} (h : c ≠ '\u00a0') : attributeChar c = writeChar true c := by
  simp only [attributeChar, writeChar, if_neg h, and_true]

theorem faithful_attributeChar : Faithful attributeChar := by
  intro c
  by_cases hs : c = '\u00a0'
  · subst hs
    exact .inl ⟨rfl, by decide⟩
  · rw [attributeChar_of_ne hs]
    exact faithful_writeChar true c

/-- A reference has none of the characters that end a text, a value or a tag. -/
theorem avoids_of_faithful {w : Char → Text} (hw : Faithful w) {xs : List Char}
    (hx : (xs.all fun x => x ∈ ['<', '>', '"'] ∧ w x ≠ [x]) = true) : Avoids xs w := by
  have hall : ∀ e ∈ Reference.writtenNames,
      ('&' :: e.1 ++ [';']).filter (['<', '>', '"'].contains ·) = [] := by
    decide
  intro c x hm
  obtain ⟨hx, hne⟩ := of_decide_eq_true (List.all_eq_true.1 hx x hm)
  rcases hw c with ⟨hc, -⟩ | ⟨name, hn, hc⟩
  · rw [hc, List.mem_singleton]
    rintro rfl
    exact hne hc
  · rw [hc]
    exact fun hm => List.filter_eq_nil_iff.1 (hall _ hn) x hm (List.contains_iff_mem.2 hx)

theorem avoids_text : Avoids ['<', '>'] (writeChar false) :=
  avoids_of_faithful (faithful_writeChar false) (by decide)

theorem avoids_value : Avoids ['<', '>', '"'] (writeChar true) :=
  avoids_of_faithful (faithful_writeChar true) (by decide)

theorem avoids_attributeChar : Avoids ['<', '>', '"'] attributeChar :=
  avoids_of_faithful faithful_attributeChar (by decide)

theorem Avoids.not_mem {xs : List Char} {w : Char → Text} (h : Avoids xs w) {x : Char}
    (hx : x ∈ xs) (t : Text) : x ∉ t.flatMap w := by
  intro hm
  obtain ⟨c, -, hc⟩ := List.mem_flatMap.1 hm
  exact h c x hx hc

/-- Characters that no reference stands for are written as they are. -/
theorem Faithful.write_eq {w : Char → Text} (hw : Faithful w) {c : Char}
    (hc : c ∉ ['&', '<', '>', '"', '\u00a0']) : w c = [c] := by
  have hall : ∀ e ∈ Reference.writtenNames,
      e.2.all (['&', '<', '>', '"', '\u00a0'].contains ·) = true := by
    decide
  rcases hw c with ⟨h, -⟩ | ⟨name, hn, -⟩
  · exact h
  · have hm := List.all_eq_true.1 (hall _ hn) c (List.mem_singleton.2 rfl)
    exact absurd (List.contains_iff_mem.1 hm) hc

/-- A text without such characters is written as it is. -/
theorem Faithful.flatMap_eq {w : Char → Text} (hw : Faithful w) {t : Text}
    (ht : ∀ c ∈ t, c ∉ ['&', '<', '>', '"', '\u00a0']) : t.flatMap w = t := by
  induction t with
  | nil => rfl
  | cons c t ih =>
      rw [List.flatMap_cons, hw.write_eq (ht c (List.mem_cons_self ..)),
        ih fun d hd => ht d (List.mem_cons_of_mem _ hd)]
      rfl

/-! ## Written forms -/

/-- Whether a text is a written form of a value: references stand for what would end the value. -/
def Writes (w v : Text) : Prop := ∃ f, Faithful f ∧ Avoids ['<', '>', '"'] f ∧ w = v.flatMap f

theorem Writes.not_mem {w v : Text} (h : Writes w v) {x : Char} (hx : x ∈ ['<', '>', '"']) :
    x ∉ w := by
  obtain ⟨f, -, ha, rfl⟩ := h
  exact ha.not_mem hx v

/-! ## Texts -/

/-- A text with references for the characters that would not read back. -/
def escape (quoted : Bool) (t : Text) : Text := t.flatMap (writeChar quoted)

@[simp] theorem escape_nil (quoted : Bool) : escape quoted [] = [] := rfl

theorem escape_cons (quoted : Bool) (c : Char) (t : Text) :
    escape quoted (c :: t) = writeChar quoted c ++ escape quoted t := rfl

theorem escape_append (quoted : Bool) (s t : Text) :
    escape quoted (s ++ t) = escape quoted s ++ escape quoted t :=
  List.flatMap_append

theorem writes_escape (t : Text) : Writes (escape true t) t :=
  ⟨_, faithful_writeChar true, avoids_value, rfl⟩

theorem writes_attributeText (t : Text) : Writes (attributeText t) t :=
  ⟨_, faithful_attributeChar, avoids_attributeChar, rfl⟩

/-! ## References -/

namespace Reference

theorem ofName?_written {name value : Text} (h : (name, value) ∈ writtenNames) :
    ofName? name = some value := by
  have hall : ∀ e ∈ writtenNames, writtenNames.lookup e.1 = some e.2 := by decide
  rw [ofName?, hall _ h]
  rfl

theorem name_written {name value : Text} (h : (name, value) ∈ writtenNames) (rest : Text) :
    (name ++ ';' :: rest).takeWhile Char.isAlphanum = name := by
  have hall : ∀ e ∈ writtenNames, e.1.all Char.isAlphanum = true := by decide
  rw [List.takeWhile_append_of_pos (List.all_eq_true.1 (hall _ h)), List.takeWhile_cons_of_neg (by decide),
    List.append_nil]

theorem head_written {name value : Text} (h : (name, value) ∈ writtenNames) :
    ∃ c r, name = c :: r ∧ c ≠ '#' := by
  have hall : ∀ e ∈ writtenNames, e.1.head? ≠ some '#' ∧ e.1 ≠ [] := by decide
  obtain ⟨hc, hn⟩ := hall _ h
  cases name with
  | nil => exact absurd rfl hn
  | cons c r => exact ⟨c, r, rfl, fun he => hc (by rw [he]; rfl)⟩

/-- A reference that is written is read in text and in values. -/
theorem read?_written {name value : Text} (h : (name, value) ∈ writtenNames) (inAttribute : Bool)
    (rest : Text) : read? inAttribute (name ++ ';' :: rest) = some (value, rest) := by
  have ht := name_written h rest
  have hd : (name ++ ';' :: rest).drop name.length = ';' :: rest := List.drop_left
  have ho := ofName?_written h
  obtain ⟨c, r, rfl, hc⟩ := head_written h
  unfold read?
  split
  · next he => exact absurd (List.cons.inj he).1 hc
  · simp only [ht, hd, ho]

theorem readStrict?_written {name value : Text} (h : (name, value) ∈ writtenNames) (rest : Text) :
    readStrict? (name ++ ';' :: rest) = some (value.take 1, rest) := by
  have ht := name_written h rest
  have hd : (name ++ ';' :: rest).drop name.length = ';' :: rest := List.drop_left
  have ho := ofName?_written h
  obtain ⟨c, r, rfl, hc⟩ := head_written h
  unfold readStrict?
  split
  · next he => exact absurd (List.cons.inj he).1 hc
  · simp only [ht, hd, ho, Option.map_some]

/-- Reads a reference behind an ampersand by `read`. -/
def atAmp (read : Text → Option (Text × Text)) (t : Text) : Option (Text × Text) :=
  match t with
  | '&' :: r => read r
  | _ => none

theorem atAmp_of_ne {read : Text → Option (Text × Text)} {c : Char} (h : c ≠ '&') (t : Text) :
    atAmp read (c :: t) = none := by
  unfold atAmp
  split
  · next he => exact absurd (List.cons.inj he).1 h
  · rfl

/-- A text that is written faithfully reads back in front of any other. -/
theorem replaceMatches_flatMap {w : Char → Text} (hw : Faithful w)
    {read : Text → Option (Text × Text)}
    (hr : ∀ name c rest, (name, [c]) ∈ writtenNames →
      read (name ++ ';' :: rest) = some ([c], rest)) (t rest : Text) :
    replaceMatches (fun _ => atAmp read) (t.flatMap w ++ rest) =
      t ++ replaceMatches (fun _ => atAmp read) rest := by
  induction t with
  | nil => rfl
  | cons c t ih =>
      rw [List.flatMap_cons, List.append_assoc]
      rcases hw c with ⟨hc, ha⟩ | ⟨name, hn, hc⟩
      · rw [hc, List.singleton_append, replaceMatches_cons (atAmp_of_ne ha _), ih]
        rfl
      · have hm : atAmp read ('&' :: (name ++ [';']) ++ (t.flatMap w ++ rest)) =
            some ([c], t.flatMap w ++ rest) := by
          rw [List.cons_append, List.append_assoc]
          exact hr name c _ hn
        rw [hc, List.cons_append, replaceMatches_match hm, ih]
        rfl

theorem resolve_append {p : Text} (h : '&' ∉ p) (inAttribute : Bool) (rest : Text) :
    resolve inAttribute (p ++ rest) = p ++ resolve inAttribute rest := by
  refine replaceMatches_append (f := atAmp (read? inAttribute)) rest fun s hs hsuf => ?_
  cases s with
  | nil => exact absurd rfl hs
  | cons c s =>
      refine atAmp_of_ne (fun hc => h ?_) (s ++ rest)
      exact hsuf.mem (hc ▸ List.mem_cons_self ..)

theorem resolve_flatMap_append {w : Char → Text} (hw : Faithful w) (inAttribute : Bool)
    (t rest : Text) :
    resolve inAttribute (t.flatMap w ++ rest) = t ++ resolve inAttribute rest :=
  replaceMatches_flatMap hw (fun _ _ rest hn => read?_written hn inAttribute rest) t rest

/-- A text that is written faithfully is what it was once its references are read. -/
theorem resolve_flatMap {w : Char → Text} (hw : Faithful w) (inAttribute : Bool) (t : Text) :
    resolve inAttribute (t.flatMap w) = t := by
  have hn : resolve inAttribute [] = [] := rfl
  have h := resolve_flatMap_append hw inAttribute t []
  rwa [List.append_nil, hn, List.append_nil] at h

theorem decode_flatMap {w : Char → Text} (hw : Faithful w) (t : Text) : decode (t.flatMap w) = t := by
  have hn : decode [] = [] := rfl
  have h : decode (t.flatMap w ++ []) = t ++ decode [] :=
    replaceMatches_flatMap hw (fun _ _ rest hn => readStrict?_written hn rest) t []
  rwa [List.append_nil, hn, List.append_nil] at h

end Reference

/-!
## Encoded texts

In an encoded text every character is written as it is or by a reference. A no-break space is always
written by a reference, so it is the one blank that stays at the ends of an encoded text when it is
trimmed before its references are read.
-/

/-- Whether the first text is the second one with references for some of its characters. -/
inductive Encodes : Text → Text → Prop
  | nil : Encodes [] []
  | plain {c : Char} {s t : Text} (hc : c ≠ '&' ∧ c ≠ '\u00a0') (h : Encodes s t) :
      Encodes (c :: s) (c :: t)
  | reference {name : Text} {c : Char} {s t : Text} (hn : (name, [c]) ∈ Reference.writtenNames)
      (h : Encodes s t) : Encodes ('&' :: (name ++ ';' :: s)) (c :: t)

/-- The blanks that are written as they are. -/
def isEdge (c : Char) : Bool := isBlank c && c != '\u00a0'

/-- A text without the blanks at its ends, as far as they are written as they are. -/
def trimEdges (t : Text) : Text := dropEndWhile isEdge (t.dropWhile isEdge)

namespace Encodes

variable {s s' t t' : Text}

theorem append (h : Encodes s t) (h' : Encodes s' t') : Encodes (s ++ s') (t ++ t') := by
  induction h with
  | nil => exact h'
  | plain hc _ ih => exact .plain hc ih
  | reference hn _ ih =>
      rw [List.cons_append, List.cons_append, List.append_assoc, List.cons_append]
      exact .reference hn ih

theorem escape (quoted : Bool) (t : Text) : Encodes (Html.escape quoted t) t := by
  induction t with
  | nil => exact .nil
  | cons c t ih =>
      rw [escape_cons]
      rcases faithful_writeChar quoted c with ⟨hw, hc⟩ | ⟨name, hn, hw⟩
      · refine hw ▸ .plain ⟨hc, ?_⟩ ih
        rintro rfl
        revert hw
        cases quoted <;> decide
      · rw [hw, List.cons_append, List.cons_append, List.append_assoc]
        exact .reference hn ih

/-- Decoding reads each reference once. -/
theorem decode_eq (h : Encodes s t) : Reference.decode s = t := by
  induction h with
  | nil => rfl
  | @plain c s t hc _ ih =>
      have ha (u : Text) : Reference.atAmp Reference.readStrict? (c :: u) = none :=
        Reference.atAmp_of_ne hc.1 u
      exact (replaceMatches_cons (ha _)).trans (congrArg _ ih)
  | @reference name c s t hn _ ih =>
      have hr : Reference.atAmp Reference.readStrict? ('&' :: (name ++ [';']) ++ s) = some ([c], s) := by
        rw [List.cons_append, List.append_assoc]
        exact Reference.readStrict?_written hn s
      have hm := replaceMatches_match hr
      rw [List.cons_append, List.append_assoc] at hm
      exact hm.trans (congrArg _ ih)

theorem eq_nil_iff (h : Encodes s t) : s = [] ↔ t = [] := by
  cases h with
  | nil => exact Iff.rfl
  | plain _ _ => simp
  | reference _ _ => simp

/-- What a reference stands for is trimmed at no end. -/
theorem not_isEdge {name : Text} {c : Char} (h : (name, [c]) ∈ Reference.writtenNames) :
    isEdge c = false := by
  have hall : (Reference.writtenNames.all fun e => e.2.all fun c => !isEdge c) = true := by decide
  have hc := List.all_eq_true.1 (List.all_eq_true.1 hall _ h) c (List.mem_singleton_self c)
  simpa using hc

theorem isEdge_of_plain {c : Char} (h : c ≠ '&' ∧ c ≠ '\u00a0') : isEdge c = isBlank c := by
  simp [isEdge, h.2]

theorem dropWhile (h : Encodes s t) : Encodes (s.dropWhile isBlank) (t.dropWhile isEdge) := by
  induction h with
  | nil => exact .nil
  | @plain c s t hc h ih =>
      rw [List.dropWhile_cons, List.dropWhile_cons, isEdge_of_plain hc]
      split
      · exact ih
      · exact .plain hc h
  | reference hn h _ =>
      rw [List.dropWhile_cons_of_neg (by decide), List.dropWhile_cons_of_neg (by simp [not_isEdge hn])]
      exact .reference hn h

theorem dropEndWhile (h : Encodes s t) :
    Encodes (Text.dropEndWhile isBlank s) (Text.dropEndWhile isEdge t) := by
  induction h with
  | nil => exact .nil
  | @plain c s t hc h ih =>
      rw [dropEndWhile_cons, dropEndWhile_cons, isEdge_of_plain hc]
      simp only [ih.eq_nil_iff]
      split
      · split
        · exact .nil
        · exact .plain hc .nil
      · exact .plain hc ih
  | @reference name c s t hn h ih =>
      have hs : Text.dropEndWhile isBlank ('&' :: (name ++ ';' :: s)) =
          '&' :: (name ++ ';' :: Text.dropEndWhile isBlank s) :=
        dropEndWhile_append_cons (by decide) ('&' :: name) s
      have ht : Text.dropEndWhile isEdge (c :: t) = c :: Text.dropEndWhile isEdge t :=
        dropEndWhile_append_cons (not_isEdge hn) [] t
      rw [hs, ht]
      exact .reference hn ih

/-- Trimming an encoded text and then decoding it leaves the no-break spaces at its ends. -/
theorem decode_trim (h : Encodes s t) : Reference.decode (trim s) = trimEdges t :=
  h.dropWhile.dropEndWhile.decode_eq

end Encodes

end Gamebook.Html
