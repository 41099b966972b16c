import Gamebook.Proofs.Html.Reading

/-!
# The tokens of a layout

Escaped text reads back as text, and a tag in one of its written forms as the tag, whatever follows. So
a layout reads back as the row of the tokens of its tags and texts.
-/

namespace Gamebook.Html

open Text

namespace Token

/-! ## Text -/

/-- Whether a text is empty or begins with a tag. -/
def Opens (t : Text) : Prop := t = [] ∨ t.head? = some '<'

theorem Opens.takeWhile {t : Text} (h : Opens t) {p : Char → Bool} (hp : p '<' = false) :
    t.takeWhile p = [] ∧ t.dropWhile p = t := by
  cases t with
  | nil => exact ⟨rfl, rfl⟩
  | cons c r =>
      have hc : c = '<' := by
        rcases h with h | h
        · cases h
        · exact Option.some.inj h
      have hn : ¬p c = true := by rw [hc, hp]; exact Bool.false_ne_true
      exact ⟨List.takeWhile_cons_of_neg hn, List.dropWhile_cons_of_neg hn⟩

/-- A stretch of escaped text without references. -/
theorem stretch {p : Char → Bool} (ha : p '&' = false) (hl : p '<' = false) (run : Text) :
    ∃ a b, run = a ++ b ∧ (∀ c ∈ a, p c = true) ∧ ∀ rest, Opens rest →
      (escape false run ++ rest).takeWhile p = a ∧
        (escape false run ++ rest).dropWhile p = escape false b ++ rest := by
  induction run with
  | nil => exact ⟨[], [], rfl, by simp, fun rest ho => ho.takeWhile hl⟩
  | cons c run ih =>
      obtain ⟨a, b, hab, hall, hr⟩ := ih
      by_cases hc : writeChar false c = [c] ∧ p c = true
      · refine ⟨c :: a, b, by rw [hab]; rfl, List.forall_mem_cons.2 ⟨hc.2, hall⟩, fun rest ho => ?_⟩
        obtain ⟨ht, hd⟩ := hr rest ho
        rw [escape_cons, hc.1, List.append_assoc, List.singleton_append,
          List.takeWhile_cons_of_pos hc.2, List.dropWhile_cons_of_pos hc.2, ht, hd]
        exact ⟨rfl, rfl⟩
      · refine ⟨[], c :: run, rfl, by simp, fun rest _ => ?_⟩
        obtain ⟨d, r, hw, hd⟩ : ∃ d r, writeChar false c = d :: r ∧ ¬p d = true := by
          rcases faithful_writeChar false c with ⟨hw, -⟩ | ⟨name, -, hw⟩
          · exact ⟨c, [], hw, fun hp => hc ⟨hw, hp⟩⟩
          · exact ⟨'&', _, hw, by rw [ha]; exact Bool.false_ne_true⟩
        rw [escape_cons, hw, List.append_assoc, List.cons_append]
        exact ⟨List.takeWhile_cons_of_neg hd, List.dropWhile_cons_of_neg hd⟩

/-- Whether a token is text. -/
def IsText (t : Token) : Prop := t = nul ∨ ∃ run, t = text run

theorem pieces_text {run : Text} (hn : '\x00' ∉ run) (hr : run ≠ []) :
    pieces (some (text run)) = [text run] := by
  have hs : splitOn '\x00' run = [run] := splitOn_of_not_mem hn
  rw [pieces, hs, List.map_singleton, if_neg hr]
  rfl

/-- A token of escaped text is text, and what is left is escaped text. -/
theorem nextOrdinary_escape (c : Char) (run : Text) :
    ∃ t b, IsText t ∧ pieces (some t) = [t] ∧ b.length ≤ run.length ∧ ∀ rest, Opens rest →
      nextOrdinary false (escape false (c :: run) ++ rest) = (some t, escape false b ++ rest) := by
  rcases faithful_writeChar false c with ⟨hw, ha⟩ | ⟨name, hn, hw⟩
  · have hl : c ≠ '<' := by
      rintro rfl
      exact avoids_text '<' '<' (by decide) (by rw [hw]; exact List.mem_singleton.2 rfl)
    have he (rest : Text) : escape false (c :: run) ++ rest = c :: (escape false run ++ rest) := by
      rw [escape_cons, hw, List.append_assoc]
      rfl
    by_cases hn : c = '\x00'
    · subst hn
      refine ⟨nul, run, .inl rfl, rfl, Nat.le_refl _, fun rest _ => ?_⟩
      rw [he, nextOrdinary]
    · obtain ⟨a, b, hab, hall, hr⟩ := stretch
        (p := fun d => isBlank d == isBlank c && d != '<' && d != '&' && d != '\x00')
        (by simp) (by simp) run
      refine ⟨text (c :: a), b, .inr ⟨_, rfl⟩, ?_, ?_, fun rest ho => ?_⟩
      · refine pieces_text (fun hm => ?_) (List.cons_ne_nil _ _)
        rcases List.mem_cons.1 hm with h | h
        · exact hn h.symm
        · have := hall _ h
          simp at this
      · rw [hab, List.length_append]
        exact Nat.le_add_left _ _
      · obtain ⟨ht, hd⟩ := hr rest ho
        rw [he, nextOrdinary]
        · simp only [ht, hd]
        · exact hl
        · exact ha
        · exact hn
  · refine ⟨text [c], run, .inr ⟨[c], rfl⟩, ?_, Nat.le_refl _, fun rest _ => ?_⟩
    · have hall : ∀ e ∈ Reference.writtenNames, '\x00' ∉ e.2 := by decide
      exact pieces_text (hall _ hn) (List.cons_ne_nil _ _)
    · have hr := Reference.read?_written hn false (escape false run ++ rest)
      have he : escape false (c :: run) ++ rest =
          '&' :: (name ++ ';' :: (escape false run ++ rest)) := by
        rw [escape_cons, hw]
        simp
      rw [he, nextOrdinary, hr]

/-! ## All tokens -/

/-- The tokens of an ordinary text, in at most so many rounds. -/
def readAll : Nat → Text → List Token
  | 0, _ => []
  | _, [] => []
  | rounds + 1, t =>
    let (token, rest) := nextOrdinary false t
    pieces token ++ readAll rounds rest

theorem readAll_nil (rounds : Nat) : readAll rounds [] = [] := by
  cases rounds with
  | zero => rfl
  | succ rounds => rfl

theorem readAll_cons (rounds : Nat) (c : Char) (r : Text) :
    readAll (rounds + 1) (c :: r) =
      pieces (nextOrdinary false (c :: r)).1 ++ readAll rounds (nextOrdinary false (c :: r)).2 := rfl

/-- Escaped text is read as text, whatever tag follows. -/
theorem exists_readAll_escape (n : Nat) (run : Text) (hn : run.length ≤ n) :
    ∃ k ts, k ≤ run.length ∧ (∀ t ∈ ts, IsText t) ∧ ∀ rest, Opens rest → ∀ rounds,
      readAll (rounds + k) (escape false run ++ rest) = ts ++ readAll rounds rest := by
  induction n generalizing run with
  | zero =>
      rw [List.length_eq_zero_iff.1 (Nat.le_zero.1 hn)]
      exact ⟨0, [], Nat.le_refl _, by simp, fun rest _ rounds => rfl⟩
  | succ n ih =>
      cases run with
      | nil => exact ⟨0, [], Nat.le_refl _, by simp, fun rest _ rounds => rfl⟩
      | cons c run =>
          obtain ⟨t, b, ht, hp, hb, hnext⟩ := nextOrdinary_escape c run
          rw [List.length_cons] at hn
          obtain ⟨k, ts, hk, hts, hr⟩ := ih b (by omega)
          refine ⟨k + 1, t :: ts, ?_, List.forall_mem_cons.2 ⟨ht, hts⟩, fun rest ho rounds => ?_⟩
          · rw [List.length_cons]
            omega
          · have hne : ∃ d r, escape false (c :: run) ++ rest = d :: r := by
              rcases faithful_writeChar false c with ⟨hw, -⟩ | ⟨name, -, hw⟩
              · exact ⟨_, _, by rw [escape_cons, hw]; rfl⟩
              · exact ⟨_, _, by rw [escape_cons, hw]; rfl⟩
            obtain ⟨d, r, hdr⟩ := hne
            have hnext := hnext rest ho
            rw [hdr] at hnext ⊢
            rw [← Nat.add_assoc, readAll_cons, hnext, hp, hr rest ho rounds]
            rfl

theorem length_le_escape (run : Text) : run.length ≤ (escape false run).length := by
  induction run with
  | nil => exact Nat.le_refl _
  | cons c run ih =>
      have hw : 0 < (writeChar false c).length := by
        rcases faithful_writeChar false c with ⟨hw, -⟩ | ⟨name, -, hw⟩
        · rw [hw]
          exact Nat.one_pos
        · rw [hw]
          exact Nat.succ_pos _
      rw [escape_cons, List.length_append, List.length_cons]
      omega

/-- The tokens of some text. -/
def tokensOf (run : Text) : List Token :=
  readAll (escape false (unixLines run)).length (escape false (unixLines run))

theorem unixLines_escape (run : Text) : unixLines (escape false run) = escape false (unixLines run) :=
  (faithful_writeChar false).unixLines_flatMap run

theorem readAll_escape (run : Text) :
    (∀ t ∈ tokensOf run, IsText t) ∧ ∃ k, k ≤ (unixLines (escape false run)).length ∧
      ∀ rest, Opens rest → ∀ rounds,
        readAll (rounds + k) (unixLines (escape false run) ++ rest) =
          tokensOf run ++ readAll rounds rest := by
  obtain ⟨k, ts, hk, hts, hr⟩ := exists_readAll_escape _ (unixLines run) (Nat.le_refl _)
  have hle := length_le_escape (unixLines run)
  have ht : tokensOf run = ts := by
    obtain ⟨d, hd⟩ : ∃ d, (escape false (unixLines run)).length = d + k :=
      ⟨(escape false (unixLines run)).length - k, by omega⟩
    have h := hr [] (.inl rfl) d
    rwa [List.append_nil, ← hd, readAll_nil, List.append_nil] at h
  rw [ht, unixLines_escape]
  exact ⟨hts, k, by omega, hr⟩

end Token

/-! ## Layouts -/

/-- An attribute as it is read back. -/
def Attribute.readBack (a : Attribute) : Attribute := ⟨a.name, Token.readBack a.value, ""⟩

/-- The token that a tag reads back as. -/
def Tag.token : Tag → Token
  | start e => .startTag e.name (e.attributes.map Attribute.readBack) false
  | stop name => .endTag name

/-- Whether a text is a written form of a tag. -/
def Tag.IsWritten (t : Text) : Tag → Prop
  | start e => IsStart e t
  | stop name => t = Tag.write (.stop name)

theorem not_return_of_name {name : String} (h : name ∈ storyNames) : '\r' ∉ name.toList := by
  have hall : storyNames.all (fun n => !n.toList.contains '\r') = true := by decide
  simpa using List.all_eq_true.1 hall name h

theorem not_return_of_tag {name : String} (h : name ∈ AllowList.story.tags) :
    '\r' ∉ name.toList := by
  have hall : AllowList.story.tags.all (fun n => !n.toList.contains '\r') = true := by decide
  simpa using List.all_eq_true.1 hall name h

/-- Spelled attributes with the line breaks of their values as line feeds. -/
def unixSpelling (sp : List (String × Text)) : List (String × Text) :=
  sp.map fun s => (s.1, unixLines s.2)

theorem unixLines_spell {name : String} (h : name ∈ storyNames) (w rest : Text) :
    unixLines (spell name w ++ rest) = spell name (unixLines w) ++ unixLines rest := by
  have hm : '\r' ∉ ' ' :: name.toList ++ ['=', '"'] := by
    have := not_return_of_name h
    simp [this]
  have hs (x y : Text) : spell name x ++ y = ' ' :: name.toList ++ ['=', '"'] ++ (x ++ '"' :: y) := by
    simp [spell]
  rw [hs, hs, unixLines_append_of_not_mem hm, unixLines_append w (by simp),
    unixLines_cons (by decide)]

theorem unixLines_spells {sp : List (String × Text)} (h : ∀ s ∈ sp, s.1 ∈ storyNames)
    (rest : Text) :
    unixLines ((sp.flatMap fun s => spell s.1 s.2) ++ rest) =
      ((unixSpelling sp).flatMap fun s => spell s.1 s.2) ++ unixLines rest := by
  induction sp with
  | nil => rfl
  | cons s sp ih =>
      rw [List.flatMap_cons, List.append_assoc, unixLines_spell (h s (List.mem_cons_self ..)),
        ih fun t ht => h t (List.mem_cons_of_mem _ ht), ← List.append_assoc]
      rfl

theorem unixLines_spellRest {sp : List (String × Text)} (h : ∀ s ∈ sp, s.1 ∈ storyNames)
    (rest : Text) :
    unixLines (spellRest sp ++ rest) = spellRest (unixSpelling sp) ++ unixLines rest := by
  rw [spellRest_concat, spellRest_concat, List.append_assoc, unixLines_spells h,
    List.append_assoc]
  exact congrArg _ (unixLines_cons (by decide) rest)

theorem Spells.names_eq {sp : List (String × Text)} {as : List Attribute} (h : Spells sp as) :
    sp.map (·.1) = as.map (·.name) := by
  induction h with
  | nil => rfl
  | cons hs _ ih => rw [List.map_cons, List.map_cons, hs.1, ih]

theorem Spells.not_quote {sp : List (String × Text)} {as : List Attribute} (h : Spells sp as) :
    ∀ s ∈ sp, '"' ∉ s.2 := by
  induction h with
  | nil => simp
  | cons hs _ ih => exact List.forall_mem_cons.2 ⟨hs.2.not_mem (by decide), ih⟩

theorem Spells.readBack {sp : List (String × Text)} {as : List Attribute} (h : Spells sp as) :
    Token.attributesOf (unixSpelling sp) = as.map Attribute.readBack := by
  induction h with
  | nil => rfl
  | @cons s a _ _ hs _ ih =>
      have hv : (⟨s.1, Token.valueOf (unixLines s.2), ""⟩ : Attribute) = a.readBack := by
        rw [Token.valueOf_writes hs.2, hs.1]
        rfl
      rw [List.map_cons, ← ih, ← hv]
      rfl

theorem not_quote_unixLines {t : Text} (h : '"' ∉ t) : '"' ∉ unixLines t := by
  fun_induction unixLines t with
  | case1 => exact h
  | case2 r ih => simp_all
  | case3 c r _ ih =>
      rw [List.mem_cons, not_or] at h
      rw [List.mem_cons, not_or]
      refine ⟨?_, ih h.2⟩
      split
      · decide
      · exact h.1

theorem names_unixSpelling (sp : List (String × Text)) :
    (unixSpelling sp).map (·.1) = sp.map (·.1) := by
  rw [unixSpelling, List.map_map]
  rfl

theorem isName_unixSpelling {sp : List (String × Text)} (h : ∀ s ∈ sp, s.1 ∈ storyNames) :
    ∀ s ∈ unixSpelling sp, Token.IsName s.1 := by
  intro s hs
  obtain ⟨r, hr, rfl⟩ := List.mem_map.1 hs
  exact Token.isName_attribute (h r hr)

section Spelt

variable {sp : List (String × Text)} {as : List Attribute}

theorem Spells.mem_names (h : Spells sp as) (ha : ∀ a ∈ as, a.name ∈ storyNames) :
    ∀ s ∈ sp, s.1 ∈ storyNames := by
  intro s hs
  have hm := List.mem_map_of_mem (f := (·.1)) hs
  rw [h.names_eq] at hm
  obtain ⟨a, hmem, he⟩ := List.mem_map.1 hm
  exact he ▸ ha a hmem

theorem Spells.not_quote_unixSpelling (h : Spells sp as) : ∀ s ∈ unixSpelling sp, '"' ∉ s.2 := by
  intro s hs
  obtain ⟨r, hr, rfl⟩ := List.mem_map.1 hs
  exact not_quote_unixLines (h.not_quote r hr)

end Spelt

/-- Whether a text reads back as a tag, whatever follows. -/
def Tag.Reads (t : Tag) (w : Text) : Prop :=
  ∃ v, (∀ rest, unixLines (w ++ rest) = '<' :: v ++ unixLines rest) ∧
    ∀ rest rounds, Token.readAll (rounds + 1) ('<' :: v ++ rest) =
      t.token :: Token.readAll rounds rest

theorem reads_stop {name : String} (h : name ∈ AllowList.story.tags) :
    Tag.Reads (.stop name) (Tag.write (.stop name)) := by
  have hm : '\r' ∉ Tag.write (.stop name) := by
    have := not_return_of_tag h
    simp [Tag.write, this]
  refine ⟨'/' :: name.toList ++ ['>'], fun rest => unixLines_append_of_not_mem hm rest,
    fun rest rounds => ?_⟩
  have hn : Token.nextOrdinary false ('<' :: ('/' :: name.toList ++ ['>'] ++ rest)) =
    (some (.endTag name), rest) := Token.nextOrdinary_stop h rest
  rw [List.cons_append, Token.readAll_cons, hn]
  rfl

theorem reads_start {e : Element} (h : e.Sanitized storyNames) {sp : List (String × Text)}
    (hsp : Spells sp e.attributes) : Tag.Reads (.start e) (openTag e.name sp) := by
  have hin := hsp.mem_names fun a ha => (h.allowed a ha).2
  have hd : ((unixSpelling sp).map (·.1)).Nodup := by
    rw [names_unixSpelling, hsp.names_eq]
    exact h.distinct
  refine ⟨e.name.toList ++ spellRest (unixSpelling sp), fun rest => ?_, fun rest rounds => ?_⟩
  · have hm : '\r' ∉ '<' :: e.name.toList := by
      have := not_return_of_tag h.tag
      simp [this]
    rw [openTag, List.append_assoc, unixLines_append_of_not_mem hm, unixLines_spellRest hin,
      ← List.append_assoc]
    rfl
  · have hr := Token.nextOrdinary_openTag h.tag (isName_unixSpelling hin)
      hsp.not_quote_unixSpelling hd rest
    have hr : Token.nextOrdinary false
        ('<' :: (e.name.toList ++ spellRest (unixSpelling sp) ++ rest)) =
        (some (.startTag e.name (Token.attributesOf (unixSpelling sp)) false), rest) := hr
    rw [List.cons_append, Token.readAll_cons, hr, hsp.readBack]
    rfl

/-- A written tag reads back, whatever follows. -/
theorem Tag.IsWritten.reads {t : Tag} (h : t.Sanitized storyNames) {w : Text} (hw : t.IsWritten w) :
    t.Reads w := by
  cases t with
  | stop name =>
      subst hw
      exact reads_stop h
  | start e =>
      obtain ⟨sp, rfl, hsp⟩ := hw
      exact reads_start h hsp

/-- The tokens of a layout. -/
def Layout.tokens (l : Layout) : List Token :=
  Token.tokensOf l.front ++ l.tags.flatMap fun t => t.1.token :: Token.tokensOf t.2

theorem Tag.IsWritten.head? {t : Tag} {w : Text} (hw : t.IsWritten w) : w.head? = some '<' := by
  cases t with
  | stop name => rw [show w = Tag.write (.stop name) from hw]; rfl
  | start e =>
      obtain ⟨sp, rfl, -⟩ := hw
      rfl

section Layouts

variable {f : Tag → Tag} {write : Tag → Text}

/-- Whether what is written for tags are written forms of tags, which `f` tells. -/
def AreWritten (f : Tag → Tag) (write : Tag → Text) (ts : List (Tag × Text)) : Prop :=
  ∀ t ∈ ts, (f t.1).Sanitized storyNames ∧ (f t.1).IsWritten (write t.1)

theorem opens_writeTags {ts : List (Tag × Text)} (h : ∀ t ∈ ts, (write t.1).head? = some '<') :
    Token.Opens (Layout.writeTags write ts) := by
  cases ts with
  | nil => exact .inl rfl
  | cons t ts =>
      refine .inr ?_
      rw [Layout.writeTags, List.head?_append, h t (List.mem_cons_self ..)]
      rfl

theorem AreWritten.opens {ts : List (Tag × Text)} (h : AreWritten f write ts) :
    Token.Opens (Layout.writeTags write ts) :=
  opens_writeTags fun t ht => (h t ht).2.head?

theorem unixLines_opens {t : Text} (h : Token.Opens t) : Token.Opens (unixLines t) := by
  cases t with
  | nil => exact .inl rfl
  | cons c t =>
      have hc : c = '<' := by
        rcases h with h | h
        · cases h
        · exact Option.some.inj h
      rw [hc, unixLines_cons (by decide)]
      exact .inr rfl

theorem unixLines_run (run : Text) {t : Text} (h : Token.Opens t) :
    unixLines (escape false run ++ t) = unixLines (escape false run) ++ unixLines t := by
  refine unixLines_append _ ?_
  rcases h with rfl | h
  · exact fun h => by cases h
  · rw [h]
    decide

theorem readAll_run (run : Text) (rounds : Nat) {t : Text} (ho : Token.Opens t)
    (hr : (unixLines (escape false run ++ t)).length ≤ rounds) :
    ∃ left, (unixLines t).length ≤ left ∧
      Token.readAll rounds (unixLines (escape false run ++ t)) =
        Token.tokensOf run ++ Token.readAll left (unixLines t) := by
  obtain ⟨-, k, hk, hread⟩ := Token.readAll_escape run
  rw [unixLines_run run ho] at hr ⊢
  rw [List.length_append] at hr
  obtain ⟨d, rfl⟩ : ∃ d, rounds = d + k := ⟨rounds - k, by omega⟩
  exact ⟨d, by omega, hread _ (unixLines_opens ho) d⟩

theorem readAll_writeTags {ts : List (Tag × Text)} (h : AreWritten f write ts) {rounds : Nat}
    (hr : (unixLines (Layout.writeTags write ts)).length ≤ rounds) :
    Token.readAll rounds (unixLines (Layout.writeTags write ts)) =
      ts.flatMap fun t => (f t.1).token :: Token.tokensOf t.2 := by
  induction ts generalizing rounds with
  | nil => exact Token.readAll_nil rounds
  | cons t ts ih =>
      have hts : AreWritten f write ts := fun u hu => h u (List.mem_cons_of_mem _ hu)
      obtain ⟨hs, hw⟩ := h t (List.mem_cons_self ..)
      obtain ⟨v, hv, hread⟩ := hw.reads hs
      rw [Layout.writeTags, hv] at hr ⊢
      simp only [List.length_append, List.length_cons] at hr
      obtain ⟨d, rfl⟩ : ∃ d, rounds = d + 1 := ⟨rounds - 1, by omega⟩
      obtain ⟨left, hleft, hrun⟩ := readAll_run t.2 d hts.opens (by omega)
      rw [hread, hrun, ih hts hleft, List.flatMap_cons]
      rfl

/-- A layout whose tags are in written forms reads back as its tokens. -/
theorem readAll_layout {l : Layout} (h : AreWritten f write l.tags) {rounds : Nat}
    (hr : (unixLines (l.writeWith write)).length ≤ rounds) :
    Token.readAll rounds (unixLines (l.writeWith write)) = (l.changeTags f).tokens := by
  have ht : (l.changeTags f).tokens = Token.tokensOf l.front ++
      l.tags.flatMap fun t => (f t.1).token :: Token.tokensOf t.2 := by
    rw [Layout.tokens, Layout.changeTags, List.flatMap_map]
  obtain ⟨left, hleft, hrun⟩ := readAll_run l.front _ h.opens hr
  rw [ht, Layout.writeWith, hrun, readAll_writeTags h hleft]

end Layouts

/-! ## The byte order mark -/

/-- The text without a byte order mark in front. -/
def dropMark (t : Text) : Text :=
  match t with
  | '\ufeff' :: r => r
  | t => t

/-- The tokens of a text, read as ordinary text to its end. -/
def tokens (t : Text) : List Token :=
  Token.readAll ((unixLines (dropMark t)).length + 1) (unixLines (dropMark t))

/-- A layout without a byte order mark in front. -/
def Layout.unmarked (l : Layout) : Layout := ⟨dropMark l.front, l.tags⟩

theorem dropMark_of_ne {c : Char} (h : c ≠ '\ufeff') (t : Text) : dropMark (c :: t) = c :: t := by
  unfold dropMark
  split
  · next he => exact absurd (List.cons.inj he).1 h
  · rfl

theorem dropMark_opens {t : Text} (h : Token.Opens t) : dropMark t = t := by
  cases t with
  | nil => rfl
  | cons c t =>
      rcases h with h | h
      · cases h
      · exact dropMark_of_ne (by rw [Option.some.inj h]; decide) t

theorem dropMark_escape (run : Text) {t : Text} (h : Token.Opens t) :
    dropMark (escape false run ++ t) = escape false (dropMark run) ++ t := by
  cases run with
  | nil => exact dropMark_opens h
  | cons c run =>
      by_cases hc : c = '\ufeff'
      · subst hc
        have hw : writeChar false '\ufeff' = ['\ufeff'] :=
          (faithful_writeChar false).write_eq (by decide)
        rw [escape_cons, hw]
        rfl
      · rw [dropMark_of_ne hc]
        rcases faithful_writeChar false c with ⟨hw, -⟩ | ⟨name, -, hw⟩
        · rw [escape_cons, hw]
          exact dropMark_of_ne hc _
        · rw [escape_cons, hw]
          exact dropMark_of_ne (by decide) _

theorem dropMark_writeWith {write : Tag → Text} {l : Layout}
    (h : Token.Opens (Layout.writeTags write l.tags)) :
    dropMark (l.writeWith write) = l.unmarked.writeWith write :=
  dropMark_escape l.front h

theorem tokens_writeWith {f : Tag → Tag} {write : Tag → Text} {l : Layout}
    (h : AreWritten f write l.tags) :
    tokens (l.writeWith write) = (l.unmarked.changeTags f).tokens := by
  rw [tokens, dropMark_writeWith h.opens]
  exact readAll_layout (l := l.unmarked) h (Nat.le_succ _)

end Gamebook.Html
