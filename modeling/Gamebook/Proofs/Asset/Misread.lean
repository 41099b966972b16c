import Gamebook.Proofs.Asset.Sources
import Gamebook.Proofs.Html.Tokens

/-!
# Misread tags

In a misread tag the attribute behind the value that hides the class is read with a value of its own:
the mark and as much of its old value as stands before a space. So such a tag does not read back as the
one it was to become, and all other tags do.
-/

namespace Gamebook.Asset

open Html Text

/-! ## What the tag was to become -/

theorem resolveElement_misread {e : Element} {c : Catalog} (h : isMisread c e = true) :
    resolveElement c e = { e with attributes := withMissing e.attributes } := by
  rw [isMisread, Bool.and_eq_true, Bool.and_eq_true] at h
  obtain ⟨⟨hm, -⟩, hp⟩ := h
  obtain ⟨name, hp, hc⟩ := (Option.any_eq_true _ _).1 hp
  rw [resolveElement, if_pos hm, resolveAttributes, hp]
  dsimp only
  rw [Option.isNone_iff_eq_none.1 hc]

/-- An attribute keeps its value when its element is marked, or gets the mark behind it. -/
theorem getElem?_withMissing {as : List Attribute} {i : Nat} {b : Attribute} (h : as[i]? = some b) :
    ∃ b', (withMissing as)[i]? = some b' ∧
      (b'.value = b.value ∨ b'.value = b.value ++ " " ++ missingClass) := by
  rw [withMissing]
  split
  · rw [List.getElem?_map, h]
    refine ⟨_, rfl, ?_⟩
    dsimp only
    split
    · exact .inr rfl
    · exact .inl rfl
  · refine ⟨b, ?_, .inl rfl⟩
    rw [List.getElem?_append_left (List.getElem?_eq_some_iff.1 h).1, h]

/-! ## What the tag is read as -/

/-- Whether a character goes on with a value without quotation marks. -/
def goesOn (c : Char) : Bool := !(Token.isSpace c || c == '>')

theorem goesOn_writeChar {c : Char} (h : Token.isSpace c = false) :
    ∀ d ∈ writeChar true c, goesOn d = true := by
  rcases faithful_writeChar true c with ⟨hw, -⟩ | ⟨name, hn, hw⟩
  · have hc : c ≠ '>' := by
      rintro rfl
      exact avoids_value '>' '>' (by decide) (by rw [hw]; exact List.mem_singleton.2 rfl)
    rw [hw]
    intro d hd
    rw [List.mem_singleton.1 hd, goesOn, h]
    simpa using hc
  · have hall : Reference.writtenNames.all (fun e => ('&' :: e.1 ++ [';']).all goesOn) = true := by
      decide
    rw [hw]
    exact List.all_eq_true.1 (List.all_eq_true.1 hall _ hn)

/-- A value without quotation marks is read up to the first space of an escaped text. -/
theorem takeWhile_escape (v : Text) :
    ∃ u, (∀ c ∈ u, Token.isSpace c = false) ∧
      ((u = v ∧ ∀ rest, (escape true v ++ rest).takeWhile goesOn =
          escape true u ++ rest.takeWhile goesOn) ∨
        ((∃ c ∈ v, Token.isSpace c = true) ∧ ∀ rest,
          (escape true v ++ rest).takeWhile goesOn = escape true u)) := by
  induction v with
  | nil => exact ⟨[], by simp, .inl ⟨rfl, fun rest => rfl⟩⟩
  | cons c v ih =>
      cases hc : Token.isSpace c with
      | true =>
          refine ⟨[], by simp, .inr ⟨⟨c, List.mem_cons_self .., hc⟩, fun rest => ?_⟩⟩
          have hw : writeChar true c = [c] := by
            refine (faithful_writeChar true).write_eq fun hm => ?_
            have hall : ['&', '<', '>', '"', '\u00a0'].filter Token.isSpace = [] := by decide
            exact List.filter_eq_nil_iff.1 hall c hm hc
          rw [escape_cons, hw, List.append_assoc]
          exact List.takeWhile_cons_of_neg (by simp [goesOn, hc])
      | false =>
          obtain ⟨u, hu, h⟩ := ih
          have ht (rest : Text) : (escape true (c :: v) ++ rest).takeWhile goesOn =
              writeChar true c ++ (escape true v ++ rest).takeWhile goesOn := by
            rw [escape_cons, List.append_assoc, List.takeWhile_append_of_pos (goesOn_writeChar hc)]
          refine ⟨c :: u, List.forall_mem_cons.2 ⟨hc, hu⟩, ?_⟩
          rcases h with ⟨rfl, h⟩ | ⟨⟨d, hd, hs⟩, h⟩
          · exact .inl ⟨rfl, fun rest => by rw [ht, h, escape_cons, List.append_assoc]⟩
          · exact .inr ⟨⟨d, List.mem_cons_of_mem _ hd, hs⟩, fun rest => by rw [ht, h, escape_cons]⟩

theorem valueOf_marked (u q : Text) (hq : '&' ∉ q ∧ '\x00' ∉ q) :
    Token.valueOf (missingClass.toList ++ '"' :: (escape true u ++ q)) =
      String.ofList (missingClass.toList ++ '"' :: (Token.withoutNul u ++ q)) := by
  have hm : (missingClass.toList ++ ['"']).all (fun c => c != '&' && c != '\x00') = true := by decide
  have hm := List.all_eq_true.1 hm
  have ha : '&' ∉ missingClass.toList ++ ['"'] := fun h => absurd (hm _ h) (by decide)
  have hn : '\x00' ∉ missingClass.toList ++ ['"'] := fun h => absurd (hm _ h) (by decide)
  have ht : missingClass.toList ++ '"' :: (escape true u ++ q) =
      missingClass.toList ++ ['"'] ++ (escape true u ++ q) := by simp
  have hq' : Reference.resolve true q = q := by
    have h := Reference.resolve_append hq.1 true []
    rwa [List.append_nil, show Reference.resolve true [] = [] from rfl, List.append_nil] at h
  have hu : Token.withoutNul (escape true u) = escape true (Token.withoutNul u) :=
    Token.withoutNul_flatMap (faithful_writeChar true) u
  have hr : Reference.resolve true (escape true (Token.withoutNul u) ++ q) =
      Token.withoutNul u ++ Reference.resolve true q :=
    Reference.resolve_flatMap_append (faithful_writeChar true) true _ q
  rw [Token.valueOf, ht, Token.withoutNul_append (missingClass.toList ++ ['"']),
    Token.withoutNul_append (escape true u),
    Token.withoutNul_of_not_mem hn, Token.withoutNul_of_not_mem hq.2, hu,
    Reference.resolve_append ha, hr, hq', List.append_assoc]
  rfl

/-- The value that is read behind the mark of a misread tag. -/
theorem attributeValue?_misread (v : Text) (sp : List (String × Text)) (rest : Text) :
    ∃ u q r, Token.attributeValue? (' ' :: missingClass.toList ++ '"' :: (escape true v ++
        '"' :: (spellRest sp ++ rest))) =
      some (String.ofList (missingClass.toList ++ '"' :: (Token.withoutNul u ++ q)), r) ∧
      (∀ c ∈ u, Token.isSpace c = false) ∧
      ((u = v ∧ q = ['"']) ∨ (q = [] ∧ ∃ c ∈ v, Token.isSpace c = true)) := by
  obtain ⟨u, hu, h⟩ := takeWhile_escape v
  have hd : (' ' :: missingClass.toList ++ '"' :: (escape true v ++ '"' ::
      (spellRest sp ++ rest))).dropWhile Token.isSpace = missingClass.toList ++ '"' ::
        (escape true v ++ '"' :: (spellRest sp ++ rest)) := rfl
  have hm : missingClass.toList.all goesOn = true := by decide
  have ht : (missingClass.toList ++ '"' :: (escape true v ++ '"' ::
      (spellRest sp ++ rest))).takeWhile goesOn = missingClass.toList ++ '"' ::
        (escape true v ++ '"' :: (spellRest sp ++ rest)).takeWhile goesOn := by
    rw [List.takeWhile_append_of_pos (List.all_eq_true.1 hm),
      List.takeWhile_cons_of_pos (by decide)]
  have hv : ∃ r, Token.attributeValue? (' ' :: missingClass.toList ++ '"' :: (escape true v ++
      '"' :: (spellRest sp ++ rest))) = some (Token.valueOf (missingClass.toList ++ '"' ::
        (escape true v ++ '"' :: (spellRest sp ++ rest)).takeWhile goesOn), r) := by
    refine ⟨(missingClass.toList ++ '"' :: (escape true v ++ '"' ::
      (spellRest sp ++ rest))).dropWhile goesOn, ?_⟩
    rw [Token.attributeValue?, hd, ← ht]
    rfl
  obtain ⟨r, hv⟩ := hv
  rcases h with ⟨rfl, h⟩ | ⟨hs, h⟩
  · obtain ⟨x, s, hx, hxs⟩ := head_spellRest sp
    have hg : goesOn x = false := by
      rcases hxs with rfl | rfl
      · decide
      · decide
    have hq : ('"' :: (spellRest sp ++ rest)).takeWhile goesOn = ['"'] := by
      rw [hx, List.takeWhile_cons_of_pos (by decide), List.cons_append,
        List.takeWhile_cons_of_neg (by simp [hg])]
    refine ⟨u, ['"'], r, ?_, hu, .inl ⟨rfl, rfl⟩⟩
    rw [hv, h, hq, valueOf_marked u _ (by decide)]
  · refine ⟨u, [], r, ?_, hu, .inr ⟨rfl, hs⟩⟩
    have hm := valueOf_marked u [] (by decide)
    rw [List.append_nil] at hm
    rw [hv, h, hm]

/-- The value that is read is not the old one, with or without the mark behind it. -/
theorem readBack_ne {value value' : String} (h : value' = value ∨ value' = value ++ " " ++ missingClass)
    {u q : Text} (hu : ∀ c ∈ u, Token.isSpace c = false)
    (hq : (u = unixLines value.toList ∧ q = ['"']) ∨
      (q = [] ∧ ∃ c ∈ unixLines value.toList, Token.isSpace c = true)) :
    String.ofList (missingClass.toList ++ '"' :: (Token.withoutNul u ++ q)) ≠
      Token.readBack value' := by
  intro he
  have he : missingClass.toList ++ '"' :: (Token.withoutNul u ++ q) =
      Token.withoutNul (unixLines value'.toList) := String.ofList_injective he
  have hv : unixLines value'.toList = unixLines value.toList ∨
      unixLines value'.toList = unixLines value.toList ++ ' ' :: missingClass.toList := by
    rcases h with rfl | rfl
    · exact .inl rfl
    · refine .inr ?_
      rw [String.toList_append, String.toList_append, List.append_assoc,
        unixLines_append _ (by decide)]
      rfl
  have hlen (t : Text) : (Token.withoutNul t).length = t.length := List.length_map _
  rcases hq with ⟨rfl, rfl⟩ | ⟨rfl, c, hc, hs⟩
  · have hl := congrArg List.length he
    have hm : missingClass.toList.length = 13 := by decide
    rw [hlen, List.length_append, List.length_cons, List.length_append, hlen, hm] at hl
    rcases hv with hv | hv
    · rw [hv, List.length_singleton] at hl
      omega
    · rw [hv, List.length_singleton, List.length_append, List.length_cons, hm] at hl
      omega
  · have hmem : c ∈ Token.withoutNul (unixLines value'.toList) := by
      have hn : c ≠ '\x00' := by
        rintro rfl
        exact absurd hs (by decide)
      have hc' : c ∈ unixLines value'.toList := by
        rcases hv with hv | hv
        · rwa [hv]
        · rw [hv]
          exact List.mem_append_left _ hc
      exact List.mem_map.2 ⟨c, hc', if_neg hn⟩
    rw [← he, List.append_nil, List.mem_append, List.mem_cons] at hmem
    rcases hmem with hm | rfl | hm
    · have hall : missingClass.toList.all (fun c => !Token.isSpace c) = true := by decide
      have := List.all_eq_true.1 hall c hm
      rw [hs] at this
      cases this
    · exact absurd hs (by decide)
    · obtain ⟨d, hd, rfl⟩ := List.mem_map.1 hm
      split at hs
      · exact absurd hs (by decide)
      · rw [hu d hd] at hs
        cases hs

/-- What stands behind the name of a misread tag as it is read: the attributes up to the one that hides
the class, and the next with the mark in front of its value. -/
def misreadRest (pre : List Attribute) (a b : Attribute) (post : List Attribute) (rest : Text) : Text :=
  ((unixSpelling (spellings (pre ++ [a]))).flatMap fun s => spell s.1 s.2) ++
    (' ' :: b.name.toList ++ '=' :: (' ' :: missingClass.toList ++ '"' ::
      (escape true (unixLines b.value.toList) ++ '"' ::
        (spellRest (unixSpelling (spellings post)) ++ rest))))

section Misspelled

variable {pre post : List Attribute} {a b : Attribute}

theorem spellings_mem_names {as : List Attribute} (h : ∀ a ∈ as, a.name ∈ storyNames) :
    ∀ s ∈ spellings as, s.1 ∈ storyNames := (spells_spellings as).mem_names h

theorem front_names (h : Spelled (pre ++ a :: b :: post)) :
    ∀ c ∈ pre ++ [a], c.name ∈ storyNames := by
  intro c hc
  refine h.names c ?_
  rcases List.mem_append.1 hc with hc | hc
  · exact List.mem_append_left _ hc
  · rw [List.mem_singleton.1 hc]
    simp

theorem front_distinct (h : Spelled (pre ++ a :: b :: post)) :
    ((unixSpelling (spellings (pre ++ [a]))).map (·.1) ++ [b.name]).Nodup := by
  have hs : (pre ++ a :: b :: post).map (·.name) =
      (unixSpelling (spellings (pre ++ [a]))).map (·.1) ++ [b.name] ++ post.map (·.name) := by
    simp [unixSpelling, spellings]
  have hd := h.distinct
  rw [hs] at hd
  exact (List.nodup_append.1 hd).1

theorem unixLines_misspell {name : String} (hname : name ∈ AllowList.story.tags)
    (h : Spelled (pre ++ a :: b :: post)) (rest : Text) :
    unixLines ('<' :: name.toList ++ misspell (spellings pre) (a.name, escape true a.value.toList)
        (b.name, escape true b.value.toList) (spellings post) ++ rest) =
      '<' :: (name.toList ++ misreadRest pre a b post (unixLines rest)) := by
  have hb := not_return_of_name (h.names b (by simp))
  have hpre := spellings_mem_names (front_names h)
  have hpost := spellings_mem_names fun c (hc : c ∈ post) => h.names c (by simp [hc])
  have hm : '\r' ∉ '<' :: name.toList := by
    have := not_return_of_tag hname
    simp [this]
  have hmark : '\r' ∉ ' ' :: b.name.toList ++ ('=' :: ' ' :: missingClass.toList ++ ['"']) := by
    have hd : '\r' ∉ '=' :: ' ' :: missingClass.toList ++ ['"'] := by decide
    rw [List.mem_append, List.mem_cons, not_or, not_or]
    exact ⟨⟨by decide, hb⟩, hd⟩
  have he : '<' :: name.toList ++ misspell (spellings pre) (a.name, escape true a.value.toList)
      (b.name, escape true b.value.toList) (spellings post) ++ rest =
      '<' :: name.toList ++ (((spellings (pre ++ [a])).flatMap fun s => spell s.1 s.2) ++
        (' ' :: b.name.toList ++ ('=' :: ' ' :: missingClass.toList ++ ['"']) ++
          (escape true b.value.toList ++ '"' :: (spellRest (spellings post) ++ rest)))) := by
    simp [misspell, spellings]
  have hu : unixLines (escape true b.value.toList) = escape true (unixLines b.value.toList) :=
    (faithful_writeChar true).unixLines_flatMap _
  rw [he, unixLines_append_of_not_mem hm, unixLines_spells hpre,
    unixLines_append_of_not_mem hmark, unixLines_append _ (by simp),
    unixLines_cons (by decide), unixLines_spellRest hpost, hu]
  simp [misreadRest]

end Misspelled

/-- Behind some attributes a misread tag has the next one with the value that is read for it. -/
theorem attributes?_misread {sp : List (String × Text)} (hn : ∀ s ∈ sp, Token.IsName s.1)
    (hq : ∀ s ∈ sp, '"' ∉ s.2) {b : String} (hb : Token.IsName b)
    (hd : (sp.map (·.1) ++ [b]).Nodup) {value : String} {t r : Text}
    (hv : Token.attributeValue? t = some (value, r)) {rounds : Nat} (hr : sp.length < rounds)
    {as : List Attribute} {closing : Bool} {r' : Text}
    (h : Token.attributes? [] rounds ((sp.flatMap fun s => spell s.1 s.2) ++
      (' ' :: b.toList ++ '=' :: t)) = some (as, closing, r')) :
    as[sp.length]? = some ⟨b, value, ""⟩ := by
  obtain ⟨k, rfl⟩ : ∃ k, rounds = k + 1 + sp.length := ⟨rounds - 1 - sp.length, by omega⟩
  have hnames : (Token.attributesOf sp).map (·.name) = sp.map (·.1) := by
    rw [Token.attributesOf, List.map_map]
    rfl
  have hmem : b ∉ (Token.attributesOf sp).map (·.name) := by
    intro hm
    rw [hnames] at hm
    exact (List.nodup_append.1 hd).2.2 b hm b (List.mem_singleton.2 rfl) rfl
  have hd' : (([] : List Attribute).map (·.name) ++ sp.map (·.1)).Nodup :=
    (List.nodup_append.1 hd).1
  rw [Token.attributes?_append hn hq hd', List.nil_append,
    Token.attributes?_name hb, hv] at h
  have hp := Token.prefix_attributes? h
  rw [Token.addAttribute_of_not_mem hb hmem] at hp
  obtain ⟨more, rfl⟩ := hp
  have hl : (Token.attributesOf sp).length = sp.length := List.length_map _
  rw [List.append_assoc, List.getElem?_append_right (by omega), hl, Nat.sub_self]
  rfl

/-- Of the attributes of a misread tag, as far as they are read, one does not have the value that it was
to have, marked or not. -/
theorem attributes?_misreadRest {pre post : List Attribute} {a b : Attribute}
    (h : Spelled (pre ++ a :: b :: post)) {rest z r : Text} {as : List Attribute} {closing : Bool}
    (hz : misreadRest pre a b post rest = ' ' :: z)
    (hr : Token.attributes? [] (z.length + 2) (' ' :: z) = some (as, closing, r)) :
    ∃ value, as[pre.length + 1]? = some ⟨b.name, value, ""⟩ ∧
      ∀ value', value' = b.value ∨ value' = b.value ++ " " ++ missingClass →
        value ≠ Token.readBack value' := by
  have hn := isName_unixSpelling (spellings_mem_names (front_names h))
  have hq := (spells_spellings (pre ++ [a])).not_quote_unixSpelling
  have hb : Token.IsName b.name := Token.isName_attribute (h.names b (by simp))
  have hl : (unixSpelling (spellings (pre ++ [a]))).length = pre.length + 1 := by
    simp [unixSpelling, spellings]
  have hrounds : (unixSpelling (spellings (pre ++ [a]))).length < z.length + 2 := by
    have hle := length_le_spells (unixSpelling (spellings (pre ++ [a])))
    have hzl := congrArg List.length hz
    rw [misreadRest, List.length_append, List.length_cons] at hzl
    omega
  obtain ⟨u, q, s, hval, hu, hcase⟩ := attributeValue?_misread (unixLines b.value.toList)
    (unixSpelling (spellings post)) rest
  rw [← hz, misreadRest] at hr
  have hread := attributes?_misread hn hq hb (front_distinct h) hval hrounds hr
  rw [hl] at hread
  exact ⟨_, hread, fun value' hvalue => readBack_ne hvalue hu hcase⟩

theorem readAll_misread {e : Element} (h : e.Sanitized storyNames) {c : Catalog}
    (hr : isMisread c e = true) (rest : Text) (rounds : Nat) (ts : List Token) :
    Token.readAll rounds (unixLines (resolveTag c (writeStart e) ++ rest)) ≠
      (Tag.start (resolveElement c e)).token :: ts := by
  obtain ⟨pre, a, b, post, hattrs, htext⟩ := resolveTag_misread h hr
  have hsp := spelled_of_sanitized h
  rw [hattrs] at hsp
  have hi : e.attributes[pre.length + 1]? = some b := by
    rw [hattrs]
    simp
  obtain ⟨b', hb', hvalue⟩ := getElem?_withMissing hi
  obtain ⟨z, hz⟩ : ∃ z, misreadRest pre a b post (unixLines rest) = ' ' :: z := by
    cases pre with
    | nil => exact ⟨_, rfl⟩
    | cons d pre => exact ⟨_, rfl⟩
  have hnext : Token.nextOrdinary false ('<' :: (e.name.toList ++ ' ' :: z)) =
      Token.startTagToken (e.name.toList ++ ' ' :: z) := Token.nextOrdinary_start h.tag _
  rw [htext, unixLines_misspell h.tag hsp, resolveElement_misread hr, hz]
  intro heq
  cases rounds with
  | zero => cases heq
  | succ rounds =>
      rw [Token.readAll_cons, hnext, Token.startTagToken,
        Token.tag?_name (Token.isName_tag h.tag) (by decide)] at heq
      cases hat : Token.attributes? [] (z.length + 2) (' ' :: z) with
      | none =>
          -- a tag whose attributes do not end is no token, and takes all that follows with it
          rw [hat] at heq
          change [] ++ Token.readAll rounds [] = _ at heq
          rw [Token.readAll_nil] at heq
          cases heq
      | some found =>
          obtain ⟨as, closing, r⟩ := found
          rw [hat] at heq
          have has : as = (withMissing e.attributes).map Attribute.readBack :=
            (Token.startTag.inj (List.cons.inj heq).1).2.1
          obtain ⟨value, hread, hne⟩ := attributes?_misreadRest hsp hz hat
          rw [has, List.getElem?_map, hb', Option.map_some] at hread
          exact hne _ hvalue (congrArg Attribute.value (Option.some.inj hread)).symm

end Gamebook.Asset
