import Gamebook.Proofs.Html.Escape
import Gamebook.Proofs.Html.Sanitizing
import Gamebook.Proofs.Terminal.AltText

/-!
# Fragments on a terminal

What a terminal shows of a sanitized fragment is its text in order with a mark for each image with a
text, video and line break and a blank line behind each paragraph. Each pass over the written form
replaces the tags of one kind by their marks and leaves the rest as it is, since no bracket stands in
the text, in the values or in the marks. This fails where a line break has attributes, which its pattern
does not know, and where a value of an image seems to begin its text.
-/

namespace Gamebook.Terminal

open Html Text

/-! ## What is to be shown -/

/-- What stands for a start tag. -/
def startMark (e : Element) : Text :=
  if e.name = "br" then ['\n']
  else if e.name = "video" then "[video]".toList
  else if e.name = "img" then ((alt? e).map fun alt => "[image: ".toList ++ (alt ++ [']'])).getD []
  else []

/-- What stands for an end tag. -/
def stopMark (name : String) : Text := if name = "p" then ['\n', '\n'] else []

mutual
/-- The text of a node with its marks. -/
def flattenNode : Node → Text
  | .text run => run
  | .element e children =>
    startMark e ++
      if e.isHtmlIn Category.voidElements then [] else flatten children ++ stopMark e.name
/-- The text of some nodes with its marks. -/
def flatten : List Node → Text
  | [] => []
  | n :: ns => flattenNode n ++ flatten ns
end

/-- Whether a start tag gets its mark: a line break has no attributes, and in an image no value from its
text on seems to begin one. -/
def Legible (e : Element) : Prop :=
  (e.name = "br" → e.attributes = []) ∧
    (e.name = "img" → ∀ a ∈ altOnwards e.attributes, poses a.value.toList = false)

instance : DecidablePred Legible := fun e =>
  inferInstanceAs (Decidable ((e.name = "br" → e.attributes = []) ∧
    (e.name = "img" → ∀ a ∈ altOnwards e.attributes, poses a.value.toList = false)))

/-! ## Kinds of tags -/

/-- The kinds of tags, each replaced in a pass of its own. -/
inductive Kind where
  | image | video | lineBreak | paragraphEnd | other
deriving DecidableEq

/-- The name of the elements whose start tags are of a kind. -/
def Kind.name? : Kind → Option String
  | image => some "img"
  | video => some "video"
  | lineBreak => some "br"
  | _ => none

/-- The kind of a tag. -/
def kindOf : Tag → Kind
  | .start e =>
    if e.name = "br" then .lineBreak
    else if e.name = "video" then .video
    else if e.name = "img" then (if (alt? e).isSome then .image else .other)
    else .other
  | .stop name => if name = "p" then .paragraphEnd else .other

/-- What stands for a tag. -/
def mark : Tag → Text
  | .start e => startMark e
  | .stop name => stopMark name

theorem name_of_kindOf {t : Tag} {name : String} (h : (kindOf t).name? = some name) :
    ∃ e, t = .start e ∧ e.name = name := by
  cases t with
  | start e =>
      refine ⟨e, rfl, ?_⟩
      simp only [kindOf] at h
      split_ifs at h with hb hv hi ha <;> cases h
      · exact hb
      · exact hv
      · exact hi
  | stop name =>
      simp only [kindOf] at h
      split_ifs at h <;> cases h

theorem mark_of_other {t : Tag} (h : kindOf t = .other) : mark t = [] := by
  cases t with
  | start e =>
      simp only [kindOf] at h
      split_ifs at h with hb hv hi ha
      · simp [mark, startMark, hi, Option.not_isSome_iff_eq_none.1 ha]
      · simp [mark, startMark, hb, hv, hi]
  | stop name =>
      simp only [kindOf] at h
      split_ifs at h with hp
      simp [mark, stopMark, hp]

/-- A tag in its written form, or its mark if tags of its kind were replaced. -/
def writeBut (done : List Kind) (t : Tag) : Text :=
  if kindOf t ∈ done then escape true (mark t) else t.write

/-! ## Passes -/

variable {f : Text → Option (Text × Text)}

/-- A tag is an opening bracket with no further one behind it. -/
theorem write_tag {t : Tag} (h : t.Sanitized storyNames) : ∃ x, t.write = '<' :: x ∧ '<' ∉ x := by
  cases t with
  | start e =>
      refine ⟨e.name.toList ++ spellRest (spellings e.attributes), writeStart_of_sanitized h, ?_⟩
      have hn := Asset.not_bracket_of_tag h.tag (x := '<') (by decide)
      have ha := Asset.not_bracket_spell (spelled_of_sanitized h) (x := '<') (by decide)
      rw [spellRest_concat, List.mem_append, List.mem_append]
      simp [hn, ha]
  | stop name =>
      have hn := Asset.not_bracket_of_tag h (x := '<') (by decide)
      exact ⟨'/' :: (name.toList ++ ['>']), rfl, by simp [hn]⟩

theorem replaceMatches_plain (hf : ∀ c r, c ≠ '<' → f (c :: r) = none) {x : Text} (hx : '<' ∉ x)
    (rest : Text) :
    replaceMatches (fun _ => f) (x ++ rest) = x ++ replaceMatches (fun _ => f) rest := by
  refine replaceMatches_append rest fun s hs hsuf => ?_
  cases s with
  | nil => exact absurd rfl hs
  | cons c s => exact hf c _ fun he => hx (he ▸ hsuf.mem (List.mem_cons_self ..))

theorem pass_writeWith (k : Kind) (done : List Kind) (hf : ∀ c r, c ≠ '<' → f (c :: r) = none)
    {l : Layout} (hl : l.Sanitized storyNames)
    (h : ∀ x ∈ l.tags, kindOf x.1 ∉ done → ∀ rest, f (x.1.write ++ rest) =
      if kindOf x.1 = k then some (escape true (mark x.1), rest) else none) :
    replaceMatches (fun _ => f) (l.writeWith (writeBut done)) = l.writeWith (writeBut (k :: done)) := by
  obtain ⟨front, tags⟩ := l
  have htext (run rest : Text) :=
    replaceMatches_plain hf (avoids_text.not_mem (x := '<') (by decide) run) rest
  have htags : replaceMatches (fun _ => f) (Layout.writeTags (writeBut done) tags) =
      Layout.writeTags (writeBut (k :: done)) tags := by
    induction tags with
    | nil => rfl
    | cons x tags ih =>
        obtain ⟨t, run⟩ := x
        obtain ⟨ht, hts⟩ := List.forall_mem_cons.1 h
        obtain ⟨hst, hsts⟩ := List.forall_mem_cons.1 hl
        have hrest : replaceMatches (fun _ => f)
            (escape false run ++ Layout.writeTags (writeBut done) tags) =
              escape false run ++ Layout.writeTags (writeBut (k :: done)) tags :=
          (htext run _).trans (congrArg _ (ih hsts hts))
        rw [Layout.writeTags, Layout.writeTags, ← hrest]
        by_cases hd : kindOf t ∈ done
        · have hm : '<' ∉ escape true (mark t) := avoids_value.not_mem (by decide) _
          rw [writeBut, writeBut, if_pos hd, if_pos (List.mem_cons_of_mem k hd)]
          exact replaceMatches_plain hf hm _
        · obtain ⟨x, hx, hb⟩ := write_tag hst
          have ht := ht hd
          rw [writeBut, writeBut, if_neg hd]
          by_cases hk : kindOf t = k
          · simp only [hx, if_pos hk] at ht ⊢
            rw [if_pos (hk ▸ List.mem_cons_self)]
            exact replaceMatches_match (ht _)
          · simp only [hx, if_neg hk] at ht ⊢
            rw [if_neg fun hm => (List.mem_cons.1 hm).elim hk hd]
            exact (replaceMatches_cons (ht _)).trans (congrArg _ (replaceMatches_plain hf hb _))
  exact (htext front _).trans (congrArg _ htags)

/-! ## What each pass finds -/

variable {e : Element} {t : Tag} {name : String}

theorem head_name (h : name ∈ AllowList.story.tags) :
    ∃ c r, name.toList = c :: r ∧ c ≠ '/' ∧ c ≠ '>' := by
  have hall : ∀ n ∈ AllowList.story.tags,
      n.toList.head?.any (fun c => c != '/' && c != '>') = true := by decide
  have hn := hall name h
  cases hc : name.toList with
  | nil => rw [hc] at hn; cases hn
  | cons c r => exact ⟨c, r, rfl, by simpa [hc] using hn⟩

theorem image?_of_ne {c : Char} (r : Text) (h : c ≠ '<') : image? (c :: r) = none := by
  have ha : after? "<img".toList (c :: r) = none := if_neg (Ne.symm h)
  rw [image?, afterTagName?, ha]
  rfl

theorem video?_of_ne {c : Char} (r : Text) (h : c ≠ '<') : video? (c :: r) = none := by
  have ha : after? "<video".toList (c :: r) = none := if_neg (Ne.symm h)
  rw [video?, afterTagName?, ha]
  rfl

theorem lineBreak?_of_ne {c : Char} (r : Text) (h : c ≠ '<') : lineBreak? (c :: r) = none := by
  rw [lineBreak?]
  exact fun _ _ _ he => h (List.cons.inj he).1

theorem tag?_of_ne {c : Char} (r : Text) (h : c ≠ '<') : tag? (c :: r) = none := by
  rw [tag?]
  exact fun _ _ he => h (List.cons.inj he).1

theorem after?_eq_none {x y : Char} (h : x ≠ y) (p r : Text) :
    after? ('<' :: x :: p) ('<' :: y :: r) = none := by
  simp [after?, h]

/-- A pass that tells by the first letter of a tag which element it starts finds the tags of its kind. -/
theorem find_tag {k : Kind} {p : Char → Bool} (hk : k.name? = some name)
    (hf : ∀ c r, p c = false → f ('<' :: c :: r) = none)
    (hp : p '/' = false ∧ ∀ n ∈ AllowList.story.tags, n.toList.head?.any p = true → n = name)
    (h : t.Sanitized storyNames) (rest : Text)
    (hname : ∀ e, t = .start e → e.name = name → f (writeStart e ++ rest) =
      if kindOf (.start e) = k then some (escape true (startMark e), rest) else none) :
    f (t.write ++ rest) = if kindOf t = k then some (escape true (mark t), rest) else none := by
  by_cases hs : ∃ e, t = .start e ∧ e.name = name
  · obtain ⟨e, rfl, he⟩ := hs
    exact hname e rfl he
  · have hne : kindOf t ≠ k := fun ht => hs (name_of_kindOf (by rw [ht, hk]))
    rw [if_neg hne]
    cases t with
    | start e =>
        obtain ⟨c, r, hc, -⟩ := head_name h.tag
        have hpc : p c = false := by
          refine Bool.eq_false_iff.2 fun hpc => hs ⟨e, rfl, hp.2 e.name h.tag ?_⟩
          rw [hc]
          exact hpc
        rw [Tag.write, writeStart_of_sanitized h, openTag, hc]
        exact hf c _ hpc
    | stop name => exact hf '/' _ hp.1

theorem image?_tag (h : t.Sanitized storyNames) (hl : ∀ e ∈ t.element?, Legible e) (rest : Text) :
    image? (t.write ++ rest) =
      if kindOf t = .image then some (escape true (mark t), rest) else none := by
  refine find_tag (p := (· == 'i')) rfl (fun c r hc => ?_) (by decide) h rest ?_
  · have hc : 'i' ≠ c := Ne.symm (by simpa using hc)
    rw [image?, afterTagName?, show "<img".toList = '<' :: 'i' :: "mg".toList from rfl,
      after?_eq_none hc]
    rfl
  · rintro e rfl he
    rw [image?_start h he ((hl e rfl).2 he)]
    cases ha : alt? e <;> simp [kindOf, startMark, he, ha]

/-- The brackets of a tag are its first and its last character. -/
theorem write_tag_concat (h : t.Sanitized storyNames) :
    ∃ c y, t.write = '<' :: c :: (y ++ ['>']) ∧ c ≠ '>' ∧ '>' ∉ y := by
  cases t with
  | start e =>
      obtain ⟨c, r, hc, -, hb⟩ := head_name h.tag
      have hn := Asset.not_bracket_of_tag h.tag (x := '>') (by decide)
      have ha := Asset.not_bracket_spell (spelled_of_sanitized h) (x := '>') (by decide)
      rw [hc, List.mem_cons, not_or] at hn
      refine ⟨c, _, ?_, hb, fun hm => (List.mem_append.1 hm).elim hn.2 ha⟩
      rw [Tag.write, writeStart_of_sanitized h, openTag_concat, hc]
      simp
  | stop name =>
      exact ⟨'/', name.toList, rfl, by decide, Asset.not_bracket_of_tag h (by decide)⟩

theorem video?_tag (h : t.Sanitized storyNames) (rest : Text) :
    video? (t.write ++ rest) =
      if kindOf t = .video then some (escape true (mark t), rest) else none := by
  refine find_tag (p := (· == 'v')) rfl (fun c r hc => ?_) (by decide) h rest ?_
  · have hc : 'v' ≠ c := Ne.symm (by simpa using hc)
    rw [video?, afterTagName?, show "<video".toList = '<' :: 'v' :: "ideo".toList from rfl,
      after?_eq_none hc]
    rfl
  · rintro e rfl he
    have hname := afterTagName?_start h rest
    have ha := Asset.not_bracket_spell (spelled_of_sanitized h) (x := '>') (by decide)
    rw [he, spellRest_concat, List.append_assoc] at hname
    rw [video?, show "<video" = "<" ++ "video" from rfl, hname, Option.bind_eq_bind, Option.bind_some,
      List.singleton_append, afterTagEnd?_append ha]
    simp only [kindOf, startMark, he]
    rfl

theorem lineBreak?_tag (h : t.Sanitized storyNames) (hl : ∀ e ∈ t.element?, Legible e)
    (rest : Text) :
    lineBreak? (t.write ++ rest) =
      if kindOf t = .lineBreak then some (escape true (mark t), rest) else none := by
  refine find_tag (p := (·.toLower == 'b')) rfl (fun c r hc => ?_) (by decide) h rest ?_
  · have hc : c.toLower ≠ 'b' := by simpa using hc
    cases r with
    | nil => rfl
    | cons d r => simp [lineBreak?, hc]
  · rintro e rfl he
    have hbr : lineBreak? ("<br>".toList ++ rest) = some (['\n'], rest) := by
      simp [lineBreak?, isBlank]
    rw [writeStart_of_sanitized h, he, (hl e rfl).1 he]
    simp only [kindOf, startMark, he]
    exact hbr

theorem paragraphEnd_tag (h : t.Sanitized storyNames) (rest : Text) :
    (after? "</p>".toList (t.write ++ rest)).map (['\n', '\n'], ·) =
      if kindOf t = .paragraphEnd then some (escape true (mark t), rest) else none := by
  cases t with
  | start e =>
      obtain ⟨c, r, hc, hs, -⟩ := head_name h.tag
      have hk : kindOf (.start e) ≠ .paragraphEnd := by
        simp only [kindOf]
        repeat' split
        all_goals nofun
      rw [Tag.write, writeStart_of_sanitized h, openTag, hc, if_neg hk]
      exact congrArg _ (after?_eq_none (Ne.symm hs) _ _)
  | stop name =>
      by_cases hp : name = "p"
      · subst hp
        exact congrArg _ (after?_append "</p>".toList rest)
      · have hall : ∀ n ∈ AllowList.story.tags, n.toList.head? = some 'p' → n = "p" := by decide
        obtain ⟨c, r, hc, -⟩ := head_name h
        have hne : 'p' ≠ c := fun he => hp (hall name h (by rw [hc, he]; rfl))
        simp [kindOf, hp, Tag.write, hc, after?, hne]

theorem tag?_tag (h : t.Sanitized storyNames) (rest : Text) :
    tag? (t.write ++ rest) = some ([], rest) := by
  obtain ⟨c, y, hw, hc, hy⟩ := write_tag_concat h
  rw [hw, List.cons_append, List.cons_append, List.append_assoc, tag?, if_neg hc, List.singleton_append,
    afterTagEnd?_append hy]
  rfl

/-! ## All passes -/

/-- The text of a layout with the marks of its tags. -/
def flattenLayout (l : Layout) : Text := l.front ++ l.tags.flatMap fun (t, run) => mark t ++ run

theorem flattenLayout_addTag (t : Tag) (l : Layout) :
    flattenLayout (l.addTag t) = mark t ++ flattenLayout l := by
  simp [flattenLayout, Layout.addTag]

mutual
theorem flattenNode_append (behind : Layout) : (n : Node) →
    flattenNode n ++ flattenLayout behind = flattenLayout (n.layout behind)
  | .text run => by
      rw [flattenNode, Node.layout, Layout.addText, flattenLayout, flattenLayout, List.append_assoc]
  | .element e children => by
      rw [flattenNode, Node.layout]
      by_cases hv : e.isHtmlIn Category.voidElements = true
      · rw [if_pos hv, if_pos hv, flattenLayout_addTag, List.append_nil]
        rfl
      · rw [if_neg hv, if_neg hv, flattenLayout_addTag, ← flatten_append, flattenLayout_addTag,
          List.append_assoc, List.append_assoc]
        rfl
theorem flatten_append (behind : Layout) : (ns : List Node) →
    flatten ns ++ flattenLayout behind = flattenLayout (Node.layoutOf behind ns)
  | [] => rfl
  | n :: ns => by
      rw [flatten, List.append_assoc, flatten_append behind ns, Node.layoutOf]
      exact flattenNode_append (Node.layoutOf behind ns) n
end

/-- Once all tags are replaced, the marks and the text are encoded. -/
theorem encodes_writeBut {done : List Kind} (hd : ∀ k, k ∈ done) (l : Layout) :
    Encodes (l.writeWith (writeBut done)) (flattenLayout l) := by
  obtain ⟨front, tags⟩ := l
  refine (Encodes.escape false front).append ?_
  induction tags with
  | nil => exact .nil
  | cons x tags ih =>
      obtain ⟨t, run⟩ := x
      rw [List.flatMap_cons, Layout.writeTags, writeBut, if_pos (hd _), List.append_assoc]
      exact (Encodes.escape true (mark t)).append ((Encodes.escape false run).append ih)

theorem plainText_writeWith {l : Layout} (h : l.Sanitized storyNames)
    (hl : ∀ e ∈ l.elements, Legible e) :
    plainText (l.writeWith Tag.write) = trimEdges (flattenLayout l) := by
  have hleg : ∀ x ∈ l.tags, ∀ e ∈ x.1.element?, Legible e := fun x hx e he =>
    hl e (List.mem_filterMap.2 ⟨x, hx, he⟩)
  have himage := pass_writeWith (f := image?) .image [] (fun c r => image?_of_ne r) h
    fun x hx _ => image?_tag (h x hx) (hleg x hx)
  have hvideo := pass_writeWith (f := video?) .video [.image] (fun c r => video?_of_ne r) h
    fun x hx _ => video?_tag (h x hx)
  have hbreak := pass_writeWith (f := lineBreak?) .lineBreak [.video, .image]
    (fun c r => lineBreak?_of_ne r) h fun x hx _ => lineBreak?_tag (h x hx) (hleg x hx)
  have hparagraph := pass_writeWith (f := fun t => (after? "</p>".toList t).map (['\n', '\n'], ·))
    .paragraphEnd [.lineBreak, .video, .image]
    (fun c r hc => congrArg _ (if_neg (Ne.symm hc))) h fun x hx _ => paragraphEnd_tag (h x hx)
  -- what is left are tags that no mark stands for
  have hother := pass_writeWith (f := tag?) .other [.paragraphEnd, .lineBreak, .video, .image]
    (fun c r => tag?_of_ne r) h fun x hx hk rest => by
      have ho : kindOf x.1 = .other := by
        cases hkx : kindOf x.1 <;> simp_all
      rw [if_pos ho, tag?_tag (h x hx), mark_of_other ho]
      rfl
  have hstart : l.writeWith Tag.write = l.writeWith (writeBut []) := by
    congr 1
  have hdone : ∀ k : Kind, k ∈ [Kind.other, .paragraphEnd, .lineBreak, .video, .image] := by
    intro k
    cases k <;> decide
  rw [plainText, hstart]
  simp only [himage, hvideo, hbreak, replaceAll, hparagraph, hother]
  exact (encodes_writeBut hdone l).decode_trim

/-! ## Sanitized fragments -/

theorem plainText_write {ns : List Node} (h : Sanitized storyNames ns)
    (hl : ∀ e ∈ Node.startedOf ns, Legible e) : plainText (write ns) = trimEdges (flatten ns) := by
  have hs := sanitized_layoutOf (Layout.sanitized_empty storyNames) ns h
  rw [write_eq h, plainText_writeWith hs (elements_eq ns ▸ hl), ← flatten_append]
  exact congrArg trimEdges (List.append_nil _)

/-- What a terminal shows of a sanitized fragment with legible tags is all its text, decoded once, with
the marks and without the blanks at its ends; so it is with what the list for stories leaves of a page. -/
theorem plainText_eq_flatten (ns : List Node) (hl : ∀ e ∈ Node.startedOf ns, Legible e) :
    (Sanitized storyNames ns → plainText (write ns) = trimEdges (flatten ns)) ∧
    ∀ t, AllowList.story.keep (parse t) = ns →
      plainText (AllowList.story.sanitize t) = trimEdges (flatten ns) := by
  refine ⟨fun h => plainText_write h hl, fun t ht => ?_⟩
  subst ht
  exact plainText_write (AllowList.sanitized_keep t) hl

/-- A value in front of the text of an image may end as the text's name does. -/
theorem plainText_eq_flatten_cave :
    let ns := [Node.element { name := "p" } [.text "Dark & damp.".toList, .element { name := "br" } [],
      .element { name := "img", attributes := [⟨"class", "alt=", ""⟩, ⟨"alt", "a \"cave\"", ""⟩] } []]]
    let t := "<p>Dark &amp; damp.<br><img class=\"alt=\" alt=\"a &quot;cave&quot;\"></p>".toList
    (∀ e ∈ Node.startedOf ns, Legible e) ∧ plainText (write ns) = trimEdges (flatten ns) ∧
      trimEdges (flatten ns) = "Dark & damp.\n[image: a \"cave\"]".toList ∧
      plainText (AllowList.story.sanitize t) =
        trimEdges (flatten (AllowList.story.keep (parse t))) := by
  intro ns t
  have h : Sanitized storyNames ns := by
    refine ⟨⟨⟨rfl, by decide, by decide, by decide⟩, trivial, ⟨⟨rfl, by decide, by decide, by decide⟩,
      trivial⟩, ⟨⟨rfl, by decide, by decide, by decide⟩, trivial⟩, trivial⟩, trivial⟩
  have hl : ∀ e ∈ Node.startedOf ns, Legible e := by decide +kernel
  have ht : ∀ e ∈ Node.startedOf (AllowList.story.keep (parse t)), Legible e := by decide +kernel
  exact ⟨hl, (plainText_eq_flatten ns hl).1 h, by decide +kernel, (plainText_eq_flatten _ ht).2 t rfl⟩

/-- The class of an image ends as the name of its text does, so that the text behind the tag is taken for
it up to the next quotation mark, and the tag for ended at the bracket behind that; and a line break with
a class is none. -/
theorem not_plainText_eq_flatten :
    let t := ("<p><img src=\"a.png\" alt=\"map\" class=\"alt=\">Take the lamp. " ++
      "<em class=\"loud\">Run!</em> Now.</p>").toList
    let t' := "<p>One<br class=\"x\">Two</p>".toList
    AllowList.story.sanitize t = t ∧ plainText t = "[image: >Take the lamp.  Now.".toList ∧
      trimEdges (flatten (AllowList.story.keep (parse t))) =
        "[image: map]Take the lamp. Run! Now.".toList ∧
      AllowList.story.sanitize t' = t' ∧ plainText t' = "OneTwo".toList ∧
      trimEdges (flatten (AllowList.story.keep (parse t'))) = "One\nTwo".toList := by
  decide +kernel

end Gamebook.Terminal
