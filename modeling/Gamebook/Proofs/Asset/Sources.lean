import Gamebook.Proofs.Asset.Resolved
import Gamebook.Proofs.Html.MediaTag

/-!
# Resolved fragments

In the written form of a sanitized fragment the tags that are resolved are the start tags of its media
elements: neither the text nor the values hold a bracket.
-/

namespace Gamebook.Asset

open Html Text

/-- A tag in its written form with its placeholder resolved. -/
def resolvedTag (c : Catalog) : Tag → Text
  | .start e => if isMedia e then resolveTag c (writeStart e) else writeStart e
  | .stop name => Tag.write (.stop name)

/-- Whether a tag starts an element that shows an asset. -/
def startsMedia (t : Tag) : Bool := t.element?.any isMedia

/-! ## Where a media tag begins -/

theorem mediaTag?_of_ne {x : Char} (h : x ≠ '<') (t : Text) : mediaTag? (x :: t) = none := by
  have hi : after? "<img".toList (x :: t) = none := if_neg (Ne.symm h)
  have hv : after? "<video".toList (x :: t) = none := if_neg (Ne.symm h)
  rw [mediaTag?, hi, hv]
  rfl

theorem mediaTag?_suffix {p : Text} (h : '<' ∉ p) (rest : Text) :
    ∀ s, s ≠ [] → s <:+ p → mediaTag? (s ++ rest) = none := by
  intro s hs hsuf
  cases s with
  | nil => exact absurd rfl hs
  | cons x s =>
      refine mediaTag?_of_ne (fun he => h ?_) (s ++ rest)
      exact hsuf.mem (he ▸ List.mem_cons_self ..)

theorem not_bracket_of_tag {name : String} (h : name ∈ AllowList.story.tags) {x : Char}
    (hx : x ∈ ['<', '>']) : x ∉ name.toList := by
  have hall : AllowList.story.tags.all (fun n =>
      ['<', '>'].all fun x => !n.toList.contains x) = true := by decide
  simpa using List.all_eq_true.1 (List.all_eq_true.1 hall name h) x hx

theorem not_bracket_of_name {name : String} (h : name ∈ storyNames) {x : Char}
    (hx : x ∈ ['<', '>']) : x ∉ name.toList := by
  have hall : storyNames.all (fun n => ['<', '>'].all fun x => !n.toList.contains x) = true := by
    decide
  simpa using List.all_eq_true.1 (List.all_eq_true.1 hall name h) x hx

theorem not_bracket_spell {as : List Attribute} (h : Spelled as) {x : Char} (hx : x ∈ ['<', '>']) :
    x ∉ (spellings as).flatMap fun a => spell a.1 a.2 := by
  have hall : ∀ x ∈ ['<', '>'], x ≠ ' ' ∧ x ≠ '=' ∧ x ≠ '"' ∧ x ∈ ['<', '>', '"'] :=
    List.forall_mem_cons.2 ⟨by decide, List.forall_mem_singleton.2 (by decide)⟩
  intro hm
  obtain ⟨s, hs, hm⟩ := List.mem_flatMap.1 hm
  obtain ⟨a, ha, rfl⟩ := List.mem_map.1 hs
  obtain ⟨hb, he, hq, hx'⟩ := hall x hx
  have hn := not_bracket_of_name (h.names a ha) hx
  have hv := (writes_escape a.value.toList).not_mem hx'
  simp only [spell, List.cons_append, List.mem_cons, List.mem_append, hb, he, hq, hn, hv,
    List.not_mem_nil, or_self] at hm

/-- A media tag is found where its name ends and its bracket is the next one. -/
theorem mediaTag?_bracket {name : String} (hn : name ∈ ["img", "video"]) {inside : Text}
    (hw : inside.head?.any isWordChar = false) (hi : '<' ∉ inside ∧ '>' ∉ inside) (rest : Text) :
    mediaTag? ('<' :: name.toList ++ inside ++ '>' :: rest) =
      some ('<' :: name.toList ++ inside ++ ['>'], rest) := by
  have ha : (after? "<img".toList ('<' :: name.toList ++ inside ++ '>' :: rest) <|>
      after? "<video".toList ('<' :: name.toList ++ inside ++ '>' :: rest)) =
      some (inside ++ '>' :: rest) := by
    rw [List.append_assoc]
    rcases List.mem_cons.1 hn with rfl | hn
    · rfl
    · rw [List.mem_singleton.1 hn]
      rfl
  have hb : (inside ++ '>' :: rest).head?.any isWordChar = false := by
    cases inside with
    | nil => exact (by decide : isWordChar '>' = false)
    | cons c inside => exact hw
  have ht : (inside ++ '>' :: rest).takeWhile (fun c => c ≠ '<' ∧ c ≠ '>') = inside := by
    have hp : ∀ c ∈ inside, decide (c ≠ '<' ∧ c ≠ '>') = true := by
      intro c hc
      rw [decide_eq_true_eq]
      exact ⟨fun he => hi.1 (he ▸ hc), fun he => hi.2 (he ▸ hc)⟩
    rw [List.takeWhile_append_of_pos hp, List.takeWhile_cons_of_neg (by decide), List.append_nil]
  have hd : (inside ++ '>' :: rest).drop inside.length = '>' :: rest := List.drop_left
  have hk : ('<' :: name.toList ++ inside ++ '>' :: rest).take
      (('<' :: name.toList ++ inside ++ '>' :: rest).length - rest.length) =
      '<' :: name.toList ++ inside ++ ['>'] := by
    rw [List.append_cons, List.length_append, Nat.add_sub_cancel, List.take_left]
  rw [mediaTag?, ha]
  simp only [Option.bind_eq_bind, Option.bind_some, hb, ht, hd, hk, Bool.false_eq_true, if_false]

/-- What is found is such a tag. -/
theorem mediaTag?_eq_some {t tag rest : Text} (h : mediaTag? t = some (tag, rest)) :
    ∃ name ∈ ["img", "video"], ∃ inside, inside.head?.any isWordChar = false ∧
      ('<' ∉ inside ∧ '>' ∉ inside) ∧ tag = '<' :: name.toList ++ inside ++ ['>'] ∧ t = tag ++ rest := by
  have hfound := h
  rw [mediaTag?, Option.bind_eq_bind, Option.bind_eq_some_iff] at h
  obtain ⟨r, hr, h⟩ := h
  have hname : ∃ name ∈ ["img", "video"], t = '<' :: name.toList ++ r := by
    cases hi : after? "<img".toList t with
    | some r' =>
        rw [hi] at hr
        cases hr
        exact ⟨"img", by decide, after?_eq_some hi⟩
    | none =>
        rw [hi] at hr
        exact ⟨"video", by decide, after?_eq_some hr⟩
  obtain ⟨name, hn, rfl⟩ := hname
  split at h
  · cases h
  · next hw =>
      dsimp only at h
      split at h
      · next behind hd =>
          have hr := List.prefix_append_drop
            (List.takeWhile_prefix (l := r) fun c => c ≠ '<' ∧ c ≠ '>')
          have hi : ∀ c ∈ r.takeWhile (fun c => c ≠ '<' ∧ c ≠ '>'), c ≠ '<' ∧ c ≠ '>' := by
            intro c hc
            simpa using List.mem_takeWhile_imp hc
          rw [hd] at hr
          generalize r.takeWhile (fun c => c ≠ '<' ∧ c ≠ '>') = inside at hr hi
          subst hr
          have hword : inside.head?.any isWordChar = false := by
            cases inside with
            | nil => rfl
            | cons c inside => exact Bool.eq_false_iff.2 hw
          have hb : '<' ∉ inside ∧ '>' ∉ inside :=
            ⟨fun hm => (hi _ hm).1 rfl, fun hm => (hi _ hm).2 rfl⟩
          have hm := mediaTag?_bracket hn hword hb behind
          rw [List.append_assoc] at hm
          cases hm.symm.trans hfound
          exact ⟨name, hn, inside, hword, hb, rfl, by simp⟩
      · cases h

theorem mediaTag?_openTag {name : String} (hn : name ∈ ["img", "video"]) {as : List Attribute}
    (h : Spelled as) (rest : Text) :
    mediaTag? (openTag name (spellings as) ++ rest) = some (openTag name (spellings as), rest) := by
  have hw : ((spellings as).flatMap fun a => spell a.1 a.2).head?.any isWordChar = false := by
    cases as with
    | nil => rfl
    | cons a as => exact (by decide : isWordChar ' ' = false)
  have hm := mediaTag?_bracket hn hw
    ⟨not_bracket_spell h (by decide), not_bracket_spell h (by decide)⟩ rest
  rw [openTag_concat]
  simpa using hm

theorem mediaTag?_other {name : String} (hn : name ∈ AllowList.story.tags)
    (hm : name ∉ ["img", "video"]) (x : Char) (t : Text) :
    mediaTag? ('<' :: name.toList ++ x :: t) = none := by
  have hnone (r : Text) (hi : after? "<img".toList r = none) (hv : after? "<video".toList r = none) :
      mediaTag? r = none := by
    rw [mediaTag?, hi, hv]
    rfl
  simp only [AllowList.story, List.mem_cons, List.not_mem_nil, or_false] at hn
  rcases hn with rfl | rfl | rfl | rfl | rfl | rfl | rfl | rfl
  · exact hnone _ rfl rfl
  · exact hnone _ rfl rfl
  · exact absurd (by decide) hm
  · exact absurd (by decide) hm
  · exact hnone _ rfl rfl
  · exact hnone _ rfl rfl
  · exact hnone _ rfl rfl
  · exact hnone _ rfl rfl

/-! ## Replacing tag by tag -/

/-- Replaces the media tag that starts a text. -/
def replaceTag? (c : Catalog) (t : Text) : Option (Text × Text) :=
  (mediaTag? t).map fun (tag, rest) => (resolveTag c tag, rest)

theorem replaceTag?_eq_none {c : Catalog} {t : Text} (h : mediaTag? t = none) :
    replaceTag? c t = none := by
  rw [replaceTag?, h]
  rfl

theorem resolveSources_append (c : Catalog) {p : Text} (h : '<' ∉ p) (rest : Text) :
    resolveSources c (p ++ rest) = p ++ resolveSources c rest :=
  replaceMatches_append rest fun s hs hsuf => replaceTag?_eq_none (mediaTag?_suffix h rest s hs hsuf)

theorem resolveSources_skip (c : Catalog) {p : Text} (h : '<' ∉ p) {rest : Text}
    (hm : mediaTag? ('<' :: p ++ rest) = none) :
    resolveSources c ('<' :: p ++ rest) = '<' :: p ++ resolveSources c rest := by
  have hc : resolveSources c ('<' :: (p ++ rest)) = '<' :: resolveSources c (p ++ rest) :=
    replaceMatches_cons (replaceTag?_eq_none hm)
  rw [List.cons_append, hc, resolveSources_append c h]
  rfl

/-- A start tag ends before the next one begins. -/
theorem mediaTag?_append_open {s : Text} (hs : s ≠ []) (r : Text) :
    mediaTag? (s ++ '<' :: r) = (mediaTag? s).map fun (tag, rest) => (tag, rest ++ '<' :: r) := by
  cases hm : mediaTag? s with
  | some found =>
      obtain ⟨tag, rest⟩ := found
      obtain ⟨name, hn, inside, hw, hb, rfl, rfl⟩ := mediaTag?_eq_some hm
      have h := mediaTag?_bracket hn hw hb (rest ++ '<' :: r)
      simpa using h
  | none =>
      refine Option.eq_none_iff_forall_ne_some.2 fun found h => ?_
      obtain ⟨tag, rest⟩ := found
      obtain ⟨name, hn, inside, hw, hb, rfl, he⟩ := mediaTag?_eq_some h
      obtain ⟨d, s, rfl⟩ := List.exists_cons_of_ne_nil hs
      have hname : ∀ n ∈ ["img", "video"], '<' ∉ n.toList ++ ['>'] := by decide
      have hopen : '<' ∉ name.toList ++ inside ++ ['>'] := by
        have hn := hname name hn
        rw [List.mem_append, not_or] at hn
        rw [List.mem_append, List.mem_append, not_or, not_or]
        exact ⟨⟨hn.1, hb.1⟩, hn.2⟩
      -- The tag ends in front of the bracket, so it is found without what stands behind.
      obtain ⟨rfl, ht⟩ := List.cons.inj he
      obtain ⟨behind, rfl⟩ := prefix_of_not_mem ⟨rest, ht.symm⟩ hopen
      have h := mediaTag?_bracket hn hw hb behind
      rw [List.append_cons] at h
      cases hm.symm.trans h

/-- The tags on the two sides of a bracket are resolved on their own. -/
theorem resolveSources_append_open (c : Catalog) (s r : Text) :
    resolveSources c (s ++ '<' :: r) = resolveSources c s ++ resolveSources c ('<' :: r) := by
  refine replaceMatches_append_of (fun s hs => ?_) (fun s new behind h => ?_) s
  · rw [mediaTag?_append_open hs, Option.map_map, Option.map_map]
    rfl
  · obtain ⟨⟨tag, rest⟩, hm, he⟩ := Option.map_eq_some_iff.1 h
    cases he
    obtain ⟨name, -, inside, -, -, rfl, rfl⟩ := mediaTag?_eq_some hm
    exact ⟨'<', _, rfl⟩

/-- A media tag is resolved where it is found, and so is what stands on its two sides. -/
theorem resolveSources_mediaTag (c : Catalog) {tag rest : Text}
    (hm : mediaTag? (tag ++ rest) = some (tag, rest)) (before : Text) :
    resolveSources c (before ++ (tag ++ rest)) =
      resolveSources c before ++ (resolveTag c tag ++ resolveSources c rest) := by
  obtain ⟨name, -, inside, -, -, ht, -⟩ := mediaTag?_eq_some hm
  obtain ⟨x, rfl⟩ : ∃ x, tag = '<' :: x := ⟨_, ht⟩
  have hf : replaceTag? c ('<' :: x ++ rest) = some (resolveTag c ('<' :: x), rest) := by
    rw [replaceTag?, hm]
    rfl
  rw [List.cons_append, resolveSources_append_open, ← List.cons_append]
  exact congrArg _ (replaceMatches_match hf)

theorem not_open_spellRest {as : List Attribute} (h : Spelled as) :
    '<' ∉ spellRest (spellings as) := by
  rw [spellRest_concat, List.mem_append, not_or]
  exact ⟨not_bracket_spell h (by decide), by decide⟩

/-- A tag is written with one opening bracket, its first character. -/
theorem exists_write_eq {t : Tag} (h : t.Sanitized storyNames) :
    ∃ p, t.write = '<' :: p ∧ '<' ∉ p := by
  cases t with
  | stop name =>
      refine ⟨'/' :: name.toList ++ ['>'], rfl, ?_⟩
      have := not_bracket_of_tag h (x := '<') (by decide)
      simp [this]
  | start e =>
      refine ⟨e.name.toList ++ spellRest (spellings e.attributes), writeStart_of_sanitized h, ?_⟩
      rw [List.mem_append, not_or]
      exact ⟨not_bracket_of_tag h.tag (by decide), not_open_spellRest (spelled_of_sanitized h)⟩

/-- A media tag begins where a tag stands exactly if it starts an element that shows an asset. -/
theorem mediaTag?_write {t : Tag} (h : t.Sanitized storyNames) (rest : Text) :
    mediaTag? (t.write ++ rest) = if startsMedia t then some (t.write, rest) else none := by
  cases t with
  | stop name => rfl
  | start e =>
      have hw : Tag.write (.start e) = openTag e.name (spellings e.attributes) :=
        writeStart_of_sanitized h
      by_cases hm : isMedia e = true
      · have hs : startsMedia (.start e) = true := hm
        rw [if_pos hs, hw]
        exact mediaTag?_openTag (List.contains_iff_mem.1 hm) (spelled_of_sanitized h) rest
      · have hs : ¬ startsMedia (.start e) = true := hm
        obtain ⟨x, r, hr, -⟩ := head_spellRest (spellings e.attributes)
        have ho := mediaTag?_other h.tag (fun hn => hm (List.contains_iff_mem.2 hn)) x (r ++ rest)
        rw [if_neg hs, hw, openTag, hr]
        simpa using ho

theorem resolveSources_tag (c : Catalog) {t : Tag} (h : t.Sanitized storyNames) (rest : Text) :
    resolveSources c (t.write ++ rest) = resolvedTag c t ++ resolveSources c rest := by
  obtain ⟨p, hw, hp⟩ := exists_write_eq h
  have hm := mediaTag?_write h rest
  by_cases hs : startsMedia t = true
  · cases t with
    | stop name => cases hs
    | start e =>
        have he : isMedia e = true := hs
        have hf : mediaTag? (writeStart e ++ rest) = some (writeStart e, rest) :=
          hm.trans (if_pos hs)
        rw [resolvedTag, if_pos he]
        exact resolveSources_mediaTag c hf []
  · have hr : resolvedTag c t = t.write := by
      cases t with
      | stop name => rfl
      | start e => exact if_neg hs
    rw [if_neg hs, hw] at hm
    rw [hr, hw]
    exact resolveSources_skip c hp hm

/-- The written form of a sanitized fragment is resolved tag by tag. -/
theorem resolveSources_layout (c : Catalog) {l : Layout} (h : l.Sanitized storyNames) :
    resolveSources c (l.writeWith Tag.write) = l.writeWith (resolvedTag c) := by
  have hrun (run : Text) : '<' ∉ escape false run := avoids_text.not_mem (by decide) run
  have htags : ∀ ts : List (Tag × Text), (∀ e ∈ ts, e.1.Sanitized storyNames) →
      resolveSources c (Layout.writeTags Tag.write ts) = Layout.writeTags (resolvedTag c) ts := by
    intro ts hts
    induction ts with
    | nil => rfl
    | cons t ts ih =>
        rw [Layout.writeTags, resolveSources_tag c (hts t (List.mem_cons_self ..)),
          resolveSources_append c (hrun t.2), ih fun e he => hts e (List.mem_cons_of_mem _ he)]
        rfl
  rw [Layout.writeWith, resolveSources_append c (hrun l.front), htags l.tags h]
  rfl

end Gamebook.Asset
