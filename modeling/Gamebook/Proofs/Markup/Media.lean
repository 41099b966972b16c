import Gamebook.Markup.Paragraph
import Gamebook.Markup.Placeholder
import Gamebook.Proofs.Directive.Around
import Gamebook.Proofs.Html.Escape
import Gamebook.Proofs.Html.MediaTag
import Gamebook.Proofs.Text.Line
import Gamebook.Proofs.Text.Trim

/-!
# Media tags in markup

Where no media tag opens in a text, the tags that open in its markup are those of the placeholders of its
assets: no other tag that is put in is one, and the lines of the paragraphs hold every placeholder whole.

The lines of which paragraphs are made are parts of the text, and behind such a part nothing but blanks is
left of its line. So a text that ends in no blank, and that goes over no line end, begins in the part if
it begins in the text from the same place on.
-/

namespace Gamebook

open Text Html Piece

/-! ## Parts to the end of their line -/

namespace Text

variable {l s t w : Text}

/-- Whether only blanks stand before the first line feed of a text. -/
def EndsLine (t : Text) : Prop := ∀ c ∈ t.takeWhile (· ≠ '\n'), isBlank c = true

/-- Whether a text is a part of another with only blanks between it and the end of its line. -/
def LineOf (t l : Text) : Prop := ∃ x z, t = x ++ (l ++ z) ∧ EndsLine z

theorem endsLine_of_blank (h : ∀ c ∈ t, isBlank c = true) : EndsLine t :=
  fun c hc => h c ((List.takeWhile_prefix _).subset hc)

theorem endsLine_cons (t : Text) : EndsLine ('\n' :: t) := by
  rw [EndsLine, List.takeWhile_cons_of_neg (by decide)]
  exact fun _ hc => absurd hc List.not_mem_nil

theorem EndsLine.append (hs : EndsLine s) (ht : EndsLine t) : EndsLine (s ++ t) := by
  induction s with
  | nil => exact ht
  | cons c s ih =>
      by_cases hc : c = '\n'
      · rw [hc]
        exact endsLine_cons _
      · rw [EndsLine, List.takeWhile_cons_of_pos (by simpa using hc), List.forall_mem_cons] at hs
        rw [List.cons_append, EndsLine, List.takeWhile_cons_of_pos (by simpa using hc),
          List.forall_mem_cons]
        exact ⟨hs.1, ih hs.2⟩

namespace LineOf

theorem trans (ht : LineOf s t) (hl : LineOf t l) : LineOf s l := by
  obtain ⟨x, z, rfl, hz⟩ := ht
  obtain ⟨y, a, rfl, ha⟩ := hl
  exact ⟨x ++ y, a ++ z, by simp, ha.append hz⟩

theorem trim (t : Text) : LineOf t (trim t) := by
  obtain ⟨z, hz, hb⟩ := dropEndWhile_append_eq isBlank (t.dropWhile isBlank)
  refine ⟨t.takeWhile isBlank, z, ?_, endsLine_of_blank hb⟩
  rw [Text.trim, ← hz, List.takeWhile_append_dropWhile]

theorem of_mem_splitLines (h : l ∈ splitLines t) : LineOf t l := by
  induction t using byLines with
  | last s hs =>
      rw [splitLines, splitOn_of_not_mem hs, List.mem_singleton] at h
      subst h
      exact ⟨[], [], by simp, fun c hc => absurd hc List.not_mem_nil⟩
  | line s r hs ih =>
      rw [splitLines, splitOn_append_cons, splitOn_of_not_mem hs, List.mem_append,
        List.mem_singleton] at h
      rcases h with rfl | h
      · exact ⟨[], '\n' :: r, rfl, endsLine_cons r⟩
      · obtain ⟨x, z, rfl, hz⟩ := ih h
        exact ⟨s ++ '\n' :: x, z, by simp, hz⟩

/-- The induction is on the text; a part that is not done yet begins where the text begins. -/
theorem of_mem_splitFrom {f : Text → Option Text} (hf : ∀ c r, f (c :: r) ≠ none → c = '\n')
    (t : Text) (skip : Nat) : (∀ p ∈ splitFrom f skip t, LineOf t p) ∧
      (skip = 0 → ∃ p ps z, splitFrom f 0 t = p :: ps ∧ t = p ++ z ∧ EndsLine z) := by
  have hnil : EndsLine [] := fun c hc => absurd hc List.not_mem_nil
  induction t generalizing skip with
  | nil =>
      refine ⟨fun p hp => ?_, fun _ => ⟨[], [], [], rfl, rfl, hnil⟩⟩
      rw [List.mem_singleton.1 hp]
      exact ⟨[], [], rfl, hnil⟩
  | cons c r ih =>
      have hcons {p : Text} : LineOf r p → LineOf (c :: r) p := fun ⟨x, z, he, hz⟩ =>
        ⟨c :: x, z, by rw [he, List.cons_append], hz⟩
      cases skip with
      | succ skip => exact ⟨fun p hp => hcons ((ih skip).1 p hp), fun h => by cases h⟩
      | zero =>
          cases hm : f (c :: r) with
          | some rest =>
              have hc : c = '\n' := hf c r (by rw [hm]; exact Option.some_ne_none _)
              have hs : splitFrom f 0 (c :: r) = [] :: splitFrom f (r.length - rest.length) r := by
                rw [splitFrom, hm]
              subst hc
              rw [hs]
              refine ⟨fun p hp => ?_, fun _ => ⟨[], _, _, rfl, rfl, endsLine_cons r⟩⟩
              rcases List.mem_cons.1 hp with rfl | hp
              · exact ⟨[], '\n' :: r, rfl, endsLine_cons r⟩
              · exact hcons ((ih _).1 p hp)
          | none =>
              obtain ⟨hr, hfirst⟩ := ih 0
              obtain ⟨q, qs, z, hq, he, hz⟩ := hfirst rfl
              have hs : splitFrom f 0 (c :: r) = (c :: q) :: qs := by
                rw [splitFrom, hm]
                dsimp only
                rw [hq]
                rfl
              rw [hs]
              refine ⟨fun p hp => ?_, fun _ => ⟨c :: q, qs, z, rfl, by rw [he]; rfl, hz⟩⟩
              rcases List.mem_cons.1 hp with rfl | hp
              · exact ⟨[], z, by rw [he]; rfl, hz⟩
              · exact hcons (hr p (hq ▸ List.mem_cons_of_mem _ hp))

theorem of_paragraph {p : Text}
    (hp : p ∈ (splitAll Markup.afterBlankLine? t).map Text.trim)
    (hl : l ∈ (splitLines p).map Text.trim) : LineOf t l := by
  obtain ⟨q, hq, rfl⟩ := List.mem_map.1 hp
  obtain ⟨m, hm, rfl⟩ := List.mem_map.1 hl
  have hf (c : Char) (r : Text) (h : Markup.afterBlankLine? (c :: r) ≠ none) : c = '\n' := by
    unfold Markup.afterBlankLine? at h
    split at h
    · next he => exact (List.cons.inj he).1
    · exact absurd rfl h
  exact (((of_mem_splitFrom hf t 0).1 q hq).trans (trim q)).trans
    ((of_mem_splitLines hm).trans (trim m))

end LineOf

/-- What ends in no blank, and goes over no line end, does not reach into the blanks at the end of a line. -/
theorem prefix_of_endsLine {c : Char} (h : w ++ [c] <+: s ++ t) (ht : EndsLine t)
    (hb : isBlank c = false) (hw : '\n' ∉ w ++ [c]) : w ++ [c] <+: s := by
  rcases Nat.lt_or_ge s.length (w ++ [c]).length with hl | hl
  · obtain ⟨y, hy⟩ := List.prefix_of_prefix_length_le (List.prefix_append s t) h (Nat.le_of_lt hl)
    have hyt : y <+: t := by
      rw [← hy] at h
      exact (List.prefix_append_right_inj s).1 h
    have hyn : ∀ d ∈ y, decide (d ≠ '\n') = true := by
      intro d hd
      rw [decide_eq_true_eq]
      rintro rfl
      exact hw (hy ▸ List.mem_append_right s hd)
    have hc : c ∈ y := by
      rcases List.eq_nil_or_concat y with rfl | ⟨y', d, rfl⟩
      · rw [List.append_nil] at hy
        exact absurd hl (by rw [hy]; exact Nat.lt_irrefl _)
      · rw [List.concat_eq_append] at hy ⊢
        rw [← List.append_assoc] at hy
        rw [← (List.cons.inj (List.append_inj' hy rfl).2).1]
        exact List.mem_append_right _ (List.mem_singleton_self d)
    obtain ⟨z, rfl⟩ := hyt
    rw [EndsLine, List.takeWhile_append_of_pos hyn] at ht
    cases hb.symm.trans (ht c (List.mem_append_left _ hc))
  · exact List.prefix_of_prefix_length_le h (List.prefix_append _ _) hl

end Text

/-! ## Names of assets -/

namespace Directive

theorem isAssetChar_of_assetName? {t : Text} {name : String} (h : assetName? t = some name) :
    ∀ c ∈ name.toList, isAssetChar c = true := by
  unfold assetName? at h
  split at h
  · cases h
  · split at h
    · next c r _ hc =>
        cases h
        rw [String.toList_ofList]
        refine List.forall_mem_cons.2 ⟨?_, List.all_eq_true.1 hc.2.1⟩
        simp [isAssetChar, hc.1]
    · cases h

theorem isAssetChar_of_asset? {i : Text} {ref : AssetRef} (h : asset? i = some ref) :
    ∀ c ∈ ref.name.toList, isAssetChar c = true := by
  unfold asset? at h
  split at h
  · obtain ⟨name, hn, rfl⟩ := Option.map_eq_some_iff.1 h
    exact isAssetChar_of_assetName? hn
  · dsimp only at h
    split at h
    · obtain ⟨name, hn, rfl⟩ := Option.map_eq_some_iff.1 h
      exact isAssetChar_of_assetName? hn
    · cases h

theorem mem_assets {t : Text} {ref : AssetRef} :
    ref ∈ assets t ↔ ∃ i ∈ insides (ofText t), asset? i = some ref := by
  rw [assets, Find.gather_eq_insides, List.mem_flatMap]
  simp

theorem ne_of_isAssetChar {c d : Char} (h : isAssetChar c = true) (hd : isAssetChar d = false) :
    c ≠ d := by
  rintro rfl
  cases hd.symm.trans h

end Directive

namespace Markup

open Directive

variable {Q Q' : String → String → Prop} {names : List String} {name tag : String} {t : Text}

/-! ## Placeholders -/

/-- How the placeholder of a name starts, up to the end of its source. -/
def placeStart (tag name : String) : Text :=
  '<' :: tag.toList ++ " src=\"asset:".toList ++ name.toList ++ ['"']

/-- Whether a text begins with a placeholder whose tag and name are of some kind. -/
def HoldsPlaceOf (Q : String → String → Prop) (t : Text) : Prop :=
  ∃ tag ∈ ["img", "video"], ∃ name, Q tag name ∧ placeStart tag name <+: t

/-- Whether a text begins with the placeholder of one of some names. -/
def HoldsPlace (names : List String) (t : Text) : Prop :=
  ∃ tag ∈ ["img", "video"], ∃ name ∈ names, placeStart tag name <+: t

theorem HoldsPlaceOf.mono (h : HoldsPlaceOf Q t) (hQ : ∀ tag name, Q tag name → Q' tag name) :
    HoldsPlaceOf Q' t := by
  obtain ⟨tag, ht, name, hq, hp⟩ := h
  exact ⟨tag, ht, name, hQ tag name hq, hp⟩

/-- Whether the names of placeholders of some kind are written with the characters of asset names. -/
def AssetNames (Q : String → String → Prop) : Prop :=
  ∀ tag name, Q tag name → ∀ c ∈ name.toList, isAssetChar c = true

theorem not_mem_placeStart (hn : AssetNames Q) (hm : Q tag name)
    (ht : tag ∈ ["img", "video"]) {x : Char} (hx : x ∈ ['\n', '\r']) : x ∉ placeStart tag name := by
  have hall : ∀ tag ∈ ["img", "video"], ['\n', '\r'].all (fun x => x ∉ '<' :: tag.toList ++
      " src=\"asset:".toList ∧ x ∉ ['"'] ∧ isAssetChar x = false) = true := by decide
  obtain ⟨h₁, h₂, h₃⟩ := of_decide_eq_true (List.all_eq_true.1 (hall tag ht) x hx)
  have hname : x ∉ name.toList := fun hm' => ne_of_isAssetChar (hn tag name hm x hm') h₃ rfl
  rw [placeStart, List.mem_append, List.mem_append, not_or, not_or]
  exact ⟨⟨h₁, hname⟩, h₂⟩

theorem attributeText_of_assetName (h : ∀ c ∈ t, isAssetChar c = true) : attributeText t = t := by
  induction t with
  | nil => rfl
  | cons c t ih =>
      obtain ⟨hc, ht⟩ := List.forall_mem_cons.1 h
      have hne {d : Char} (hd : isAssetChar d = false) : c ≠ d := ne_of_isAssetChar hc hd
      have hw : attributeChar c = [c] := by
        rw [attributeChar, if_neg (hne (by decide)), if_neg (hne (by decide)),
          if_neg (hne (by decide)), if_neg (hne (by decide))]
      rw [attributeText, List.flatMap_cons, hw]
      exact congrArg (c :: ·) (ih ht)

theorem not_open_assetClass (size : Option AssetSize) : '<' ∉ (assetClass size).toList := by
  match size with
  | none => decide
  | some .small => decide
  | some .medium => decide
  | some .large => decide

/-- The name of the element that holds the place of an asset. -/
def mediaName (config : RenderConfig) (name : String) : String :=
  if config.isVideo name.toList then "video" else "img"

theorem mediaName_mem (config : RenderConfig) (name : String) :
    mediaName config name ∈ ["img", "video"] := by
  rw [mediaName]
  split <;> decide

/-- A placeholder begins as one, and behind that opens no media tag. -/
theorem placeholder_eq (config : RenderConfig) {ref : AssetRef}
    (hc : ∀ c ∈ ref.name.toList, isAssetChar c = true) :
    ∃ body, placeholder config ref = placeStart (mediaName config ref.name) ref.name ++ body ∧
      ∀ {P : Text → Prop} {t : Text}, MediaHas P t → MediaHas P (body ++ t) := by
  have hcls := not_open_assetClass ref.size
  have hname : '<' ∉ ref.name.toList := fun hm => ne_of_isAssetChar (hc _ hm) (by decide) rfl
  rw [placeholder, mediaName, attributeText_of_assetName hc]
  split
  · refine ⟨" class=\"".toList ++ (assetClass ref.size).toList ++
      "\" controls preload=\"metadata\">".toList ++ "</video>".toList, by simp [placeStart],
      fun {P t} ht => ?_⟩
    have hstop : MediaHas P ("</video>".toList ++ t) :=
      (mediaHas_tag (by decide)).2
        ((mediaHas_append_of_not_mem (s := "/video>".toList) (by decide)).2 ht)
    rw [List.append_assoc _ _ t, mediaHas_append_of_not_mem]
    · exact hstop
    · simp [hcls]
  · refine ⟨" alt=\"".toList ++ ref.name.toList ++ "\" class=\"".toList ++
      (assetClass ref.size).toList ++ "\">".toList, by simp [placeStart], fun {P t} ht => ?_⟩
    rw [mediaHas_append_of_not_mem]
    · exact ht
    · simp [hcls, hname]

/-- A placeholder opens one media tag, which is its own. -/
theorem seals_placeholder {config : RenderConfig} {ref : AssetRef}
    (hm : Q (mediaName config ref.name) ref.name)
    (hc : ∀ c ∈ ref.name.toList, isAssetChar c = true) (used : Text) :
    Seals (HoldsPlaceOf Q) used (placeholder config ref) := by
  have ht := mediaName_mem config ref.name
  obtain ⟨body, he, hbody⟩ := placeholder_eq config hc
  have hname : '<' ∉ ref.name.toList := fun hm => ne_of_isAssetChar (hc _ hm) (by decide) rfl
  have htag : ∀ tag ∈ ["img", "video"], '<' ∉ tag.toList ++ " src=\"asset:".toList := by decide
  rw [he]
  generalize mediaName config ref.name = tag at hm ht
  have hstart : '<' ∉ tag.toList ++ " src=\"asset:".toList ++ ref.name.toList ++ ['"'] := by
    rw [List.mem_append, List.mem_append, not_or, not_or]
    exact ⟨⟨htag tag ht, hname⟩, by decide⟩
  refine ⟨⟨'<', _, rfl, by decide⟩, fun _ t hP => mediaHas_cons.2 ⟨fun _ => ?_, ?_⟩⟩
  · exact ⟨tag, ht, ref.name, hm, (List.prefix_append _ _).trans (List.prefix_append _ _)⟩
  · have hrest := (mediaHas_append_of_not_mem hstart).2 (hbody hP)
    rw [← List.append_assoc] at hrest
    exact hrest

/-- The tags and names of the placeholders of some assets. -/
def PlaceFor (config : RenderConfig) (names : List String) (tag name : String) : Prop :=
  name ∈ names ∧ tag = mediaName config name

theorem mediaHas_placeholders (config : RenderConfig) (h : NoMedia t) :
    MediaHas (HoldsPlaceOf (PlaceFor config ((assets t).map (·.name)))) (placeholders config t) := by
  let swaps (_ new : Text) : Prop := ∃ ref ∈ assets t, new = placeholder config ref
  have hr : Rewritten swaps ((ofText t).flatMap source) (placeholders config t) := by
    refine rewritten_replaceTokens _ fun i new hi hf => ?_
    obtain ⟨ref, ha, rfl⟩ := Option.map_eq_some_iff.1 hf
    exact ⟨ref, mem_assets.2 ⟨i, List.mem_filterMap.2 ⟨_, hi, rfl⟩, ha⟩, rfl⟩
  rw [source_ofText] at hr
  refine .of_rewritten (fun used new hs => ?_) hr h
  obtain ⟨ref, hm, rfl⟩ := hs
  obtain ⟨i, -, ha⟩ := mem_assets.1 hm
  exact seals_placeholder ⟨List.mem_map_of_mem hm, rfl⟩ (isAssetChar_of_asset? ha) used

theorem isAssetChar_of_mem_assets (h : name ∈ (assets t).map (·.name)) :
    ∀ c ∈ name.toList, isAssetChar c = true := by
  obtain ⟨ref, hr, rfl⟩ := List.mem_map.1 h
  obtain ⟨i, -, ha⟩ := mem_assets.1 hr
  exact isAssetChar_of_asset? ha

/-! ## Paragraphs -/

theorem HoldsPlaceOf.append {s : Text} (h : HoldsPlaceOf Q s) (t : Text) :
    HoldsPlaceOf Q (s ++ t) := by
  obtain ⟨tag, ht, name, hn, hp⟩ := h
  exact ⟨tag, ht, name, hn, hp.trans (List.prefix_append _ _)⟩

/-- A part to the end of its line holds every placeholder that begins in it. -/
theorem mediaHas_of_lineOf (hn : AssetNames Q) {l : Text} (h : MediaHas (HoldsPlaceOf Q) t)
    (hl : LineOf t l) : MediaHas (HoldsPlaceOf Q) l := by
  obtain ⟨x, z, rfl, hz⟩ := hl
  intro r hr ho
  obtain ⟨y, rfl⟩ := (List.mem_tails ..).1 hr
  obtain ⟨tag, ht, name, hm, hp⟩ := h.apply (r := r ++ z) ⟨x ++ y, by simp⟩ (ho.append z)
  refine ⟨tag, ht, name, hm, ?_⟩
  exact prefix_of_endsLine hp hz (by decide) (not_mem_placeStart hn hm ht (by decide))

/-- Texts with another tag between them. -/
theorem mediaHas_append_tag {s : Text} {d : Char} (hs : MediaHas (HoldsPlaceOf Q) s)
    (hd : d.toLower ∉ ['i', 'v']) (ht : MediaHas (HoldsPlaceOf Q) (d :: t)) :
    MediaHas (HoldsPlaceOf Q) (s ++ '<' :: d :: t) :=
  mediaHas_append (fun _ hu hn ho => (hs.apply hn (ho.of_append hu (by decide))).append _)
    ((mediaHas_tag hd).2 ht)

theorem mediaHas_join {ls : List Text} (h : ∀ l ∈ ls, MediaHas (HoldsPlaceOf Q) l) :
    MediaHas (HoldsPlaceOf Q) (join "<br>".toList ls) := by
  induction ls with
  | nil => exact mediaHas_nil
  | cons l ls ih =>
      obtain ⟨hl, hls⟩ := List.forall_mem_cons.1 h
      cases ls with
      | nil => exact hl
      | cons m ls =>
          have hbr : '<' ∉ "br>".toList := by decide
          rw [join_cons_cons, List.append_assoc]
          exact mediaHas_append_tag (d := 'b') hl (by decide)
            ((mediaHas_append_of_not_mem (s := "br>".toList) hbr).2 (ih hls))

theorem mediaHas_paragraph {p : Text}
    (h : ∀ l ∈ (splitLines p).map trim, MediaHas (HoldsPlaceOf Q) l)
    (ht : MediaHas (HoldsPlaceOf Q) t) : MediaHas (HoldsPlaceOf Q) (paragraph p ++ t) := by
  have he : paragraph p ++ t = '<' :: 'p' :: '>' ::
      (join "<br>".toList ((splitLines p).map trim) ++ '<' :: '/' :: 'p' :: '>' :: t) := by
    simp [paragraph, element]
  have hp : '<' ∉ ['p', '>'] := by decide
  have hstop : '<' ∉ ['/', 'p', '>'] := by decide
  rw [he]
  refine (mediaHas_tag (by decide)).2 ((mediaHas_append_of_not_mem (s := ['p', '>']) hp).2 ?_)
  exact mediaHas_append_tag (mediaHas_join h) (by decide)
    ((mediaHas_append_of_not_mem (s := ['/', 'p', '>']) hstop).2 ht)

/-- The paragraphs of a text open media tags where its placeholders are. -/
theorem mediaHas_paragraphs (hn : AssetNames Q) (h : MediaHas (HoldsPlaceOf Q) t) :
    MediaHas (HoldsPlaceOf Q) (paragraphs t) := by
  have hall : ∀ p ∈ ((splitAll afterBlankLine? t).map trim).filter (· ≠ []),
      ∀ l ∈ (splitLines p).map trim, MediaHas (HoldsPlaceOf Q) l :=
    fun p hp l hl => mediaHas_of_lineOf hn h (LineOf.of_paragraph (List.mem_filter.1 hp).1 hl)
  rw [paragraphs]
  generalize ((splitAll afterBlankLine? t).map trim).filter (· ≠ []) = ps at hall
  induction ps with
  | nil => exact mediaHas_nil
  | cons p ps ih =>
      obtain ⟨hp, hps⟩ := List.forall_mem_cons.1 hall
      exact mediaHas_paragraph hp (ih hps)

/-! ## Line breaks -/

/-- What becomes a line feed when line breaks are written otherwise. -/
def BecomesLineFeed (_ new : Text) : Prop := new = ['\n']

theorem rewritten_unixLines (t : Text) : Rewritten BecomesLineFeed t (unixLines t) := by
  fun_induction unixLines t with
  | case1 => exact .nil
  | case2 r ih => exact @Rewritten.swap _ ['\r', '\n'] ['\n'] _ _ rfl ih
  | case3 c r _ ih =>
      split
      · exact @Rewritten.swap _ [c] ['\n'] _ _ rfl ih
      · exact .keep c ih

theorem BecomesLineFeed.seals {P : Text → Prop} (used new : Text) (h : BecomesLineFeed used new) :
    Seals P used new := by
  subst h
  exact ⟨⟨'\n', [], rfl, by decide⟩, fun _ _ ht => (mediaHas_cons_of_ne (by decide)).2 ht⟩

/-- Line breaks may be written otherwise: no placeholder holds one. -/
theorem mediaHas_unixLines (hn : AssetNames Q) (h : MediaHas (HoldsPlaceOf Q) t) :
    MediaHas (HoldsPlaceOf Q) (unixLines t) := by
  induction t using unixLines.induct with
  | case1 => exact mediaHas_nil
  | case2 r ih =>
      refine (mediaHas_cons_of_ne (by decide)).2 (ih (h.suffix ?_))
      exact (List.suffix_cons ..).trans (List.suffix_cons ..)
  | case3 c r hcr ih =>
      have hr := ih (h.suffix (List.suffix_cons ..))
      by_cases hc : c = '\r'
      · subst hc
        have hh : r.head? ≠ some '\n' := fun hh =>
          (List.head?_eq_some_iff.1 hh).elim fun r' he => hcr r' rfl he
        rw [unixLines_return hh]
        exact (mediaHas_cons_of_ne (by decide)).2 hr
      · rw [unixLines_cons hc]
        refine mediaHas_cons.2 ⟨fun ho => ?_, hr⟩
        have ho := ho.of_rewritten BecomesLineFeed.seals (P := HoldsPlaceOf Q) (rewritten_unixLines r)
        obtain ⟨tag, ht, name, hm, y, hy⟩ := h.apply (List.suffix_refl _) ho
        have hu := unixLines_append_of_not_mem (not_mem_placeStart hn hm ht (x := '\r') (by decide)) y
        rw [hy, unixLines_cons hc] at hu
        exact ⟨tag, ht, name, hm, hu ▸ List.prefix_append _ _⟩

end Markup
end Gamebook
