import Gamebook.Proofs.Asset.Sources
import Gamebook.Proofs.Markup.Media

/-!
# Assets that a text displays

Where a text opens no tag of its own, resolving finds the placeholders that were put there for its assets,
and in each of them the source and the classes: the name of an asset holds no quotation mark and no equals
sign, so no value looks like an attribute.
-/

namespace Gamebook

open Text Html Piece

namespace Asset

open Directive Markup

variable {opening tag name : String} {p q value middle classes tail : Text}

/-! ## Parts in which nothing is found -/

/-- Whether no quoted value is found from within a text, whatever stands behind it. -/
def Silent (opening : String) (p : Text) : Prop :=
  ∀ s, s ≠ [] → s <:+ p → ∀ rest, quoted? opening (s ++ rest) = none

theorem silent_nil : Silent opening [] :=
  fun _ hs hsuf => absurd (List.suffix_nil.1 hsuf) hs

theorem Silent.append (hp : Silent opening p) (hq : Silent opening q) : Silent opening (p ++ q) := by
  intro s hs hsuf rest
  rcases suffix_append_cases hsuf with hsuf | ⟨x, hx, hxp, rfl⟩
  · exact hq s hs hsuf rest
  · rw [List.append_assoc]
    exact hp x hx hxp (q ++ rest)

theorem silent_of_not_mem {c : Char} {o : Text} (ho : opening.toList = c :: o) (h : c ∉ p) :
    Silent opening p := by
  intro s hs hsuf rest
  obtain ⟨d, s, rfl⟩ := List.exists_cons_of_ne_nil hs
  have hd : c ≠ d := fun he => h (hsuf.mem (he ▸ List.mem_cons_self))
  rw [quoted?, ho, List.cons_append, after?, if_neg hd]
  rfl

theorem silent_spell {key : Text} (ho : opening.toList = key ++ '=' :: '"' :: tail) (hk : '"' ∉ key)
    (hn : '"' ∉ name.toList) (hq : '"' ∉ value) (hname : ¬ key <:+ ' ' :: name.toList)
    (hv : '=' ∉ value) : Silent opening (spell name value) := by
  intro s hs hsuf rest
  have hend : ¬ key ++ ['='] <:+ value := fun h => hv (h.mem (List.mem_append_right key (by decide)))
  exact quoted?_spell ho hk hn hq (fun h => absurd h hname) (fun h => absurd h hend) hs hsuf

/-- Behind such a part the value is found that stands there. -/
theorem Silent.splitFirst?_eq (h : Silent opening p) (ho : opening.toList ≠ []) (hv : '"' ∉ value)
    (rest : Text) : splitFirst? (quoted? opening) (p ++ (opening.toList ++ (value ++ '"' :: rest))) =
      some (p, value, rest) := by
  have hne : opening.toList ++ (value ++ '"' :: rest) ≠ [] := List.append_ne_nil_of_left_ne_nil ho _
  rw [splitFirst?_append _ fun s hs hsuf => h s hs hsuf _,
    splitFirst?_here hne (quoted?_eq_some hv rest)]
  simp

/-! ## Start tags of media elements -/

/-- A start tag with a source and classes, other attributes between them and others behind. -/
def mediaStart (tag : String) (source middle classes tail : Text) : Text :=
  '<' :: tag.toList ++ (spell "src" source ++ middle ++ spell "class" classes ++ tail) ++ ['>']

theorem mediaStart_source (tag : String) (source middle classes tail : Text) :
    mediaStart tag source middle classes tail = ('<' :: tag.toList ++ [' ']) ++ ("src=\"".toList ++
      (source ++ '"' :: (middle ++ spell "class" classes ++ tail ++ ['>']))) := by
  simp [mediaStart, spell]

theorem mediaStart_class (tag : String) (source middle classes tail : Text) :
    mediaStart tag source middle classes tail = ('<' :: tag.toList ++ spell "src" source ++ middle ++
      [' ']) ++ (classOpening.toList ++ (classes ++ '"' :: (tail ++ ['>']))) := by
  rw [classOpening_eq]
  simp [mediaStart, spell]

/-- A start tag of an image or a video is resolved by its source, and marked in its class. -/
theorem resolveTag_mediaStart (c : Catalog) (ht : tag ∈ ["img", "video"])
    (hn : ∀ x ∈ name.toList, isAssetChar x = true) (hm : Silent classOpening middle)
    (hc : '"' ∉ classes) (tail : Text) :
    resolveTag c (mediaStart tag ("asset:".toList ++ name.toList) middle classes tail) =
      match c.address? name with
      | some address => mediaStart tag (attributeText address.toList) middle classes tail
      | none => mediaStart tag ("asset:".toList ++ name.toList) middle
          (classes ++ ' ' :: missingClass.toList) tail := by
  have hq : '"' ∉ name.toList := fun hm => ne_of_isAssetChar (hn _ hm) (by decide) rfl
  have he : '=' ∉ name.toList := fun hm => ne_of_isAssetChar (hn _ hm) (by decide) rfl
  have hd : Reference.decode name.toList = name.toList := by
    have hd := Reference.decode_flatMap faithful_attributeChar name.toList
    rwa [← attributeText, attributeText_of_assetName hn] at hd
  have hfront : ∀ tag ∈ ["img", "video"],
      's' ∉ '<' :: tag.toList ++ [' '] ∧ 'c' ∉ '<' :: tag.toList := by decide
  obtain ⟨hs, hcl⟩ := hfront tag ht
  have hsource : Silent sourceOpening ('<' :: tag.toList ++ [' ']) :=
    silent_of_not_mem sourceOpening_eq hs
  have hclass : Silent classOpening ('<' :: tag.toList ++
      spell "src" ("asset:".toList ++ name.toList) ++ middle ++ [' ']) := by
    have hspell : Silent classOpening (spell "src" ("asset:".toList ++ name.toList)) := by
      refine silent_spell classOpening_eq (by decide) (by decide) ?_ (by decide) ?_
      · rw [List.mem_append, not_or]
        exact ⟨by decide, hq⟩
      · rw [List.mem_append, not_or]
        exact ⟨by decide, he⟩
    exact (((silent_of_not_mem classOpening_eq hcl).append hspell).append hm).append
      (silent_of_not_mem classOpening_eq (by decide))
  have hopen : mediaStart tag ("asset:".toList ++ name.toList) middle classes tail =
      ('<' :: tag.toList ++ [' ']) ++ (sourceOpening.toList ++ (name.toList ++
        '"' :: (middle ++ spell "class" classes ++ tail ++ ['>']))) := by
    rw [mediaStart_source, sourceOpening_eq]
    simp
  rw [resolveTag, hopen, hsource.splitFirst?_eq (by decide) hq]
  simp only [hd, String.ofList_toList, ← hopen]
  cases c.address? name with
  | some address =>
      dsimp only
      rw [mediaStart_source]
      simp
  | none =>
      dsimp only
      rw [markMissing, mediaStart_class, hclass.splitFirst?_eq (by decide) hc, mediaStart_class]
      simp

theorem resolveSources_mediaStart (c : Catalog) (ht : tag ∈ ["img", "video"]) {source : Text}
    (hb : '<' ∉ source ++ middle ++ classes ++ tail ∧ '>' ∉ source ++ middle ++ classes ++ tail)
    (rest : Text) :
    resolveSources c (mediaStart tag source middle classes tail ++ rest) =
      resolveTag c (mediaStart tag source middle classes tail) ++ resolveSources c rest := by
  simp only [List.mem_append, not_or] at hb
  have hi : '<' ∉ spell "src" source ++ middle ++ spell "class" classes ++ tail ∧
      '>' ∉ spell "src" source ++ middle ++ spell "class" classes ++ tail := by
    simp [spell, hb]
  have hw : (spell "src" source ++ middle ++ spell "class" classes ++ tail).head?.any isWordChar =
      false := (by decide : isWordChar ' ' = false)
  have hm := mediaTag?_bracket ht hw hi rest
  rw [List.append_cons] at hm
  exact resolveSources_mediaTag c hm []

end Asset

namespace Markup

open Asset Directive

/-! ## Displayed assets -/

/-- The element that shows an asset, with a source and classes. -/
def mediaElement (config : RenderConfig) (name : String) (source classes : Text) : Text :=
  if config.isVideo name.toList then
    "<video src=\"".toList ++ source ++ "\" class=\"".toList ++ classes
      ++ "\" controls preload=\"metadata\"></video>".toList
  else
    "<img src=\"".toList ++ source ++ "\" alt=\"".toList ++ attributeText name.toList
      ++ "\" class=\"".toList ++ classes ++ "\">".toList

/-- The element that shows an asset of a catalog: its source is the address of the file that the name finds;
where it finds none, the placeholder stays and the classes say that the file is missing. -/
def display (config : RenderConfig) (c : Catalog) (ref : AssetRef) : Text :=
  match c.find? ref.name with
  | some file =>
    mediaElement config ref.name (attributeText (c.base ++ file).toList) (assetClass ref.size).toList
  | none =>
    mediaElement config ref.name ("asset:" ++ ref.name).toList
      (assetClass ref.size ++ " asset-missing").toList

/-- The parts of an element around its source and its classes, in which nothing is found. -/
theorem mediaElement_eq (config : RenderConfig) {name : String}
    (hn : ∀ x ∈ name.toList, isAssetChar x = true) :
    ∃ tag ∈ ["img", "video"], ∃ middle tail behind, Silent classOpening middle ∧
      ('<' ∉ middle ++ tail ∧ '>' ∉ middle ++ tail) ∧
      (∀ source classes, mediaElement config name source classes =
        mediaStart tag source middle classes tail ++ behind) ∧
      ∀ c rest, resolveSources c (behind ++ rest) = behind ++ resolveSources c rest := by
  by_cases hv : config.isVideo name.toList = true
  · refine ⟨"video", by decide, [], " controls preload=\"metadata\"".toList, "</video>".toList,
      silent_nil, by decide, fun source classes => ?_, fun c rest => ?_⟩
    · rw [mediaElement, if_pos hv]
      simp [mediaStart, spell]
    · exact resolveSources_skip c (p := "/video>".toList) (by decide) rfl
  · have hne {x : Char} (hx : isAssetChar x = false) : x ∉ name.toList :=
      fun hm => ne_of_isAssetChar (hn _ hm) hx rfl
    refine ⟨"img", by decide, spell "alt" name.toList, [], [], ?_, ?_, fun source classes => ?_,
      fun c rest => rfl⟩
    · exact silent_spell classOpening_eq (by decide) (by decide) (hne (by decide)) (by decide)
        (hne (by decide))
    · have ho : '<' ∉ name.toList := hne (by decide)
      have hc : '>' ∉ name.toList := hne (by decide)
      simp [spell, ho, hc]
    · rw [mediaElement, if_neg hv, attributeText_of_assetName hn]
      simp [mediaStart, spell]

theorem placeholder_eq_mediaElement (config : RenderConfig) {ref : AssetRef}
    (hn : ∀ x ∈ ref.name.toList, isAssetChar x = true) : placeholder config ref =
      mediaElement config ref.name ("asset:".toList ++ ref.name.toList) (assetClass ref.size).toList := by
  rw [placeholder, mediaElement, attributeText_of_assetName hn]
  split <;> simp

theorem not_mem_assetClass (size : Option AssetSize) : '<' ∉ (assetClass size).toList ∧
    '>' ∉ (assetClass size).toList ∧ '"' ∉ (assetClass size).toList := by
  match size with
  | none => decide
  | some .small => decide
  | some .medium => decide
  | some .large => decide

/-- A placeholder is resolved to the element that displays its asset. -/
theorem resolveSources_placeholder (config : RenderConfig) (c : Catalog) {ref : AssetRef}
    (hn : ∀ x ∈ ref.name.toList, isAssetChar x = true) (rest : Text) :
    resolveSources c (placeholder config ref ++ rest) =
      display config c ref ++ resolveSources c rest := by
  obtain ⟨tag, ht, middle, tail, behind, hm, hb, he, hbehind⟩ := mediaElement_eq config hn
  obtain ⟨hopen, hclose, hquote⟩ := not_mem_assetClass ref.size
  have hne {x : Char} (hx : isAssetChar x = false) : x ∉ ref.name.toList :=
    fun hm => ne_of_isAssetChar (hn _ hm) hx rfl
  have hbrackets :
      '<' ∉ "asset:".toList ++ ref.name.toList ++ middle ++ (assetClass ref.size).toList ++ tail ∧
        '>' ∉ "asset:".toList ++ ref.name.toList ++ middle ++ (assetClass ref.size).toList ++ tail := by
    simp only [List.mem_append, not_or] at hb ⊢
    exact ⟨⟨⟨⟨⟨by decide, hne (by decide)⟩, hb.1.1⟩, hopen⟩, hb.1.2⟩,
      ⟨⟨⟨by decide, hne (by decide)⟩, hb.2.1⟩, hclose⟩, hb.2.2⟩
  have hd : display config c ref = resolveTag c (mediaStart tag
      ("asset:".toList ++ ref.name.toList) middle (assetClass ref.size).toList tail) ++ behind := by
    rw [resolveTag_mediaStart c ht hn hm hquote, display, Catalog.address?]
    cases c.find? ref.name with
    | some file => exact he _ _
    | none =>
        dsimp only
        rw [he]
        simp [missingClass]
  rw [placeholder_eq_mediaElement config hn, he, List.append_assoc,
    resolveSources_mediaStart c ht hbrackets, hbehind, hd, List.append_assoc]

/-- In a text that opens no tag of its own, resolving displays each asset in the place of its token. -/
theorem resolveSources_placeholders (config : RenderConfig) (c : Catalog) {t : Text} (h : '<' ∉ t) :
    resolveSources c (placeholders config t) = replaceAssets (display config c) t := by
  rw [placeholders, replaceAssets, replaceAssets]
  have hps : '<' ∉ (ofText t).flatMap source := by rwa [source_ofText]
  generalize ofText t = ps at hps
  induction ps with
  | nil => rfl
  | cons p ps ih =>
      rw [List.flatMap_cons, List.mem_append, not_or] at hps
      obtain ⟨hp, hps⟩ := hps
      have ih := ih hps
      rw [replaceTokens, replaceTokens] at ih ⊢
      rw [List.flatMap_cons, List.flatMap_cons, ← ih]
      cases p with
      | plain run => exact resolveSources_append c hp _
      | token inner =>
          cases ha : asset? inner with
          | none => simpa [ha] using resolveSources_append c hp _
          | some ref =>
              simpa [ha] using resolveSources_placeholder config c (isAssetChar_of_asset? ha) _

/-- An image is found and a video is not, in a text that has quotation marks, brackets and braces of its
own. -/
theorem resolveSources_placeholders_cave :
    let c : Catalog := .ofFiles {} ["the cave.png"]
    let t := "src=\"asset:map\"> \x7bthe cave\x7d\x7bpit.mp4:small\x7d \x7bif:cave\x7d class=\"\x7b".toList
    '<' ∉ t ∧ resolveSources c (placeholders {} t) = replaceAssets (display {} c) t ∧
      replaceAssets (display {} c) t = "src=\"asset:map\"> ".toList ++
        "<img src=\"assets/the cave.png\" alt=\"the cave\" class=\"story-asset\">".toList ++
        "<video src=\"asset:pit.mp4\" class=\"story-asset asset-small asset-missing\"".toList ++
        " controls preload=\"metadata\"></video> \x7bif:cave\x7d class=\"\x7b".toList := by
  intro c t
  have h : '<' ∉ t := by decide
  exact ⟨h, resolveSources_placeholders {} c h, by decide +kernel⟩

end Markup
end Gamebook
