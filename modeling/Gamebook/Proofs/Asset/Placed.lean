import Gamebook.Proofs.Asset.Tag
import Gamebook.Proofs.Html.Behind
import Gamebook.Proofs.Html.Reading
import Gamebook.Proofs.Html.Sanitizing
import Gamebook.Proofs.Markup.Media

/-!
# The sources of placeholders

Where the media tags of a text are those of placeholders, the images and videos that are read off it have
the names of the placeholders for their sources, and so have those that a list leaves.
-/

namespace Gamebook

open Text Html

namespace Html.Token

/-! ## Tags -/

theorem toLower_replacement : Reference.replacement.toLower = Reference.replacement := by decide

/-- A name in lower case has the letters of its text, null characters aside. -/
theorem lower_of_nameOf {x : Text} {name : String} (h : nameOf x = name)
    (hl : ∀ c ∈ name.toList, c.isLower = true) : lower x = name.toList := by
  subst h
  rw [nameOf, String.toList_ofList] at hl ⊢
  refine congrArg lower (withoutNul_of_not_mem fun hm => ?_).symm
  have hr : Reference.replacement ∈ lower (withoutNul x) := by
    refine List.mem_map.2 ⟨Reference.replacement, ?_, toLower_replacement⟩
    exact List.mem_map.2 ⟨'\x00', hm, if_pos rfl⟩
  exact absurd (hl _ hr) (by decide)

/-- A media tag is read only where one opens. -/
theorem opensMedia_of_tag? {t rest : Text} {name : String} {as : List Attribute} {closing : Bool}
    (h : tag? t = some (name, as, closing, rest)) (hn : name ∈ mediaNames) :
    OpensMedia ('<' :: t) := by
  rw [tag?, Option.map_eq_some_iff] at h
  obtain ⟨⟨bs, c, r⟩, -, he⟩ := h
  rw [Prod.mk.injEq] at he
  have hl := lower_of_nameOf he.1 (isLower_of_mem_name hn)
  refine ⟨name, hn, List.cons_prefix_cons.2 ⟨rfl, ?_⟩⟩
  rw [← hl]
  exact (List.takeWhile_prefix _).map Char.toLower

end Html.Token

namespace Asset

open Directive Markup Token

variable {Q R : String → String → Prop} {t : Text}

/-- Whether an image or a video has for its source placeholders of names that are of some kind for it. -/
def SourcesOf (R : String → String → Prop) (tag : String) (as : List Attribute) : Prop :=
  tag ∈ mediaNames → ∀ a ∈ as, a.name = "src" → ∀ name, a.value = "asset:" ++ name → R tag name

/-- Whether a name is the source of a media tag in a text, with line feeds for its line breaks, that does not
begin as a placeholder of some kind. -/
def OwnTag (Q : String → String → Prop) (t : Text) (name : String) : Prop :=
  ∃ r tag as closing rest, '<' :: r <:+ unixLines t ∧ ¬ HoldsPlaceOf Q ('<' :: r) ∧
    tag? r = some (tag, as, closing, rest) ∧ tag ∈ mediaNames ∧
    ⟨"src", "asset:" ++ name, ""⟩ ∈ as

/-- Whether a name is the source of a media tag in a text, with line feeds for its line breaks, that does not
begin as the placeholder of one of some names. -/
def OwnSource (names : List String) (t : Text) (name : String) : Prop :=
  ∃ r tag as closing rest, '<' :: r <:+ unixLines t ∧ ¬ HoldsPlace names ('<' :: r) ∧
    tag? r = some (tag, as, closing, rest) ∧ tag ∈ mediaNames ∧
    ⟨"src", "asset:" ++ name, ""⟩ ∈ as

theorem ownSource_eq (names : List String) (t : Text) :
    OwnSource names t = OwnTag (fun _ name => name ∈ names) t := rfl

theorem inserted_sourcesOf (h : ∀ name, R "image" name → R "img" name) :
    Builder.Inserted (SourcesOf R) :=
  ⟨fun _ _ _ ha => absurd ha List.not_mem_nil,
    fun _ hs _ a ha hn name hv => h name (hs (by decide) a ha hn name hv)⟩

/-- Where media tags open only as placeholders, no tag has a source of its own. -/
theorem not_ownTag (hn : AssetNames Q) (h : MediaHas (HoldsPlaceOf Q) t) (name : String) :
    ¬ OwnTag Q t name := by
  rintro ⟨r, tag, as, closing, rest, hr, hp, htag, hm, -⟩
  exact hp ((mediaHas_unixLines hn h).apply hr (opensMedia_of_tag? htag hm))

/-- The value of a source that names an asset is read as it is written. -/
theorem valueOf_source {name : String} (h : ∀ c ∈ name.toList, isAssetChar c = true) :
    valueOf ("asset:".toList ++ name.toList) = "asset:" ++ name := by
  have hall : ['&', '<', '>', '"', '\u00a0', '\r', '\x00'].all
      (fun x => x ∉ "asset:".toList ∧ isAssetChar x = false) = true := by decide
  have hne {x : Char} (hx : x ∈ ['&', '<', '>', '"', '\u00a0', '\r', '\x00']) :
      x ∉ ("asset:" ++ name).toList := by
    obtain ⟨ha, hc⟩ := of_decide_eq_true (List.all_eq_true.1 hall x hx)
    rw [String.toList_append, List.mem_append, not_or]
    exact ⟨ha, fun hm => ne_of_isAssetChar (h x hm) hc rfl⟩
  have hplain : ∀ c ∈ ("asset:" ++ name).toList, c ∉ ['&', '<', '>', '"', '\u00a0'] :=
    fun c hc hm => hne (List.mem_append_left ['\r', '\x00'] hm) hc
  have hv := valueOf_writes (writes_escape ("asset:" ++ name).toList)
  rw [escape_plain hplain, readBack, unixLines_of_not_mem (hne (by decide)),
    withoutNul_of_not_mem (hne (by decide)), String.ofList_toList] at hv
  rw [← String.toList_append, hv]

theorem placeStart_eq (tag name : String) :
    placeStart tag name = '<' :: (tag.toList ++ spell "src" ("asset:".toList ++ name.toList)) := by
  have h : " src=\"asset:".toList = ' ' :: "src".toList ++ '=' :: '"' :: "asset:".toList := by decide
  rw [placeStart, h, spell]
  simp

/-- Where a placeholder begins, its source is read. -/
theorem sourcesOf_holdsPlace (hn : AssetNames Q) {rest : Text} {tag : String}
    {as : List Attribute} {closing : Bool} (hp : HoldsPlaceOf Q ('<' :: t))
    (h : tag? t = some (tag, as, closing, rest)) : SourcesOf Q tag as := by
  intro _ a ha hs n hv
  obtain ⟨tag', ht, name, hm, z, hz⟩ := hp
  have hc := hn tag' name hm
  have hspell : '"' ∉ "asset:".toList ++ name.toList := by
    rw [List.mem_append, not_or]
    exact ⟨by decide, fun hq => ne_of_isAssetChar (hc _ hq) (by decide) rfl⟩
  have htag : tag' ∈ AllowList.story.tags := by
    have hall : ∀ n ∈ ["img", "video"], n ∈ AllowList.story.tags := by decide
    exact hall tag' ht
  have hr : t = tag'.toList ++ (spell "src" ("asset:".toList ++ name.toList) ++ z) := by
    rw [placeStart_eq, List.cons_append, List.append_assoc] at hz
    exact (List.cons.inj hz).2.symm
  obtain ⟨r, hsp⟩ : ∃ r, spell "src" ("asset:".toList ++ name.toList) ++ z = ' ' :: r := ⟨_, rfl⟩
  rw [hr, hsp, tag?_name (isName_tag htag) (by decide), ← hsp,
    attributes?_spell (isName_attribute (by decide)) hspell List.not_mem_nil, List.nil_append,
    Option.map_eq_some_iff] at h
  obtain ⟨⟨bs, c, behind⟩, hb, he⟩ := h
  cases he
  -- What has been read stays in front, and no attribute of its name comes behind it.
  obtain ⟨more, rfl⟩ := prefix_attributes? hb
  have hd := (plain_attributes? ⟨by simp, by simp⟩ hb).distinct
  rcases List.mem_cons.1 ha with rfl | ha
  · rw [← (String.append_right_inj "asset:").1 ((valueOf_source hc).symm.trans hv)]
    exact hm
  · rw [List.cons_append, List.map_cons, List.nodup_cons] at hd
    exact absurd (List.mem_map.2 ⟨a, ha, hs⟩) hd.1

theorem onTokens_sourcesOf (hn : AssetNames Q) (t : Text) :
    Builder.OnTokens (SourcesOf fun tag n => Q tag n ∨ OwnTag Q t n) (· <:+ unixLines t) := by
  intro reading foreign u hu
  refine ⟨fun token htoken => ?_, (suffix_next reading foreign u).trans hu⟩
  have htag := tagOf_next reading foreign u token htoken
  cases token with
  | startTag tag as closing =>
      obtain ⟨r, rest, rfl, htag⟩ := htag
      intro hm a ha hs n hv
      by_cases hp : HoldsPlaceOf Q ('<' :: r)
      · exact .inl (sourcesOf_holdsPlace hn hp htag hm a ha hs n hv)
      · have hg := (onToken_next reading foreign ('<' :: r) _ htoken).group a ha
        obtain ⟨name, value, group⟩ := a
        cases hs
        cases hv
        cases hg
        exact .inr ⟨r, tag, as, closing, rest, hu, hp, htag, hm, ha⟩
  | _ => trivial

/-- The images and videos that a list leaves of a text have for their sources placeholders of some kind, or
sources of their own. -/
theorem everyOf_keep_sourcesOf (hn : AssetNames Q) (hi : ∀ name, Q "image" name → Q "img" name)
    (l : AllowList) (t : Text) :
    Node.EveryOf (Builder.Within (SourcesOf fun tag n => Q tag n ∨ OwnTag Q t n))
      (l.keep (parse t)) := by
  have hi : ∀ n, Q "image" n ∨ OwnTag Q t n → Q "img" n ∨ OwnTag Q t n := fun n => Or.imp_left (hi n)
  exact AllowList.everyOf_keep (fun _ he hv ht a ha => he hv ht a (List.mem_filter.1 ha).1)
    (everyOf_parse_of (inserted_sourcesOf hi) (onTokens_sourcesOf hn t) fun _ hs => suffix_unixLines hs)

end Asset
end Gamebook
