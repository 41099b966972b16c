import Gamebook.Proofs.Asset.Sources

/-!
# Placeholders that are left

A placeholder whose name finds no file keeps its place when the others are resolved. In the written form of
a sanitized fragment it is that of an image or a video of the fragment.
-/

namespace Gamebook

open Html Text

namespace Html

mutual
theorem forall_started {p : Element → Prop} : (n : Node) → n.Every p → ∀ e ∈ n.started, p e
  | .text _, _ => fun _ he => absurd he List.not_mem_nil
  | .element e children, h => by
      have hc := forall_startedOf children h.2
      rw [Node.started]
      split
      · exact List.forall_mem_singleton.2 h.1
      · exact List.forall_mem_cons.2 ⟨h.1, hc⟩
/-- What holds of every element holds of those whose start tags are written. -/
theorem forall_startedOf {p : Element → Prop} :
    (ns : List Node) → Node.EveryOf p ns → ∀ e ∈ Node.startedOf ns, p e
  | [], _ => fun _ he => absurd he List.not_mem_nil
  | n :: ns, h => by
      rw [Node.startedOf, List.forall_mem_append]
      exact ⟨forall_started n h.1, forall_startedOf ns h.2⟩
end

end Html

namespace Asset

variable {c : Catalog} {html tag rest : Text} {name : String}

/-- The name of the placeholder in the text of a tag. -/
def placeholderIn? (tag : Text) : Option String :=
  (splitFirst? (quoted? sourceOpening) tag).map fun (_, n, _) => String.ofList (Reference.decode n)

/-- Whether a text has a media tag whose placeholder has a name that finds no file. -/
def LeavesOut (c : Catalog) (html : Text) (name : String) : Prop :=
  ∃ before tag rest, html = before ++ (tag ++ rest) ∧ mediaTag? (tag ++ rest) = some (tag, rest) ∧
    placeholderIn? tag = some name ∧ c.address? name = none

/-- Resolving marks a tag whose placeholder is left as one whose file is missing. -/
theorem resolveTag_of_placeholderIn? (h : placeholderIn? tag = some name) (hc : c.address? name = none) :
    resolveTag c tag = markMissing tag := by
  obtain ⟨⟨before, n, rest⟩, hs, rfl⟩ := Option.map_eq_some_iff.1 h
  rw [resolveTag, hs]
  simp only [hc]

theorem placeholderIn?_writeStart {e : Element} (h : e.Sanitized storyNames) :
    placeholderIn? (writeStart e) = (placeholder? e.attributes).map String.ofList := by
  have hs := splitFirst?_openTag source_stem (by decide) (by decide) h.tag (spellings e.attributes)
  rw [placeholderIn?, writeStart_of_sanitized h, hs, Option.map_map]
  cases hp : placeholder? e.attributes with
  | none => rw [splitFirst?_source_none (spelled_of_sanitized h) hp]; rfl
  | some found =>
      obtain ⟨before, rest, hf, -⟩ := splitFirst?_source (spelled_of_sanitized h) hp
      have hd : Reference.decode (escape true found) = found :=
        Reference.decode_flatMap (faithful_writeChar true) found
      rw [hf]
      simp [hd]

/-- No media tag begins in a run of text, so one that begins in or behind it begins behind it. -/
theorem suffix_of_mediaTag? {p s r : Text} (hp : '<' ∉ p) (hr : r <:+ p ++ s)
    (hm : mediaTag? r ≠ none) : r <:+ s := by
  rcases suffix_append_cases hr with hr | ⟨x, hx, hxp, rfl⟩
  · exact hr
  · exact absurd (mediaTag?_suffix hp s x hx hxp) hm

/-- A media tag that stands where a tag is written is that tag. -/
theorem exists_element_of_mediaTag?_write {t : Tag} (h : t.Sanitized storyNames) {s : Text}
    (hm : mediaTag? (t.write ++ s) = some (tag, rest)) : ∃ e, t.element? = some e ∧
      e.Sanitized storyNames ∧ isMedia e = true ∧ tag = writeStart e := by
  rw [mediaTag?_write h] at hm
  split at hm
  · next hs =>
      cases hm
      cases t with
      | stop name => cases hs
      | start e => exact ⟨e, rfl, h, hs, rfl⟩
  · cases hm

/-- A media tag in a row of tags is one of its start tags. -/
theorem exists_start_of_mediaTag? {ts : List (Tag × Text)} (h : ∀ t ∈ ts, t.1.Sanitized storyNames)
    {r : Text} (hr : r <:+ Layout.writeTags Tag.write ts) (hm : mediaTag? r = some (tag, rest)) :
    ∃ e ∈ ts.filterMap fun t => t.1.element?, e.Sanitized storyNames ∧ isMedia e = true ∧
      tag = writeStart e := by
  have hsome : mediaTag? r ≠ none := by
    rw [hm]
    exact Option.some_ne_none _
  induction ts with
  | nil =>
      rw [List.suffix_nil.1 hr] at hsome
      exact absurd rfl hsome
  | cons t ts ih =>
      obtain ⟨ht, hts⟩ := List.forall_mem_cons.1 h
      obtain ⟨p, hw, hp⟩ := exists_write_eq ht
      rw [Layout.writeTags] at hr
      have hbehind (hs : r <:+ escape false t.2 ++ Layout.writeTags Tag.write ts) :
          ∃ e ∈ (t :: ts).filterMap fun t => t.1.element?, e.Sanitized storyNames ∧
            isMedia e = true ∧ tag = writeStart e := by
        have hrun : '<' ∉ escape false t.2 := avoids_text.not_mem (by decide) t.2
        obtain ⟨e, he, h⟩ := ih hts (suffix_of_mediaTag? hrun hs hsome)
        obtain ⟨u, hu, he⟩ := List.mem_filterMap.1 he
        exact ⟨e, List.mem_filterMap.2 ⟨u, List.mem_cons_of_mem _ hu, he⟩, h⟩
      rcases suffix_append_cases hr with hs | ⟨x, hx, hxt, rfl⟩
      · exact hbehind hs
      · rw [hw] at hxt
        rcases List.suffix_cons_iff.1 hxt with rfl | hxp
        · rw [← hw] at hm
          obtain ⟨e, he, h⟩ := exists_element_of_mediaTag?_write ht hm
          exact ⟨e, List.mem_filterMap.2 ⟨t, List.mem_cons_self, he⟩, h⟩
        · exact absurd (mediaTag?_suffix hp _ x hx hxp) hsome

/-- A media tag in the written form of a sanitized fragment is that of an image or a video. -/
theorem exists_element_of_mediaTag? {ns : List Node} (h : Sanitized storyNames ns) {before : Text}
    (hw : write ns = before ++ (tag ++ rest)) (hm : mediaTag? (tag ++ rest) = some (tag, rest)) :
    ∃ e ∈ Node.startedOf ns, e.Sanitized storyNames ∧ isMedia e = true ∧ tag = writeStart e := by
  have hsan := sanitized_layoutOf (Layout.sanitized_empty storyNames) ns h
  have hfront : '<' ∉ escape false (Node.layoutOf .empty ns).front :=
    avoids_text.not_mem (by decide) _
  rw [write_eq h, Layout.writeWith] at hw
  have hr := suffix_of_mediaTag? hfront (r := tag ++ rest) ⟨before, hw.symm⟩ (by simp [hm])
  obtain ⟨e, he, hs⟩ := exists_start_of_mediaTag? hsan hr hm
  exact ⟨e, elements_eq ns ▸ he, hs⟩

theorem placeholder?_of_writeStart {e : Element} (h : e.Sanitized storyNames)
    (hp : placeholderIn? (writeStart e) = some name) :
    placeholder? e.attributes = some name.toList := by
  rw [placeholderIn?_writeStart h] at hp
  obtain ⟨found, hf, rfl⟩ := Option.map_eq_some_iff.1 hp
  rw [hf, String.toList_ofList]

end Asset
end Gamebook
