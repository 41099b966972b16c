import Gamebook.Proofs.Json.Natural
import Gamebook.Proofs.Json.Record
import Gamebook.Proofs.SortedMap
import Gamebook.Story.Manifest

/-!
# Manifests from their data forms

A manifest is read from its data form. The depth of its settings is a number of 64 bits in every
manifest that was read.
-/

namespace Gamebook

/-! ## Settings -/

namespace RenderConfig

/-- The depths that a data form can hold. -/
def Storable (c : RenderConfig) : Prop := c.maxIfDepth < Nat.pow 2 64

theorem storable_default : (default : RenderConfig).Storable :=
  (by decide : (16 : Nat) < Nat.pow 2 64)

/-- The record of the data form. -/
def record (c : RenderConfig) : Json.Record :=
  ⟨[("maxIfDepth", .nat c.maxIfDepth),
    ("assetExtensions", .array (c.assetExtensions.map .string)),
    ("videoExtensions", .array (c.videoExtensions.map .string))], false⟩

/-- Settings are read field by field. The record is kept a variable: the kernel must not compute the
bound of the depth. -/
theorem ofJson?_eq_some {v : Json} {c : RenderConfig} {r : Json.Record}
    (hr : v.record? ["maxIfDepth", "assetExtensions", "videoExtensions"] = some r)
    (hd : ∀ usual, r.orElse? "maxIfDepth" (Json.natOfBits? 64) usual = some c.maxIfDepth)
    (ha : ∀ usual, r.orElse? "assetExtensions" (Json.list? Json.string?) usual =
      some c.assetExtensions)
    (hv : ∀ usual, r.orElse? "videoExtensions" (Json.list? Json.string?) usual =
      some c.videoExtensions) : ofJson? v = some c := by
  rw [ofJson?, hr]
  simp only [Option.bind_eq_bind, Option.bind_some, hd, ha, hv]

theorem ofJson?_toJson {c : RenderConfig} (h : c.Storable) : ofJson? c.toJson = some c := by
  have hr : c.toJson.record? ["maxIfDepth", "assetExtensions", "videoExtensions"] =
      some c.record := rfl
  have hs (xs : List String) : Json.list? Json.string? (.array (xs.map .string)) = some xs :=
    Json.list?_map (fun _ : String => rfl) xs
  exact ofJson?_eq_some hr (fun _ => Json.Record.orElse?_of_get? rfl (Json.natOfBits?_nat h))
    (fun _ => Json.Record.orElse?_of_get? rfl (hs _))
    (fun _ => Json.Record.orElse?_of_get? rfl (hs _))

theorem storable_of_ofJson? {v : Json} {c : RenderConfig} (h : ofJson? v = some c) :
    c.Storable := by
  simp only [ofJson?, Option.bind_eq_bind, Option.bind_eq_some_iff] at h
  obtain ⟨r, -, n, hn, a, -, b, -, h⟩ := h
  cases h
  unfold Json.Record.orElse? at hn
  split at hn
  · exact Json.natOfBits?_lt hn
  · cases hn
    exact storable_default

theorem readsBack_toJson {c : RenderConfig} (h : c.Storable) : c.toJson.ReadsBack :=
  have hs (xs : List String) : Json.ItemsReadBack (xs.map .string) :=
    Json.itemsReadBack_map fun _ _ => trivial
  ⟨Json.readsBack_whole h, hs _, hs _, trivial⟩

end RenderConfig

/-! ## Manifests -/

namespace Manifest

/-- The fields of the data form. -/
def fields (m : Manifest) : List (String × Option Json) :=
  [("title", m.title.map .string), ("author", m.author.map .string),
    ("description", m.description.map .string),
    ("endings",
      if m.endings.isEmpty then none else some (.array (m.endings.keys.map PageId.toJson))),
    ("render", some m.config.toJson)]

theorem endings_orElse {m : Manifest} {r : Json.Record}
    (h : r.get? "endings" =
      if m.endings.isEmpty then none else some (.array (m.endings.keys.map PageId.toJson))) :
    r.orElse? "endings" (Json.list? PageId.ofJson?) [] = some m.endings.keys := by
  rw [Json.Record.orElse?, h]
  by_cases he : m.endings.isEmpty = true
  · rw [if_pos he, SortedMap.isEmpty_iff.1 he]
    rfl
  · rw [if_neg he]
    exact Json.list?_map PageId.ofJson?_toJson _

theorem ofJson?_toJson {m : Manifest} (h : m.config.Storable) : ofJson? m.toJson = some m := by
  have hn : (m.fields.map (·.1)).Nodup :=
    (by decide : ["title", "author", "description", "endings", "render"].Nodup)
  have hr : m.toJson.record? ["title", "author", "description", "endings", "render"] =
      some ⟨Json.present m.fields, false⟩ :=
    Json.record?_ofFields rfl hn
  have hg (name : String) : (Json.Record.mk (Json.present m.fields) false).get? name =
      (m.fields.lookup name).join :=
    Json.get?_present hn false name
  have he : endingsOf m.endings.keys = m.endings := by
    rw [endingsOf, SortedMap.entries_unit, SortedMap.ofList_entries]
  rw [ofJson?, hr]
  simp only [Option.bind_eq_bind, Option.bind_some]
  rw [Json.Record.orElse?_nullable (hg "title"), Json.Record.orElse?_nullable (hg "author"),
    Json.Record.orElse?_nullable (hg "description"), endings_orElse (hg "endings"),
    Json.Record.orElse?_of_get? (hg "render") (RenderConfig.ofJson?_toJson h)]
  simp only [Option.bind_some, he]

theorem storable_of_ofJson? {v : Json} {m : Manifest} (h : ofJson? v = some m) :
    m.config.Storable := by
  simp only [ofJson?, Option.bind_eq_bind, Option.bind_eq_some_iff] at h
  obtain ⟨r, -, t, -, a, -, d, -, e, -, c, hc, h⟩ := h
  cases h
  unfold Json.Record.orElse? at hc
  split at hc
  · exact RenderConfig.storable_of_ofJson? hc
  · cases hc
    exact RenderConfig.storable_default

theorem readsBack_toJson {m : Manifest} (h : m.config.Storable) : m.toJson.ReadsBack := by
  have hs (s : Option String) (v : Json) (hv : some v = s.map .string) : v.ReadsBack := by
    obtain ⟨t, -, rfl⟩ := Option.map_eq_some_iff.1 hv.symm
    trivial
  refine Json.readsBack_ofFields fun k v hm => ?_
  simp only [List.mem_cons, Prod.mk.injEq, List.not_mem_nil, or_false] at hm
  rcases hm with ⟨-, hv⟩ | ⟨-, hv⟩ | ⟨-, hv⟩ | ⟨-, hv⟩ | ⟨-, hv⟩
  · exact hs _ v hv
  · exact hs _ v hv
  · exact hs _ v hv
  · split at hv
    · cases hv
    · cases hv
      exact Json.itemsReadBack_map fun _ _ => trivial
  · cases hv
    exact RenderConfig.readsBack_toJson h

end Manifest
end Gamebook
