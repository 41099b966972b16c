import Gamebook.Proofs.Asset.Fragment
import Gamebook.Proofs.Html.StoryToken

/-!
# Resolved fragments stay sanitized

Where no tag is misread, a fragment whose placeholders are resolved reads back as the tree of the
fragment with resolved elements: the same elements and texts, the same attributes but for the sources
and classes of media, and nothing that a list for stories does not allow. So the pages of a story stay
within the list.
-/

namespace Gamebook

namespace Html

open Text

variable {names : List String}

/-! ## Tokens of sanitized fragments -/

theorem Element.Sanitized.mono {more : List String} {e : Element} (h : e.Sanitized names)
    (hn : names ⊆ more) : e.Sanitized more :=
  ⟨h.html, h.tag, fun a ha => ⟨(h.allowed a ha).1, hn (h.allowed a ha).2⟩, h.distinct⟩

mutual
theorem every_imp {p q : Element → Prop} (hpq : ∀ e, p e → q e) : (n : Node) → n.Every p → n.Every q
  | .text _, _ => trivial
  | .element e children, h => ⟨hpq e h.1, everyOf_imp hpq children h.2⟩
theorem everyOf_imp {p q : Element → Prop} (hpq : ∀ e, p e → q e) :
    (ns : List Node) → Node.EveryOf p ns → Node.EveryOf q ns
  | [], _ => trivial
  | n :: ns, h => ⟨every_imp hpq n h.1, everyOf_imp hpq ns h.2⟩
end

theorem Sanitized.mono {more : List String} {ns : List Node} (h : Sanitized names ns)
    (hn : names ⊆ more) : Sanitized more ns :=
  everyOf_imp (fun _ he => he.mono hn) ns h

theorem Tag.ofStory_token {t : Tag} (h : t.Sanitized names) : t.token.OfStory names := by
  cases t with
  | stop name => exact h
  | start e =>
      have he : e.Sanitized names := h
      refine ⟨rfl, he.tag, fun a ha => ?_, ?_⟩
      · obtain ⟨b, hb, rfl⟩ := List.mem_map.1 ha
        exact ⟨rfl, (he.allowed b hb).2⟩
      · rw [List.map_map]
        exact he.distinct

theorem Token.ofStory_tokensOf {run : Text} : ∀ t ∈ Token.tokensOf run, t.OfStory names := by
  intro t ht
  rcases (readAll_escape run).1 t ht with rfl | ⟨r, rfl⟩
  · trivial
  · trivial

theorem Layout.ofStory_tokens {l : Layout} (h : l.Sanitized names) :
    ∀ t ∈ l.tokens, t.OfStory names := by
  intro t ht
  rcases List.mem_append.1 ht with ht | ht
  · exact Token.ofStory_tokensOf t ht
  · obtain ⟨e, he, ht⟩ := List.mem_flatMap.1 ht
    rcases List.mem_cons.1 ht with rfl | ht
    · exact Tag.ofStory_token (h e he)
    · exact Token.ofStory_tokensOf t ht

/-- What is the same of an element before and after a change is the same of tokens. -/
theorem Layout.map_tokens_change {f g : Element → Element}
    (hf : ∀ e, (f e).name = e.name)
    (hg : ∀ e, g { name := e.name, attributes := (f e).attributes.map Attribute.readBack } =
      g { name := e.name, attributes := e.attributes.map Attribute.readBack }) (l : Layout) :
    (l.change f).tokens.map (Token.change g) = l.tokens.map (Token.change g) := by
  have ht (t : Tag) : (t.change f).token.change g = t.token.change g := by
    cases t with
    | stop name => rfl
    | start e =>
        simp only [Tag.change, Tag.token, Token.change, hf]
        rw [hg]
  rw [Layout.tokens, Layout.tokens, Layout.change, Layout.changeTags, List.map_append,
    List.map_append, List.flatMap_map, List.map_flatMap, List.map_flatMap]
  simp only [List.map_cons, ht]

theorem parse_congr {s t : Text} (h : tokens s = tokens t)
    (ht : ∀ token ∈ tokens t, token.OfStory names) : parse s = parse t := by
  rw [parse_eq ht, parse_eq (h ▸ ht), h]

end Html

namespace Asset

open Html Text

/-! ## What resolving leaves alone -/

/-- An attribute of media without what resolving may change. -/
def outlineAttribute? (a : Attribute) : Option Attribute :=
  if a.name = "class" then none
  else if a.name = "src" then some { a with value := "" }
  else some a

/-- An element without what resolving may change: the class of an image or a video, and the value of
its source. -/
def outline (e : Element) : Element :=
  if isMedia e then { e with attributes := e.attributes.filterMap outlineAttribute? } else e

theorem changesMedia_outline : ChangesMedia outline := by
  refine ⟨fun e => ?_, fun e he => ?_⟩
  · rw [outline]
    split
    · exact ⟨rfl, rfl⟩
    · exact ⟨rfl, rfl⟩
  · have hm : isMedia e = false := by simpa [isMedia] using he
    rw [outline, hm]
    rfl

theorem outline_withSource (address : String) (as : List Attribute) :
    (withSource address as).filterMap outlineAttribute? = as.filterMap outlineAttribute? := by
  rw [withSource, List.filterMap_map]
  refine List.filterMap_congr fun a _ => ?_
  by_cases hs : a.name = "src" <;> simp [outlineAttribute?, hs]

theorem outline_withMissing (as : List Attribute) :
    (withMissing as).filterMap outlineAttribute? = as.filterMap outlineAttribute? := by
  rw [withMissing]
  split
  · rw [List.filterMap_map]
    refine List.filterMap_congr fun a _ => ?_
    by_cases hc : a.name = "class" <;> simp [outlineAttribute?, hc]
  · rw [List.filterMap_append]
    exact List.append_nil _

theorem outline_readBack (as : List Attribute) :
    (as.map Attribute.readBack).filterMap outlineAttribute? =
      (as.filterMap outlineAttribute?).map Attribute.readBack := by
  have hn : Token.readBack "" = "" := by decide
  rw [List.filterMap_map, List.map_filterMap]
  refine List.filterMap_congr fun a _ => ?_
  by_cases hc : a.name = "class"
  · simp [outlineAttribute?, Attribute.readBack, hc]
  · by_cases hs : a.name = "src"
    · simp [outlineAttribute?, Attribute.readBack, hs, hn]
    · simp [outlineAttribute?, Attribute.readBack, hc, hs]

theorem outline_resolveAttributes (c : Catalog) (as : List Attribute) :
    (resolveAttributes c as).filterMap outlineAttribute? = as.filterMap outlineAttribute? := by
  rw [resolveAttributes]
  split
  · rfl
  · split
    · exact outline_withSource _ as
    · exact outline_withMissing as

theorem outline_resolveElement (c : Catalog) (e : Element) :
    outline { name := e.name, attributes := (resolveElement c e).attributes.map Attribute.readBack } =
      outline { name := e.name, attributes := e.attributes.map Attribute.readBack } := by
  rw [resolveElement]
  split
  · next hm =>
      have hm (as : List Attribute) : isMedia { name := e.name, attributes := as } = true := hm
      rw [outline, outline, if_pos (hm _), if_pos (hm _)]
      simp only [outline_readBack, outline_resolveAttributes]
  · rfl

/-! ## Reading back -/

variable {names : List String} {ns : List Node} {c : Catalog}

/-- Whether none of the tags of a fragment is misread when its placeholders are resolved. -/
def Readable (c : Catalog) (ns : List Node) : Prop := ∀ e ∈ Node.startedOf ns, isMisread c e = false

instance : Decidable (Readable c ns) :=
  inferInstanceAs (Decidable (∀ e ∈ Node.startedOf ns, isMisread c e = false))

theorem ofStory_tokens_write (hn : names ⊆ storyNames) (h : Sanitized names ns) :
    ∀ t ∈ tokens (write ns), t.OfStory names := by
  rw [tokens_write (h.mono hn)]
  exact Layout.ofStory_tokens (sanitized_layoutOf (Layout.sanitized_empty names) ns h)

theorem sanitized_changeAll (hc : "class" ∈ names) (h : Sanitized names ns) :
    Sanitized names (Node.changeAll (resolveElement c) ns) :=
  everyOf_changeAll (fun _ he => sanitized_resolveElement he hc c) ns h

/-- Where no tag is misread, the resolved fragment reads back as the fragment with resolved elements. -/
theorem parse_resolveSources (hn : names ⊆ storyNames) (hc : "class" ∈ names)
    (h : Sanitized names ns) (hr : Readable c ns) :
    parse (resolveSources c (write ns)) = parse (write (Node.changeAll (resolveElement c) ns)) :=
  parse_congr ((tokens_resolveSources (h.mono hn) c).2 hr)
    (ofStory_tokens_write hn (sanitized_changeAll hc h))

/-- The fragment with resolved elements has the outline of the fragment. -/
theorem outline_parse (hn : names ⊆ storyNames) (hc : "class" ∈ names) (h : Sanitized names ns) :
    Node.changeAll outline (parse (write (Node.changeAll (resolveElement c) ns))) =
      Node.changeAll outline (parse (write ns)) := by
  have hs := ofStory_tokens_write hn h
  have hs' := ofStory_tokens_write hn (sanitized_changeAll (c := c) hc h)
  have ht : (tokens (write (Node.changeAll (resolveElement c) ns))).map (Token.change outline) =
      (tokens (write ns)).map (Token.change outline) := by
    rw [tokens_write (h.mono hn), tokens_write ((sanitized_changeAll hc h).mono hn)]
    have hl := layoutOf_changeAll (keepsName_resolveElement c) .empty ns
    have hu : ((Node.layoutOf .empty ns).change (resolveElement c)).unmarked =
        (Node.layoutOf .empty ns).unmarked.change (resolveElement c) := rfl
    rw [show Layout.empty = Layout.empty.change (resolveElement c) from rfl, hl, hu]
    exact Layout.map_tokens_change (fun e => (keepsName_resolveElement c e).1)
      (outline_resolveElement c) _
  rw [parse_eq hs, parse_eq hs', ← fragment_foldl_change changesMedia_outline hs,
    ← fragment_foldl_change changesMedia_outline hs', ht]

/-- Whether a text reads back as a fragment with its placeholders resolved: as the tree of the
fragment with resolved elements, which has the elements, texts and attributes of the fragment but for
the sources and classes of media, and only what a list for stories allows. -/
structure ReadsResolved (names : List String) (c : Catalog) (ns : List Node) (t : Text) : Prop where
  tree : parse t = parse (write (Node.changeAll (resolveElement c) ns))
  outline : Node.changeAll outline (parse t) = Node.changeAll outline (parse (write ns))
  sanitized : Sanitized names (parse t)

theorem readsResolved_resolveSources (hn : names ⊆ storyNames) (hc : "class" ∈ names)
    (h : Sanitized names ns) (hr : Readable c ns) :
    ReadsResolved names c ns (resolveSources c (write ns)) := by
  have ht := parse_resolveSources hn hc h hr
  refine ⟨ht, ?_, ?_⟩
  · rw [ht, outline_parse hn hc h]
  · rw [ht]
    exact sanitized_parse (ofStory_tokens_write hn (sanitized_changeAll hc h))

end Asset
end Gamebook
