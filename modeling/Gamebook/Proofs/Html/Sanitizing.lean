import Gamebook.Proofs.Html.Placing
import Gamebook.Proofs.Html.Spelling

/-!
# What a list for stories leaves

Whatever the text, the elements that are read have attributes without groups and with different names,
if they are of the main vocabulary. Of these a list for stories leaves its own elements and attributes
only, so what it leaves is a sanitized fragment.
-/

namespace Gamebook.Html

/-- Attributes without groups and with different names. -/
structure Plain (as : List Attribute) : Prop where
  group : ∀ a ∈ as, a.group = ""
  distinct : (as.map (·.name)).Nodup

theorem plain_nil : Plain [] := ⟨by simp, by simp⟩

namespace Token

open Builder (OnToken)

theorem plain_addAttribute {as : List Attribute} (h : Plain as) (name : Text) (value : String) :
    Plain (addAttribute as name value) := by
  rw [addAttribute]
  split
  · exact h
  · next hn =>
      refine ⟨fun a ha => ?_, ?_⟩
      · rcases List.mem_append.1 ha with ha | ha
        · exact h.group a ha
        · rw [List.mem_singleton.1 ha]
      · rw [List.map_append]
        refine List.nodup_append.2 ⟨h.distinct, by simp, fun x hx y hy => ?_⟩
        rintro rfl
        obtain ⟨a, ha, he⟩ := List.mem_map.1 hx
        have hy := List.mem_singleton.1 hy
        exact hn (List.any_eq_true.2 ⟨a, ha, beq_iff_eq.2 (he.trans hy)⟩)

theorem plain_attributes? {as bs : List Attribute} (h : Plain as) {rounds : Nat} {t rest : Text}
    {closing : Bool} (ha : attributes? as rounds t = some (bs, closing, rest)) : Plain bs := by
  induction rounds generalizing as t with
  | zero => cases ha
  | succ rounds ih =>
      rw [attributes?] at ha
      split at ha
      · cases ha
      · cases ha
        exact h
      · cases ha
        exact h
      · exact ih h ha
      · dsimp only at ha
        split at ha
        · split at ha
          · cases ha
          · exact ih (plain_addAttribute h _ _) ha
        · exact ih (plain_addAttribute h _ _) ha

/-- Whether a token is read off a text as its tag if it is a start tag. -/
def TagOf (t : Text) : Token → Prop
  | startTag name as closing => ∃ r rest, t = '<' :: r ∧ tag? r = some (name, as, closing, rest)
  | _ => True

theorem tagOf_startTag (t : Text) : ∀ token ∈ (startTagToken t).1, TagOf ('<' :: t) token := by
  intro token ht
  rw [startTagToken] at ht
  split at ht
  · next name as closing rest htag =>
      cases ht
      exact ⟨t, rest, rfl, htag⟩
  · cases ht

theorem tagOf_endTag (s t : Text) : ∀ token ∈ (endTagToken t).1, TagOf s token := by
  intro token ht
  rw [endTagToken] at ht
  split at ht
  · cases ht
    trivial
  · cases ht

theorem tagOf_declaration (foreign : Bool) (s t : Text) :
    ∀ token ∈ (declaration foreign t).1, TagOf s token := by
  intro token ht
  unfold declaration at ht
  split at ht
  · cases ht
    trivial
  · split at ht
    · dsimp only at ht
      split at ht
      · cases ht
      · cases ht
        trivial
    · split at ht
      · cases ht
      · cases ht
        trivial

theorem tagOf_markup (foreign : Bool) (t : Text) :
    ∀ token ∈ (markup foreign t).1, TagOf ('<' :: t) token := by
  unfold markup
  split
  · exact tagOf_declaration foreign _ _
  · rintro _ ⟨⟩
    trivial
  · rintro _ ⟨⟩
  · split
    · exact tagOf_endTag _ _
    · rintro _ ⟨⟩
      trivial
  · rintro _ ⟨⟩
    trivial
  · split
    · exact tagOf_startTag _
    · rintro _ ⟨⟩
      trivial
  · rintro _ ⟨⟩
    trivial

theorem tagOf_nextOrdinary (foreign : Bool) (t : Text) :
    ∀ token ∈ (nextOrdinary foreign t).1, TagOf t token := by
  unfold nextOrdinary
  split
  · rintro _ ⟨⟩
  · exact tagOf_markup foreign _
  · split
    · rintro _ ⟨⟩
      trivial
    · rintro _ ⟨⟩
      trivial
  · rintro _ ⟨⟩
    trivial
  · rintro _ ⟨⟩
    trivial

theorem tagOf_nextInElement (reading : Reading) (content t : Text) :
    ∀ token ∈ (nextInElement reading content t).1, TagOf t token := by
  unfold nextInElement
  split
  · exact tagOf_endTag _ _
  · rintro _ ⟨⟩
    trivial

/-- Whatever is read next, a start tag is read off a text that begins with its tag. -/
theorem tagOf_next (reading : Reading) (foreign : Bool) (t : Text) :
    ∀ token ∈ (next reading foreign t).1, TagOf t token := by
  unfold next
  split
  · exact tagOf_nextOrdinary foreign t
  · rintro _ ⟨⟩
    trivial
  · intro token ht
    dsimp only at ht
    split at ht
    · cases ht
      trivial
    · exact tagOf_nextInElement _ _ _ token ht
  · intro token ht
    dsimp only at ht
    split at ht
    · cases ht
      trivial
    · exact tagOf_nextInElement _ _ _ token ht

/-- Whatever is read next, the attributes of a start tag are plain. -/
theorem onToken_next (reading : Reading) (foreign : Bool) (t : Text) :
    ∀ token ∈ (next reading foreign t).1, OnToken (fun _ => Plain) token := by
  intro token ht
  have htag := tagOf_next reading foreign t token ht
  cases token with
  | startTag name as closing =>
      obtain ⟨r, rest, -, htag⟩ := htag
      rw [tag?, Option.map_eq_some_iff] at htag
      obtain ⟨⟨bs, c, r⟩, ha, he⟩ := htag
      cases he
      exact plain_attributes? plain_nil ha
  | _ => trivial

end Token

/-! ## The elements of a text -/

theorem everyOf_iff {p : Element → Prop} {ns : List Node} :
    Node.EveryOf p ns ↔ ∀ n ∈ ns, n.Every p := by
  induction ns with
  | nil => simp [Node.EveryOf]
  | cons n ns ih => simp [Node.EveryOf, ih]

theorem everyOf_append {p : Element → Prop} {ns ms : List Node} :
    Node.EveryOf p (ns ++ ms) ↔ Node.EveryOf p ns ∧ Node.EveryOf p ms := by
  rw [everyOf_iff, everyOf_iff, everyOf_iff, List.forall_mem_append]

/-- What holds of every element of a draft holds of the nodes that hang in it. -/
theorem everyOf_nodesBelow {P : Element → Prop} {d : Draft} (h : d.Sound P) (depth n : Nat) :
    Node.EveryOf P (d.nodesBelow depth n) := by
  induction depth generalizing n with
  | zero => trivial
  | succ depth ih =>
      rw [everyOf_iff, Draft.nodesBelow]
      intro node hnode
      obtain ⟨m, hm, he⟩ := List.mem_filterMap.1 hnode
      split at he
      · next e hc =>
          cases he
          have hm0 : m ≠ 0 := by
            rintro rfl
            exact h.below n hm
          exact ⟨h.elements m e hm0 (Draft.element?_eq_some.2 hc), ih m⟩
      · cases he
        trivial
      · cases he

/-- What holds of the start tags that are read off a text holds of its elements of the main
vocabulary. -/
theorem everyOf_parse_of {Q : String → List Attribute → Prop} {T : Text → Prop}
    (h0 : Builder.Inserted Q) (hnext : Builder.OnTokens Q T) {t : Text}
    (ht : ∀ s, s <:+ t → T (Text.unixLines s)) : Node.EveryOf (Builder.Within Q) (parse t) := by
  have hread (s : Text) (hs : s <:+ t) : Node.EveryOf (Builder.Within Q)
      ((Builder.read ((Text.unixLines s).length + 1) .initial
        (Text.unixLines s)).finish.draft.fragment Builder.root) :=
    everyOf_nodesBelow (Builder.Sound.finish (.read Builder.sound_initial h0 hnext _ (ht s hs)) h0).1
      _ _
  unfold parse
  split
  · exact hread _ (List.suffix_cons ..)
  · exact hread _ (List.suffix_refl _)

/-- Every element of the main vocabulary that is read has plain attributes. -/
theorem everyOf_parse (t : Text) : Node.EveryOf (Builder.Within fun _ => Plain) (parse t) :=
  everyOf_parse_of (T := fun _ => True) ⟨fun _ => plain_nil, fun _ => id⟩
    (fun reading foreign t _ => ⟨Token.onToken_next reading foreign t, trivial⟩) fun _ _ => trivial

/-! ## Keeping -/

namespace AllowList

mutual
theorem everyOf_keepNode {p q : Element → Prop} {l : AllowList} (h : ∀ e, p e → q (l.restrict e))
    (parent : Element) : (n : Node) → n.Every p → Node.EveryOf q (l.keepNode parent n)
  | .text _, _ => ⟨trivial, trivial⟩
  | .element e children, hn => by
      rw [keepNode]
      split
      · trivial
      · split
        · refine ⟨⟨h e hn.1, ?_⟩, trivial⟩
          split
          · trivial
          · exact everyOf_keepNodes h e children hn.2
        · exact everyOf_keepNodes h parent children hn.2
theorem everyOf_keepNodes {p q : Element → Prop} {l : AllowList} (h : ∀ e, p e → q (l.restrict e))
    (parent : Element) : (ns : List Node) → Node.EveryOf p ns → Node.EveryOf q (l.keepNodes parent ns)
  | [], _ => trivial
  | n :: ns, hn => by
      rw [keepNodes, everyOf_append]
      exact ⟨everyOf_keepNode h parent n hn.1, everyOf_keepNodes h parent ns hn.2⟩
end

/-- What holds of the elements of a fragment, with the attributes that a list leaves, holds of what it
keeps of them. -/
theorem everyOf_keep {p q : Element → Prop} {l : AllowList} (h : ∀ e, p e → q (l.restrict e))
    {ns : List Node} (hn : Node.EveryOf p ns) : Node.EveryOf q (l.keep ns) :=
  everyOf_keepNodes h outermost ns hn

theorem html_of_mayStandIn {parent e : Element} (hp : parent.vocabulary = .html)
    (he : e.name ∈ story.tags) (h : Foreign.mayStandIn parent e = true) : e.vocabulary = .html := by
  have hsvg : "svg" ∉ story.tags := by decide
  have hmath : "math" ∉ story.tags := by decide
  rw [Foreign.mayStandIn, hp] at h
  cases hv : e.vocabulary with
  | html => rfl
  | svg =>
      rw [hv] at h
      exact absurd (eq_of_beq h ▸ he) hsvg
  | math =>
      rw [hv] at h
      exact absurd (eq_of_beq h ▸ he) hmath

theorem mem_storyNames {tag : String} (ht : tag ∈ story.tags) {a : Attribute}
    (h : story.keepsAttribute tag a = true) : a.name ∈ storyNames := by
  rw [keepsAttribute, Bool.and_eq_true, Bool.or_eq_true] at h
  rcases h.1 with h | h
  · exact List.mem_append_left _ (List.contains_iff_mem.1 h)
  · exact List.mem_append_right _ (List.mem_flatMap.2 ⟨tag, ht, List.contains_iff_mem.1 h⟩)

theorem sanitized_restrict {e : Element} (hv : e.vocabulary = .html) (ht : e.name ∈ story.tags)
    (h : Plain e.attributes) : (story.restrict e).Sanitized storyNames := by
  refine ⟨hv, ht, fun a ha => ?_, ?_⟩
  · obtain ⟨ha, hk⟩ := List.mem_filter.1 ha
    exact ⟨h.group a ha, mem_storyNames ht hk⟩
  · exact h.distinct.sublist (List.filter_sublist.map _)

mutual
theorem sanitized_keepNode {parent : Element} (hp : parent.vocabulary = .html) : (n : Node) →
    n.Every (Builder.Within fun _ => Plain) → Sanitized storyNames (story.keepNode parent n)
  | .text run, _ => ⟨trivial, trivial⟩
  | .element e children, h => by
      rw [keepNode]
      split
      · trivial
      · next hdrop =>
          rw [Bool.or_eq_true, not_or] at hdrop
          split
          · next ht =>
              rw [Bool.and_eq_true] at ht
              have ht := List.contains_iff_mem.1 ht.1
              have hv := html_of_mayStandIn hp ht (by simpa using hdrop.2)
              refine ⟨⟨sanitized_restrict hv ht (h.1 hv), ?_⟩, trivial⟩
              split
              · trivial
              · exact sanitized_keepNodes hv children h.2
          · exact sanitized_keepNodes hp children h.2
theorem sanitized_keepNodes {parent : Element} (hp : parent.vocabulary = .html) : (ns : List Node) →
    Node.EveryOf (Builder.Within fun _ => Plain) ns → Sanitized storyNames (story.keepNodes parent ns)
  | [], _ => trivial
  | n :: ns, h => by
      have hn := sanitized_keepNode hp n h.1
      have hns := sanitized_keepNodes hp ns h.2
      rw [keepNodes, Sanitized, everyOf_append]
      exact ⟨hn, hns⟩
end

/-- What a list for stories leaves of a text is a sanitized fragment. -/
theorem sanitized_keep (t : Text) : Sanitized storyNames (story.keep (parse t)) :=
  sanitized_keepNodes rfl (parse t) (everyOf_parse t)

end AllowList
end Gamebook.Html
