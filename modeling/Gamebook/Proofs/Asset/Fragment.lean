import Gamebook.Proofs.Asset.Misread

/-!
# Reading resolved fragments back

A fragment whose placeholders are resolved reads back, token by token, as the fragment with resolved
elements, exactly if none of its tags is misread.
-/

namespace Gamebook.Asset

open Html Text

/-! ## Resolved elements -/

theorem keepsName_resolveElement (c : Catalog) : KeepsName (resolveElement c) := by
  intro e
  rw [resolveElement]
  split
  · exact ⟨rfl, rfl⟩
  · exact ⟨rfl, rfl⟩

theorem resolveElement_of_not_media {e : Element} (h : isMedia e = false) (c : Catalog) :
    resolveElement c e = e := by
  rw [resolveElement, h]
  rfl

/-- Attributes as a list for stories leaves them. -/
structure Allowed (names : List String) (as : List Attribute) : Prop where
  allowed : ∀ a ∈ as, a.group = "" ∧ a.name ∈ names
  distinct : (as.map (·.name)).Nodup

theorem Allowed.map {names : List String} {as : List Attribute} (h : Allowed names as)
    {f : Attribute → Attribute} (hf : ∀ a, (f a).name = a.name ∧ (f a).group = a.group) :
    Allowed names (as.map f) := by
  refine ⟨fun a ha => ?_, ?_⟩
  · obtain ⟨b, hb, rfl⟩ := List.mem_map.1 ha
    rw [(hf b).1, (hf b).2]
    exact h.allowed b hb
  · have hn : (as.map f).map (·.name) = as.map (·.name) := by
      rw [List.map_map]
      exact List.map_congr_left fun a _ => (hf a).1
    rw [hn]
    exact h.distinct

theorem Allowed.withMissing {names : List String} {as : List Attribute} (h : Allowed names as)
    (hc : "class" ∈ names) : Allowed names (withMissing as) := by
  rw [Asset.withMissing]
  split
  · refine h.map fun a => ?_
    split
    · exact ⟨rfl, rfl⟩
    · exact ⟨rfl, rfl⟩
  · next hany =>
      have hn : "class" ∉ as.map (·.name) := by
        intro hm
        obtain ⟨a, ha, he⟩ := List.mem_map.1 hm
        exact hany (List.any_eq_true.2 ⟨a, ha, beq_iff_eq.2 he⟩)
      refine ⟨fun a ha => ?_, ?_⟩
      · rcases List.mem_append.1 ha with ha | ha
        · exact h.allowed a ha
        · rw [List.mem_singleton.1 ha]
          exact ⟨rfl, hc⟩
      · rw [List.map_append]
        refine List.nodup_append.2 ⟨h.distinct, by simp, fun x hx y hy => ?_⟩
        rintro rfl
        have hx' : x = "class" := List.mem_singleton.1 hy
        exact hn (hx' ▸ hx)

theorem Allowed.resolveAttributes {names : List String} {as : List Attribute}
    (h : Allowed names as) (hc : "class" ∈ names) (c : Catalog) :
    Allowed names (resolveAttributes c as) := by
  rw [Asset.resolveAttributes]
  split
  · exact h
  · split
    · refine h.map fun a => ?_
      split
      · exact ⟨rfl, rfl⟩
      · exact ⟨rfl, rfl⟩
    · exact h.withMissing hc

/-- A resolved element is allowed where its names are and the class is. -/
theorem sanitized_resolveElement {names : List String} {e : Element} (h : e.Sanitized names)
    (hc : "class" ∈ names) (c : Catalog) : (resolveElement c e).Sanitized names := by
  have ha := (Allowed.mk h.allowed h.distinct).resolveAttributes hc c
  rw [resolveElement]
  split
  · exact ⟨h.html, h.tag, ha.allowed, ha.distinct⟩
  · exact h

/-! ## Tokens -/

theorem isWritten_resolvedTag {c : Catalog} {t : Tag} (h : t.Sanitized storyNames)
    (hr : ∀ e ∈ t.element?, isMisread c e = false) :
    (t.change (resolveElement c)).Sanitized storyNames ∧
      (t.change (resolveElement c)).IsWritten (resolvedTag c t) := by
  cases t with
  | stop name => exact ⟨h, rfl⟩
  | start e =>
      refine ⟨sanitized_resolveElement h (by decide) c, ?_⟩
      rw [resolvedTag]
      cases hm : isMedia e with
      | true => exact resolveTag_writeStart h c hm (hr e rfl)
      | false =>
          have hw := isStart_writeStart h
          change IsStart (resolveElement c e) (writeStart e)
          rwa [resolveElement_of_not_media hm]

theorem head?_resolvedTag {c : Catalog} {t : Tag} (h : t.Sanitized storyNames) :
    (resolvedTag c t).head? = some '<' := by
  by_cases hr : ∀ e ∈ t.element?, isMisread c e = false
  · exact (isWritten_resolvedTag h hr).2.head?
  · cases t with
    | stop name => rfl
    | start e =>
        have he : isMisread c e = true := by
          cases hm : isMisread c e with
          | true => rfl
          | false => exact absurd (fun d hd => Option.some.inj hd ▸ hm) hr
        obtain ⟨pre, a, b, post, -, ht⟩ := resolveTag_misread h he
        rw [isMisread, Bool.and_eq_true, Bool.and_eq_true] at he
        rw [resolvedTag, if_pos he.1.1, ht]
        rfl

/-- Where tags read back as resolved ones, none of them is misread. -/
theorem not_misread_of_readAll {c : Catalog} {ts : List (Tag × Text)}
    (hs : ∀ t ∈ ts, t.1.Sanitized storyNames) {rounds : Nat}
    (hr : (unixLines (Layout.writeTags (resolvedTag c) ts)).length ≤ rounds)
    (h : Token.readAll rounds (unixLines (Layout.writeTags (resolvedTag c) ts)) =
      ts.flatMap fun t => (t.1.change (resolveElement c)).token :: Token.tokensOf t.2) :
    ∀ t ∈ ts, ∀ e ∈ t.1.element?, isMisread c e = false := by
  induction ts generalizing rounds with
  | nil => simp
  | cons t ts ih =>
      have hts : ∀ u ∈ ts, u.1.Sanitized storyNames := fun u hu => hs u (List.mem_cons_of_mem _ hu)
      have ht := hs t (List.mem_cons_self ..)
      have hm : ∀ e ∈ t.1.element?, isMisread c e = false := by
        intro e he
        cases hm : isMisread c e with
        | false => rfl
        | true =>
            obtain ⟨tag, run⟩ := t
            cases tag with
            | stop name => cases he
            | start d =>
                obtain rfl : d = e := Option.some.inj he
                have hmedia : isMedia d = true := by
                  rw [isMisread, Bool.and_eq_true, Bool.and_eq_true] at hm
                  exact hm.1.1
                rw [Layout.writeTags, resolvedTag, if_pos hmedia] at h
                exact absurd h (readAll_misread ht hm _ _ _)
      obtain ⟨-, hw⟩ := isWritten_resolvedTag ht hm
      obtain ⟨v, hv, hread⟩ := hw.reads (isWritten_resolvedTag ht hm).1
      rw [Layout.writeTags, hv] at hr h
      simp only [List.length_append, List.length_cons] at hr
      obtain ⟨d, rfl⟩ : ∃ d, rounds = d + 1 := ⟨rounds - 1, by omega⟩
      have ho : Token.Opens (Layout.writeTags (resolvedTag c) ts) :=
        opens_writeTags fun u hu => head?_resolvedTag (hts u hu)
      obtain ⟨left, hleft, hrun⟩ := readAll_run t.2 d ho (by omega)
      rw [hread, hrun, List.flatMap_cons, List.cons_append, List.cons.injEq,
        List.append_cancel_left_eq] at h
      exact List.forall_mem_cons.2 ⟨hm, ih hts hleft h.2⟩

theorem tokens_layout_iff {l : Layout} (h : l.Sanitized storyNames) (c : Catalog) :
    tokens (l.writeWith (resolvedTag c)) = (l.unmarked.change (resolveElement c)).tokens ↔
      ∀ e ∈ l.elements, isMisread c e = false := by
  have hmem : (∀ e ∈ l.elements, isMisread c e = false) ↔
      ∀ t ∈ l.tags, ∀ e ∈ t.1.element?, isMisread c e = false := by
    simp only [Layout.elements, List.mem_filterMap, Option.mem_def]
    exact ⟨fun h t ht e he => h e ⟨t, ht, he⟩, fun h e ⟨t, ht, he⟩ => h t ht e he⟩
  rw [hmem]
  constructor
  · intro heq
    have ho : Token.Opens (Layout.writeTags (resolvedTag c) l.tags) :=
      opens_writeTags fun u hu => head?_resolvedTag (h u hu)
    rw [tokens, dropMark_writeWith ho] at heq
    obtain ⟨left, hleft, hrun⟩ := readAll_run l.unmarked.front _ ho (Nat.le_succ _)
    have ht : (l.unmarked.change (resolveElement c)).tokens = Token.tokensOf l.unmarked.front ++
        l.tags.flatMap fun t => (t.1.change (resolveElement c)).token :: Token.tokensOf t.2 := by
      rw [Layout.tokens, Layout.change, Layout.changeTags, List.flatMap_map]
      rfl
    rw [ht] at heq
    exact not_misread_of_readAll h hleft (List.append_cancel_left (hrun.symm.trans heq))
  · exact fun hm => tokens_writeWith fun t ht => isWritten_resolvedTag (h t ht) (hm t ht)

theorem tokens_write {ns : List Node} (h : Sanitized storyNames ns) :
    tokens (write ns) = (Node.layoutOf .empty ns).unmarked.tokens := by
  have hl := sanitized_layoutOf (Layout.sanitized_empty _) ns h
  have hw : AreWritten id Tag.write (Node.layoutOf .empty ns).tags := by
    intro t ht
    refine ⟨hl t ht, ?_⟩
    obtain ⟨tag, run⟩ := t
    cases tag with
    | stop name => rfl
    | start e => exact isStart_writeStart (hl _ ht)
  have hid : (Node.layoutOf .empty ns).unmarked.changeTags id =
      (Node.layoutOf .empty ns).unmarked := by
    simp [Layout.changeTags]
  rw [write_eq h, tokens_writeWith hw, hid]

/-- A sanitized fragment with its placeholders resolved reads back as the fragment with resolved
elements exactly if none of its tags is misread. -/
theorem tokens_resolveSources {ns : List Node} (h : Sanitized storyNames ns) (c : Catalog) :
    tokens (resolveSources c (write ns)) =
        tokens (write (Node.changeAll (resolveElement c) ns)) ↔
      ∀ e ∈ Node.startedOf ns, isMisread c e = false := by
  have hl := sanitized_layoutOf (Layout.sanitized_empty _) ns h
  have hc : Sanitized storyNames (Node.changeAll (resolveElement c) ns) :=
    everyOf_changeAll (fun e he => sanitized_resolveElement he (by decide) c) ns h
  have hchange : Node.layoutOf .empty (Node.changeAll (resolveElement c) ns) =
      (Node.layoutOf .empty ns).change (resolveElement c) :=
    layoutOf_changeAll (keepsName_resolveElement c) .empty ns
  have hu : ((Node.layoutOf .empty ns).change (resolveElement c)).unmarked =
      (Node.layoutOf .empty ns).unmarked.change (resolveElement c) := rfl
  rw [tokens_write hc, hchange, hu, write_eq h, resolveSources_layout c hl, ← elements_eq]
  exact tokens_layout_iff hl c

end Gamebook.Asset
