import Gamebook.Proofs.Html.ChangeFormatting
import Gamebook.Proofs.Html.Sanitizing
import Gamebook.Proofs.Html.Tokens

/-!
# Building a tree from the tokens of stories

The tokens of a sanitized fragment never leave the setting of a document's body. So its tree is built
by placing one token after the other in the body, every element of it is sanitized, and a change of
media elements passes from the tokens to the tree.
-/

namespace Gamebook.Html

open Text

/-- Whether a sanitized fragment may have a token. -/
def Token.OfStory (names : List String) : Token → Prop
  | .text _ => True
  | .nul => True
  | .startTag name as _ => Element.Sanitized names { name := name, attributes := as }
  | .endTag name => name ∈ AllowList.story.tags
  | .comment => False

/-- A token with the element that it starts changed. -/
def Token.change (g : Element → Element) : Token → Token
  | .startTag name as closing =>
    .startTag name (g { name := name, attributes := as }).attributes closing
  | t => t

namespace Builder

variable {names : List String} {b : Builder}

/-! ## Starts and ends -/

theorem startInBody_cases {name : String} (h : name ∈ AllowList.story.tags) :
    (∀ b as closing, startInBody b name as closing = b.closeParagraphInScope.insert name as) ∨
    (∀ b as closing, startInBody b name as closing = b.reconstruct.insertVoid name as) ∨
    (name ∉ ["img", "video"] ∧ ∀ b as closing,
      startInBody b name as closing = b.reconstruct.insertFormatting name as) ∨
    (∀ b as closing, startInBody b name as closing = b.reconstruct.insert name as) := by
  simp only [AllowList.story, List.mem_cons, List.not_mem_nil, or_false] at h
  rcases h with rfl | rfl | rfl | rfl | rfl | rfl | rfl | rfl
  · exact .inl fun b as closing => rfl
  · exact .inr (.inl fun b as closing => rfl)
  · exact .inr (.inl fun b as closing => rfl)
  · exact .inr (.inr (.inr fun b as closing => rfl))
  · exact .inr (.inr (.inl ⟨by decide, fun b as closing => rfl⟩))
  · exact .inr (.inr (.inl ⟨by decide, fun b as closing => rfl⟩))
  · exact .inr (.inr (.inr fun b as closing => rfl))
  · exact .inr (.inr (.inr fun b as closing => rfl))

theorem endInBody_cases {name : String} (h : name ∈ AllowList.story.tags) :
    (∀ b, endInBody b name = (if b.nameInScope .button "p" then b else b.insert "p" []).closeParagraph) ∨
    (∀ b, endInBody b name = b.reconstruct.insertVoid "br" []) ∨
    (name ∉ ["img", "video"] ∧ ∀ b, endInBody b name = b.closeFormatting name) ∨
    (∀ b, endInBody b name = b.closeOther name) := by
  simp only [AllowList.story, List.mem_cons, List.not_mem_nil, or_false] at h
  rcases h with rfl | rfl | rfl | rfl | rfl | rfl | rfl | rfl
  · exact .inl fun b => rfl
  · exact .inr (.inl fun b => rfl)
  · exact .inr (.inr (.inr fun b => rfl))
  · exact .inr (.inr (.inr fun b => rfl))
  · exact .inr (.inr (.inl ⟨by decide, fun b => rfl⟩))
  · exact .inr (.inr (.inl ⟨by decide, fun b => rfl⟩))
  · exact .inr (.inr (.inr fun b => rfl))
  · exact .inr (.inr (.inr fun b => rfl))

theorem sanitized_bare {name : String} (h : name ∈ AllowList.story.tags) :
    Element.Sanitized names { name := name } :=
  ⟨rfl, h, by simp, by simp⟩

theorem Sound.inBody_story (h : b.Sound (Element.Sanitized names)) {t : Token}
    (ht : t.OfStory names) : (b.inBody t).Sound (Element.Sanitized names) := by
  cases t with
  | text run => exact h.reconstruct.addText run
  | nul => exact h
  | comment => exact h
  | startTag name as closing =>
      rw [Builder.inBody]
      rcases startInBody_cases (Element.Sanitized.tag ht) with he | he | ⟨-, he⟩ | he
      · exact he b as closing ▸ h.closeParagraphInScope.insert ht
      · exact he b as closing ▸ h.reconstruct.insertVoid ht
      · exact he b as closing ▸ h.reconstruct.insertFormatting ht
      · exact he b as closing ▸ h.reconstruct.insert ht
  | endTag name =>
      rw [Builder.inBody]
      rcases endInBody_cases ht with he | he | ⟨-, he⟩ | he
      · exact he b ▸ (h.ite (h.insert (sanitized_bare (by decide)))).closeParagraph
      · exact he b ▸ h.reconstruct.insertVoid (sanitized_bare (by decide))
      · exact he b ▸ h.closeFormatting name
      · exact he b ▸ h.closeOther name

/-! ## The setting -/

/-- What says how the next token is read and placed. -/
def mode (b : Builder) : Setting × Reading × Bool := (b.setting, b.reading, b.skipLineFeed)

theorem mode_ite {c : Prop} [Decidable c] {b b' : Builder} (h : b'.mode = b.mode) :
    (if c then b' else b).mode = b.mode := by
  split
  · exact h
  · rfl

theorem mode_closeParagraphInScope (b : Builder) : b.closeParagraphInScope.mode = b.mode :=
  mode_ite rfl

theorem mode_reopen (b : Builder) (fs done : List Formatting) :
    (b.reopen fs done).1.mode = b.mode := by
  induction fs generalizing b done with
  | nil => rfl
  | cons f fs ih =>
      cases f with
      | border => exact ih b _
      | element n name as => exact ih _ _

theorem mode_reconstruct (b : Builder) : b.reconstruct.mode = b.mode := mode_reopen b _ _

theorem mode_closeOther (b : Builder) (name : String) : (b.closeOther name).mode = b.mode := by
  rw [closeOther]
  dsimp only
  split
  · exact mode_ite rfl
  · rfl

theorem mode_climb (block rounds : Nat) (c : Climb) (ns : List Nat) :
    (climb block rounds c ns).builder.mode = c.builder.mode := by
  induction ns generalizing rounds c with
  | nil => rfl
  | cons n ns ih =>
      rw [climb]
      dsimp only
      split
      · exact ih _ _
      · exact ih _ _
      · split
        · exact ih _ _
        · exact ih _ _

theorem mode_adopt (b : Builder) (node : Nat) (name : String) (as : List Attribute) (block : Nat)
    (between outside : List Nat) :
    (b.adopt node name as block between outside).mode = b.mode := by
  have hc := mode_climb block 1 ⟨b, block, none⟩ between
  rw [adopt]
  generalize climb block 1 ⟨b, block, none⟩ between = c at hc
  dsimp only [mode, removeOpen, putAt] at hc ⊢
  exact hc

theorem mode_closeFormattingIn (rounds : Nat) (b : Builder) (name : String) :
    (closeFormattingIn rounds b name).mode = b.mode := by
  induction rounds generalizing b with
  | zero => rfl
  | succ rounds ih =>
      rw [closeFormattingIn]
      dsimp only
      split
      · exact mode_closeOther b name
      · exact mode_closeOther b name
      · split
        · rfl
        · split
          · rfl
          · split
            · rfl
            · rw [ih, mode_adopt]

theorem mode_closeFormatting (b : Builder) (name : String) :
    (b.closeFormatting name).mode = b.mode := by
  rw [closeFormatting]
  split
  · rfl
  · exact mode_closeFormattingIn 8 b name

theorem mode_inBody (b : Builder) {t : Token} (ht : t.OfStory names) : (b.inBody t).mode = b.mode := by
  cases t with
  | text run => exact mode_reconstruct b
  | nul => rfl
  | comment => rfl
  | startTag name as closing =>
      rw [inBody]
      rcases startInBody_cases (Element.Sanitized.tag ht) with he | he | ⟨-, he⟩ | he
      · exact he b as closing ▸ mode_closeParagraphInScope b
      · exact he b as closing ▸ mode_reconstruct b
      · exact he b as closing ▸ mode_reconstruct b
      · exact he b as closing ▸ mode_reconstruct b
  | endTag name =>
      rw [inBody]
      rcases endInBody_cases ht with he | he | ⟨-, he⟩ | he
      · have hp : (if b.nameInScope .button "p" then b else b.insert "p" []).mode = b.mode := by
          split
          · rfl
          · rfl
        exact he b ▸ hp
      · exact he b ▸ mode_reconstruct b
      · exact he b ▸ mode_closeFormatting b name
      · exact he b ▸ mode_closeOther b name

/-! ## Changes of media elements -/

section Change

variable {g : Element → Element} (hg : ChangesMedia g)

include hg

theorem inBody_change (b : Builder) {t : Token} (ht : t.OfStory names) :
    (b.change g).inBody (t.change g) = (b.inBody t).change g := by
  cases t with
  | text run =>
      rw [Token.change, inBody, inBody, reconstruct_change hg, addText_change hg]
      · exact fun _ _ _ h => by cases h
  | nul => rfl
  | comment => rfl
  | startTag name as closing =>
      rw [Token.change, inBody, inBody]
      rcases startInBody_cases (Element.Sanitized.tag ht) with he | he | ⟨hn, he⟩ | he
      · rw [he, he, closeParagraphInScope_change hg, insert_change hg]
      · rw [he, he, reconstruct_change hg, insertVoid_change hg]
      · rw [he, he, reconstruct_change hg, change_attributes hg hn, insertFormatting_change hg _ hn]
      · rw [he, he, reconstruct_change hg, insert_change hg]
  | endTag name =>
      rw [Token.change, inBody, inBody]
      · rcases endInBody_cases ht with he | he | ⟨hn, he⟩ | he
        · have hp := insert_change hg b "p" []
          rw [change_attributes hg (by decide)] at hp
          rw [he, he, nameInScope_change hg, hp]
          split
          · exact closeParagraph_change hg b
          · exact closeParagraph_change hg _
        · have hb := insertVoid_change hg b.reconstruct "br" []
          rw [change_attributes hg (by decide)] at hb
          rw [he, he, reconstruct_change hg, hb]
        · rw [he, he, closeFormatting_change hg _ hn]
        · rw [he, he, closeOther_change hg]
      · exact fun _ _ _ h => by cases h

theorem foldl_inBody_change {ts : List Token} (ht : ∀ t ∈ ts, t.OfStory names) (b : Builder) :
    (ts.map (Token.change g)).foldl inBody (b.change g) = (ts.foldl inBody b).change g := by
  induction ts generalizing b with
  | nil => rfl
  | cons t ts ih =>
      obtain ⟨ht, hts⟩ := List.forall_mem_cons.1 ht
      rw [List.map_cons, List.foldl_cons, List.foldl_cons, inBody_change hg b ht, ih hts]

end Change

/-! ## Reading -/

/-- Whether tokens of stories are placed in the body, and all that is placed is sanitized. -/
structure Calm (names : List String) (b : Builder) : Prop where
  mode : b.mode = (.body, .ordinary, false)
  sound : b.Sound (Element.Sanitized names)

theorem calm_initial : Calm names initial := ⟨rfl, sound_initial⟩

theorem Calm.inBody (h : Calm names b) {t : Token} (ht : t.OfStory names) :
    Calm names (b.inBody t) :=
  ⟨(mode_inBody b ht).trans h.mode, h.sound.inBody_story ht⟩

theorem Calm.foldl (h : Calm names b) {ts : List Token} (ht : ∀ t ∈ ts, t.OfStory names) :
    Calm names (ts.foldl Builder.inBody b) := by
  induction ts generalizing b with
  | nil => exact h
  | cons t ts ih =>
      obtain ⟨ht, hts⟩ := List.forall_mem_cons.1 ht
      exact ih (h.inBody ht) hts

theorem Calm.setting (h : Calm names b) : b.setting = .body := (Prod.mk.inj h.mode).1

theorem Calm.reading (h : Calm names b) : b.reading = .ordinary :=
  (Prod.mk.inj (Prod.mk.inj h.mode).2).1

theorem Calm.skipLineFeed (h : Calm names b) : b.skipLineFeed = false :=
  (Prod.mk.inj (Prod.mk.inj h.mode).2).2

theorem Sound.html_element (h : b.Sound (Element.Sanitized names)) (n : Nat) :
    (b.element n).vocabulary = .html := by
  rw [element]
  cases he : b.draft.element? n with
  | none => rfl
  | some e =>
      by_cases hn : n = 0
      · rw [hn, h.draft.root] at he
        cases he
        rfl
      · exact (h.draft.elements n e hn he).html

theorem Calm.html_adjusted (h : Calm names b) : b.adjustedCurrent.vocabulary = .html := by
  rw [adjustedCurrent]
  split
  · rfl
  · exact h.sound.html_element _

theorem Calm.place (h : Calm names b) (t : Token) : b.place t = b.inBody t := by
  have hs : { b with skipLineFeed := false } = b := by
    rw [← h.skipLineFeed]
  have hf : b.isForeign t = false := by
    unfold isForeign
    exact if_pos (beq_iff_eq.2 h.html_adjusted)
  have hp : placeIn (b.opened.length + 16) b t = b.inBody t := by
    rw [placeIn, hf, inSetting, h.setting]
    rfl
  unfold Builder.place
  rw [hs, h.skipLineFeed]
  split
  · exact hp
  · exact hp

/-- The tokens of a story are placed one after the other. -/
theorem Calm.read (h : Calm names b) {rounds : Nat} {t : Text}
    (ht : ∀ token ∈ Token.readAll rounds t, token.OfStory names) :
    Builder.read rounds b t = (Token.readAll rounds t).foldl Builder.inBody b := by
  have hfold (ts : List Token) (hts : ∀ t ∈ ts, t.OfStory names) (b : Builder)
      (hb : Calm names b) : ts.foldl Builder.place b = ts.foldl Builder.inBody b := by
    induction ts generalizing b with
    | nil => rfl
    | cons t ts ih =>
        obtain ⟨ht, hts⟩ := List.forall_mem_cons.1 hts
        rw [List.foldl_cons, List.foldl_cons, hb.place t, ih hts _ (hb.inBody ht)]
  induction rounds generalizing b t with
  | zero => rfl
  | succ rounds ih =>
      cases t with
      | nil => rfl
      | cons c t =>
          rw [Token.readAll_cons, List.forall_mem_append] at ht
          have hr : { b with reading := .ordinary } = b := by
            rw [← h.reading]
          have hv : (b.adjustedCurrent.vocabulary != .html) = false := by
            rw [h.html_adjusted]
            rfl
          rw [Builder.read, hv, h.reading, Token.next, Token.readAll_cons, List.foldl_append,
            ← hfold _ ht.1 b h, ← ih ((hfold _ ht.1 b h).symm ▸ h.foldl ht.1) ht.2]
          dsimp only
          rw [hr]
          exact fun h => by cases h

end Builder

/-! ## Parsing -/

open Builder

/-- The tree of a text whose tokens are those of stories. -/
theorem parse_eq {names : List String} {t : Text} (h : ∀ token ∈ tokens t, token.OfStory names) :
    parse t = ((tokens t).foldl Builder.inBody .initial).draft.fragment root := by
  have hr := calm_initial.read h
  have hc := calm_initial.foldl h
  rw [← tokens] at hr
  have hf : (Builder.read ((unixLines (dropMark t)).length + 1) .initial
      (unixLines (dropMark t))).finish = (tokens t).foldl Builder.inBody .initial := by
    rw [hr, Builder.finish, hc.setting]
    rfl
  exact congrArg (fun b : Builder => b.draft.fragment root) hf

theorem sanitized_parse {names : List String} {t : Text}
    (h : ∀ token ∈ tokens t, token.OfStory names) : Sanitized names (parse t) := by
  rw [parse_eq h]
  exact everyOf_nodesBelow (calm_initial.foldl h).sound.draft _ _

/-- A change of media elements passes from the tokens of stories to their tree. -/
theorem fragment_foldl_change {names : List String} {g : Element → Element} (hg : ChangesMedia g)
    {ts : List Token} (h : ∀ t ∈ ts, t.OfStory names) :
    ((ts.map (Token.change g)).foldl Builder.inBody .initial).draft.fragment root =
      Node.changeAll g ((ts.foldl Builder.inBody .initial).draft.fragment root) := by
  have hi : Builder.initial.change g = .initial := by
    have hh : g { name := "html" } = { name := "html" } := hg.fixed _ (by decide)
    simp [Builder.change, Draft.change, Draft.Place.change, Draft.Content.change, Builder.initial, hh]
  have hc := foldl_inBody_change hg h .initial
  rw [hi] at hc
  rw [hc]
  exact Draft.fragment_change g _ root

end Gamebook.Html
