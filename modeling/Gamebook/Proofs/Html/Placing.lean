import Gamebook.Html.Insertion
import Gamebook.Proofs.Html.Sound

/-!
# What holds of the attributes of every element

Placing a token adds elements with the attributes of the token or with none. So a property of the
attributes of all start tags holds of those of all elements of the main vocabulary.
-/

namespace Gamebook.Html.Builder

variable {P : Element → Prop} {Q : String → List Attribute → Prop} {b : Builder}

/-- Whether a property holds of the name and the attributes of an element if it is one of the main
vocabulary. -/
def Within (Q : String → List Attribute → Prop) (e : Element) : Prop :=
  e.vocabulary = .html → Q e.name e.attributes

/-- Whether a property holds of the name and the attributes of a token if it is a start tag. -/
def OnToken (Q : String → List Attribute → Prop) : Token → Prop
  | .startTag name as _ => Q name as
  | _ => True

/-- Whether a property of names and attributes holds of the elements that no start tag asks for, and is
kept where an element is inserted under another name. -/
structure Inserted (Q : String → List Attribute → Prop) : Prop where
  bare : ∀ name, Q name []
  image : ∀ as, Q "image" as → Q "img" as

@[grind =] theorem within_html {name : String} {as : List Attribute} :
    Within Q { name := name, attributes := as } ↔ Q name as :=
  ⟨fun h => h rfl, fun h _ => h⟩

theorem within_foreign {e : Element} (h : e.vocabulary ≠ .html) : Within Q e := fun he => absurd he h

@[grind ←] theorem within_ofTag {v : Vocabulary} (h : v ≠ .html) (inside : Bool) (name : String)
    (as : List Attribute) : Within Q (Foreign.ofTag v inside name as) :=
  within_foreign h

@[grind ←] theorem Sound.insertBare (h : b.Sound (Within Q)) (h0 : Inserted Q) (name : String) :
    (b.insert name []).Sound (Within Q) :=
  h.insert (within_html.2 (h0.bare name))

@[grind ←] theorem Sound.insertImage (h : b.Sound (Within Q)) (h0 : Inserted Q)
    {as : List Attribute} (hq : Q "image" as) : (b.insertVoid "img" as).Sound (Within Q) :=
  h.insertVoid (within_html.2 (h0.image as hq))

/-! ## Starts and ends -/

@[grind ←] theorem Sound.closeOption (h : b.Sound P) (implied : List String) :
    (b.closeOption implied).Sound P := by
  grind [Builder.closeOption]

@[grind ←] theorem Sound.endTemplate (h : b.Sound P) : b.endTemplate.Sound P := by
  grind [Builder.endTemplate]

@[grind ←] theorem Sound.endForm (h : b.Sound P) : b.endForm.Sound P := by
  rw [Builder.endForm]
  split
  · grind
  · split
    · exact h
    · grind

@[grind ←] theorem Sound.insertForeign (h : b.Sound P) {e : Element} (he : P e) (selfClosing : Bool) :
    (b.insertForeign e selfClosing).Sound P := by
  grind [Builder.insertForeign]

@[grind ←] theorem Sound.startMetadata (h : b.Sound (Within Q)) (name : String) {as : List Attribute}
    (hq : Q name as) : (b.startMetadata name as).Sound (Within Q) := by
  unfold Builder.startMetadata
  split
  all_goals grind

@[grind ←] theorem Sound.startItem (h : b.Sound (Within Q)) (name : String) {as : List Attribute}
    (hq : Q name as) : (b.startItem name as).Sound (Within Q) := by
  rw [Builder.startItem]
  dsimp only
  split
  · grind
  · grind

@[grind ←] theorem Sound.startLink (h : b.Sound (Within Q)) {as : List Attribute} (hq : Q "a" as) :
    (b.startLink as).Sound (Within Q) := by
  rw [Builder.startLink]
  split
  · grind
  · grind

@[grind ←] theorem Sound.startInBody (h : b.Sound (Within Q)) (h0 : Inserted Q)
    (name : String) {as : List Attribute}
    (hq : Q name as) (selfClosing : Bool) : (b.startInBody name as selfClosing).Sound (Within Q) := by
  unfold Builder.startInBody
  split
  · exact h.startMetadata name hq
  split
  · grind
  split
  · grind
  split
  · grind
  split
  · grind
  split
  all_goals grind

@[grind ←] theorem Sound.startBare (h : b.Sound (Within Q)) (h0 : Inserted Q) (name : String) :
    (b.startInBody name [] false).Sound (Within Q) :=
  h.startInBody h0 name (h0.bare name) false

@[grind ←] theorem Sound.endInBody (h : b.Sound (Within Q)) (h0 : Inserted Q) (name : String) :
    (b.endInBody name).Sound (Within Q) := by
  unfold Builder.endInBody
  split
  · grind
  split
  · grind
  split
  · grind
  split
  all_goals grind

@[grind ←] theorem Sound.inBody (h : b.Sound (Within Q)) (h0 : Inserted Q) {t : Token} (ht : OnToken Q t) :
    (b.inBody t).Sound (Within Q) := by
  cases t with
  | text run => exact h.reconstruct.addText run
  | nul => exact h
  | startTag name as closing => exact h.startInBody h0 name ht closing
  | endTag name => exact h.endInBody h0 name
  | comment => exact h

@[grind ←] theorem Sound.inText (h : b.Sound P) (t : Token) : (b.inText t).Sound P := by
  cases t with
  | text run => exact h.addText run
  | nul => exact h
  | startTag name as closing => exact h
  | endTag name => exact h
  | comment => exact h

/-! ## Tables -/

@[grind =] theorem done_fst (b : Builder) : (done b).1 = b := rfl

@[grind =] theorem again_fst (b : Builder) : (again b).1 = b := rfl

@[grind ←] theorem Sound.inFrontOfTable (h : b.Sound (Within Q)) (h0 : Inserted Q) {t : Token}
    (ht : OnToken Q t) : (b.inFrontOfTable t).Sound (Within Q) := by
  have hf : Sound (Within Q) { b with fostering := true } := h
  exact hf.inBody h0 ht

@[grind ←] theorem Sound.textInTable (h : b.Sound (Within Q)) (h0 : Inserted Q) {t : Token}
    (ht : OnToken Q t) : (b.textInTable t).1.Sound (Within Q) := by
  rw [Builder.textInTable]
  split
  · exact h
  · exact h.inFrontOfTable h0 ht

@[grind ←] theorem Sound.leaveTable (h : b.Sound P) : b.leaveTable.Sound P := h

@[grind ←] theorem Sound.backToTable (h : b.Sound P) : b.backToTable.Sound P := h

@[grind ←] theorem Sound.backToTableBody (h : b.Sound P) : b.backToTableBody.Sound P := h

@[grind ←] theorem Sound.backToRow (h : b.Sound P) : b.backToRow.Sound P := h

@[grind ←] theorem Sound.inTable (h : b.Sound (Within Q)) (h0 : Inserted Q) {t : Token}
    (ht : OnToken Q t) : (b.inTable t).1.Sound (Within Q) := by
  cases t with
  | text run => exact h.textInTable h0 ht
  | nul => exact h.textInTable h0 ht
  | comment => exact h
  | startTag name as closing =>
      have hq : Q name as := ht
      unfold Builder.inTable
      dsimp only
      split
      all_goals grind
  | endTag name =>
      unfold Builder.inTable
      dsimp only
      split
      all_goals grind

@[grind ←] theorem Sound.placeTableText (h : b.Sound (Within Q)) (h0 : Inserted Q) :
    b.placeTableText.Sound (Within Q) := by
  have hfoster (runs : List Text) (b : Builder) (hb : b.Sound (Within Q)) :
      (runs.foldl (fun b run => b.inFrontOfTable (.text run)) b).Sound (Within Q) := by
    induction runs generalizing b with
    | nil => exact hb
    | cons run runs ih => exact ih _ (hb.inFrontOfTable h0 trivial)
  have hadd (runs : List Text) (b : Builder) (hb : b.Sound (Within Q)) :
      (runs.foldl (fun b run => b.addText run) b).Sound (Within Q) := by
    induction runs generalizing b with
    | nil => exact hb
    | cons run runs ih => exact ih _ (hb.addText run)
  rw [Builder.placeTableText]
  split
  · exact hfoster _ _ h
  · exact hadd _ _ h

@[grind ←] theorem Sound.inTableText (h : b.Sound (Within Q)) (h0 : Inserted Q) (t : Token) :
    (b.inTableText t).1.Sound (Within Q) := by
  cases t with
  | text run => exact h
  | nul => exact h
  | startTag name as closing => exact h.placeTableText h0
  | endTag name => exact h.placeTableText h0
  | comment => exact h.placeTableText h0

@[grind ←] theorem Sound.inCaption (h : b.Sound (Within Q)) (h0 : Inserted Q) {t : Token}
    (ht : OnToken Q t) : (b.inCaption t).1.Sound (Within Q) := by
  unfold Builder.inCaption
  cases t with
  | text run => exact h.inBody h0 ht
  | nul => exact h.inBody h0 ht
  | startTag name as closing => grind
  | endTag name => grind
  | comment => exact h.inBody h0 ht

@[grind ←] theorem Sound.inColumnGroup (h : b.Sound (Within Q)) {t : Token}
    (ht : OnToken Q t) : (b.inColumnGroup t).1.Sound (Within Q) := by
  unfold Builder.inColumnGroup
  dsimp only
  split
  all_goals grind [OnToken]

@[grind ←] theorem Sound.inTableBody (h : b.Sound (Within Q)) (h0 : Inserted Q) {t : Token}
    (ht : OnToken Q t) : (b.inTableBody t).1.Sound (Within Q) := by
  unfold Builder.inTableBody
  cases t with
  | text run => exact h.inTable h0 ht
  | nul => exact h.inTable h0 ht
  | startTag name as closing =>
      have hq : Q name as := ht
      dsimp only
      split
      all_goals grind
  | endTag name =>
      dsimp only
      split
      all_goals grind
  | comment => exact h.inTable h0 ht

@[grind ←] theorem Sound.inRow (h : b.Sound (Within Q)) (h0 : Inserted Q) {t : Token}
    (ht : OnToken Q t) : (b.inRow t).1.Sound (Within Q) := by
  unfold Builder.inRow
  cases t with
  | text run => exact h.inTable h0 ht
  | nul => exact h.inTable h0 ht
  | startTag name as closing =>
      have hq : Q name as := ht
      dsimp only
      split
      all_goals grind
  | endTag name =>
      dsimp only
      split
      all_goals grind
  | comment => exact h.inTable h0 ht

@[grind ←] theorem Sound.closeCell (h : b.Sound P) : b.closeCell.Sound P :=
  Sound.clearFormatting (b := (b.closeImplied _).popUntil _) h

@[grind ←] theorem Sound.inCell (h : b.Sound (Within Q)) (h0 : Inserted Q) {t : Token}
    (ht : OnToken Q t) : (b.inCell t).1.Sound (Within Q) := by
  unfold Builder.inCell
  cases t with
  | text run => exact h.inBody h0 ht
  | nul => exact h.inBody h0 ht
  | startTag name as closing => grind
  | endTag name =>
      dsimp only
      split
      all_goals grind
  | comment => exact h.inBody h0 ht

/-! ## Every setting -/

@[grind ←] theorem Sound.inTemplate (h : b.Sound (Within Q)) (h0 : Inserted Q) {t : Token}
    (ht : OnToken Q t) : (b.inTemplate t).1.Sound (Within Q) := by
  unfold Builder.inTemplate
  cases t with
  | text run => exact h.inBody h0 ht
  | nul => exact h.inBody h0 ht
  | startTag name as closing =>
      have hq : Q name as := ht
      dsimp only
      split
      · exact h.startMetadata name hq
      · split
        all_goals exact h
  | endTag name => grind
  | comment => exact h.inBody h0 ht

@[grind ←] theorem Sound.inSetting (h : b.Sound (Within Q)) (h0 : Inserted Q) {t : Token}
    (ht : OnToken Q t) : (b.inSetting t).1.Sound (Within Q) := by
  unfold Builder.inSetting
  split
  all_goals grind

/-! ## Other vocabularies -/

theorem Sound.endForeign (h : b.Sound (Within Q)) (h0 : Inserted Q) (name : String) (isFirst : Bool)
    (ns : List Nat) : (endForeign b name isFirst ns).1.Sound (Within Q) := by
  induction ns generalizing isFirst with
  | nil => exact h
  | cons n ns ih =>
      cases ns with
      | nil => exact h
      | cons m ns =>
          rw [Builder.endForeign]
          · split
            · exact h.inSetting h0 trivial
            · split
              · exact h
              · exact ih false
          · exact List.cons_ne_nil _ _

theorem Sound.inForeign (h : b.Sound (Within Q)) (h0 : Inserted Q) {t : Token} (ht : OnToken Q t)
    (hv : b.adjustedCurrent.vocabulary ≠ .html) : (b.inForeign t).1.Sound (Within Q) := by
  have hleave : b.leaveForeign.Sound (Within Q) := h
  unfold Builder.inForeign
  cases t with
  | text run => exact h.addText run
  | nul => exact h.addText _
  | startTag name as closing =>
      dsimp only
      split
      · exact hleave.inSetting h0 ht
      · exact h.insertForeign (within_ofTag hv true name as) closing
  | endTag name =>
      dsimp only
      split
      · exact hleave.inSetting h0 ht
      · exact h.endForeign h0 name true b.opened
  | comment => exact h

theorem vocabulary_of_isForeign {t : Token} (h : b.isForeign t = true) :
    b.adjustedCurrent.vocabulary ≠ .html := by
  intro hv
  simp [isForeign, hv] at h

/-! ## Reading a text -/

theorem Sound.placeIn (h : b.Sound (Within Q)) (h0 : Inserted Q) {t : Token} (ht : OnToken Q t)
    (rounds : Nat) : (placeIn rounds b t).Sound (Within Q) := by
  induction rounds generalizing b with
  | zero => exact h
  | succ rounds ih =>
      have hp : (if b.isForeign t then b.inForeign t else b.inSetting t).1.Sound (Within Q) := by
        split
        · next hf => exact h.inForeign h0 ht (vocabulary_of_isForeign hf)
        · exact h.inSetting h0 ht
      rw [Builder.placeIn]
      split
      next b' isAgain hb =>
        rw [hb] at hp
        split
        · exact ih hp
        · exact hp

theorem Sound.place (h : b.Sound (Within Q)) (h0 : Inserted Q) {t : Token} (ht : OnToken Q t) :
    (b.place t).Sound (Within Q) := by
  have hb : Sound (Within Q) { b with skipLineFeed := false } := h
  unfold Builder.place
  dsimp only
  split
  · next run =>
    split
    · split
      · exact hb
      · exact hb.placeIn h0 (t := .text run) trivial _
    · exact hb.placeIn h0 ht _
  · exact hb.placeIn h0 ht _

theorem mem_intercalate {α : Type} {x : α} {sep : List α} {l : List (List α)}
    (h : x ∈ sep.intercalate l) : x ∈ sep ∨ ∃ xs ∈ l, x ∈ xs := by
  induction l with
  | nil => cases h
  | cons xs l ih =>
      cases l with
      | nil => exact .inr ⟨xs, List.mem_singleton.2 rfl, by simpa [List.intercalate] using h⟩
      | cons ys l =>
          have he : sep.intercalate (xs :: ys :: l) = xs ++ (sep ++ sep.intercalate (ys :: l)) := rfl
          rw [he, List.mem_append, List.mem_append] at h
          rcases h with h | h | h
          · exact .inr ⟨xs, List.mem_cons_self .., h⟩
          · exact .inl h
          · exact (ih h).imp id fun ⟨zs, hz, hx⟩ => ⟨zs, List.mem_cons_of_mem _ hz, hx⟩

theorem onToken_pieces {token : Option Token} (h : ∀ t ∈ token, OnToken Q t) :
    ∀ t ∈ Token.pieces token, OnToken Q t := by
  cases token with
  | none => simp [Token.pieces]
  | some token =>
      cases token with
      | text run =>
          intro t ht
          rcases mem_intercalate ht with ht | ⟨ts, hts, ht⟩
          · rw [List.mem_singleton.1 ht]
            trivial
          · obtain ⟨part, -, rfl⟩ := List.mem_map.1 hts
            split at ht
            · cases ht
            · rw [List.mem_singleton.1 ht]
              trivial
      | nul => simp [Token.pieces, OnToken]
      | startTag name as closing => simpa [Token.pieces] using h _ rfl
      | endTag name => simp [Token.pieces, OnToken]
      | comment => simp [Token.pieces, OnToken]

/-- Whether a property holds of the start tags that are read off texts of some kind, of which kind the
rest is again. -/
def OnTokens (Q : String → List Attribute → Prop) (T : Text → Prop) : Prop :=
  ∀ reading foreign t, T t → (∀ token ∈ (Token.next reading foreign t).1, OnToken Q token) ∧
    T (Token.next reading foreign t).2.1

theorem Sound.read {T : Text → Prop} (h : b.Sound (Within Q)) (h0 : Inserted Q)
    (hnext : OnTokens Q T) (rounds : Nat) {t : Text} (ht : T t) :
    (read rounds b t).Sound (Within Q) := by
  have hfold (ts : List Token) (hts : ∀ t ∈ ts, OnToken Q t) (b : Builder)
      (hb : b.Sound (Within Q)) : (ts.foldl Builder.place b).Sound (Within Q) := by
    induction ts generalizing b with
    | nil => exact hb
    | cons t ts ih =>
        obtain ⟨ht, hts⟩ := List.forall_mem_cons.1 hts
        exact ih hts _ (hb.place h0 ht)
  induction rounds generalizing b t with
  | zero => exact h
  | succ rounds ih =>
      cases t with
      | nil => exact h
      | cons c t =>
          let next := Token.next b.reading (b.adjustedCurrent.vocabulary != .html) (c :: t)
          have hb : Sound (Within Q) { b with reading := next.2.2 } := h
          obtain ⟨htoken, hrest⟩ := hnext b.reading (b.adjustedCurrent.vocabulary != .html) _ ht
          exact ih (t := next.2.1) (hfold _ (onToken_pieces htoken) _ hb) hrest

theorem Sound.finish (h : b.Sound (Within Q)) (h0 : Inserted Q) : b.finish.Sound (Within Q) := by
  rw [Builder.finish]
  split
  · exact h.placeTableText h0
  · exact h

end Gamebook.Html.Builder
