import Gamebook.Proofs.Html.Layout
import Gamebook.Proofs.Html.Sound

/-!
# Changing the attributes of media elements

While a tree is built from the elements of stories, nothing depends on the attributes of images and
videos: a change of these passes through every step.
-/

namespace Gamebook.Html

/-- A change of elements that keeps their names and leaves all but images and videos alone. -/
structure ChangesMedia (g : Element → Element) : Prop where
  keeps : KeepsName g
  fixed : ∀ e, e.name ∉ ["img", "video"] → g e = e

variable {g : Element → Element}

/-! ## Drafts -/

namespace Draft

/-- The content of a place with its element changed. -/
def Content.change (g : Element → Element) : Content → Content
  | .element e => .element (g e)
  | .text run => .text run
  | .nothing => .nothing

/-- A place with its element changed. -/
def Place.change (g : Element → Element) (p : Place) : Place :=
  { p with content := p.content.change g }

/-- A draft with every element changed. -/
def change (g : Element → Element) (d : Draft) : Draft := ⟨d.places.map (Place.change g)⟩

theorem place_change (g : Element → Element) (d : Draft) (n : Nat) :
    (d.change g).place n = (d.place n).change g := by
  rw [place, place, change, Array.getElem?_map]
  cases d.places[n]? with
  | none => rfl
  | some p => rfl

theorem element?_change (g : Element → Element) (d : Draft) (n : Nat) :
    (d.change g).element? n = (d.element? n).map g := by
  rw [element?, element?, place_change, Place.change]
  cases (d.place n).content with
  | element e => rfl
  | text run => rfl
  | nothing => rfl

theorem text?_change (g : Element → Element) (d : Draft) (n : Nat) :
    (d.change g).text? n = d.text? n := by
  rw [text?, text?, place_change, Place.change]
  cases (d.place n).content with
  | element e => rfl
  | text run => rfl
  | nothing => rfl

theorem modify_change (g : Element → Element) (d : Draft) (n : Nat) {f : Place → Place}
    (h : ∀ p, f (p.change g) = (f p).change g) :
    (d.change g).modify n f = (d.modify n f).change g := by
  refine congrArg Draft.mk (Array.ext_getElem? fun i => ?_)
  rw [Array.getElem?_modify, change, Array.getElem?_map, Array.getElem?_map, modify,
    Array.getElem?_modify]
  split
  · cases d.places[i]? with
    | none => rfl
    | some p => exact congrArg some (h p)
  · rfl

theorem allocate_change (g : Element → Element) (d : Draft) (c : Content) :
    (d.change g).allocate (c.change g) = ((d.allocate c).1.change g, (d.allocate c).2) := by
  rw [allocate, allocate, change, change, Array.size_map, Array.map_push]
  rfl

theorem above_change (g : Element → Element) (d : Draft) (n : Nat) :
    ((d.change g).place n).above = (d.place n).above := by
  rw [place_change, Place.change]

theorem below_change (g : Element → Element) (d : Draft) (n : Nat) :
    ((d.change g).place n).below = (d.place n).below := by
  rw [place_change, Place.change]

theorem modify_below_change (g : Element → Element) (d : Draft) (n : Nat) (f : List Nat → List Nat) :
    (d.change g).modify n (fun q => { q with below := f q.below }) =
      (d.modify n fun q => { q with below := f q.below }).change g :=
  modify_change g d n fun _ => rfl

theorem modify_above_change (g : Element → Element) (d : Draft) (n : Nat) (above : Option Nat) :
    (d.change g).modify n (fun q => { q with above := above }) =
      (d.modify n fun q => { q with above := above }).change g :=
  modify_change g d n fun _ => rfl

theorem detach_change (g : Element → Element) (d : Draft) (n : Nat) :
    (d.change g).detach n = (d.detach n).change g := by
  rw [detach, detach, above_change]
  cases (d.place n).above with
  | none => rfl
  | some p =>
      dsimp only
      rw [modify_below_change g d p (List.erase · n), modify_above_change]

theorem append_change (g : Element → Element) (d : Draft) (above n : Nat) :
    (d.change g).append above n = (d.append above n).change g := by
  rw [append, append, detach_change, modify_below_change g _ above (· ++ [n]), modify_above_change]

theorem insertBefore_change (g : Element → Element) (d : Draft) (sibling n : Nat) :
    (d.change g).insertBefore sibling n = (d.insertBefore sibling n).change g := by
  rw [insertBefore, insertBefore, detach_change, above_change]
  cases ((d.detach n).place sibling).above with
  | none => rfl
  | some p =>
      dsimp only
      rw [modify_below_change g _ p (insertInFront n sibling), modify_above_change]

theorem joinText_change (g : Element → Element) (d : Draft) (last : Option Nat)
    {put : Draft → Nat → Draft} (hput : ∀ d n, put (d.change g) n = (put d n).change g) (run : Text) :
    (d.change g).joinText last put run = (d.joinText last put run).change g := by
  have ht : (d.change g).text? = d.text? := funext (text?_change g d)
  unfold joinText
  rw [ht]
  split
  · exact modify_change g d _ fun _ => rfl
  · have ha := allocate_change g d (.text run)
    rw [Content.change] at ha
    rw [ha]
    exact hput _ _

theorem appendText_change (g : Element → Element) (d : Draft) (above : Nat) (run : Text) :
    (d.change g).appendText above run = (d.appendText above run).change g := by
  rw [appendText_eq_joinText, appendText_eq_joinText, below_change]
  exact joinText_change g d _ (fun d n => append_change g d above n) run

theorem previous?_change (g : Element → Element) (d : Draft) (sibling : Nat) :
    (d.change g).previous? sibling = d.previous? sibling := by
  rw [previous?, previous?, above_change]
  cases (d.place sibling).above with
  | none => rfl
  | some p =>
      dsimp only
      rw [below_change]

theorem insertTextBefore_change (g : Element → Element) (d : Draft) (sibling : Nat) (run : Text) :
    (d.change g).insertTextBefore sibling run = (d.insertTextBefore sibling run).change g := by
  rw [insertTextBefore_eq_joinText, insertTextBefore_eq_joinText, previous?_change]
  exact joinText_change g d _ (fun d n => insertBefore_change g d sibling n) run

theorem moveBelow_change (g : Element → Element) (d : Draft) (source target : Nat) :
    (d.change g).moveBelow source target = (d.moveBelow source target).change g := by
  have hfold (l : List Nat) (d : Draft) :
      l.foldl (fun d n => d.append target n) (d.change g) =
        (l.foldl (fun d n => d.append target n) d).change g := by
    induction l generalizing d with
    | nil => rfl
    | cons n l ih => rw [List.foldl_cons, List.foldl_cons, append_change, ih]
  rw [moveBelow, moveBelow, below_change, hfold]

theorem changeAll_eq_map (g : Element → Element) (ns : List Node) :
    Node.changeAll g ns = ns.map (Node.change g) := by
  induction ns with
  | nil => rfl
  | cons n ns ih => rw [Node.changeAll, ih, List.map_cons]

theorem nodesBelow_change (g : Element → Element) (d : Draft) (depth n : Nat) :
    (d.change g).nodesBelow depth n = Node.changeAll g (d.nodesBelow depth n) := by
  induction depth generalizing n with
  | zero => rfl
  | succ depth ih =>
      rw [nodesBelow, nodesBelow, below_change, changeAll_eq_map, List.map_filterMap]
      refine congrArg (List.filterMap · _) (funext fun m => ?_)
      rw [place_change, Place.change]
      cases (d.place m).content with
      | element e =>
          exact congrArg (fun ns => some (Node.element (g e) ns)) (ih m)
      | text run => rfl
      | nothing => rfl

theorem fragment_change (g : Element → Element) (d : Draft) (n : Nat) :
    (d.change g).fragment n = Node.changeAll g (d.fragment n) := by
  rw [fragment, fragment, nodesBelow_change, change, Array.size_map]

end Draft

/-! ## Names and scopes -/

section Names

variable (hg : ChangesMedia g)

include hg

theorem isHtml_change (e : Element) (name : String) : (g e).isHtml name = e.isHtml name := by
  rw [Element.isHtml, Element.isHtml, (hg.keeps e).1, (hg.keeps e).2]

theorem isHtmlIn_change (e : Element) (names : List String) :
    (g e).isHtmlIn names = e.isHtmlIn names :=
  hg.keeps.isHtmlIn e names

theorem stopsAt_change (s : Category.Scope) (e : Element) : s.stopsAt (g e) = s.stopsAt e := by
  have hm : Category.isMathText (g e) = Category.isMathText e := by
    rw [Category.isMathText, Category.isMathText, (hg.keeps e).1, (hg.keeps e).2]
  have hs : Category.isSvgText (g e) = Category.isSvgText e := by
    rw [Category.isSvgText, Category.isSvgText, (hg.keeps e).1, (hg.keeps e).2]
  cases s with
  | usual => simp only [Category.Scope.stopsAt, isHtmlIn_change hg, hm, hs]
  | listItem => simp only [Category.Scope.stopsAt, isHtmlIn_change hg, hm, hs]
  | button => simp only [Category.Scope.stopsAt, isHtmlIn_change hg, isHtml_change hg, hm, hs]
  | table => simp only [Category.Scope.stopsAt, isHtmlIn_change hg]

theorem change_html (name : String) (as : List Attribute) :
    g { name := name, attributes := as } =
      { name := name, attributes := (g { name := name, attributes := as }).attributes } := by
  have hk := hg.keeps { name := name, attributes := as }
  cases he : g { name := name, attributes := as } with
  | mk v n bs =>
      rw [he] at hk
      have hn : n = name := hk.1
      have hv : v = .html := hk.2
      rw [hn, hv]

theorem change_attributes {name : String} (hn : name ∉ ["img", "video"]) (as : List Attribute) :
    (g { name := name, attributes := as }).attributes = as := by
  rw [hg.fixed _ hn]

end Names

/-! ## The state of tree building -/

namespace Builder

/-- A formatting element with its attributes changed. -/
def Formatting.change (g : Element → Element) : Formatting → Formatting
  | .border => .border
  | .element n name as => .element n name (g { name := name, attributes := as }).attributes

/-- A state with every element changed. -/
def change (g : Element → Element) (b : Builder) : Builder :=
  { b with draft := b.draft.change g, formatting := b.formatting.map (Formatting.change g) }

theorem isAt_change (g : Element → Element) (n : Nat) (f : Formatting) :
    Formatting.isAt n (Formatting.change g f) = Formatting.isAt n f := by
  cases f with
  | border => rfl
  | element m name as => rfl

section Steps

variable (hg : ChangesMedia g) (b : Builder)

include hg

theorem element_change (n : Nat) : (b.change g).element n = g (b.element n) := by
  have he : (b.change g).draft.element? n = (b.draft.element? n).map g := Draft.element?_change g _ n
  have hd : g { name := "" } = { name := "" } := hg.fixed _ (by decide)
  rw [element, element, he]
  cases b.draft.element? n with
  | none => exact hd.symm
  | some e => rfl

theorem findsIn_change (s : Category.Scope) (p : Nat → Bool) (ns : List Nat) :
    (b.change g).findsIn s p ns = b.findsIn s p ns := by
  induction ns with
  | nil => rfl
  | cons n ns ih => rw [findsIn, findsIn, ih, element_change hg, stopsAt_change hg]

theorem inScope_change (s : Category.Scope) (p : Nat → Bool) :
    (b.change g).inScope s p = b.inScope s p :=
  findsIn_change hg b s p b.opened

theorem isHtml_element (n : Nat) (name : String) :
    ((b.change g).element n).isHtml name = (b.element n).isHtml name := by
  rw [element_change hg, isHtml_change hg]

theorem isHtmlIn_element (n : Nat) (names : List String) :
    ((b.change g).element n).isHtmlIn names = (b.element n).isHtmlIn names := by
  rw [element_change hg, isHtmlIn_change hg]

theorem nameInScope_change (s : Category.Scope) (name : String) :
    (b.change g).nameInScope s name = b.nameInScope s name := by
  rw [nameInScope, nameInScope, inScope_change hg]
  simp only [isHtml_element hg]

theorem isCurrent_change (name : String) : (b.change g).isCurrent name = b.isCurrent name :=
  isHtml_element hg b b.currentPlace name

theorem popUntilName_change (name : String) :
    (b.change g).popUntilName name = (b.popUntilName name).change g := by
  rw [popUntilName, popUntilName, popUntil, popUntil]
  simp only [isHtml_element hg]
  rfl

theorem closeImplied_change (names : List String) :
    (b.change g).closeImplied names = (b.closeImplied names).change g := by
  rw [closeImplied, closeImplied]
  simp only [isHtmlIn_element hg]
  rfl

theorem closeParagraph_change : (b.change g).closeParagraph = b.closeParagraph.change g := by
  rw [closeParagraph, closeParagraph, closeImpliedExcept, closeImpliedExcept,
    closeImplied_change hg, popUntilName_change hg]

theorem closeParagraphInScope_change :
    (b.change g).closeParagraphInScope = b.closeParagraphInScope.change g := by
  rw [closeParagraphInScope, closeParagraphInScope, nameInScope_change hg, closeParagraph_change hg]
  split
  · rfl
  · rfl

/-! ## Putting elements and text in place -/

theorem fosterSpot_change (ns : List Nat) : (b.change g).fosterSpot ns = b.fosterSpot ns := by
  induction ns with
  | nil => rfl
  | cons n ns ih =>
      have ha : ((b.change g).draft.place n).above = (b.draft.place n).above :=
        Draft.above_change g _ n
      rw [fosterSpot, fosterSpot]
      simp only [isHtml_element hg, ha, ih]

theorem spotIn_change (target : Nat) : (b.change g).spotIn target = b.spotIn target := by
  rw [spotIn, spotIn]
  simp only [isHtml_element hg, isHtmlIn_element hg, fosterSpot_change hg]
  rfl

omit hg in
theorem putAt_change (spot : Spot) (n : Nat) :
    (b.change g).putAt spot n = (b.putAt spot n).change g := by
  cases spot with
  | last p => exact congrArg (fun d => { b.change g with draft := d }) (Draft.append_change g _ p n)
  | before table =>
      exact congrArg (fun d => { b.change g with draft := d }) (Draft.insertBefore_change g _ table n)

theorem addText_change (run : Text) : (b.change g).addText run = (b.addText run).change g := by
  have hs : (b.change g).spotIn (b.change g).currentPlace = b.spotIn b.currentPlace :=
    spotIn_change hg b b.currentPlace
  rw [addText, addText, hs]
  cases b.spotIn b.currentPlace with
  | last p =>
      exact congrArg (fun d => { b.change g with draft := d }) (Draft.appendText_change g _ p run)
  | before table =>
      exact congrArg (fun d => { b.change g with draft := d })
        (Draft.insertTextBefore_change g _ table run)

theorem insertClosed_change (e : Element) :
    (b.change g).insertClosed (g e) = ((b.insertClosed e).1.change g, (b.insertClosed e).2) := by
  have ha : (b.change g).draft.allocate (.element (g e)) =
      ((b.draft.allocate (.element e)).1.change g, (b.draft.allocate (.element e)).2) :=
    Draft.allocate_change g b.draft (.element e)
  have hs : (b.change g).spotIn (b.change g).currentPlace = b.spotIn b.currentPlace :=
    spotIn_change hg b b.currentPlace
  rw [insertClosed, insertClosed, ha, hs]
  exact congrArg (·, (b.draft.allocate (.element e)).2)
    (putAt_change { b with draft := (b.draft.allocate (.element e)).1 } _ _)

theorem insertAt_change (e : Element) :
    (b.change g).insertAt (g e) = ((b.insertAt e).1.change g, (b.insertAt e).2) := by
  rw [insertAt, insertAt, insertClosed_change hg]
  rfl

theorem insert_change (name : String) (as : List Attribute) :
    (b.change g).insert name (g { name := name, attributes := as }).attributes =
      (b.insert name as).change g := by
  rw [insert, insert, ← change_html hg, insertAt_change hg]

theorem insertVoid_change (name : String) (as : List Attribute) :
    (b.change g).insertVoid name (g { name := name, attributes := as }).attributes =
      (b.insertVoid name as).change g := by
  rw [insertVoid, insertVoid, ← change_html hg, insertClosed_change hg]

end Steps

end Builder

end Gamebook.Html
