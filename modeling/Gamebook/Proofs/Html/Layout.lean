import Gamebook.Html.AllowList
import Gamebook.Proofs.Html.Escape

/-!
# Sanitized fragments as tags and text

The written form of a sanitized fragment is a row of tags with escaped text in front, between and
behind them. No bracket stands in the text or inside a tag.
-/

namespace Gamebook.Html

/-- An element as a list for stories leaves it: one of the list's, with attributes of some names,
each at most once. -/
structure Element.Sanitized (names : List String) (e : Element) : Prop where
  html : e.vocabulary = .html
  tag : e.name ∈ AllowList.story.tags
  allowed : ∀ a ∈ e.attributes, a.group = "" ∧ a.name ∈ names
  distinct : (e.attributes.map (·.name)).Nodup

mutual
/-- Whether a property holds of every element of a node. -/
def Node.Every (p : Element → Prop) : Node → Prop
  | .text _ => True
  | .element e children => p e ∧ Node.EveryOf p children
/-- Whether a property holds of every element of some nodes. -/
def Node.EveryOf (p : Element → Prop) : List Node → Prop
  | [] => True
  | n :: ns => n.Every p ∧ Node.EveryOf p ns
end

/-- Whether a list for stories may leave some nodes. -/
def Sanitized (names : List String) (ns : List Node) : Prop :=
  Node.EveryOf (Element.Sanitized names) ns

mutual
/-- A node with every element changed. -/
def Node.change (f : Element → Element) : Node → Node
  | .text run => .text run
  | .element e children => .element (f e) (Node.changeAll f children)
/-- Nodes with every element changed. -/
def Node.changeAll (f : Element → Element) : List Node → List Node
  | [] => []
  | n :: ns => n.change f :: Node.changeAll f ns
end

mutual
/-- The elements of a node whose start tags are written, in their order. -/
def Node.started : Node → List Element
  | .text _ => []
  | .element e children =>
    if e.isHtmlIn Category.voidElements then [e] else e :: Node.startedOf children
/-- The elements of some nodes whose start tags are written. -/
def Node.startedOf : List Node → List Element
  | [] => []
  | n :: ns => n.started ++ Node.startedOf ns
end

/-! ## Tags -/

/-- A tag. -/
inductive Tag where
  | start (e : Element)
  | stop (name : String)

namespace Tag

/-- A tag in its written form. -/
def write : Tag → Text
  | start e => writeStart e
  | stop name => '<' :: '/' :: name.toList ++ ['>']

/-- The element that a tag starts. -/
def element? : Tag → Option Element
  | start e => some e
  | stop _ => none

/-- A tag with its element changed. -/
def change (f : Element → Element) : Tag → Tag
  | start e => start (f e)
  | stop name => stop name

/-- Whether a sanitized fragment may have a tag. -/
def Sanitized (names : List String) : Tag → Prop
  | start e => e.Sanitized names
  | stop name => name ∈ AllowList.story.tags

end Tag

/-- A row of tags: the text in front of it, and each tag with the text behind it. -/
structure Layout where
  front : Text
  tags : List (Tag × Text)

namespace Layout

/-- The layout without tags and text. -/
def empty : Layout := ⟨[], []⟩

/-- Text in front of a layout. -/
def addText (run : Text) (l : Layout) : Layout := ⟨run ++ l.front, l.tags⟩

/-- A tag in front of a layout. -/
def addTag (t : Tag) (l : Layout) : Layout := ⟨[], (t, l.front) :: l.tags⟩

/-- Tags in a written form of some kind, with the text behind each. -/
def writeTags (write : Tag → Text) : List (Tag × Text) → Text
  | [] => []
  | (t, run) :: ts => write t ++ (escape false run ++ writeTags write ts)

/-- A layout whose tags have a written form of some kind. -/
def writeWith (write : Tag → Text) (l : Layout) : Text :=
  escape false l.front ++ writeTags write l.tags

/-- A layout with every tag changed. -/
def changeTags (f : Tag → Tag) (l : Layout) : Layout :=
  ⟨l.front, l.tags.map fun (t, run) => (f t, run)⟩

/-- A layout with every element changed. -/
def change (f : Element → Element) (l : Layout) : Layout := l.changeTags (Tag.change f)

/-- The elements that tags start. -/
def elements (l : Layout) : List Element := l.tags.filterMap fun (t, _) => t.element?

end Layout

mutual
/-- The layout of a node in front of another. -/
def Node.layout (behind : Layout) : Node → Layout
  | .text run => behind.addText run
  | .element e children =>
    if e.isHtmlIn Category.voidElements then behind.addTag (.start e)
    else (Node.layoutOf (behind.addTag (.stop e.name)) children).addTag (.start e)
/-- The layout of some nodes in front of another. -/
def Node.layoutOf (behind : Layout) : List Node → Layout
  | [] => behind
  | n :: ns => n.layout (Node.layoutOf behind ns)
end

/-! ## The written form -/

theorem Element.Sanitized.not_raw {names : List String} {e : Element} (h : e.Sanitized names) :
    e.isHtmlIn Category.rawText = false := by
  have hall : ∀ name ∈ AllowList.story.tags, Category.rawText.contains name = false := by decide
  rw [isHtmlIn, hall _ h.tag, Bool.and_false]

theorem Layout.writeWith_addText (write : Tag → Text) (run : Text) (l : Layout) :
    (l.addText run).writeWith write = escape false run ++ l.writeWith write := by
  rw [writeWith, addText, escape_append, List.append_assoc]
  rfl

theorem Layout.writeWith_addTag (write : Tag → Text) (t : Tag) (l : Layout) :
    (l.addTag t).writeWith write = write t ++ l.writeWith write := rfl

mutual
theorem writeNode_append {names : List String} (behind : Layout) : (n : Node) →
    n.Every (Element.Sanitized names) →
    writeNode false n ++ behind.writeWith Tag.write = (n.layout behind).writeWith Tag.write
  | .text run, _ => by
      rw [writeNode, Node.layout, Layout.writeWith_addText]
      rfl
  | .element e children, h => by
      rw [writeNode, Node.layout]
      by_cases hv : e.isHtmlIn Category.voidElements = true
      · rw [if_pos hv, if_pos hv, Layout.writeWith_addTag]
        rfl
      · have ih := writeNodes_append (behind.addTag (.stop e.name)) children h.2
        rw [if_neg hv, if_neg hv, Layout.writeWith_addTag, ← ih, Layout.writeWith_addTag,
          h.1.not_raw, List.append_assoc, List.append_assoc]
        rfl
theorem writeNodes_append {names : List String} (behind : Layout) : (ns : List Node) →
    Node.EveryOf (Element.Sanitized names) ns →
    writeNodes false ns ++ behind.writeWith Tag.write = (Node.layoutOf behind ns).writeWith Tag.write
  | [], _ => rfl
  | n :: ns, h => by
      have ih := writeNodes_append behind ns h.2
      rw [writeNodes, List.append_assoc, ih, Node.layoutOf]
      exact writeNode_append (Node.layoutOf behind ns) n h.1
end

theorem write_eq {names : List String} {ns : List Node} (h : Sanitized names ns) :
    write ns = (Node.layoutOf .empty ns).writeWith Tag.write := by
  have hw := writeNodes_append .empty ns h
  rwa [Layout.writeWith, Layout.empty, escape_nil, Layout.writeTags, List.append_nil,
    List.append_nil] at hw

/-! ## What is kept of nodes in their layout -/

/-- A change that keeps names and vocabularies. -/
def KeepsName (f : Element → Element) : Prop :=
  ∀ e, (f e).name = e.name ∧ (f e).vocabulary = e.vocabulary

theorem KeepsName.isHtmlIn {f : Element → Element} (hf : KeepsName f) (e : Element)
    (names : List String) : (f e).isHtmlIn names = e.isHtmlIn names := by
  rw [Element.isHtmlIn, Element.isHtmlIn, (hf e).1, (hf e).2]

mutual
theorem layout_change {f : Element → Element} (hf : KeepsName f) (behind : Layout) : (n : Node) →
    (n.change f).layout (behind.change f) = (n.layout behind).change f
  | .text run => rfl
  | .element e children => by
      have ih := layoutOf_changeAll hf (behind.addTag (.stop e.name)) children
      rw [Node.change, Node.layout, Node.layout, hf.isHtmlIn, (hf e).1]
      by_cases hv : e.isHtmlIn Category.voidElements = true
      · rw [if_pos hv, if_pos hv]
        rfl
      · rw [if_neg hv, if_neg hv]
        exact congrArg (Layout.addTag (.start (f e))) ih
theorem layoutOf_changeAll {f : Element → Element} (hf : KeepsName f) (behind : Layout) :
    (ns : List Node) →
    Node.layoutOf (behind.change f) (Node.changeAll f ns) = (Node.layoutOf behind ns).change f
  | [] => rfl
  | n :: ns => by
      rw [Node.changeAll, Node.layoutOf, layoutOf_changeAll hf behind ns]
      exact layout_change hf (Node.layoutOf behind ns) n
end

mutual
theorem elements_layout (behind : Layout) : (n : Node) →
    (n.layout behind).elements = n.started ++ behind.elements
  | .text run => rfl
  | .element e children => by
      have ih := elements_layoutOf (behind.addTag (.stop e.name)) children
      rw [Node.layout, Node.started]
      by_cases hv : e.isHtmlIn Category.voidElements = true
      · rw [if_pos hv, if_pos hv]
        rfl
      · rw [if_neg hv, if_neg hv]
        exact congrArg (e :: ·) ih
theorem elements_layoutOf (behind : Layout) : (ns : List Node) →
    (Node.layoutOf behind ns).elements = Node.startedOf ns ++ behind.elements
  | [] => rfl
  | n :: ns => by
      rw [Node.layoutOf, elements_layout, elements_layoutOf behind ns, Node.startedOf,
        List.append_assoc]
end

theorem elements_eq (ns : List Node) :
    (Node.layoutOf .empty ns).elements = Node.startedOf ns := by
  rw [elements_layoutOf]
  exact List.append_nil _

/-! ## Sanitized fragments -/

mutual
theorem every_change {p q : Element → Prop} {f : Element → Element} (hf : ∀ e, p e → q (f e)) :
    (n : Node) → n.Every p → (n.change f).Every q
  | .text _, _ => trivial
  | .element e children, h => ⟨hf e h.1, everyOf_changeAll hf children h.2⟩
theorem everyOf_changeAll {p q : Element → Prop} {f : Element → Element} (hf : ∀ e, p e → q (f e)) :
    (ns : List Node) → Node.EveryOf p ns → Node.EveryOf q (Node.changeAll f ns)
  | [], _ => trivial
  | n :: ns, h => ⟨every_change hf n h.1, everyOf_changeAll hf ns h.2⟩
end

/-- Whether a sanitized fragment may have all tags of a layout. -/
def Layout.Sanitized (names : List String) (l : Layout) : Prop :=
  ∀ e ∈ l.tags, e.1.Sanitized names

theorem Layout.sanitized_empty (names : List String) : Layout.empty.Sanitized names :=
  fun t ht => by cases ht

theorem Layout.Sanitized.addTag {names : List String} {l : Layout} (h : l.Sanitized names) {t : Tag}
    (ht : t.Sanitized names) : (l.addTag t).Sanitized names :=
  List.forall_mem_cons.2 ⟨ht, h⟩

mutual
theorem sanitized_layout {names : List String} {behind : Layout} (hb : behind.Sanitized names) :
    (n : Node) → n.Every (Element.Sanitized names) → (n.layout behind).Sanitized names
  | .text run, _ => hb
  | .element e children, h => by
      rw [Node.layout]
      by_cases hv : e.isHtmlIn Category.voidElements = true
      · rw [if_pos hv]
        exact hb.addTag h.1
      · rw [if_neg hv]
        exact (sanitized_layoutOf (hb.addTag (t := .stop e.name) h.1.tag) children h.2).addTag h.1
theorem sanitized_layoutOf {names : List String} {behind : Layout} (hb : behind.Sanitized names) :
    (ns : List Node) → Node.EveryOf (Element.Sanitized names) ns →
    (Node.layoutOf behind ns).Sanitized names
  | [], _ => hb
  | n :: ns, h => sanitized_layout (sanitized_layoutOf hb ns h.2) n h.1
end

end Gamebook.Html
