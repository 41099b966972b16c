import Gamebook.Proofs.Html.Change

/-!
# Formatting elements and changes of media elements

Opening formatting elements again and closing them out of order copies names and attributes. None of
these elements is an image or a video, so a change of those passes through.
-/

namespace Gamebook.Html.Builder

variable {g : Element → Element} (hg : ChangesMedia g) (b : Builder)

include hg

/-! ## Formatting elements -/

theorem reopen_change (fs done : List Formatting) :
    (b.change g).reopen (fs.map (Formatting.change g)) (done.map (Formatting.change g)) =
      ((b.reopen fs done).1.change g, (b.reopen fs done).2.map (Formatting.change g)) := by
  induction fs generalizing b done with
  | nil => rfl
  | cons f fs ih =>
      cases f with
      | border => exact ih b (.border :: done)
      | element n name as =>
          rw [List.map_cons, Formatting.change, reopen, reopen, ← change_html hg,
            insertAt_change hg]
          exact ih _ (.element (b.insertAt { name := name, attributes := as }).2 name as :: done)

omit hg in
theorem isSettled_change (f : Formatting) :
    (b.change g).isSettled (Formatting.change g f) = b.isSettled f := by
  cases f with
  | border => rfl
  | element n name as => rfl

theorem reconstruct_change : (b.change g).reconstruct = b.reconstruct.change g := by
  have hu : (b.change g).formatting.takeWhile (fun f => !(b.change g).isSettled f) =
      (b.formatting.takeWhile fun f => !b.isSettled f).map (Formatting.change g) := by
    have hf : (b.change g).formatting = b.formatting.map (Formatting.change g) := rfl
    rw [hf, List.takeWhile_map]
    refine congrArg (List.map _) (congrArg (List.takeWhile · b.formatting) (funext fun f => ?_))
    exact congrArg (!·) (isSettled_change b f)
  have hr := reopen_change hg b (b.formatting.takeWhile fun f => !b.isSettled f).reverse []
  have hd (n : Nat) : (b.change g).formatting.drop n = (b.formatting.drop n).map
      (Formatting.change g) := List.map_drop.symm
  rw [List.map_nil] at hr
  rw [reconstruct, reconstruct, hu]
  simp only [← List.map_reverse, List.length_map, hr, hd, ← List.map_append]
  rfl

omit hg in
theorem recent_change : (b.change g).recent = b.recent.map (Formatting.change g) := by
  have hf : (b.change g).formatting = b.formatting.map (Formatting.change g) := rfl
  rw [recent, recent, hf, List.takeWhile_map]
  refine congrArg (List.map _) (congrArg (List.takeWhile · b.formatting) (funext fun f => ?_))
  cases f with
  | border => rfl
  | element n name as => rfl

theorem matches_change {name : String} (hn : name ∉ ["img", "video"]) (as : List Attribute)
    (f : Formatting) :
    Formatting.matches name as (Formatting.change g f) = Formatting.matches name as f := by
  cases f with
  | border => rfl
  | element n name' bs =>
      rw [Formatting.change, Formatting.matches, Formatting.matches]
      by_cases hname : name = name'
      · subst hname
        rw [change_attributes hg hn]
      · have hb : (name == name') = false := by simpa using hname
        rw [hb, Bool.false_and, Bool.false_and]

omit hg in
theorem dropLastWhere_map {α β : Type} (f : α → β) (p : β → Bool) (l : List α) :
    dropLastWhere p (l.map f) = (dropLastWhere (fun x => p (f x)) l).map f := by
  rw [dropLastWhere, dropLastWhere, ← List.map_reverse, List.eraseP_map, List.map_reverse]
  rfl

theorem insertFormatting_change {name : String} (hn : name ∉ ["img", "video"])
    (as : List Attribute) :
    (b.change g).insertFormatting name as = (b.insertFormatting name as).change g := by
  have he : g { name := name, attributes := as } = { name := name, attributes := as } :=
    hg.fixed _ hn
  have hi := insertAt_change hg b { name := name, attributes := as }
  rw [he] at hi
  have hm : (fun f => Formatting.matches name as (Formatting.change g f)) =
      Formatting.matches name as := funext (matches_change hg hn as)
  have hd (n : Nat) : (b.change g).formatting.drop n = (b.formatting.drop n).map
      (Formatting.change g) := List.map_drop.symm
  have hc : (b.recent.map (Formatting.change g)).countP (Formatting.matches name as) =
      b.recent.countP (Formatting.matches name as) := by
    rw [List.countP_map]
    exact congrArg (List.countP · b.recent) hm
  have hk : dropLastWhere (Formatting.matches name as) (b.recent.map (Formatting.change g)) =
      (dropLastWhere (Formatting.matches name as) b.recent).map (Formatting.change g) := by
    rw [dropLastWhere_map, hm]
  rw [insertFormatting, insertFormatting, recent_change]
  simp only [hc, hk, hi, hd, List.length_map]
  split
  · simp only [change, List.map_cons, List.map_append, Formatting.change, change_attributes hg hn]
  · simp only [change, List.map_cons, List.map_append, Formatting.change, change_attributes hg hn]

/-! ## Closing formatting elements -/

theorem closeOther_change (name : String) :
    (b.change g).closeOther name = (b.closeOther name).change g := by
  rw [closeOther, closeOther]
  simp only [isHtml_element hg, isHtmlIn_element hg]
  have ho : (b.change g).opened = b.opened := rfl
  rw [ho]
  split
  · split
    · rfl
    · rfl
  · rfl

/-- A way outwards with every element changed. -/
def Climb.change (g : Element → Element) (c : Climb) : Climb :=
  { c with builder := c.builder.change g }

omit hg in
theorem find?_change (n : Nat) :
    ((b.change g).formatting.find? fun f => Formatting.isAt n f) =
      (b.formatting.find? fun f => Formatting.isAt n f).map (Formatting.change g) := by
  have hf : (b.change g).formatting = b.formatting.map (Formatting.change g) := rfl
  rw [hf, List.find?_map]
  refine congrArg (Option.map _) (congrArg (List.find? · b.formatting) (funext fun f => ?_))
  exact isAt_change g n f

omit hg in
theorem forget_change (n : Nat) : (b.change g).forget n = (b.forget n).change g := by
  have hf : (b.change g).formatting = b.formatting.map (Formatting.change g) := rfl
  have hp : (fun f => !Formatting.isAt n f) ∘ Formatting.change g =
      fun f => !Formatting.isAt n f := funext fun f => congrArg (!·) (isAt_change g n f)
  rw [forget, forget, hf, List.filter_map, hp]
  rfl

omit hg in
/-- A formatting element is replaced where it hangs. -/
theorem map_isAt_change (n m : Nat) (name : String) (as : List Attribute) (fs : List Formatting) :
    (fs.map (Formatting.change g)).map (fun f => if Formatting.isAt n f then
        .element m name (g { name := name, attributes := as }).attributes else f) =
      (fs.map fun f => if Formatting.isAt n f then .element m name as else f).map
        (Formatting.change g) := by
  rw [List.map_map, List.map_map]
  refine List.map_congr_left fun f _ => ?_
  rw [Function.comp_apply, Function.comp_apply, isAt_change]
  split
  · rfl
  · rfl

theorem climb_change (block rounds : Nat) (c : Climb) (ns : List Nat) :
    climb block rounds (c.change g) ns = (climb block rounds c ns).change g := by
  induction ns generalizing rounds c with
  | nil => rfl
  | cons n ns ih =>
      have hb : (Climb.change g c).builder = c.builder.change g := rfl
      rw [climb, climb, hb, find?_change]
      cases c.builder.formatting.find? fun f => Formatting.isAt n f with
      | none => exact ih _ { c with builder := c.builder.removeOpen n }
      | some f =>
          cases f with
          | border => exact ih _ { c with builder := c.builder.removeOpen n }
          | element m name as =>
              have ha := Draft.allocate_change g c.builder.draft
                (.element { name := name, attributes := as })
              rw [Draft.Content.change, change_html hg] at ha
              have hd : (c.builder.change g).draft = c.builder.draft.change g := rfl
              have hf : (c.builder.change g).formatting =
                c.builder.formatting.map (Formatting.change g) := rfl
              dsimp only [Option.map_some, Formatting.change]
              split
              · rw [forget_change]
                exact ih _ { c with builder := (c.builder.forget n).removeOpen n }
              · rw [hd, ha, hf, map_isAt_change]
                dsimp only
                rw [Draft.append_change]
                let a := c.builder.draft.allocate (.element { name := name, attributes := as })
                exact ih (rounds + 1)
                  { builder := { c.builder with
                      draft := a.1.append a.2 c.moving
                      opened := c.builder.opened.map fun k => if k = n then a.2 else k
                      formatting := c.builder.formatting.map fun f =>
                        if Formatting.isAt n f then .element a.2 name as else f }
                    moving := a.2
                    behind := if c.moving = block then some a.2 else c.behind }

omit hg in
theorem insertBehind_change (new : Formatting) (n : Nat) (fs : List Formatting) :
    insertBehind (Formatting.change g new) n (fs.map (Formatting.change g)) =
      (insertBehind new n fs).map (Formatting.change g) := by
  induction fs with
  | nil => rfl
  | cons f fs ih =>
      rw [List.map_cons, insertBehind, insertBehind, isAt_change, ih]
      split
      · rfl
      · rfl

theorem adopt_change (node : Nat) (name : String) (as : List Attribute) (block : Nat)
    (between outside : List Nat) :
    (b.change g).adopt node name (g { name := name, attributes := as }).attributes block between
        outside =
      (b.adopt node name as block between outside).change g := by
  have hc : climb block 1 ⟨b.change g, block, none⟩ between =
      (climb block 1 ⟨b, block, none⟩ between).change g := climb_change hg block 1 ⟨b, block, none⟩ _
  rw [adopt, adopt, hc]
  generalize climb block 1 ⟨b, block, none⟩ between = c
  have hb : (Climb.change g c).builder = c.builder.change g := rfl
  have hd : { c.builder.change g with draft := (c.builder.change g).draft.detach c.moving } =
      change g { c.builder with draft := c.builder.draft.detach c.moving } :=
    congrArg (fun d => { c.builder.change g with draft := d }) (Draft.detach_change g _ c.moving)
  have hm : (Climb.change g c).moving = c.moving := rfl
  have hbehind : (Climb.change g c).behind = c.behind := rfl
  rw [hb, hm, hbehind, hd]
  simp only [spotIn_change hg, putAt_change]
  generalize putAt _ _ _ = p
  have ha : (p.change g).draft.allocate (.element { name := name, attributes := (g { name := name, attributes := as }).attributes }) =
      ((p.draft.allocate (.element { name := name, attributes := as })).1.change g,
        (p.draft.allocate (.element { name := name, attributes := as })).2) := by
    rw [← change_html hg]
    exact Draft.allocate_change g p.draft (.element { name := name, attributes := as })
  have hf : (p.change g).formatting = p.formatting.map (Formatting.change g) := rfl
  have ho : (p.change g).opened = p.opened := rfl
  rw [ha, hf]
  generalize p.draft.allocate (.element { name := name, attributes := as }) = a
  obtain ⟨d, m⟩ := a
  dsimp only
  rw [Draft.moveBelow_change, Draft.append_change]
  cases c.behind with
  | none =>
      dsimp only
      rw [map_isAt_change]
      rfl
  | some k =>
      have hi := insertBehind_change (g := g) (.element m name as) k p.formatting
      have hfilter (fs : List Formatting) :
          (fs.map (Formatting.change g)).filter (fun f => !Formatting.isAt node f) =
            (fs.filter fun f => !Formatting.isAt node f).map (Formatting.change g) := by
        rw [List.filter_map]
        refine congrArg (List.map _) (List.filter_congr fun f _ => ?_)
        exact congrArg (!·) (isAt_change g node f)
      dsimp only
      rw [Formatting.change] at hi
      rw [hi, hfilter]
      rfl

theorem closeFormattingIn_change (rounds : Nat) {name : String} (hn : name ∉ ["img", "video"]) :
    closeFormattingIn rounds (b.change g) name = (closeFormattingIn rounds b name).change g := by
  induction rounds generalizing b with
  | zero => rfl
  | succ rounds ih =>
      have hfind (p : Formatting → Bool) (hp : ∀ f, p (Formatting.change g f) = p f) :
          (b.change g).recent.find? p = (b.recent.find? p).map (Formatting.change g) := by
        rw [recent_change, List.find?_map]
        exact congrArg (fun q => (b.recent.find? q).map (Formatting.change g)) (funext hp)
      have ho : (b.change g).opened = b.opened := rfl
      rw [closeFormattingIn, closeFormattingIn, hfind _ fun f => by cases f <;> rfl]
      cases hf : b.recent.find? _ with
      | none => exact closeOther_change hg b name
      | some f =>
          cases f with
          | border => exact closeOther_change hg b name
          | element node name' as =>
              have hname : name' = name := by simpa using List.find?_some hf
              subst hname
              simp only [Option.map_some, Formatting.change, ho, inScope_change hg, forget_change,
                isHtmlIn_element hg, change_attributes hg hn]
              split
              · rfl
              · split
                · rfl
                · split
                  · rfl
                  · next block _ =>
                      have ha := adopt_change hg b node name' as block
                      simp only [change_attributes hg hn] at ha
                      rw [ha, ih]

theorem closeFormatting_change {name : String} (hn : name ∉ ["img", "video"]) :
    (b.change g).closeFormatting name = (b.closeFormatting name).change g := by
  have hp : (b.change g).currentPlace = b.currentPlace := rfl
  have hf : (b.change g).formatting = b.formatting.map (Formatting.change g) := rfl
  have ha : (b.formatting.map (Formatting.change g)).any
      (fun f => Formatting.isAt b.currentPlace f) =
      b.formatting.any fun f => Formatting.isAt b.currentPlace f := by
    rw [List.any_map]
    exact congrArg (List.any b.formatting) (funext fun f => isAt_change g b.currentPlace f)
  rw [closeFormatting, closeFormatting, isCurrent_change hg, hp, hf, ha,
    closeFormattingIn_change hg b 8 hn]
  split
  · rfl
  · rfl

end Gamebook.Html.Builder
