import Gamebook.Html.Adoption
import Gamebook.Proofs.Html.Draft

/-!
# What holds of every element while a tree is built

A property that holds of the elements that are inserted holds of every element of the tree: opening
formatting elements again, and closing them out of order, only adds elements with names and attributes
of earlier ones.
-/

namespace Gamebook.Html.Builder

variable {P : Element → Prop} {b : Builder}

/-- Whether a property holds of the elements that formatting elements are opened again as. -/
def SoundFormatting (P : Element → Prop) (fs : List Formatting) : Prop :=
  ∀ n name as, .element n name as ∈ fs → P { name := name, attributes := as }

/-- Whether a property holds of every element of the tree under construction but the outermost one, and
of every element that may be opened again. -/
def Sound (P : Element → Prop) (b : Builder) : Prop :=
  b.draft.Sound P ∧ SoundFormatting P b.formatting

theorem sound_initial : Sound P initial := by
  refine ⟨⟨fun n e hn he => ?_, rfl, fun n => ?_⟩, fun n name as hm => by cases hm⟩
  · match n with
    | 0 => exact absurd rfl hn
    | 1 => cases he
    | n + 2 => cases he
  · match n with
    | 0 => exact List.not_mem_nil
    | 1 => exact List.not_mem_nil
    | n + 2 => exact List.not_mem_nil

@[grind ←] theorem Sound.draft (h : b.Sound P) : b.draft.Sound P := h.1

@[grind ←] theorem Sound.formatting (h : b.Sound P) : SoundFormatting P b.formatting := h.2

theorem Sound.ite {c : Prop} [Decidable c] {b b' : Builder} (h : b.Sound P)
    (h' : b'.Sound P) : (if c then b else b').Sound P := by
  split
  · exact h
  · exact h'

theorem SoundFormatting.of_subset {fs gs : List Formatting} (h : SoundFormatting P fs)
    (hs : gs ⊆ fs) : SoundFormatting P gs :=
  fun n name as hm => h n name as (hs hm)

theorem SoundFormatting.cons {fs : List Formatting} (h : SoundFormatting P fs) {n : Nat}
    {name : String} {as : List Attribute} (hp : P { name := name, attributes := as }) :
    SoundFormatting P (.element n name as :: fs) := by
  intro m name' as' hm
  rcases List.mem_cons.1 hm with he | hm
  · cases he
    exact hp
  · exact h m name' as' hm

theorem SoundFormatting.append {fs gs : List Formatting} (hf : SoundFormatting P fs)
    (hg : SoundFormatting P gs) : SoundFormatting P (fs ++ gs) := by
  intro n name as hm
  rcases List.mem_append.1 hm with hm | hm
  · exact hf n name as hm
  · exact hg n name as hm

/-! ## Closing elements and changing the setting -/

@[grind =] theorem sound_mk {draft : Draft} {opened : List Nat} {formatting : List Formatting}
    {setting outer : Setting} {templates : List Setting} {form : Option Nat} {pending : List Text}
    {fostering skipLineFeed : Bool} {reading : Reading} :
    Sound P ⟨draft, opened, formatting, setting, outer, templates, form, pending, fostering,
      skipLineFeed, reading⟩ ↔ draft.Sound P ∧ SoundFormatting P formatting :=
  Iff.rfl

@[grind ←] theorem Sound.pop (h : b.Sound P) : b.pop.Sound P := h

@[grind ←] theorem Sound.popUntil (h : b.Sound P) (p : Element → Bool) : (b.popUntil p).Sound P := h

@[grind ←] theorem Sound.popUntilName (h : b.Sound P) (name : String) :
    (b.popUntilName name).Sound P := h

@[grind ←] theorem Sound.popWhileNot (h : b.Sound P) (p : Element → Bool) :
    (b.popWhileNot p).Sound P := h

@[grind ←] theorem Sound.closeImplied (h : b.Sound P) (names : List String) :
    (b.closeImplied names).Sound P := h

@[grind ←] theorem Sound.closeImpliedExcept (h : b.Sound P) (name : String) :
    (b.closeImpliedExcept name).Sound P := h

@[grind ←] theorem Sound.closeParagraph (h : b.Sound P) : b.closeParagraph.Sound P := h

@[grind ←] theorem Sound.closeParagraphInScope (h : b.Sound P) : b.closeParagraphInScope.Sound P := by
  rw [Builder.closeParagraphInScope]
  exact (h.closeParagraph).ite h

@[grind ←] theorem Sound.removeOpen (h : b.Sound P) (n : Nat) : (b.removeOpen n).Sound P := h

@[grind ←] theorem Sound.resetSetting (h : b.Sound P) : b.resetSetting.Sound P := h

@[grind ←] theorem Sound.enter (h : b.Sound P) (s : Setting) : (b.enter s).Sound P := h

/-! ## Putting elements and text in place -/

theorem Sound.putAt (h : b.Sound P) (spot : Spot) {n : Nat} (hn : n ≠ 0) :
    (b.putAt spot n).Sound P := by
  cases spot with
  | last p => exact ⟨h.1.append p hn, h.2⟩
  | before table => exact ⟨h.1.insertBefore table hn, h.2⟩

@[grind ←] theorem Sound.addText (h : b.Sound P) (run : Text) : (b.addText run).Sound P := by
  refine ⟨?_, h.2⟩
  rw [Builder.addText]
  dsimp only
  split
  · exact h.1.appendText _ run
  · exact h.1.insertTextBefore _ run

@[grind ←] theorem Sound.insertClosed (h : b.Sound P) {e : Element} (he : P e) :
    (b.insertClosed e).1.Sound P := by
  obtain ⟨hd, hn⟩ := h.1.allocate (c := .element e) fun d hd => by cases hd; exact he
  have hb : Sound P { b with draft := (b.draft.allocate (.element e)).1 } := ⟨hd, h.2⟩
  exact hb.putAt _ hn

@[grind ←] theorem Sound.insertAt (h : b.Sound P) {e : Element} (he : P e) : (b.insertAt e).1.Sound P :=
  h.insertClosed he

@[grind ←] theorem Sound.insert (h : b.Sound P) {name : String} {as : List Attribute}
    (he : P { name := name, attributes := as }) : (b.insert name as).Sound P :=
  h.insertAt he

@[grind ←] theorem Sound.insertVoid (h : b.Sound P) {name : String} {as : List Attribute}
    (he : P { name := name, attributes := as }) : (b.insertVoid name as).Sound P :=
  h.insertClosed he

@[grind ←] theorem Sound.insertReading (h : b.Sound P) {name : String} {as : List Attribute}
    (he : P { name := name, attributes := as }) (reading : Reading) :
    (b.insertReading name as reading).Sound P :=
  h.insert he

/-! ## Formatting elements -/

@[grind ←] theorem Sound.forget (h : b.Sound P) (n : Nat) : (b.forget n).Sound P :=
  ⟨h.1, h.2.of_subset fun _ hm => (List.mem_filter.1 hm).1⟩

@[grind ←] theorem Sound.clearFormatting (h : b.Sound P) : b.clearFormatting.Sound P :=
  ⟨h.1, h.2.of_subset fun _ hm => (List.dropWhile_suffix _).subset (List.mem_of_mem_drop hm)⟩

@[grind ←] theorem Sound.addBorder (h : b.Sound P) : b.addBorder.Sound P := by
  refine ⟨h.1, fun n name as hm => ?_⟩
  rcases List.mem_cons.1 hm with he | hm
  · cases he
  · exact h.2 n name as hm

theorem Sound.reopen (h : b.Sound P) {fs done : List Formatting} (hf : SoundFormatting P fs)
    (hd : SoundFormatting P done) :
    (b.reopen fs done).1.Sound P ∧ SoundFormatting P (b.reopen fs done).2 := by
  induction fs generalizing b done with
  | nil => exact ⟨h, hd⟩
  | cons f fs ih =>
      have hfs : SoundFormatting P fs := hf.of_subset (List.subset_cons_self _ _)
      cases f with
      | border =>
          refine ih h hfs fun n name as hm => ?_
          rcases List.mem_cons.1 hm with he | hm
          · cases he
          · exact hd n name as hm
      | element n name as =>
          have hp := hf n name as (List.mem_cons_self ..)
          exact ih (h.insertAt hp) hfs (hd.cons hp)

@[grind ←] theorem Sound.reconstruct (h : b.Sound P) : b.reconstruct.Sound P := by
  have hu : SoundFormatting P (b.formatting.takeWhile fun f => !b.isSettled f).reverse :=
    h.2.of_subset fun _ hm => (List.takeWhile_prefix _).subset (List.mem_reverse.1 hm)
  obtain ⟨hb, hr⟩ := h.reopen hu (show SoundFormatting P [] from fun n name as hm => by cases hm)
  exact ⟨hb.1, hr.append (h.2.of_subset fun _ hm => List.mem_of_mem_drop hm)⟩

theorem dropLastWhere_subset {α : Type} (p : α → Bool) (l : List α) : dropLastWhere p l ⊆ l := by
  intro x hx
  exact List.mem_reverse.1 (List.mem_of_mem_eraseP (List.mem_reverse.1 hx))

@[grind ←] theorem Sound.insertFormatting (h : b.Sound P) {name : String} {as : List Attribute}
    (he : P { name := name, attributes := as }) : (b.insertFormatting name as).Sound P := by
  have hr : SoundFormatting P b.recent :=
    h.2.of_subset (List.takeWhile_prefix _).subset
  have ho : SoundFormatting P (b.formatting.drop b.recent.length) :=
    h.2.of_subset fun _ hm => List.mem_of_mem_drop hm
  have hk : SoundFormatting P (if 3 ≤ b.recent.countP (Formatting.matches name as) then
      dropLastWhere (Formatting.matches name as) b.recent else b.recent) := by
    split
    · exact hr.of_subset (dropLastWhere_subset _ _)
    · exact hr
  exact ⟨(h.insertAt he).1, (hk.append ho).cons he⟩

/-! ## Closing formatting elements -/

@[grind ←] theorem Sound.closeOther (h : b.Sound P) (name : String) : (b.closeOther name).Sound P := by
  rw [Builder.closeOther]
  dsimp only
  split
  · split
    · exact h
    · exact h
  · exact h

theorem Sound.climb {block rounds : Nat} {c : Climb} (h : c.builder.Sound P) (hm : c.moving ≠ 0)
    (between : List Nat) :
    (Builder.climb block rounds c between).builder.Sound P ∧
      (Builder.climb block rounds c between).moving ≠ 0 := by
  induction between generalizing rounds c with
  | nil => exact ⟨h, hm⟩
  | cons n ns ih =>
      rw [Builder.climb]
      dsimp only
      split
      · exact ih (c := { c with builder := c.builder.removeOpen n }) h hm
      · exact ih (c := { c with builder := c.builder.removeOpen n }) h hm
      · next m name as hf =>
          have hp := h.2 m name as (List.mem_of_find?_eq_some hf)
          split
          · exact ih (c := { c with builder := (c.builder.forget n).removeOpen n }) (h.forget n) hm
          · obtain ⟨hd, hn⟩ := h.1.allocate (c := .element { name := name, attributes := as })
              fun e he => by cases he; exact hp
            refine ih ⟨hd.append _ hm, fun k name' as' hk => ?_⟩ hn
            obtain ⟨f, hf', he⟩ := List.mem_map.1 hk
            split at he
            · cases he
              exact hp
            · exact h.2 k name' as' (he ▸ hf')

theorem mem_insertBehind {new f : Formatting} {n : Nat} {fs : List Formatting}
    (h : f ∈ insertBehind new n fs) : f = new ∨ f ∈ fs := by
  induction fs with
  | nil => exact .inl (List.mem_singleton.1 h)
  | cons g fs ih =>
      rw [insertBehind] at h
      split at h
      · exact List.mem_cons.1 h
      · rcases List.mem_cons.1 h with h | h
        · exact .inr (h ▸ List.mem_cons_self ..)
        · exact (ih h).imp id (List.mem_cons_of_mem _)

theorem Sound.adopt (h : b.Sound P) {node : Nat} {name : String} {as : List Attribute}
    (he : P { name := name, attributes := as }) {block : Nat} (hb : block ≠ 0)
    (between outside : List Nat) : (b.adopt node name as block between outside).Sound P := by
  have hclimb : (Builder.climb block 1 ⟨b, block, none⟩ between).builder.Sound P ∧
      (Builder.climb block 1 ⟨b, block, none⟩ between).moving ≠ 0 := Sound.climb h hb between
  obtain ⟨hc, hm⟩ := hclimb
  generalize hcl : Builder.climb block 1 ⟨b, block, none⟩ between = c at hc hm
  have hd : Sound P { c.builder with draft := c.builder.draft.detach c.moving } :=
    ⟨hc.1.detach _, hc.2⟩
  have hp := hd.putAt (spotIn { c.builder with draft := c.builder.draft.detach c.moving }
    (outside.headD root)) hm
  obtain ⟨ha, hn⟩ := hp.1.allocate (c := .element { name := name, attributes := as })
    fun e hd => by cases hd; exact he
  rw [Builder.adopt, hcl]
  refine ⟨(ha.moveBelow block _).append block hn, fun k name' as' hk => ?_⟩
  dsimp only [removeOpen] at hk
  split at hk
  · obtain ⟨f, hf, hfe⟩ := List.mem_map.1 hk
    split at hfe
    · cases hfe
      exact he
    · exact hp.2 k name' as' (hfe ▸ hf)
  · rcases mem_insertBehind (List.mem_filter.1 hk).1 with hke | hk
    · cases hke
      exact he
    · exact hp.2 k name' as' hk

/-- What is open inside an element in scope does not end the search for it. -/
theorem not_stopsAt_of_findsIn {s : Category.Scope} {node : Nat} {ns : List Nat}
    (h : b.findsIn s (fun n => n == node) ns = true) :
    ∀ n ∈ ns.takeWhile (· ≠ node), s.stopsAt (b.element n) = false := by
  induction ns with
  | nil => simp
  | cons m ns ih =>
      intro n hn
      by_cases hm : m = node
      · rw [List.takeWhile_cons_of_neg (by simp [hm])] at hn
        cases hn
      · rw [findsIn, Bool.or_eq_true, Bool.and_eq_true] at h
        rw [List.takeWhile_cons_of_pos (by simp [hm])] at hn
        have h := h.resolve_left (by simp [hm])
        rcases List.mem_cons.1 hn with rfl | hn
        · simpa using h.1
        · exact ih h.2 n hn

theorem stopsAt_root (h : b.Sound P) : Category.Scope.usual.stopsAt (b.element root) = true := by
  rw [element, show b.draft.element? root = _ from h.1.root]
  decide

theorem Sound.closeFormattingIn (h : b.Sound P) (rounds : Nat) (name : String) :
    (closeFormattingIn rounds b name).Sound P := by
  induction rounds generalizing b with
  | zero => exact h
  | succ rounds ih =>
      rw [Builder.closeFormattingIn]
      dsimp only
      split
      · exact h.closeOther name
      · exact h.closeOther name
      · next node name' as hf =>
          have hr := List.mem_of_find?_eq_some hf
          have hp := h.2 node name' as ((List.takeWhile_prefix _).subset hr)
          have hname : name' = name := by simpa using List.find?_some hf
          split
          · exact h.forget node
          · split
            · exact h
            · next hscope =>
                split
                · exact h.forget node
                · next block hblock =>
                    have hin := List.mem_reverse.1 (List.mem_of_find?_eq_some hblock)
                    have hstop := not_stopsAt_of_findsIn (Decidable.not_not.1 hscope) block hin
                    refine ih (h.adopt (hname ▸ hp) (fun hb => ?_) _ _)
                    rw [hb] at hstop
                    exact absurd (hstop.symm.trans (stopsAt_root h)) (by decide)

@[grind ←] theorem Sound.closeFormatting (h : b.Sound P) (name : String) :
    (b.closeFormatting name).Sound P := by
  rw [Builder.closeFormatting]
  split
  · exact h
  · exact h.closeFormattingIn 8 name

end Gamebook.Html.Builder
