import Gamebook.Html.Draft

/-!
# What holds of every element of a draft

A property of elements holds of all places of a draft but the outermost one if it holds of every element
that is added: moving places about changes no element, and the outermost place never comes to hang
under another.
-/

namespace Gamebook.Html.Draft

variable {P : Element → Prop} {d : Draft}

/-- A draft whose outermost element is as it was in the beginning and hangs nowhere, and in which a
property holds of every other element. -/
structure Sound (P : Element → Prop) (d : Draft) : Prop where
  elements : ∀ n e, n ≠ 0 → d.element? n = some e → P e
  root : d.element? 0 = some { name := "html" }
  below : ∀ n, 0 ∉ (d.place n).below

/-! ## Places -/

theorem place_modify (d : Draft) (n m : Nat) (f : Place → Place) :
    (d.modify n f).place m = if n = m ∧ m < d.places.size then f (d.place m) else d.place m := by
  rw [place, modify, Array.getElem?_modify]
  by_cases hn : n = m
  · subst hn
    by_cases hm : n < d.places.size
    · rw [if_pos rfl, if_pos ⟨rfl, hm⟩, place, Array.getElem?_eq_getElem hm]
      rfl
    · rw [if_pos rfl, if_neg fun h => hm h.2, place, Array.getElem?_eq_none (Nat.le_of_not_lt hm)]
      rfl
  · rw [if_neg hn, if_neg fun h => hn h.1]
    rfl

theorem place_allocate (d : Draft) (c : Content) (m : Nat) :
    (d.allocate c).1.place m = if m = d.places.size then ⟨c, none, []⟩ else d.place m := by
  rw [place, allocate, Array.getElem?_push]
  by_cases hm : m = d.places.size
  · rw [if_pos hm, if_pos hm]
    rfl
  · rw [if_neg hm, if_neg hm]
    rfl

theorem element?_eq_some {n : Nat} {e : Element} :
    d.element? n = some e ↔ (d.place n).content = .element e := by
  rw [element?]
  split
  · next h => rw [h]; simp
  · next h =>
      constructor
      · intro he
        cases he
      · exact fun he => absurd he (h e)

theorem size_ne_zero (h : Sound P d) : d.places.size ≠ 0 := by
  intro hs
  have hr := element?_eq_some.1 h.root
  have hp : d.place 0 = ⟨.nothing, none, []⟩ := by
    rw [place, Array.getElem?_eq_none (Nat.le_of_eq hs)]
    rfl
  rw [hp] at hr
  cases hr

/-! ## Changes -/

theorem Sound.modify (h : Sound P d) (n : Nat) {f : Place → Place}
    (hc : ∀ q, (f q).content = q.content) (hb : ∀ q, 0 ∉ q.below → 0 ∉ (f q).below) :
    Sound P (d.modify n f) := by
  have hcontent (m : Nat) : ((d.modify n f).place m).content = (d.place m).content := by
    rw [place_modify]
    split
    · exact hc _
    · rfl
  have he (m : Nat) : (d.modify n f).element? m = d.element? m := by
    rw [element?, element?, hcontent]
  refine ⟨fun m e hm hme => h.elements m e hm (he m ▸ hme), he 0 ▸ h.root, fun m => ?_⟩
  rw [place_modify]
  split
  · exact hb _ (h.below m)
  · exact h.below m

theorem Sound.modify_text (h : Sound P d) {n : Nat} {old : Text} (hn : d.text? n = some old)
    (run : Text) : Sound P (d.modify n fun q => { q with content := .text run }) := by
  have hold (e : Element) : d.element? n ≠ some e := by
    intro he
    rw [text?, element?_eq_some.1 he] at hn
    cases hn
  have he (m : Nat) (e : Element) :
      (d.modify n fun q => { q with content := .text run }).element? m = some e ↔
        d.element? m = some e := by
    rw [element?_eq_some, element?_eq_some, place_modify]
    split
    · next hm =>
        have := hold e
        rw [Ne, element?_eq_some, hm.1] at this
        simp [this]
    · exact Iff.rfl
  refine ⟨fun m e hm hme => h.elements m e hm ((he m e).1 hme), (he _ _).2 h.root, fun m => ?_⟩
  rw [place_modify]
  split
  · exact h.below m
  · exact h.below m

theorem Sound.allocate (h : Sound P d) {c : Content} (hc : ∀ e, c = .element e → P e) :
    Sound P (d.allocate c).1 ∧ (d.allocate c).2 ≠ 0 := by
  have hs := size_ne_zero h
  refine ⟨⟨fun m e hm hme => ?_, ?_, fun m => ?_⟩, hs⟩
  · rw [element?_eq_some, place_allocate] at hme
    split at hme
    · exact hc e hme
    · exact h.elements m e hm (element?_eq_some.2 hme)
  · rw [element?_eq_some, place_allocate, if_neg (Ne.symm hs)]
    exact element?_eq_some.1 h.root
  · rw [place_allocate]
    split
    · exact List.not_mem_nil
    · exact h.below m

theorem Sound.detach (h : Sound P d) (n : Nat) : Sound P (d.detach n) := by
  rw [Draft.detach]
  split
  · exact h
  · next p _ =>
      have hp := h.modify p (f := fun q => { q with below := q.below.erase n }) (fun _ => rfl)
        fun _ hq hm => hq (List.mem_of_mem_erase hm)
      exact hp.modify n (f := fun q => { q with above := none }) (fun _ => rfl) fun _ hq => hq

theorem Sound.append (h : Sound P d) (above : Nat) {n : Nat} (hn : n ≠ 0) :
    Sound P (d.append above n) := by
  have hp := (h.detach n).modify above (f := fun q => { q with below := q.below ++ [n] })
    (fun _ => rfl) fun _ hq hm => by
      rcases List.mem_append.1 hm with hm | hm
      · exact hq hm
      · exact hn (List.mem_singleton.1 hm).symm
  exact hp.modify n (f := fun q => { q with above := some above }) (fun _ => rfl) fun _ hq => hq

theorem mem_insertInFront {new old m : Nat} {l : List Nat} (h : m ∈ insertInFront new old l) :
    m = new ∨ m ∈ l := by
  induction l with
  | nil => exact .inl (List.mem_singleton.1 h)
  | cons n l ih =>
      rw [insertInFront] at h
      split at h
      · exact List.mem_cons.1 h
      · rcases List.mem_cons.1 h with h | h
        · exact .inr (h ▸ List.mem_cons_self ..)
        · exact (ih h).imp id (List.mem_cons_of_mem _)

theorem Sound.insertBefore (h : Sound P d) (sibling : Nat) {n : Nat} (hn : n ≠ 0) :
    Sound P (d.insertBefore sibling n) := by
  rw [Draft.insertBefore]
  split
  · exact h.detach n
  · next p _ =>
      have hp := (h.detach n).modify p
        (f := fun q => { q with below := insertInFront n sibling q.below }) (fun _ => rfl)
        fun _ hq hm => by
          rcases mem_insertInFront hm with hm | hm
          · exact hn hm.symm
          · exact hq hm
      exact hp.modify n (f := fun q => { q with above := some p }) (fun _ => rfl) fun _ hq => hq

/-- Adds a run to the text at a place if there is one, and else puts it as a new one with `put`. -/
def joinText (d : Draft) (last : Option Nat) (put : Draft → Nat → Draft) (run : Text) : Draft :=
  match last, last.bind d.text? with
  | some n, some before => d.modify n fun q => { q with content := .text (before ++ run) }
  | _, _ => put (d.allocate (.text run)).1 (d.allocate (.text run)).2

theorem appendText_eq_joinText (d : Draft) (above : Nat) (run : Text) :
    d.appendText above run =
      d.joinText (d.place above).below.getLast? (fun d n => d.append above n) run := rfl

theorem insertTextBefore_eq_joinText (d : Draft) (sibling : Nat) (run : Text) :
    d.insertTextBefore sibling run =
      d.joinText (d.previous? sibling) (fun d n => d.insertBefore sibling n) run := rfl

theorem Sound.joinText (h : Sound P d) (last : Option Nat) {put : Draft → Nat → Draft}
    (hput : ∀ d n, Sound P d → n ≠ 0 → Sound P (put d n)) (run : Text) :
    Sound P (d.joinText last put run) := by
  unfold Draft.joinText
  split
  · next htext => exact h.modify_text htext _
  · obtain ⟨ha, hn⟩ := h.allocate (c := .text run) fun _ he => by cases he
    exact hput _ _ ha hn

theorem Sound.appendText (h : Sound P d) (above : Nat) (run : Text) :
    Sound P (d.appendText above run) :=
  h.joinText _ (fun _ _ hd hn => hd.append above hn) run

theorem Sound.insertTextBefore (h : Sound P d) (sibling : Nat) (run : Text) :
    Sound P (d.insertTextBefore sibling run) :=
  h.joinText _ (fun _ _ hd hn => hd.insertBefore sibling hn) run

theorem Sound.moveBelow (h : Sound P d) (source target : Nat) :
    Sound P (d.moveBelow source target) := by
  have hfold (l : List Nat) (hl : 0 ∉ l) (d : Draft) (hd : Sound P d) :
      Sound P (l.foldl (fun d n => d.append target n) d) := by
    induction l generalizing d with
    | nil => exact hd
    | cons n l ih =>
        rw [List.mem_cons, not_or] at hl
        exact ih hl.2 _ (hd.append target (Ne.symm hl.1))
  exact hfold _ (h.below source) d h

end Gamebook.Html.Draft
