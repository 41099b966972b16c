import Mathlib.Data.List.Infix
import Gamebook.Proofs.Text.Caseless
import Gamebook.Proofs.Text.Line
import Gamebook.Proofs.Text.Replace
import Gamebook.Proofs.Text.Rewritten
import Gamebook.Proofs.Text.Trim

/-!
# Where media tags open

The start tag of an image or a video can be read only where a bracket and one of its names stand. Where
parts of a text are swapped and each new part begins with something other than a letter, no such place comes
about between the parts.
-/

namespace Gamebook.Html

open Text

variable {P : Text → Prop} {r s t u v w : Text} {c : Char}

/-- The names, in lower case, under which images and videos start. -/
def mediaNames : List String := ["img", "image", "video"]

/-- Whether a text begins like the start tag of an image or a video, in any case. -/
def OpensMedia (t : Text) : Prop := ∃ name ∈ mediaNames, '<' :: name.toList <+: lower t

instance : DecidablePred OpensMedia := fun t =>
  inferInstanceAs (Decidable (∃ name ∈ mediaNames, '<' :: name.toList <+: lower t))

/-- Whether, wherever a media tag opens in a text, a property holds of the text from there on. -/
def MediaHas (P : Text → Prop) (t : Text) : Prop := ∀ r ∈ t.tails, OpensMedia r → P r

/-- Whether no media tag opens in a text. -/
abbrev NoMedia : Text → Prop := MediaHas fun _ => False

instance [DecidablePred P] : DecidablePred (MediaHas P) := fun t =>
  inferInstanceAs (Decidable (∀ r ∈ t.tails, OpensMedia r → P r))

/-! ## Brackets and letters -/

theorem isLower_of_mem_name {name : String} (h : name ∈ mediaNames) :
    ∀ c ∈ name.toList, c.isLower = true := by
  have hall : mediaNames.all (fun n => n.toList.all Char.isLower) = true := by decide
  exact List.all_eq_true.1 (List.all_eq_true.1 hall name h)

theorem eq_of_toLower {d : Char} (h : c.toLower = d) (hd : d.isLower = false) : c = d := by
  rcases toLower_eq_self_or c with hc | ⟨-, hl⟩
  · exact hc.symm.trans h
  · cases hd.symm.trans (h ▸ hl)

theorem not_opensMedia_nil : ¬ OpensMedia [] := by
  rintro ⟨name, -, hp⟩
  cases List.prefix_nil.1 hp

theorem OpensMedia.head (h : OpensMedia (c :: t)) : c = '<' := by
  obtain ⟨name, -, hp⟩ := h
  exact eq_of_toLower (List.cons_prefix_cons.1 hp).1.symm (by decide)

/-- Behind the bracket stands the first letter of a name. -/
theorem OpensMedia.second {d : Char} (h : OpensMedia (c :: d :: t)) : d.toLower ∈ ['i', 'v'] := by
  have hall : ∀ name ∈ mediaNames, name.toList.head?.any (· ∈ ['i', 'v']) = true := by decide
  obtain ⟨name, hn, hp⟩ := h
  obtain ⟨x, hh, hx⟩ := (Option.any_eq_true _ _).1 (hall name hn)
  obtain ⟨r, hr⟩ := List.head?_eq_some_iff.1 hh
  rw [hr] at hp
  exact (List.cons_prefix_cons.1 (List.cons_prefix_cons.1 hp).2).1 ▸ of_decide_eq_true hx

theorem prefix_of_not_mem (h : w <+: u ++ c :: v) (hc : c ∉ w) : w <+: u := by
  rcases Nat.lt_or_ge u.length w.length with hl | hl
  · have hu : u ++ [c] <+: u ++ c :: v := ⟨v, List.append_assoc ..⟩
    have hl : (u ++ [c]).length ≤ w.length := by
      rw [List.length_append]
      exact hl
    have hw : u ++ [c] <+: w := List.prefix_of_prefix_length_le hu h hl
    exact absurd (hw.subset (List.mem_append_right u (List.mem_singleton_self c))) hc
  · exact List.prefix_of_prefix_length_le h (List.prefix_append _ _) hl

/-- Where a media tag opens, it opens before any character that is no letter. -/
theorem OpensMedia.of_append (h : OpensMedia (u ++ c :: v)) (hu : u ≠ [])
    (hc : c.isAlpha = false) : OpensMedia u := by
  obtain ⟨d, u, rfl⟩ := List.exists_cons_of_ne_nil hu
  obtain ⟨name, hn, hp⟩ := h
  have hl : lower (d :: u ++ c :: v) = d.toLower :: (lower u ++ c.toLower :: lower v) := by
    simp [lower]
  rw [hl] at hp
  obtain ⟨hd, hp⟩ := List.cons_prefix_cons.1 hp
  have hm : c.toLower ∉ name.toList := fun hm =>
    absurd (isAlpha_of_toLower (isLower_of_mem_name hn _ hm)) (by simp [hc])
  exact ⟨name, hn, List.cons_prefix_cons.2 ⟨hd, prefix_of_not_mem hp hm⟩⟩

theorem OpensMedia.append (h : OpensMedia u) (v : Text) : OpensMedia (u ++ v) := by
  obtain ⟨name, hn, hp⟩ := h
  exact ⟨name, hn, hp.trans ⟨lower v, (List.map_append ..).symm⟩⟩

/-! ## Places -/

theorem MediaHas.apply (h : MediaHas P t) (hr : r <:+ t) (ho : OpensMedia r) : P r :=
  h r ((List.mem_tails ..).2 hr) ho

theorem MediaHas.suffix (h : MediaHas P t) (hs : s <:+ t) : MediaHas P s :=
  fun _ hr ho => h.apply (((List.mem_tails ..).1 hr).trans hs) ho

theorem mediaHas_nil : MediaHas P [] := by
  intro r hr ho
  have hn := List.suffix_nil.1 ((List.mem_tails ..).1 hr)
  exact absurd (hn ▸ ho) not_opensMedia_nil

theorem mediaHas_cons : MediaHas P (c :: t) ↔ (OpensMedia (c :: t) → P (c :: t)) ∧ MediaHas P t := by
  rw [MediaHas, List.tails_cons, List.forall_mem_cons]
  rfl

theorem mediaHas_cons_of_ne (hc : c ≠ '<') : MediaHas P (c :: t) ↔ MediaHas P t := by
  rw [mediaHas_cons]
  exact and_iff_right fun ho => absurd ho.head hc

theorem mediaHas_append (h : ∀ u, u ≠ [] → u <:+ s → OpensMedia (u ++ t) → P (u ++ t))
    (ht : MediaHas P t) : MediaHas P (s ++ t) := by
  intro r hr ho
  rcases suffix_append_cases ((List.mem_tails ..).1 hr) with hr | ⟨u, hu, hs, rfl⟩
  · exact ht.apply hr ho
  · exact h u hu hs ho

theorem mediaHas_append_of_not_mem (hp : '<' ∉ s) : MediaHas P (s ++ t) ↔ MediaHas P t := by
  induction s with
  | nil => rfl
  | cons c s ih =>
      rw [List.mem_cons, not_or] at hp
      rw [List.cons_append, mediaHas_cons_of_ne (Ne.symm hp.1), ih hp.2]

/-- The bracket of another tag opens no media tag. -/
theorem mediaHas_tag {d : Char} (hd : d.toLower ∉ ['i', 'v']) :
    MediaHas P ('<' :: d :: t) ↔ MediaHas P (d :: t) := by
  rw [mediaHas_cons]
  exact and_iff_right fun ho => absurd ho.second hd

theorem MediaHas.left (h : NoMedia (s ++ t)) : NoMedia s := by
  intro r hr ho
  obtain ⟨x, rfl⟩ := (List.mem_tails ..).1 hr
  exact h.apply ⟨x, (List.append_assoc ..).symm⟩ (ho.append t)

/-- Where a text without media tags ends, none opens before a character that is no letter. -/
theorem MediaHas.append_cons (hs : NoMedia s) (hc : c.isAlpha = false) (ht : MediaHas P (c :: t)) :
    MediaHas P (s ++ c :: t) :=
  mediaHas_append (fun _ hu hn ho => (hs.apply hn (ho.of_append hu hc)).elim) ht

/-! ## Swapping parts -/

/-- Whether a new part begins with something other than a letter, and where no media tag opens in the
part that it is swapped for, opens media tags only as a property says. -/
structure Seals (P : Text → Prop) (used new : Text) : Prop where
  head : ∃ c x, new = c :: x ∧ c.isAlpha = false
  opens : NoMedia used → ∀ t, MediaHas P t → MediaHas P (new ++ t)

variable {swaps : Text → Text → Prop}

/-- Letters that stand at the start of a text with parts swapped stood there before. -/
theorem prefix_lower_of_rewritten (hs : ∀ used new, swaps used new → Seals P used new)
    (h : Rewritten swaps r s) (hw : ∀ c ∈ w, c.isLower = true) (hp : w <+: lower s) :
    w <+: lower r := by
  induction h generalizing w with
  | nil => exact hp
  | keep c _ ih =>
      cases w with
      | nil => exact List.nil_prefix
      | cons d w =>
          obtain ⟨hd, hp⟩ := List.cons_prefix_cons.1 hp
          exact List.cons_prefix_cons.2 ⟨hd, ih (fun c hc => hw c (List.mem_cons_of_mem _ hc)) hp⟩
  | swap hsw _ ih =>
      cases w with
      | nil => exact List.nil_prefix
      | cons d w =>
          obtain ⟨c, x, rfl, hc⟩ := (hs _ _ hsw).head
          have hd : d = c.toLower := (List.cons_prefix_cons.1 hp).1
          have hl := isAlpha_of_toLower (hd ▸ hw d List.mem_cons_self)
          cases hc.symm.trans hl

/-- Where a media tag opens behind a bracket that stays, it opened there before. -/
theorem OpensMedia.of_rewritten (ho : OpensMedia (c :: s))
    (hs : ∀ used new, swaps used new → Seals P used new) (h : Rewritten swaps r s) :
    OpensMedia (c :: r) := by
  obtain ⟨name, hn, hp⟩ := ho
  obtain ⟨hc, hp⟩ := List.cons_prefix_cons.1 hp
  exact ⟨name, hn, List.cons_prefix_cons.2
    ⟨hc, prefix_lower_of_rewritten hs h (isLower_of_mem_name hn) hp⟩⟩

/-- Where a media tag opens once parts are swapped, a new part has it. -/
theorem MediaHas.of_rewritten (hs : ∀ used new, swaps used new → Seals P used new)
    (h : Rewritten swaps r s) (hr : NoMedia r) : MediaHas P s := by
  induction h with
  | nil => exact mediaHas_nil
  | keep c hsw ih =>
      obtain ⟨ho, hr⟩ := mediaHas_cons.1 hr
      exact mediaHas_cons.2 ⟨fun hn => (ho (hn.of_rewritten hs hsw)).elim, ih hr⟩
  | swap hsw _ ih => exact (hs _ _ hsw).opens hr.left _ (ih (hr.suffix (List.suffix_append _ _)))

end Gamebook.Html
