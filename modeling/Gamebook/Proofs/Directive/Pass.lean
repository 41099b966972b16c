import Gamebook.Directive.Scan
import Gamebook.Proofs.Text.Brace

/-!
# Passes in turn

Each pass drops tokens of what the passes before it have left. The tokens of the text that those have
not dropped are still there, but others may have come about beside them. So all passes together drop
the tokens that they are due to drop, and exactly those if no token comes about that a later pass
takes.
-/

namespace Gamebook

/-!
## Texts without their directives

Readers find nothing in a text exactly if they accept no token of it. Where no loose braces meet, the
tokens that are left when directives are dropped are tokens of the text before, so nothing that was
looked for in an earlier pass comes back.
-/

section

open Piece

variable {t i : Text}

theorem Find.gather_eq_nil_iff {α : Type} {readers : List (Text → Option α)} :
    gather readers t = [] ↔ ∀ i ∈ insides (ofText t), ∀ read ∈ readers, read i = none := by
  rw [gather_eq, List.flatMap_eq_nil_iff, ← map_snd_tokens]
  simp only [List.filterMap_eq_nil_iff, List.forall_mem_map]

namespace Directive

/-! ### Dropping -/

/-- The tokens with a certain kind of inside, dropped from the pieces. -/
theorem dropTokens_eq (p : Text → Bool) (t : Text) :
    dropTokens p t =
      ((ofText t).filter fun q => !q.inside?.any p).flatMap source := by
  rw [dropTokens, replaceTokens]
  generalize ofText t = ps
  induction ps with
  | nil => rfl
  | cons q ps ih =>
      rw [List.flatMap_cons, ih, List.filter_cons]
      cases q with
      | plain run => simp [inside?, source]
      | token inner => cases hp : p inner <;> simp [inside?, hp]

theorem apart_dropTokens (h : t.Apart) (p : Text → Bool) : (dropTokens p t).Apart := by
  rw [dropTokens_eq]
  exact (apart_of_sublist h List.filter_sublist).1

theorem mem_insides_dropTokens (h : t.Apart) {p : Text → Bool} :
    i ∈ insides (ofText (dropTokens p t)) ↔ i ∈ insides (ofText t) ∧ p i = false := by
  rw [dropTokens_eq, (apart_of_sublist h List.filter_sublist).2, insides, insides]
  simp only [List.mem_filterMap, List.mem_filter]
  constructor
  · rintro ⟨q, ⟨hq, hp⟩, hi⟩
    exact ⟨⟨q, hq, hi⟩, by simpa [hi] using hp⟩
  · rintro ⟨⟨q, hq, hi⟩, hp⟩
    exact ⟨q, ⟨hq, by simp [hi, hp]⟩, hi⟩

theorem apart_dropInTurn (h : t.Apart) (kinds : List (Text → Bool)) :
    (dropInTurn kinds t).Apart := by
  induction kinds generalizing t with
  | nil => exact h
  | cons p kinds ih => exact ih (apart_dropTokens h p)

theorem mem_insides_dropInTurn (h : t.Apart) {kinds : List (Text → Bool)} :
    i ∈ insides (ofText (dropInTurn kinds t)) ↔
      i ∈ insides (ofText t) ∧ ∀ p ∈ kinds, p i = false := by
  induction kinds generalizing t with
  | nil => simp [dropInTurn]
  | cons p kinds ih =>
      have hk := ih (apart_dropTokens h p)
      rw [mem_insides_dropTokens h] at hk
      simp only [List.forall_mem_cons, ← and_assoc]
      exact hk

/-! ### Finding -/

theorem assignments_dropAssignments (h : t.Apart) : assignments (dropAssignments t) = [] := by
  refine Find.gather_eq_nil_iff.2 fun i hi => ?_
  obtain ⟨-, hk⟩ := (mem_insides_dropInTurn h).1 hi
  simpa [assignmentReaders] using hk

/-- A token that is not dropped as a sound or a goto is none. -/
theorem not_side_effect (h : t.Apart) (hi : i ∈ insides (ofText (dropSideEffects t))) :
    (∀ read ∈ soundReaders, read i = none) ∧ goto? i = none := by
  obtain ⟨-, hk⟩ := (mem_insides_dropInTurn h).1 hi
  simp only [List.forall_mem_cons, List.not_mem_nil, false_implies, implies_true, and_true,
    Option.isSome_eq_false_iff, Option.isNone_iff_eq_none] at hk
  obtain ⟨hm, hs, ha, hl, hst, hg⟩ := hk
  exact ⟨by simp [soundReaders, hm, hs, ha, hl, stop?, hst], hg⟩

theorem sounds_dropSideEffects (h : t.Apart) :
    sounds (dropSideEffects t) = [] ∧ gotos (dropSideEffects t) = [] := by
  constructor
  · exact Find.gather_eq_nil_iff.2 fun i hi => (not_side_effect h hi).1
  · refine Find.gather_eq_nil_iff.2 fun i hi => ?_
    simpa using (not_side_effect h hi).2

end Directive

end

open Text

namespace Piece

variable {s t r inner : Text} {p : Text → Bool} {ps : List Piece}

/-! ## Tokens within a text -/

theorem consPlain_append_token (c : Char) (ps : List Piece) (inner : Text) (qs : List Piece) :
    consPlain c (ps ++ token inner :: qs) = consPlain c ps ++ token inner :: qs := by
  cases ps with
  | nil => rfl
  | cons p ps => cases p <;> rfl

theorem not_closes_token_append : ¬ Closes ((token inner).source ++ r) := by
  simp [Closes, source, isMark]

/-- A token stays one whatever stands around it. -/
theorem ofText_append_token (h : inner.filter isMark = []) (s r : Text) :
    ofText (s ++ ((token inner).source ++ r)) = ofText s ++ token inner :: ofText r := by
  match s with
  | [] =>
      rw [List.nil_append, source_token, List.cons_append, List.append_assoc]
      exact ofText_token h
  | c :: s =>
      by_cases hc : c = '\x7b' ∧ Closes s
      · -- the characters before the token end with a token of their own
        obtain ⟨rfl, hcl⟩ := hc
        obtain ⟨a, b, rfl, ha⟩ := hcl.exists_eq
        have ih := ofText_append_token h b r
        rw [ofText_token ha, List.cons_append, List.append_assoc, List.cons_append, ofText_token ha, ih]
        rfl
      · have hs : c = '\x7b' → ¬ Closes s := fun he hcl => hc ⟨he, hcl⟩
        have hall : c = '\x7b' → ¬ Closes (s ++ ((token inner).source ++ r)) := by
          intro he hcl
          rcases closes_append.1 hcl with hcl | ⟨-, hcl⟩
          · exact hs he hcl
          · exact not_closes_token_append hcl
        rw [List.cons_append, ofText_cons hall, ofText_append_token h s r, ofText_cons hs,
          consPlain_append_token]
termination_by s.length

/-! ## Pieces that are left -/

/-- Whether a piece is left when tokens with a certain kind of inside are dropped. -/
def keeps (p : Text → Bool) (q : Piece) : Bool := !q.inside?.any p

theorem dropTokens_eq_filter (p : Text → Bool) (t : Text) :
    dropTokens p t = ((ofText t).filter (keeps p)).flatMap source :=
  Directive.dropTokens_eq p t

theorem flatMap_source_sublist {qs : List Piece} (h : qs.Sublist ps) :
    (qs.flatMap source).Sublist (ps.flatMap source) := by
  induction h with
  | slnil => exact List.Sublist.refl []
  | cons p _ ih => exact ih.trans (List.sublist_append_right _ _)
  | cons_cons p _ ih => exact ih.append_left p.source

theorem dropTokens_sublist (p : Text → Bool) (t : Text) : (dropTokens p t).Sublist t := by
  have h := flatMap_source_sublist (List.filter_sublist (p := keeps p) (l := ofText t))
  rwa [source_ofText, ← dropTokens_eq_filter] at h

theorem dropTokens_append_token (h : inner.filter isMark = []) (p : Text → Bool) (s r : Text) :
    dropTokens p (s ++ ((token inner).source ++ r)) =
      dropTokens p s ++ (([token inner].filter (keeps p)).flatMap source ++ dropTokens p r) := by
  simp only [dropTokens_eq_filter, ofText_append_token h, List.filter_append, List.flatMap_append,
    List.filter_cons, List.filter_nil]
  split <;> simp

theorem insides_append (ps qs : List Piece) : insides (ps ++ qs) = insides ps ++ insides qs :=
  List.filterMap_append

theorem insides_filter_keeps (p : Text → Bool) (ps : List Piece) :
    insides (ps.filter (keeps p)) = (insides ps).filter fun i => !p i := by
  induction ps with
  | nil => rfl
  | cons q ps ih =>
      cases q with
      | plain run => exact ih
      | token inner =>
          rw [insides_token, List.filter_cons, List.filter_cons, ← ih]
          cases hp : p inner <;> simp [keeps, inside?, hp]

/-- What is left of a text with these pieces when its runs lose characters but no token does. -/
inductive Thinned : List Piece → Text → Prop
  | nil : Thinned [] []
  | plain {run s t : Text} {ps : List Piece} (hs : s.Sublist run) (h : Thinned ps t) :
      Thinned (plain run :: ps) (s ++ t)
  | token {inner t : Text} {ps : List Piece} (h : Thinned ps t) :
      Thinned (token inner :: ps) ((Piece.token inner).source ++ t)

theorem thinned_source (ps : List Piece) : Thinned ps (ps.flatMap source) := by
  induction ps with
  | nil => exact .nil
  | cons p ps ih =>
      cases p with
      | plain run => exact .plain (List.Sublist.refl run) ih
      | token inner => exact .token ih

theorem Thinned.sublist (h : Thinned ps t) : t.Sublist (ps.flatMap source) := by
  induction h with
  | nil => exact List.Sublist.refl []
  | plain hs _ ih => exact hs.append ih
  | token _ ih => exact (List.Sublist.refl _).append ih

/-- The tokens are tokens of what is left, whatever stands before it. -/
theorem Thinned.insides_sublist (h : Thinned ps t) (hp : ∀ p ∈ ps, p.Proper) (w : Text) :
    (insides ps).Sublist (insides (ofText (w ++ t))) := by
  induction h generalizing w with
  | nil => exact List.nil_sublist _
  | @plain run s t ps _ _ ih =>
      rw [insides_plain, ← List.append_assoc]
      exact ih (List.forall_mem_cons.1 hp).2 (w ++ s)
  | @token inner t ps _ ih =>
      obtain ⟨hi, hps⟩ := List.forall_mem_cons.1 hp
      have hrest := (ih hps []).cons_cons inner
      rw [ofText_append_token hi, insides_append]
      exact hrest.trans (List.sublist_append_right _ _)

/-- A pass thins the runs further, also one that stands before the pieces. -/
theorem Thinned.dropTokens_append (h : Thinned ps t) (hp : ∀ p ∈ ps, p.Proper) (p : Text → Bool)
    (w : Text) : ∃ w' t', dropTokens p (w ++ t) = w' ++ t' ∧ w'.Sublist w ∧
      Thinned (ps.filter (keeps p)) t' := by
  induction h generalizing w with
  | nil =>
      exact ⟨dropTokens p w, [], by rw [List.append_nil, List.append_nil], dropTokens_sublist p w, .nil⟩
  | @plain run s t ps hs _ ih =>
      obtain ⟨w', t', he, hw, ht⟩ := ih (List.forall_mem_cons.1 hp).2 (w ++ s)
      obtain ⟨w₁, w₂, rfl, h₁, h₂⟩ := List.sublist_append_iff.1 hw
      exact ⟨w₁, w₂ ++ t', by rw [← List.append_assoc, he, List.append_assoc], h₁,
        .plain (h₂.trans hs) ht⟩
  | @token inner t ps _ ih =>
      obtain ⟨hi, hps⟩ := List.forall_mem_cons.1 hp
      obtain ⟨w₀, t', he, hw, ht⟩ := ih hps []
      obtain rfl := List.eq_nil_of_sublist_nil hw
      rw [List.nil_append, List.nil_append] at he
      refine ⟨dropTokens p w, ([Piece.token inner].filter (keeps p)).flatMap source ++ t', ?_,
        dropTokens_sublist p w, ?_⟩
      · rw [dropTokens_append_token hi, he]
      · simp only [List.filter_cons, List.filter_nil]
        split
        · simpa using ht.token
        · exact ht

theorem Thinned.dropTokens (h : Thinned ps t) (hp : ∀ p ∈ ps, p.Proper) (p : Text → Bool) :
    Thinned (ps.filter (keeps p)) (dropTokens p t) := by
  obtain ⟨w, t', he, hw, ht⟩ := h.dropTokens_append hp p []
  obtain rfl := List.eq_nil_of_sublist_nil hw
  rw [List.nil_append, List.nil_append] at he
  rwa [he]

/-! ## How much is dropped -/

/-- How many characters tokens with these insides take. -/
def tokensLength : List Text → Nat
  | [] => 0
  | i :: is => i.length + 2 + tokensLength is

theorem tokensLength_append (is js : List Text) :
    tokensLength (is ++ js) = tokensLength is + tokensLength js := by
  induction is with
  | nil => simp [tokensLength]
  | cons i is ih => simp [tokensLength, ih, Nat.add_assoc]

theorem tokensLength_filter_add (p : Text → Bool) (is : List Text) :
    tokensLength (is.filter p) + tokensLength (is.filter fun i => !p i) = tokensLength is := by
  induction is with
  | nil => rfl
  | cons i is ih =>
      rw [List.filter_cons, List.filter_cons, tokensLength, ← ih]
      cases p i <;> simp [tokensLength] <;> omega

/-- Tokens among which others are take more characters. -/
theorem eq_of_tokensLength_le {is js : List Text} (h : is.Sublist js)
    (hl : tokensLength js ≤ tokensLength is) : is = js := by
  have hle {is js : List Text} (h : is.Sublist js) : tokensLength is ≤ tokensLength js := by
    induction h with
    | slnil => exact Nat.le_refl 0
    | cons j _ ih => exact Nat.le_trans ih (Nat.le_add_left _ _)
    | cons_cons j _ ih => exact Nat.add_le_add_left ih _
  induction h with
  | slnil => rfl
  | cons j h _ =>
      have := hle h
      simp only [tokensLength] at hl
      omega
  | cons_cons j _ ih => rw [ih (Nat.le_of_add_le_add_left hl)]

/-- The characters of a text are those that are left and those of the tokens that are dropped. -/
theorem length_dropTokens (p : Text → Bool) (t : Text) :
    (dropTokens p t).length + tokensLength ((insides (ofText t)).filter p) = t.length := by
  have h (ps : List Piece) : ((ps.filter (keeps p)).flatMap source).length +
      tokensLength ((insides ps).filter p) = (ps.flatMap source).length := by
    induction ps with
    | nil => rfl
    | cons q ps ih =>
        rw [List.flatMap_cons, List.length_append, ← ih, List.filter_cons]
        cases q with
        | plain run =>
            have hk : keeps p (.plain run) = true := rfl
            rw [insides_plain, if_pos hk, List.flatMap_cons, List.length_append]
            omega
        | token inner =>
            rw [insides_token, List.filter_cons]
            cases hp : p inner <;> simp [keeps, inside?, hp, tokensLength, source] <;> omega
  rw [dropTokens_eq_filter, h, source_ofText]

/-- The more kinds of tokens are dropped, the less is left. -/
theorem dropTokens_sublist_dropTokens {q : Text → Bool} (h : ∀ i, q i = true → p i = true)
    (t : Text) : (dropTokens p t).Sublist (dropTokens q t) := by
  have hf : (ofText t).filter (keeps p) = ((ofText t).filter (keeps q)).filter (keeps p) := by
    rw [List.filter_filter]
    refine List.filter_congr fun x _ => ?_
    cases x with
    | plain run => rfl
    | token inner => cases hq : q inner <;> simp [keeps, inside?, hq, h]
  rw [dropTokens_eq_filter, dropTokens_eq_filter, hf]
  exact flatMap_source_sublist List.filter_sublist

theorem dropTokens_eq_iff {q : Text → Bool} (h : ∀ i, q i = true → p i = true) :
    dropTokens p t = dropTokens q t ↔ ∀ i ∈ insides (ofText t), p i = true → q i = true := by
  have hp := length_dropTokens p t
  have hq := length_dropTokens q t
  constructor
  · intro he i hi hpi
    have hf : (insides (ofText t)).filter q = ((insides (ofText t)).filter p).filter q := by
      rw [List.filter_filter]
      refine List.filter_congr fun i _ => ?_
      cases hqi : q i <;> simp [h, hqi]
    have hs : ((insides (ofText t)).filter q).Sublist ((insides (ofText t)).filter p) := by
      rw [hf]
      exact List.filter_sublist
    rw [he] at hp
    have hall := eq_of_tokensLength_le hs (by omega)
    have hm : i ∈ (insides (ofText t)).filter p := List.mem_filter.2 ⟨hi, hpi⟩
    rw [← hall] at hm
    exact (List.mem_filter.1 hm).2
  · intro hall
    have hf : (insides (ofText t)).filter p = (insides (ofText t)).filter q :=
      List.filter_congr fun i hi => Bool.eq_iff_iff.2 ⟨hall i hi, h i⟩
    rw [hf] at hp
    exact (dropTokens_sublist_dropTokens h t).eq_of_length (by omega)

end Piece

namespace Directive

open Piece

variable {t : Text} {p : Text → Bool} {ps : List Piece}

/-! ## Passes -/

/-- The insides of the tokens that the passes drop, pass by pass. -/
def taken : List (Text → Bool) → Text → List Text
  | [], _ => []
  | p :: kinds, t => (insides (ofText t)).filter p ++ taken kinds (dropTokens p t)

/-- Among insides those that each pass has to drop, pass by pass: what it accepts and none before. -/
def due : List (Text → Bool) → List Text → List Text
  | [], _ => []
  | p :: kinds, is => is.filter p ++ due kinds (is.filter fun i => !p i)

/-- Whether the passes drop tokens of the text alone, none that came about when others were dropped. -/
def DropsOwn (kinds : List (Text → Bool)) (t : Text) : Prop :=
  taken kinds t = due kinds (insides (ofText t))

instance (kinds : List (Text → Bool)) : DecidablePred (DropsOwn kinds) := fun t =>
  inferInstanceAs (Decidable (taken kinds t = due kinds (insides (ofText t))))

theorem proper_filter (hp : ∀ q ∈ ps, q.Proper) (f : Piece → Bool) : ∀ q ∈ ps.filter f, q.Proper :=
  fun q hq => hp q (List.mem_filter.1 hq).1

/-- Each pass drops what it has to. -/
theorem due_sublist_taken (h : Thinned ps t) (hp : ∀ q ∈ ps, q.Proper)
    (kinds : List (Text → Bool)) : (due kinds (insides ps)).Sublist (taken kinds t) := by
  induction kinds generalizing ps t with
  | nil => exact List.Sublist.refl []
  | cons p kinds ih =>
      have hfirst : (insides ps).Sublist (insides (ofText t)) := h.insides_sublist hp []
      have hrest := ih (h.dropTokens hp p) (proper_filter hp _)
      rw [insides_filter_keeps] at hrest
      exact (hfirst.filter p).append hrest

/-- What the passes leave is what is left when what any of them accepts is dropped, with thinner
runs. -/
theorem thinned_dropInTurn (h : Thinned ps t) (hp : ∀ q ∈ ps, q.Proper)
    (kinds : List (Text → Bool)) :
    Thinned (ps.filter (keeps fun i => kinds.any (· i))) (dropInTurn kinds t) := by
  induction kinds generalizing ps t with
  | nil =>
      have hall : ps.filter (keeps fun i => ([] : List (Text → Bool)).any (· i)) = ps :=
        List.filter_eq_self.2 fun q _ => by cases q <;> rfl
      rwa [hall]
  | cons p kinds ih =>
      have hk := ih (h.dropTokens hp p) (proper_filter hp _)
      rw [List.filter_filter] at hk
      have hf : ps.filter (keeps fun i => (p :: kinds).any (· i)) =
          ps.filter fun q => keeps (fun i => kinds.any (· i)) q && keeps p q :=
        List.filter_congr fun q _ => by
          cases q with
          | plain run => rfl
          | token inner => simp [keeps, inside?, Bool.and_comm]
      rw [hf]
      exact hk

theorem length_dropInTurn (kinds : List (Text → Bool)) (t : Text) :
    (dropInTurn kinds t).length + tokensLength (taken kinds t) = t.length := by
  induction kinds generalizing t with
  | nil => rfl
  | cons p kinds ih =>
      have hk := ih (dropTokens p t)
      have hp := length_dropTokens p t
      rw [taken, tokensLength_append]
      have hd : dropInTurn (p :: kinds) t = dropInTurn kinds (dropTokens p t) := rfl
      rw [hd]
      omega

theorem tokensLength_due (kinds : List (Text → Bool)) (is : List Text) :
    tokensLength (due kinds is) = tokensLength (is.filter fun i => kinds.any (· i)) := by
  induction kinds generalizing is with
  | nil =>
      have hnone : is.filter (fun i => ([] : List (Text → Bool)).any (· i)) = [] :=
        List.filter_eq_nil_iff.2 fun _ _ => Bool.false_ne_true
      rw [due, hnone]
  | cons p kinds ih =>
      have hadd := tokensLength_filter_add p (is.filter fun i => (p :: kinds).any (· i))
      rw [due, tokensLength_append, ih, ← hadd, List.filter_filter, List.filter_filter,
        List.filter_filter]
      congr 2
      · exact List.filter_congr fun i _ => by cases hi : p i <;> simp [hi]
      · exact List.filter_congr fun i _ => by cases hi : p i <;> simp [hi]

/-- The passes leave no more than is left when the tokens that any of them accepts are dropped. -/
theorem dropInTurn_sublist (kinds : List (Text → Bool)) (t : Text) :
    (dropInTurn kinds t).Sublist (dropTokens (fun i => kinds.any (· i)) t) := by
  have h := thinned_source (ofText t)
  rw [source_ofText] at h
  rw [dropTokens_eq_filter]
  exact (thinned_dropInTurn h (fun q => proper_of_mem_ofText) kinds).sublist

/-- The passes leave just that if they drop tokens of the text alone, and only then. -/
theorem dropInTurn_eq_iff (kinds : List (Text → Bool)) (t : Text) :
    dropInTurn kinds t = dropTokens (fun i => kinds.any (· i)) t ↔ DropsOwn kinds t := by
  have h := thinned_source (ofText t)
  rw [source_ofText] at h
  have hdue := due_sublist_taken h (fun q => proper_of_mem_ofText) kinds
  have hturn := length_dropInTurn kinds t
  have hone := length_dropTokens (fun i => kinds.any (· i)) t
  rw [← tokensLength_due] at hone
  constructor
  · intro he
    rw [he] at hturn
    exact (eq_of_tokensLength_le hdue (by omega)).symm
  · intro he
    rw [DropsOwn] at he
    rw [he] at hturn
    exact (dropInTurn_sublist kinds t).eq_of_length (by omega)

/-- Passes over a text without loose braces that could meet drop tokens of the text alone. -/
theorem dropsOwn_of_apart (h : t.Apart) (kinds : List (Text → Bool)) : DropsOwn kinds t := by
  induction kinds generalizing t with
  | nil => rfl
  | cons p kinds ih =>
      have hk := ih (apart_dropTokens h p)
      have hi : insides (ofText (dropTokens p t)) = (insides (ofText t)).filter fun i => !p i := by
        rw [dropTokens_eq_filter, (apart_of_sublist h List.filter_sublist).2, insides_filter_keeps]
      rw [DropsOwn, hi] at hk
      rw [DropsOwn, taken, due, hk]

end Directive
end Gamebook
