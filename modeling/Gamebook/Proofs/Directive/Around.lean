import Gamebook.Proofs.Directive.Keyword
import Gamebook.Proofs.Directive.Span

/-!
# Directives around a token

A token that is no directive of the kind that is looked for parts a text in two: what is found and what
is dropped on its two sides is found and dropped on each of them alone.
-/

namespace Gamebook

open Text Piece

variable {i opener s : Text} {test : Test}

/-- What readers find in a text, token by token. -/
theorem Find.gather_eq_insides {α : Type} (readers : List (Text → Option α)) (t : Text) :
    gather readers t =
      (insides (ofText t)).flatMap fun i => readers.filterMap fun read => read i := by
  rw [gather_eq, ← map_snd_tokens, List.flatMap_map]

/-- What is found before a token, in it, and behind it. -/
theorem Find.gather_append_token {α : Type} (h : i.filter isMark = [])
    (readers : List (Text → Option α)) (s r : Text) :
    gather readers (s ++ ((token i).source ++ r)) =
      gather readers s ++ ((readers.filterMap fun read => read i) ++ gather readers r) := by
  simp only [gather_eq_insides, ofText_append_token h, insides_append, insides_token,
    List.flatMap_append, List.flatMap_cons]

theorem Piece.dropTokens_eq_self {p : Text → Bool} (h : ∀ i ∈ insides (ofText s), p i = false) :
    dropTokens p s = s := by
  have hf : (ofText s).filter (keeps p) = ofText s := by
    refine List.filter_eq_self.2 fun q hq => ?_
    cases q with
    | plain run => rfl
    | token i =>
        have hi : i ∈ insides (ofText s) := List.mem_filterMap.2 ⟨token i, hq, rfl⟩
        simp [keeps, inside?, h i hi]
  rw [dropTokens_eq_filter, hf, source_ofText]

namespace Directive

/-- Passes leave a token that none of them drops where it is, and what is on its two sides apart. -/
theorem dropInTurn_append_token {kinds : List (Text → Bool)} (h : i.filter isMark = [])
    (hk : ∀ p ∈ kinds, p i = false) (s r : Text) :
    dropInTurn kinds (s ++ ((token i).source ++ r)) =
      dropInTurn kinds s ++ ((token i).source ++ dropInTurn kinds r) := by
  induction kinds generalizing s r with
  | nil => rfl
  | cons p kinds ih =>
      obtain ⟨hp, hk⟩ := List.forall_mem_cons.1 hk
      have hd : dropTokens p (s ++ ((token i).source ++ r)) =
          dropTokens p s ++ ((token i).source ++ dropTokens p r) := by
        simp [dropTokens_append_token h, keeps, inside?, hp]
      simp only [dropInTurn, List.foldl_cons] at ih ⊢
      rw [hd, ih hk]

/-- Passes drop a token that one of them drops from the front of a text. -/
theorem dropInTurn_token_append {kinds : List (Text → Bool)} (h : i.filter isMark = [])
    (hk : ∃ p ∈ kinds, p i = true) (r : Text) :
    dropInTurn kinds ((token i).source ++ r) = dropInTurn kinds r := by
  induction kinds generalizing r with
  | nil =>
      obtain ⟨p, hp, -⟩ := hk
      cases hp
  | cons p kinds ih =>
      have hd := dropTokens_append_token h p [] r
      rw [List.nil_append, show dropTokens p [] = [] from rfl, List.nil_append] at hd
      have hcons (t : Text) : dropInTurn (p :: kinds) t = dropInTurn kinds (dropTokens p t) := rfl
      rw [hcons, hcons, hd]
      cases hp : p i with
      | true => simp [keeps, inside?, hp]
      | false =>
          obtain ⟨q, hq, hqi⟩ := hk
          have hne : q ≠ p := by
            rintro rfl
            cases hp.symm.trans hqi
          have hrest := ih ⟨q, List.mem_of_ne_of_mem hne hq, hqi⟩ (dropTokens p r)
          simpa [keeps, inside?, hp] using hrest

theorem dropInTurn_eq_self {kinds : List (Text → Bool)}
    (h : ∀ i ∈ insides (ofText s), ∀ p ∈ kinds, p i = false) : dropInTurn kinds s = s := by
  induction kinds with
  | nil => rfl
  | cons p kinds ih =>
      have hp : dropTokens p s = s := dropTokens_eq_self fun i hi => h i hi p List.mem_cons_self
      have hk := ih fun i hi q hq => h i hi q (List.mem_cons_of_mem p hq)
      simp only [dropInTurn, List.foldl_cons] at hk ⊢
      rw [hp, hk]

theorem dropAssignments_eq_self (h : assignments s = []) : dropAssignments s = s := by
  refine dropInTurn_eq_self fun i hi p hp => ?_
  have hr := Find.gather_eq_nil_iff.1 h i hi
  simp only [assignmentReaders, List.forall_mem_cons] at hr
  simp only [List.mem_cons, List.not_mem_nil, or_false] at hp
  rcases hp with rfl | rfl | rfl
  · simp [hr.1]
  · simp [hr.2.1]
  · simp [hr.2.2.1]

theorem not_assignment_of_opening? (h : opening? opener = some test) :
    (assignmentReaders.filterMap fun read => read opener) = [] ∧
      ∀ p ∈ assignmentKinds, p opener = false := by
  have hr := List.filterMap_eq_nil_iff.1 (reads_of_opening? (h ▸ rfl : (opening? opener).isSome))
  have hset := Option.map_eq_none_iff.1 (hr (fun i => (set? i).map .assign) (by simp [readers_eq, byKind]))
  have hadd := Option.map_eq_none_iff.1 (hr (fun i => (add? i).map .assign) (by simp [readers_eq, byKind]))
  have hsub := Option.map_eq_none_iff.1 (hr (fun i => (sub? i).map .assign) (by simp [readers_eq, byKind]))
  simp [assignmentReaders, assignmentKinds, hset, hadd, hsub]

theorem afterWord?_of_isClosing {k : Char} {word : Text} (hw : fold word = word)
    (hh : word.head? = some k) (hk : k ≠ '/') (h : isClosing i = true) : afterWord? word i = none := by
  rw [Option.eq_none_iff_forall_ne_some]
  intro r hr
  obtain ⟨x, rfl, hx⟩ := (afterWord?_eq_some_iff hw).1 hr
  have hf := (isWord_iff (by decide)).1 h
  rw [fold, List.map_append, ← fold, hx] at hf
  have hc := congrArg List.head? hf
  rw [List.head?_append, hh] at hc
  exact hk (Option.some.inj hc)

theorem not_assignment_of_isClosing (h : isClosing i = true) :
    ∀ p ∈ assignmentKinds, p i = false := by
  have hset : set? i = none := by
    rw [set?, afterWord?_of_isClosing (by decide) (by decide : _ = some 's') (by decide) h]
    rfl
  have hadd : change? "add:" i = none := by
    rw [change?, afterWord?_of_isClosing (by decide) (by decide : _ = some 'a') (by decide) h]
    rfl
  have hsub : change? "sub:" i = none := by
    rw [change?, afterWord?_of_isClosing (by decide) (by decide : _ = some 's') (by decide) h]
    rfl
  simp [assignmentKinds, hset, add?, hadd, sub?, hsub]

theorem isClosing_of_opening? (h : opening? opener = some test) : isClosing opener = false := by
  obtain ⟨r, hr, -⟩ := exists_of_isSome_bind (h ▸ rfl : (opening? opener).isSome)
  obtain ⟨x, rfl, hx⟩ := (afterWord?_eq_some_iff (by decide)).1 hr
  refine Bool.eq_false_iff.2 fun hc => ?_
  have hf := (isWord_iff (by decide)).1 hc
  rw [fold, List.map_append] at hf
  rw [fold] at hx
  rw [hx] at hf
  cases hf

end Directive

end Gamebook
