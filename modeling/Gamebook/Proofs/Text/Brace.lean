import Gamebook.Text.Brace

/-!
# Pieces put together

When pieces of a text are dropped, what stands on the two sides of a gap meets. A new token comes
about only where a run with a loose opening brace meets a later one with a loose closing brace: a text
in which no such runs stand keeps the tokens that are left, and no others, whatever is dropped.
-/

namespace Gamebook

namespace Text

/-! ## Loose braces -/

/-- The characters that do not stand inside a token. -/
def isMark (c : Char) : Bool := c == '\x7b' || c == '\x7d' || c == '\n'

/-- Whether a token could begin in the text and end behind it: its last mark is an opening brace. -/
def Opens (t : Text) : Prop := (t.filter isMark).getLast? = some '\x7b'

/-- Whether a token could end in the text and begin before it: its first mark is a closing brace. -/
def Closes (t : Text) : Prop := (t.filter isMark).head? = some '\x7d'

instance : DecidablePred Opens := fun t =>
  inferInstanceAs (Decidable ((t.filter isMark).getLast? = some '\x7b'))

instance : DecidablePred Closes := fun t =>
  inferInstanceAs (Decidable ((t.filter isMark).head? = some '\x7d'))

variable {s t : Text} {c : Char}

theorem closes_append : Closes (s ++ t) ↔ Closes s ∨ s.filter isMark = [] ∧ Closes t := by
  rw [Closes, Closes, Closes, List.filter_append]
  cases s.filter isMark <;> simp

theorem opens_append : Opens (s ++ t) ↔ Opens t ∨ t.filter isMark = [] ∧ Opens s := by
  rw [Opens, Opens, Opens, List.filter_append, List.getLast?_append]
  cases ht : t.filter isMark with
  | nil => simp
  | cons d ds => simp [List.getLast?_cons]

theorem closes_cons : Closes (c :: t) ↔ c = '\x7d' ∨ isMark c = false ∧ Closes t := by
  rw [Closes, Closes, List.filter_cons]
  cases hc : isMark c with
  | true => simp
  | false =>
      have hne : c ≠ '\x7d' := by
        rintro rfl
        cases hc
      simp [hne]

theorem not_closes_nil : ¬ Closes [] := nofun

theorem Opens.cons (h : Opens t) (c : Char) : Opens (c :: t) :=
  opens_append (s := [c]).2 (.inl h)

/-- The last loose opening brace of a text. -/
theorem Opens.exists_eq (h : Opens t) : ∃ a b, t = a ++ '\x7b' :: b ∧ b.filter isMark = [] := by
  induction t with
  | nil => cases h
  | cons c t ih =>
      rcases (opens_append (s := [c])).1 h with h | ⟨hn, h⟩
      · obtain ⟨a, b, rfl, hb⟩ := ih h
        exact ⟨c :: a, b, rfl, hb⟩
      · refine ⟨[], t, ?_, hn⟩
        rw [Opens, List.filter_cons] at h
        split at h
        · cases h
          rfl
        · cases h

/-- The first loose closing brace of a text. -/
theorem Closes.exists_eq (h : Closes t) : ∃ a b, t = a ++ '\x7d' :: b ∧ a.filter isMark = [] := by
  induction t with
  | nil => cases h
  | cons c t ih =>
      rcases closes_cons.1 h with rfl | ⟨hc, h⟩
      · exact ⟨[], t, rfl, rfl⟩
      · obtain ⟨a, b, rfl, ha⟩ := ih h
        exact ⟨c :: a, b, rfl, by simp [hc, ha]⟩

end Text

namespace Piece

open Text

variable {c : Char} {t run inner : Text} {p x : Piece} {ps qs : List Piece}

/-! ## Scanning -/

theorem isSome_scan : (scan t).2.isSome = true ↔ Closes t := by
  induction t with
  | nil => simp [scan, not_closes_nil]
  | cons c r ih =>
      rw [closes_cons, ← ih]
      simp only [scan]
      generalize scan r = found
      obtain ⟨ps, closing⟩ := found
      by_cases h₁ : c = '\x7d'
      · simp [h₁]
      · by_cases h₂ : c = '\x7b'
        · cases closing <;> simp [h₂, isMark]
        · by_cases h₃ : c = '\n' <;> simp [h₁, h₂, h₃, isMark]

/-- A character before a text is plain unless it opens a token that the text closes. -/
theorem ofText_cons (h : c = '\x7b' → ¬ Closes t) : ofText (c :: t) = consPlain c (ofText t) := by
  rw [← isSome_scan] at h
  simp only [ofText, scan]
  generalize scan t = found at h ⊢
  obtain ⟨ps, closing⟩ := found
  by_cases h₁ : c = '\x7d'
  · simp [h₁]
  · by_cases h₂ : c = '\x7b'
    · cases closing with
      | none => simp [h₂]
      | some found => exact absurd rfl (h h₂)
    · by_cases h₃ : c = '\n' <;> simp [h₁, h₂, h₃]

theorem scan_inside (h : inner.filter isMark = []) :
    (scan (inner ++ '\x7d' :: t)).2 = some (inner, ofText t) := by
  induction inner with
  | nil => simp [scan, ofText]
  | cons c inner ih =>
      rw [List.filter_cons] at h
      split at h
      · cases h
      · next hc =>
          simp only [isMark, Bool.or_eq_true, beq_iff_eq, not_or] at hc
          simp [scan, hc, ih h]

theorem ofText_token (h : inner.filter isMark = []) :
    ofText ('\x7b' :: (inner ++ '\x7d' :: t)) = token inner :: ofText t := by
  simp [ofText, scan, scan_inside h]

/-! ## Insides -/

/-- The inside of a token. -/
def inside? : Piece → Option Text
  | plain _ => none
  | token inner => some inner

/-- The insides of the tokens among pieces. -/
def insides (ps : List Piece) : List Text := ps.filterMap inside?

@[simp] theorem insides_plain : insides (plain run :: ps) = insides ps := rfl

@[simp] theorem insides_token : insides (token inner :: ps) = inner :: insides ps := rfl

@[simp] theorem insides_consPlain : insides (consPlain c ps) = insides ps := by
  cases ps with
  | nil => rfl
  | cons p ps => cases p <;> rfl

@[simp] theorem insides_foldr_consPlain : insides (run.foldr consPlain ps) = insides ps := by
  induction run with
  | nil => rfl
  | cons c run ih => rw [List.foldr_cons, insides_consPlain, ih]

theorem map_snd_tokens : (tokens t).map (·.2) = insides (ofText t) := by
  rw [tokens]
  generalize ofText t = ps
  generalize 0 = start
  induction ps generalizing start with
  | nil => rfl
  | cons p ps ih =>
      cases p with
      | plain run => exact ih _
      | token inner => exact congrArg (inner :: ·) (ih _)

/-! ## Pieces of a text -/

/-- Whether a piece is one that a text can have: a run without tokens, or a token. -/
def Proper : Piece → Prop
  | plain run => insides (ofText run) = []
  | token inner => inner.filter isMark = []

theorem proper_consPlain (h : ∀ p ∈ ps, p.Proper)
    (hc : c = '\x7b' → ¬ Closes (ps.flatMap source)) : ∀ p ∈ consPlain c ps, p.Proper := by
  have hone : Proper (plain [c]) := by
    rw [Proper, ofText_cons fun _ => not_closes_nil]
    rfl
  cases ps with
  | nil => simpa [consPlain] using hone
  | cons p ps =>
      cases p with
      | token inner => exact List.forall_mem_cons.2 ⟨hone, h⟩
      | plain run =>
          obtain ⟨hr, hps⟩ := List.forall_mem_cons.1 h
          refine List.forall_mem_cons.2 ⟨?_, hps⟩
          have hcl : c = '\x7b' → ¬ Closes run := fun he hcl => hc he (closes_append.2 (.inl hcl))
          rw [Proper, ofText_cons hcl, insides_consPlain]
          exact hr

theorem proper_scan (t : Text) : (∀ p ∈ (scan t).1, p.Proper) ∧
    ∀ inner rest, (scan t).2 = some (inner, rest) →
      inner.filter isMark = [] ∧ ∀ p ∈ rest, p.Proper := by
  induction t with
  | nil => simp [scan]
  | cons c r ih =>
      have hs := isSome_scan (t := r)
      have hr := (source_scan r).1
      simp only [scan]
      generalize scan r = found at ih hs hr ⊢
      obtain ⟨ps, closing⟩ := found
      obtain ⟨hps, hcl⟩ := ih
      simp only at hps hcl hs hr
      subst hr
      by_cases h₁ : c = '\x7d'
      · subst h₁
        simpa using ⟨proper_consPlain hps fun h => absurd h (by decide), fun _ h => hps _ h⟩
      · by_cases h₂ : c = '\x7b'
        · subst h₂
          cases closing with
          | none => simpa using proper_consPlain hps fun _ => by simp [← hs]
          | some found =>
              obtain ⟨hi, hrest⟩ := hcl _ _ rfl
              simpa using ⟨hi, hrest⟩
        · have hp := proper_consPlain hps fun he => absurd he h₂
          by_cases h₃ : c = '\n'
          · simpa [h₁, h₂, h₃] using h₃ ▸ hp
          · refine ⟨by simpa [h₁, h₂, h₃] using hp, ?_⟩
            rintro inner rest he
            simp only [h₁, h₂, h₃, if_false, Option.map_eq_some_iff] at he
            obtain ⟨⟨i, rs⟩, rfl, he⟩ := he
            cases he
            obtain ⟨hi, hrest⟩ := hcl _ _ rfl
            exact ⟨by simp [isMark, h₁, h₂, h₃, hi], hrest⟩

theorem proper_of_mem_ofText (h : p ∈ ofText t) : p.Proper := (proper_scan t).1 p h

/-! ## Meeting runs -/

/-- A run without tokens before a text stays plain unless it opens a token that the text closes. -/
theorem ofText_append (hr : insides (ofText run) = []) (h : ¬ (Opens run ∧ Closes t)) :
    ofText (run ++ t) = run.foldr consPlain (ofText t) := by
  induction run with
  | nil => rfl
  | cons c run ih =>
      have hc : c = '\x7b' → ¬ Closes run := by
        rintro rfl hcl
        obtain ⟨a, b, rfl, ha⟩ := hcl.exists_eq
        rw [ofText_token ha] at hr
        cases hr
      rw [ofText_cons hc, insides_consPlain] at hr
      have ht : c = '\x7b' → ¬ Closes (run ++ t) := by
        rintro rfl hcl
        rcases closes_append.1 hcl with hcl | ⟨hn, hcl⟩
        · exact hc rfl hcl
        · exact h ⟨(opens_append (s := ['\x7b'])).2 (.inr ⟨hn, rfl⟩), hcl⟩
      rw [List.cons_append, ofText_cons ht, List.foldr_cons, ih hr fun ho => h ⟨ho.1.cons c, ho.2⟩]

/-- Pieces in which runs that meet are one. -/
def join : List Piece → List Piece
  | [] => []
  | plain run :: ps => run.foldr consPlain (join ps)
  | token inner :: ps => token inner :: join ps

@[simp] theorem insides_join : insides (join ps) = insides ps := by
  induction ps with
  | nil => rfl
  | cons p ps ih =>
      cases p with
      | plain run => rw [join, insides_foldr_consPlain, ih, insides_plain]
      | token inner => rw [join, insides_token, ih, insides_token]

/-- Whether no piece that opens a token stands before one that closes it. -/
def Apart (ps : List Piece) : Prop := ps.Pairwise fun p q => ¬ (Opens p.source ∧ Closes q.source)

instance : DecidablePred Apart := fun ps =>
  inferInstanceAs (Decidable (ps.Pairwise fun p q => ¬ (Opens p.source ∧ Closes q.source)))

theorem exists_closes (h : Closes (ps.flatMap source)) : ∃ p ∈ ps, Closes p.source := by
  induction ps with
  | nil => cases h
  | cons p ps ih =>
      rcases closes_append.1 h with h | ⟨-, h⟩
      · exact ⟨p, List.mem_cons_self, h⟩
      · obtain ⟨q, hq, h⟩ := ih h
        exact ⟨q, List.mem_cons_of_mem p hq, h⟩

theorem source_token : (token inner).source = '\x7b' :: (inner ++ '\x7d' :: []) := rfl

theorem not_opens_token (h : inner.filter isMark = []) : ¬ Opens (token inner).source := by
  intro ho
  simp [Opens, source, h, isMark] at ho

theorem not_closes_token : ¬ Closes (token inner).source := by
  simp [Closes, source, isMark]

/-- Pieces that are apart are the pieces of their text, but for runs that meet. -/
theorem ofText_flatMap_source (hp : ∀ p ∈ ps, p.Proper) (ha : Apart ps) :
    ofText (ps.flatMap source) = join ps := by
  induction ps with
  | nil => rfl
  | cons p ps ih =>
      obtain ⟨hp, hps⟩ := List.forall_mem_cons.1 hp
      obtain ⟨hcl, ha⟩ := List.pairwise_cons.1 ha
      have ih := ih hps ha
      rw [List.flatMap_cons]
      cases p with
      | plain run =>
          rw [join, ← ih, source]
          refine ofText_append hp fun h => ?_
          obtain ⟨q, hq, hc⟩ := exists_closes h.2
          exact hcl q hq ⟨h.1, hc⟩
      | token inner =>
          rw [join, ← ih, source_token, List.cons_append, List.append_assoc]
          exact ofText_token hp

theorem foldr_consPlain (ps : List Piece) (hr : run ≠ []) : ∃ s qs,
    run.foldr consPlain ps = plain (run ++ s) :: qs ∧ (s = [] ∧ ps = qs ∨ ps = plain s :: qs) := by
  induction run with
  | nil => exact absurd rfl hr
  | cons c run ih =>
      by_cases hn : run = []
      · subst hn
        match ps with
        | [] => exact ⟨[], [], rfl, .inl ⟨rfl, rfl⟩⟩
        | plain s :: qs => exact ⟨s, qs, rfl, .inr rfl⟩
        | token inner :: qs => exact ⟨[], token inner :: qs, rfl, .inl ⟨rfl, rfl⟩⟩
      · obtain ⟨s, qs, he, hs⟩ := ih hn
        exact ⟨s, qs, by rw [List.foldr_cons, he]; rfl, hs⟩

/-! ## Divided pieces -/

/-- Whether no run is empty and none meets another. -/
def Divided : List Piece → Prop
  | [] => True
  | plain run :: ps => run ≠ [] ∧ (∀ s qs, ps ≠ plain s :: qs) ∧ Divided ps
  | token _ :: ps => Divided ps

theorem divided_consPlain (c : Char) (h : Divided ps) : Divided (consPlain c ps) := by
  cases ps with
  | nil => exact ⟨List.cons_ne_nil c [], nofun, h⟩
  | cons p ps =>
      cases p with
      | plain run => exact ⟨List.cons_ne_nil c run, h.2⟩
      | token inner => exact ⟨List.cons_ne_nil c [], nofun, h⟩

theorem divided_scan (t : Text) :
    Divided (scan t).1 ∧ ∀ inner rest, (scan t).2 = some (inner, rest) → Divided rest := by
  induction t with
  | nil => exact ⟨trivial, nofun⟩
  | cons c r ih =>
      simp only [scan]
      generalize scan r = found at ih
      obtain ⟨ps, closing⟩ := found
      obtain ⟨hps, hcl⟩ := ih
      have hc := divided_consPlain c hps
      by_cases h₁ : c = '\x7d'
      · simpa [h₁] using ⟨h₁ ▸ hc, hps⟩
      · by_cases h₂ : c = '\x7b'
        · cases closing with
          | none => simpa [h₂] using h₂ ▸ hc
          | some found => simpa [h₂, Divided] using hcl _ _ rfl
        · by_cases h₃ : c = '\n'
          · simpa [h₁, h₂, h₃] using h₃ ▸ hc
          · refine ⟨by simpa [h₁, h₂, h₃] using hc, ?_⟩
            rintro inner rest he
            simp only [h₁, h₂, h₃, if_false, Option.map_eq_some_iff] at he
            obtain ⟨⟨i, rs⟩, rfl, he⟩ := he
            cases he
            exact hcl _ _ rfl

/-- A text is cut into runs as long as they can be. -/
theorem divided_ofText (t : Text) : Divided (ofText t) := (divided_scan t).1

theorem Divided.not_closes (h : Divided (plain run :: ps)) : ¬ Closes (ps.flatMap source) := by
  cases ps with
  | nil => exact not_closes_nil
  | cons p ps =>
      cases p with
      | plain s => exact absurd rfl (h.2.1 s ps)
      | token inner =>
          rw [List.flatMap_cons, source_token, List.cons_append, closes_cons]
          rintro (h | ⟨h, -⟩) <;> cases h

/-- Divided pieces are the pieces of their text. -/
theorem Divided.ofText_flatMap_source (h : Divided ps) (hp : ∀ p ∈ ps, p.Proper) :
    ofText (ps.flatMap source) = ps := by
  induction ps with
  | nil => rfl
  | cons p ps ih =>
      obtain ⟨hp, hps⟩ := List.forall_mem_cons.1 hp
      rw [List.flatMap_cons]
      cases p with
      | plain run =>
          have hr : ofText (run ++ ps.flatMap source) = run.foldr consPlain ps := by
            rw [ofText_append hp fun ho => h.not_closes ho.2, ih h.2.2 hps]
          obtain ⟨s, qs, he, ⟨rfl, rfl⟩ | hs⟩ := foldr_consPlain ps h.1
          · rw [source, hr, he, List.append_nil]
          · exact absurd hs (h.2.1 s qs)
      | token inner =>
          rw [source_token, List.cons_append, List.append_assoc]
          exact (ofText_token hp).trans (congrArg (token inner :: ·) (ih h hps))

/-! ## Joined pieces that are apart -/

theorem exists_closes_of_join (hx : x ∈ join ps) (h : Closes x.source) :
    ∃ p ∈ ps, Closes p.source := by
  induction ps generalizing x with
  | nil => cases hx
  | cons p ps ih =>
      have htail {y : Piece} (hy : y ∈ join ps) (h : Closes y.source) :
          ∃ q ∈ p :: ps, Closes q.source := by
        obtain ⟨q, hq, h⟩ := ih hy h
        exact ⟨q, List.mem_cons_of_mem p hq, h⟩
      cases p with
      | token inner =>
          rcases List.mem_cons.1 hx with rfl | hx
          · exact absurd h not_closes_token
          · exact htail hx h
      | plain run =>
          rw [join] at hx
          by_cases hr : run = []
          · subst hr
            exact htail hx h
          obtain ⟨s, qs, he, hs⟩ := foldr_consPlain (join ps) hr
          rw [he] at hx
          rcases List.mem_cons.1 hx with rfl | hx
          · rcases closes_append.1 h with h | ⟨-, h⟩
            · exact ⟨plain run, List.mem_cons_self, h⟩
            · rcases hs with ⟨rfl, -⟩ | hs
              · exact absurd h not_closes_nil
              · exact htail (y := plain s) (hs ▸ List.mem_cons_self) h
          · rcases hs with ⟨-, hs⟩ | hs
            · exact htail (hs ▸ hx) h
            · exact htail (hs ▸ List.mem_cons_of_mem _ hx) h

theorem Apart.join (hp : ∀ p ∈ ps, p.Proper) (h : Apart ps) : Apart (join ps) := by
  induction ps with
  | nil => exact .nil
  | cons p ps ih =>
      obtain ⟨hp, hps⟩ := List.forall_mem_cons.1 hp
      obtain ⟨hcl, ha⟩ := List.pairwise_cons.1 h
      have ih := ih hps ha
      cases p with
      | token inner =>
          exact List.pairwise_cons.2 ⟨fun q _ ho => not_opens_token hp ho.1, ih⟩
      | plain run =>
          have hafter {q : Piece} (hq : q ∈ Piece.join ps) : ¬ (Opens run ∧ Closes q.source) := by
            rintro ⟨ho, hc⟩
            obtain ⟨r, hr, hc⟩ := exists_closes_of_join hq hc
            exact hcl r hr ⟨ho, hc⟩
          rw [Piece.join]
          by_cases hr : run = []
          · subst hr
            exact ih
          obtain ⟨s, qs, he, ⟨rfl, hs⟩ | hs⟩ := foldr_consPlain (Piece.join ps) hr
          · rw [he, List.append_nil, ← hs]
            exact List.pairwise_cons.2 ⟨fun q hq => hafter hq, ih⟩
          · rw [hs] at ih
            obtain ⟨hfirst, hqs⟩ := List.pairwise_cons.1 ih
            rw [he]
            refine List.pairwise_cons.2 ⟨fun q hq ⟨ho, hc⟩ => ?_, hqs⟩
            rcases opens_append.1 ho with ho | ⟨-, ho⟩
            · exact hfirst q hq ⟨ho, hc⟩
            · exact hafter (hs ▸ List.mem_cons_of_mem _ hq) ⟨ho, hc⟩

end Piece

/-! ## Dropping pieces -/

/-- Whether no run of the text with a loose opening brace stands before one with a loose closing
brace. -/
def Text.Apart (t : Text) : Prop := Piece.Apart (Piece.ofText t)

instance : DecidablePred Text.Apart := fun t =>
  inferInstanceAs (Decidable (Piece.Apart (Piece.ofText t)))

namespace Piece

open Text

variable {t run : Text} {qs : List Piece}

/-- What is left of an apart text is apart, and its tokens are those that are left. -/
theorem apart_of_sublist (h : t.Apart) (hs : qs.Sublist (ofText t)) :
    Text.Apart (qs.flatMap source) ∧ insides (ofText (qs.flatMap source)) = insides qs := by
  have hp : ∀ p ∈ qs, p.Proper := fun p hp => proper_of_mem_ofText (hs.subset hp)
  have ha : Apart qs := h.sublist hs
  rw [Text.Apart, ofText_flatMap_source hp ha]
  exact ⟨ha.join hp, insides_join⟩

/-- A text that has a token keeps one whatever stands before it. -/
theorem insides_append_ne_nil (h : insides (ofText t) ≠ []) (s : Text) :
    insides (ofText (s ++ t)) ≠ [] := by
  induction s with
  | nil => exact h
  | cons c s ih =>
      by_cases hc : c = '\x7b' → ¬ Closes (s ++ t)
      · rwa [List.cons_append, ofText_cons hc, insides_consPlain]
      · simp only [Classical.not_imp, Decidable.not_not] at hc
        obtain ⟨rfl, hc⟩ := hc
        obtain ⟨a, b, he, ha⟩ := hc.exists_eq
        rw [List.cons_append, he, ofText_token ha]
        nofun

theorem insides_ne_nil_of_opens (ho : Opens run) (hc : Closes t) :
    insides (ofText (run ++ t)) ≠ [] := by
  obtain ⟨a, b, rfl, hb⟩ := ho.exists_eq
  obtain ⟨b', c, rfl, hb'⟩ := hc.exists_eq
  have hi : (b ++ b').filter isMark = [] := by rw [List.filter_append, hb, hb']; rfl
  have ht : a ++ '\x7b' :: b ++ (b' ++ '\x7d' :: c) =
      a ++ '\x7b' :: ((b ++ b') ++ '\x7d' :: c) := by
    simp only [List.append_assoc, List.cons_append]
  rw [ht]
  refine insides_append_ne_nil ?_ a
  rw [ofText_token hi]
  nofun

/-- A text is apart exactly if it gets no new tokens, whichever of its pieces are dropped. -/
theorem apart_iff : t.Apart ↔
    ∀ qs, qs.Sublist (ofText t) → insides (ofText (qs.flatMap source)) = insides qs := by
  constructor
  · exact fun h qs hs => (apart_of_sublist h hs).2
  · intro h
    rw [Text.Apart, Apart, List.pairwise_iff_forall_sublist]
    intro p q hs ⟨ho, hc⟩
    have hpq := h [p, q] hs
    have hp : p.Proper := proper_of_mem_ofText (hs.subset (by simp))
    cases p with
    | token inner => exact not_opens_token hp ho
    | plain run =>
        cases q with
        | token inner => exact not_closes_token hc
        | plain s =>
            rw [List.flatMap_cons, List.flatMap_cons, List.flatMap_nil, List.append_nil] at hpq
            exact insides_ne_nil_of_opens ho hc hpq

end Piece
end Gamebook
