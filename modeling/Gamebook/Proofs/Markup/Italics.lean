import Gamebook.Proofs.Markup.Styled

/-!
# Italics by underscores

Which pairs of underscores a run is made italic at, said of the whole run at once: a pair stands free of
words on both sides, and none of its underscores has closed a pair before. The search for them goes from
the left with two places, up to where the run is written and from where it is searched; it comes to an
end and writes the run with these pairs as tags and all else as it is.
-/

namespace Gamebook.Markup

open Text

/-! ## Pairs of underscores -/

/-- Whether underscores stand at two places of a run, on one line, with something between them that has
no underscore. -/
structure IsPair (run : Text) (i j : Nat) : Prop where
  opening : run[i]? = some '_'
  closing : run[j]? = some '_'
  apart : i + 1 < j
  inside : ∀ k c, i < k → k < j → run[k]? = some c → c ≠ '_' ∧ c ≠ '\n'

/-- Whether no letter of a word touches a pair from outside. -/
structure StandsFree (run : Text) (i j : Nat) : Prop where
  front : ∀ k c, k + 1 = i → run[k]? = some c → isWordLetter c = false
  behind : ∀ c, run[j + 1]? = some c → isWordLetter c = false

/-- Whether a pair becomes italic: it stands free, and its opening underscore does not close another pair
that does. -/
def IsItalic (run : Text) (i j : Nat) : Prop :=
  IsPair run i j ∧ StandsFree run i j ∧ ∀ h, h < i → ¬ IsItalic run h i
termination_by i

open Classical in
/-- What is written for the character at a place of a run. -/
noncomputable def mark (run : Text) (c : Char) (k : Nat) : Text :=
  if ∃ j, IsItalic run k j then "<em>".toList
  else if ∃ i, IsItalic run i k then "</em>".toList
  else [c]

/-- What is written for the characters of a part of a run that starts at a place. -/
noncomputable def marked (run : Text) (k : Nat) : Text → Text
  | [] => []
  | c :: t => mark run c k ++ marked run (k + 1) t

/-- A run with the underscores of its italic pairs as tags and all else as it is. -/
noncomputable def italicized (run : Text) : Text := marked run 0 run

/-! ## The search -/

/-- Where a search for italics stands: what is written, up to where the run is written, and from where it
is searched. -/
structure Search where
  written : Text
  copied : Nat
  place : Nat

namespace Search

/-- The search at its beginning. -/
def start : Search := ⟨[], 0, 0⟩

/-- The part of a run between two places. -/
def slice (run : Text) (i j : Nat) : Text := (run.take j).drop i

/-- The place and the inside of the first pair from a place on. -/
def firstPair? (run : Text) (place : Nat) : Option (Nat × Text) :=
  (splitFirst? (span? ['_'] '_') (run.drop place)).map fun (before, inside, _) =>
    (place + before.length, inside)

/-- Whether a letter of a word stands in front of the first place or at the second. -/
def touchesWord (run : Text) (i stop : Nat) : Bool :=
  (run.take i).getLast?.any isWordLetter || (run.drop stop).head?.any isWordLetter

/-- One step: behind the opening underscore of a pair that touches a word, or behind a pair, which is
written as an element. -/
def next? (run : Text) (s : Search) : Option Search :=
  (firstPair? run s.place).map fun (i, inside) =>
    let stop := i + inside.length + 2
    if touchesWord run i stop then { s with place := i + 1 }
    else ⟨s.written ++ slice run s.copied i ++ element "em" inside, stop, stop⟩

/-- What is written when no pair is found any more. -/
def result (run : Text) (s : Search) : Text := s.written ++ run.drop s.copied

/-- Whether a search ends after so many steps, and with what. -/
inductive Ends (run : Text) : Nat → Search → Text → Prop
  | done {s : Search} (h : s.next? run = none) : Ends run 0 s (s.result run)
  | step {n : Nat} {s next : Search} {t : Text} (h : s.next? run = some next)
      (he : Ends run n next t) : Ends run (n + 1) s t

end Search

/-! ## Pairs at a place -/

variable {run pre t inside rest new : Text} {i j k : Nat}

theorem span?_underscore_iff : span? ['_'] '_' t = some (inside, rest) ↔
    t = '_' :: (inside ++ '_' :: rest) ∧ inside ≠ [] ∧ ∀ c ∈ inside, c ≠ '_' ∧ c ≠ '\n' := by
  constructor
  · intro h
    have ht := span?_eq_some h
    rw [span?, Option.bind_eq_bind, Option.bind_eq_some_iff] at h
    obtain ⟨r, -, h⟩ := h
    dsimp only at h
    split at h
    · cases h
    · next hne =>
        obtain ⟨behind, -, he⟩ := Option.map_eq_some_iff.1 h
        cases he
        refine ⟨by simpa using ht, hne, fun c hc => ?_⟩
        simpa using List.mem_takeWhile_imp hc
  · rintro ⟨rfl, hne, hin⟩
    have ht : (inside ++ '_' :: rest).takeWhile (fun c => c ≠ '_' ∧ c ≠ '\n') = inside := by
      rw [List.takeWhile_append_of_pos fun c hc => by simpa using hin c hc,
        List.takeWhile_cons_of_neg (by simp), List.append_nil]
    have ha : after? ['_'] ('_' :: (inside ++ '_' :: rest)) = some (inside ++ '_' :: rest) :=
      after?_append ['_'] _
    rw [span?, ha, Option.bind_eq_bind, Option.bind_some]
    dsimp only
    rw [ht, if_neg hne, List.drop_left]
    exact congrArg (Option.map (inside, ·)) (after?_append ['_'] rest)

theorem getElem?_behind (pre t : Text) (k : Nat) : (pre ++ t)[pre.length + k]? = t[k]? := by
  rw [List.getElem?_append_right (Nat.le_add_right _ _), Nat.add_sub_cancel_left]

theorem IsPair.exists_inside (h : IsPair (pre ++ t) pre.length j) :
    ∃ inside rest, t = '_' :: (inside ++ '_' :: rest) ∧ j = pre.length + (inside.length + 1) ∧
      ∀ c ∈ inside, c ≠ '_' ∧ c ≠ '\n' := by
  have hj := h.apart
  obtain ⟨n, rfl⟩ : ∃ n, j = pre.length + (n + 1) := ⟨j - pre.length - 1, by omega⟩
  have ho : t[0]? = some '_' := (getElem?_behind pre t 0).symm.trans h.opening
  have hc : t[n + 1]? = some '_' := (getElem?_behind pre t (n + 1)).symm.trans h.closing
  cases t with
  | nil => cases ho
  | cons d u =>
      obtain rfl : d = '_' := Option.some.inj ho
      rw [List.getElem?_cons_succ] at hc
      obtain ⟨hn, hu⟩ := List.getElem?_eq_some_iff.1 hc
      have hsplit : u = u.take n ++ '_' :: u.drop (n + 1) := by
        rw [← hu, ← List.drop_eq_getElem_cons hn, List.take_append_drop]
      have hl : (u.take n).length = n := List.length_take_of_le (Nat.le_of_lt hn)
      refine ⟨u.take n, u.drop (n + 1), congrArg _ hsplit, by rw [hl], fun c hc => ?_⟩
      obtain ⟨k, hk⟩ := List.mem_iff_getElem?.1 hc
      have hkn : k < n := by
        have := (List.getElem?_eq_some_iff.1 hk).1
        omega
      rw [List.getElem?_take_of_lt hkn] at hk
      refine h.inside (pre.length + (k + 1)) c (by omega) (by omega) ?_
      rw [getElem?_behind, List.getElem?_cons_succ, hk]

/-- The pairs that open at a place are what is found there. -/
theorem isPair_iff : IsPair (pre ++ t) pre.length j ↔
    ∃ inside rest, span? ['_'] '_' t = some (inside, rest) ∧ j = pre.length + (inside.length + 1) := by
  constructor
  · intro h
    obtain ⟨inside, rest, ht, hj, hin⟩ := h.exists_inside
    refine ⟨inside, rest, span?_underscore_iff.2 ⟨ht, ?_, hin⟩, hj⟩
    rintro rfl
    have := h.apart
    simp only [List.length_nil] at hj
    omega
  · rintro ⟨inside, rest, hs, rfl⟩
    obtain ⟨rfl, hne, hin⟩ := span?_underscore_iff.1 hs
    have hpos := List.length_pos_of_ne_nil hne
    refine ⟨getElem?_behind pre _ 0, ?_, by omega, fun k c hk hkj hc => ?_⟩
    · rw [getElem?_behind, List.getElem?_cons_succ, List.getElem?_append_right (Nat.le_refl _)]
      simp
    · obtain ⟨m, rfl⟩ : ∃ m, k = pre.length + (m + 1) := ⟨k - pre.length - 1, by omega⟩
      rw [getElem?_behind, List.getElem?_cons_succ, List.getElem?_append_left (by omega)] at hc
      exact hin c (List.mem_of_getElem? hc)

theorem IsPair.unique (h : IsPair run i j) (h' : IsPair run i k) : j = k := by
  have hj := h.apart
  have hk := h'.apart
  by_contra hne
  rcases Nat.lt_or_gt_of_ne hne with hlt | hlt
  · exact (h'.inside j '_' (by omega) hlt h.closing).1 rfl
  · exact (h.inside k '_' (by omega) hlt h'.closing).1 rfl

theorem standsFree_iff (pre t : Text) (n : Nat) : StandsFree (pre ++ t) pre.length (pre.length + n) ↔
    pre.getLast?.any isWordLetter = false ∧ (t.drop (n + 1)).head?.any isWordLetter = false := by
  have hf : (∀ k c, k + 1 = pre.length → (pre ++ t)[k]? = some c → isWordLetter c = false) ↔
      pre.getLast?.any isWordLetter = false := by
    rw [List.getLast?_eq_getElem?]
    constructor
    · intro h
      cases hc : pre[pre.length - 1]? with
      | none => rfl
      | some c =>
          have hl := (List.getElem?_eq_some_iff.1 hc).1
          exact h (pre.length - 1) c (by omega) (by rw [List.getElem?_append_left hl, hc])
    · intro h k c hk hc
      rw [List.getElem?_append_left (by omega)] at hc
      rw [← hk, Nat.add_sub_cancel, hc] at h
      exact h
  have hb : (∀ c, (pre ++ t)[pre.length + n + 1]? = some c → isWordLetter c = false) ↔
      (t.drop (n + 1)).head?.any isWordLetter = false := by
    rw [Nat.add_assoc, getElem?_behind, List.head?_drop]
    cases t[n + 1]? <;> simp
  exact ⟨fun h => ⟨hf.1 h.front, hb.1 h.behind⟩, fun h => ⟨hf.2 h.1, hb.2 h.2⟩⟩

/-! ## What is written at a place -/

theorem IsItalic.isPair (h : IsItalic run i j) : IsPair run i j := by
  rw [IsItalic] at h
  exact h.1

theorem IsItalic.not_closing (h : IsItalic run i j) (k : Nat) : ¬ IsItalic run k i := by
  intro hk
  have := hk.isPair.apart
  rw [IsItalic] at h
  exact h.2.2 k (by omega) hk

theorem mark_opening (h : IsItalic run i j) (c : Char) : mark run c i = "<em>".toList :=
  if_pos ⟨j, h⟩

theorem mark_closing (h : IsItalic run i j) (c : Char) : mark run c j = "</em>".toList := by
  rw [mark, if_neg fun ⟨_, hk⟩ => hk.not_closing i h, if_pos ⟨i, h⟩]

theorem mark_plain {c : Char} (ho : ∀ j, ¬ IsItalic run k j) (hc : ∀ i, ¬ IsItalic run i k) :
    mark run c k = [c] := by
  rw [mark, if_neg fun ⟨j, h⟩ => ho j h, if_neg fun ⟨i, h⟩ => hc i h]

theorem mark_of_ne {c : Char} (hk : run[k]? = some c) (hc : c ≠ '_') : mark run c k = [c] :=
  mark_plain (fun _ h => hc (Option.some.inj (hk.symm.trans h.isPair.opening)))
    (fun _ h => hc (Option.some.inj (hk.symm.trans h.isPair.closing)))

/-! ## From one place on -/

/-- What is found at a place: a pair of underscores that stands free. -/
def underscores : Matcher := fun before t =>
  match span? ['_'] '_' t with
  | none => none
  | some (inside, rest) =>
    if before.any isWordLetter || rest.head?.any isWordLetter then none
    else some (element "em" inside, rest)

theorem italicizeUnderscores_eq_replaceMatches (run : Text) :
    italicizeUnderscores run = replaceMatches underscores run := rfl

/-- Whether no italic pair of a run lies on both sides of a place. -/
def Clear (run : Text) (k : Nat) : Prop := ∀ i j, IsItalic run i j → i < k → j < k

/-- At a clear place an italic pair is found if one opens there. -/
theorem underscores_eq_some_iff (hc : Clear (pre ++ t) pre.length) :
    underscores pre.getLast? t = some (new, rest) ↔ ∃ inside, new = element "em" inside ∧
      span? ['_'] '_' t = some (inside, rest) ∧
      IsItalic (pre ++ t) pre.length (pre.length + (inside.length + 1)) := by
  have hfree {inside rest : Text} (hs : span? ['_'] '_' t = some (inside, rest)) :
      StandsFree (pre ++ t) pre.length (pre.length + (inside.length + 1)) ↔
        (pre.getLast?.any isWordLetter || rest.head?.any isWordLetter) = false := by
    obtain ⟨rfl, -⟩ := span?_underscore_iff.1 hs
    have hr : ('_' :: (inside ++ '_' :: rest)).drop (inside.length + 1 + 1) = rest := by
      simp [List.drop_append]
    rw [standsFree_iff, hr, Bool.or_eq_false_iff]
  constructor
  · intro h
    unfold underscores at h
    split at h
    · cases h
    · next inside behind hs =>
        split at h
        · cases h
        · next hw =>
            cases h
            refine ⟨inside, rfl, hs, ?_⟩
            rw [IsItalic]
            exact ⟨isPair_iff.2 ⟨inside, rest, hs, rfl⟩, (hfree hs).2 (Bool.eq_false_iff.2 hw),
              fun k hk hi => absurd (hc k _ hi hk) (Nat.lt_irrefl _)⟩
  · rintro ⟨inside, rfl, hs, hi⟩
    rw [IsItalic] at hi
    simp only [underscores, hs, (hfree hs).1 hi.2.1, Bool.false_eq_true, ↓reduceIte]

theorem Clear.not_closing {run : Text} (h : Clear run k) (i : Nat) : ¬ IsItalic run i k := by
  intro hi
  have hlt : i < k := by
    have := hi.isPair.apart
    omega
  exact Nat.lt_irrefl k (h i k hi hlt)

theorem Clear.succ (h : Clear run k) (hn : ∀ j, ¬ IsItalic run k j) : Clear run (k + 1) := by
  intro i j hi hk
  rcases Nat.lt_or_eq_of_le (Nat.le_of_lt_succ hk) with hlt | rfl
  · exact Nat.lt_succ_of_lt (h i j hi hlt)
  · exact absurd hi (hn j)

/-- Behind an italic pair the place is clear again: its closing underscore opens no other. -/
theorem Clear.behind (h : Clear run k) (hk : IsItalic run k j) : Clear run (j + 1) := by
  intro a b hab ha
  rcases Nat.lt_trichotomy a k with hlt | rfl | hgt
  · have := h a b hab hlt
    have := hk.isPair.apart
    omega
  · rw [hab.isPair.unique hk.isPair]
    exact Nat.lt_succ_self j
  · rcases Nat.lt_or_eq_of_le (Nat.le_of_lt_succ ha) with hlt | rfl
    · exact absurd rfl (hk.isPair.inside a '_' hgt hlt hab.isPair.opening).1
    · exact absurd hk (hab.not_closing k)

theorem replaceFrom_skip_concat (f : Matcher) (before : Option Char) (x : Text) (c : Char)
    (rest : Text) : replaceFrom f before (x ++ [c]).length (x ++ [c] ++ rest) =
      replaceFrom f (some c) 0 rest := by
  induction x generalizing before with
  | nil => cases rest <;> rfl
  | cons d x ih => exact ih (some d)

theorem marked_append (run s t : Text) (k : Nat) :
    marked run k (s ++ t) = marked run k s ++ marked run (k + s.length) t := by
  induction s generalizing k with
  | nil => rfl
  | cons c s ih =>
      rw [List.cons_append, marked, marked, ih, List.length_cons, List.append_assoc, Nat.add_assoc,
        Nat.add_comm 1]

theorem marked_inside (hin : ∀ c ∈ inside, c ≠ '_') (pre t : Text) :
    marked (pre ++ (inside ++ t)) pre.length inside = inside := by
  induction inside generalizing pre with
  | nil => rfl
  | cons c inside ih =>
      have hk : (pre ++ (c :: inside ++ t))[pre.length]? = some c := getElem?_behind pre _ 0
      have hl : (pre ++ [c]).length = pre.length + 1 := List.length_append
      have hr := ih (fun d hd => hin d (List.mem_cons_of_mem c hd)) (pre ++ [c])
      rw [hl, List.append_assoc] at hr
      rw [marked, mark_of_ne hk (hin c List.mem_cons_self)]
      exact congrArg (c :: ·) hr

/-- What is left of a match is passed over up to its last character. -/
theorem replaceFrom_behind (f : Matcher) (before : Option Char) (x : Text) (c : Char) (rest : Text) :
    replaceFrom f before ((x ++ c :: rest).length - rest.length) (x ++ c :: rest) =
      replaceFrom f (some c) 0 rest := by
  have hskip : (x ++ c :: rest).length - rest.length = (x ++ [c]).length := by
    simp only [List.length_append, List.length_cons, List.length_nil]
    omega
  have hcut : x ++ c :: rest = x ++ [c] ++ rest := by simp
  rw [hskip, hcut, replaceFrom_skip_concat]

theorem marked_pair (hin : ∀ c ∈ inside, c ≠ '_') (hrun : run = pre ++ '_' :: (inside ++ '_' :: rest))
    (hi : IsItalic run pre.length (pre.length + (inside.length + 1))) :
    marked run pre.length ('_' :: (inside ++ '_' :: rest)) =
      element "em" inside ++ marked run (pre.length + (inside.length + 2)) rest := by
  have hl : (pre ++ ['_']).length = pre.length + 1 := List.length_append
  have hr := marked_inside hin (pre ++ ['_']) ('_' :: rest)
  rw [hl, List.append_assoc, List.singleton_append, ← hrun] at hr
  rw [marked, marked_append, hr, marked, mark_opening hi, Nat.add_assoc, Nat.add_comm 1,
    mark_closing hi]
  simp [element, Nat.add_assoc]

/-- From a clear place on, a run is written with its italic pairs as tags. -/
theorem replaceFrom_underscores (pre t : Text) (hc : Clear (pre ++ t) pre.length) :
    replaceFrom underscores pre.getLast? 0 t = marked (pre ++ t) pre.length t := by
  induction hn : t.length using Nat.strongRecOn generalizing pre t with
  | ind n ih =>
      cases t with
      | nil => rfl
      | cons c r =>
          rw [replaceFrom]
          cases hm : underscores pre.getLast? (c :: r) with
          | none =>
              have hno : ∀ j, ¬ IsItalic (pre ++ c :: r) pre.length j := by
                intro j hj
                obtain ⟨inside, rest, hs, rfl⟩ := isPair_iff.1 hj.isPair
                have := (underscores_eq_some_iff hc).2 ⟨inside, rfl, hs, hj⟩
                rw [hm] at this
                cases this
              have hrun : pre ++ c :: r = (pre ++ [c]) ++ r := by simp
              have hl : (pre ++ [c]).length = pre.length + 1 := List.length_append
              have hr := ih r.length (by rw [← hn]; exact Nat.lt_succ_self _) (pre ++ [c]) r
                (by rw [← hrun, hl]; exact hc.succ hno) rfl
              rw [List.getLast?_concat, ← hrun, hl] at hr
              rw [marked, mark_plain hno hc.not_closing]
              exact congrArg (c :: ·) hr
          | some found =>
              obtain ⟨new, rest⟩ := found
              obtain ⟨inside, rfl, hs, hi⟩ := (underscores_eq_some_iff hc).1 hm
              obtain ⟨ht, -, hin⟩ := span?_underscore_iff.1 hs
              obtain ⟨rfl, rfl⟩ := List.cons.inj ht
              have hrun : pre ++ '_' :: (inside ++ '_' :: rest) =
                  (pre ++ ('_' :: inside) ++ ['_']) ++ rest := by simp
              have hl : (pre ++ ('_' :: inside) ++ ['_']).length = pre.length + (inside.length + 2) := by
                simp [Nat.add_assoc]
              have hlt : rest.length < n := by
                rw [← hn]
                simp only [List.length_append, List.length_cons]
                omega
              have hr := ih rest.length hlt (pre ++ ('_' :: inside) ++ ['_']) rest
                (by rw [← hrun, hl]; exact hc.behind hi) rfl
              rw [List.getLast?_concat, ← hrun, hl] at hr
              rw [marked_pair (fun c hc => (hin c hc).1) rfl hi, ← hr]
              dsimp only
              rw [replaceFrom_behind]

theorem italicizeUnderscores_eq_italicized (run : Text) : italicizeUnderscores run = italicized run := by
  have hc : Clear run 0 := fun _ _ _ h => absurd h (Nat.not_lt_zero _)
  rw [italicizeUnderscores_eq_replaceMatches]
  exact replaceFrom_underscores [] run hc

/-! ## The search -/

theorem underscores_of_span?_eq_none (h : span? ['_'] '_' t = none) (before : Option Char) :
    underscores before t = none := by
  simp only [underscores, h]

theorem replaceFrom_of_splitFirst?_eq_none (h : splitFirst? (span? ['_'] '_') t = none)
    (before : Option Char) : replaceFrom underscores before 0 t = t := by
  induction t generalizing before with
  | nil => rfl
  | cons c t ih =>
      rw [splitFirst?] at h
      split at h
      · cases h
      · next hs =>
          rw [replaceFrom, underscores_of_span?_eq_none hs, ih (Option.map_eq_none_iff.1 h)]

/-- What stands before the first pair stays as it is. -/
theorem replaceFrom_of_splitFirst?_eq_some {between : Text} (pre : Text)
    (h : splitFirst? (span? ['_'] '_') t = some (between, inside, rest)) :
    t = between ++ '_' :: (inside ++ '_' :: rest) ∧
      span? ['_'] '_' ('_' :: (inside ++ '_' :: rest)) = some (inside, rest) ∧
      replaceFrom underscores pre.getLast? 0 t = between ++
        replaceFrom underscores (pre ++ between).getLast? 0 ('_' :: (inside ++ '_' :: rest)) := by
  induction t generalizing pre between with
  | nil => cases h
  | cons c t ih =>
      rw [splitFirst?] at h
      split at h
      · next found behind hs =>
          cases h
          obtain ⟨ht, -⟩ := span?_underscore_iff.1 hs
          rw [ht] at hs ⊢
          exact ⟨rfl, hs, by rw [List.append_nil]; rfl⟩
      · next hs =>
          obtain ⟨⟨b, found, behind⟩, hb, he⟩ := Option.map_eq_some_iff.1 h
          cases he
          obtain ⟨rfl, hp, hr⟩ := ih (pre ++ [c]) hb
          rw [List.getLast?_concat, List.append_assoc] at hr
          refine ⟨rfl, hp, ?_⟩
          rw [replaceFrom, underscores_of_span?_eq_none hs]
          exact congrArg (c :: ·) hr

namespace Search

/-- What a search is to end with: behind what is written, the run up to the place as it is and the rest
with its italics. -/
def goal (run : Text) (s : Search) : Text :=
  s.written ++ slice run s.copied s.place ++
    replaceFrom underscores (run.take s.place).getLast? 0 (run.drop s.place)

theorem goal_start (run : Text) : start.goal run = italicizeUnderscores run := rfl

theorem goal_eq {s : Search} (hrun : run = pre ++ t) (hp : s.place = pre.length) :
    s.goal run = s.written ++ pre.drop s.copied ++ replaceFrom underscores pre.getLast? 0 t := by
  rw [goal, slice, hp, hrun, List.take_left, List.drop_left]

/-- Whether the places of a search stand in order and in the run. -/
structure Within (run : Text) (s : Search) : Prop where
  ordered : s.copied ≤ s.place
  inRun : s.place ≤ run.length

theorem Within.exists_eq {s : Search} (h : s.Within run) :
    ∃ pre t, run = pre ++ t ∧ s.place = pre.length ∧ run.drop s.place = t :=
  ⟨run.take s.place, run.drop s.place, (List.take_append_drop _ _).symm,
    (List.length_take_of_le h.inRun).symm, rfl⟩

theorem result_eq_goal {s : Search} (hw : s.Within run) (h : s.next? run = none) :
    s.result run = s.goal run := by
  obtain ⟨pre, t, hrun, hp, ht⟩ := hw.exists_eq
  have hs := Option.map_eq_none_iff.1 (Option.map_eq_none_iff.1 h)
  rw [ht] at hs
  have ho := hw.ordered
  rw [goal_eq hrun hp, replaceFrom_of_splitFirst?_eq_none hs, result, hrun, List.append_assoc,
    List.drop_append_of_le_length (hp ▸ ho)]

/-- A step from behind `pre` to the next pair: past its opening underscore if nothing is found there, or
else past the pair. -/
theorem next?_cases {s next : Search} (hp : s.place = pre.length)
    (h : s.next? (pre ++ t) = some next) : ∃ between inside rest,
      splitFirst? (span? ['_'] '_') t = some (between, inside, rest) ∧
      ((underscores (pre ++ between).getLast? ('_' :: (inside ++ '_' :: rest)) = none ∧
          next = { s with place := (pre ++ between ++ ['_']).length }) ∨
        (underscores (pre ++ between).getLast? ('_' :: (inside ++ '_' :: rest)) =
            some (element "em" inside, rest) ∧
          next = ⟨s.written ++ (pre ++ between).drop s.copied ++ element "em" inside,
            (pre ++ between ++ '_' :: inside ++ ['_']).length,
            (pre ++ between ++ '_' :: inside ++ ['_']).length⟩)) := by
  obtain ⟨⟨i, inside⟩, hf, hn⟩ := Option.map_eq_some_iff.1 h
  obtain ⟨⟨between, found, rest⟩, hs, he⟩ := Option.map_eq_some_iff.1 hf
  obtain ⟨rfl, rfl⟩ := Prod.mk.inj he
  rw [hp, List.drop_left] at hs
  obtain ⟨rfl, hfound, -⟩ := replaceFrom_of_splitFirst?_eq_some pre hs
  have hi : s.place + between.length = (pre ++ between).length := by rw [hp, List.length_append]
  have hstop : (pre ++ between).length + found.length + 2 =
      (pre ++ between ++ '_' :: found ++ ['_']).length := by simp [Nat.add_assoc]
  have hcut : pre ++ (between ++ '_' :: (found ++ '_' :: rest)) =
      (pre ++ between ++ '_' :: found ++ ['_']) ++ rest := by simp
  have hfront : (pre ++ (between ++ '_' :: (found ++ '_' :: rest))).take (pre ++ between).length =
      pre ++ between := by rw [← List.append_assoc, List.take_left]
  have hslice : slice (pre ++ (between ++ '_' :: (found ++ '_' :: rest))) s.copied
      (pre ++ between).length = (pre ++ between).drop s.copied := by rw [slice, hfront]
  dsimp only at hn
  rw [hi, touchesWord, hfront, hstop, hslice, hcut, List.drop_left] at hn
  refine ⟨between, found, rest, hs, ?_⟩
  simp only [underscores, hfound]
  split at hn
  · next hw => exact .inl ⟨if_pos hw, by rw [← hn, @List.length_append _ (pre ++ between)]; rfl⟩
  · next hw => exact .inr ⟨if_neg hw, hn.symm⟩

/-- A step goes on in the run and keeps what the search is to end with. -/
theorem goal_next {s next : Search} (hw : s.Within run) (h : s.next? run = some next) :
    next.Within run ∧ s.place < next.place ∧ next.goal run = s.goal run := by
  obtain ⟨pre, t, rfl, hp, -⟩ := hw.exists_eq
  obtain ⟨between, inside, rest, hs, hnext⟩ := next?_cases hp h
  obtain ⟨rfl, -, hr⟩ := replaceFrom_of_splitFirst?_eq_some pre hs
  have ho : s.copied ≤ pre.length := hp ▸ hw.ordered
  rw [goal_eq rfl hp, hr, replaceFrom]
  rcases hnext with ⟨hf, rfl⟩ | ⟨hf, rfl⟩
  · have hcut : pre ++ (between ++ '_' :: (inside ++ '_' :: rest)) =
        (pre ++ between ++ ['_']) ++ (inside ++ '_' :: rest) := by simp
    refine ⟨⟨?_, ?_⟩, ?_, ?_⟩
    · simp only [List.length_append]
      omega
    · rw [hcut, @List.length_append _ (pre ++ between ++ ['_'])]
      exact Nat.le_add_right _ _
    · simp only [List.length_append, List.length_cons, List.length_nil]
      omega
    · rw [goal_eq hcut rfl, hf, List.getLast?_concat]
      simp [List.drop_append_of_le_length ho, List.append_assoc]
  · have hcut : pre ++ (between ++ '_' :: (inside ++ '_' :: rest)) =
        (pre ++ between ++ '_' :: inside ++ ['_']) ++ rest := by simp
    refine ⟨⟨Nat.le_refl _, ?_⟩, ?_, ?_⟩
    · rw [hcut, @List.length_append _ (pre ++ between ++ '_' :: inside ++ ['_'])]
      exact Nat.le_add_right _ _
    · simp only [List.length_append, List.length_cons, List.length_nil]
      omega
    · rw [goal_eq hcut rfl, hf, List.getLast?_concat]
      dsimp only
      rw [replaceFrom_behind, List.drop_length, List.drop_append_of_le_length ho]
      simp only [List.append_nil, List.append_assoc]

/-- Each step goes on, so a search comes to its end within the rest of the run. -/
theorem ends_goal (s : Search) (hw : s.Within run) :
    ∃ n ≤ run.length - s.place, Ends run n s (s.goal run) := by
  induction hn : run.length - s.place using Nat.strongRecOn generalizing s with
  | ind n ih =>
      cases h : s.next? run with
      | none => exact ⟨0, Nat.zero_le _, result_eq_goal hw h ▸ .done h⟩
      | some next =>
          obtain ⟨hnext, hlt, hg⟩ := goal_next hw h
          have hin := hnext.inRun
          obtain ⟨m, hm, he⟩ := ih _ (by omega) next hnext rfl
          exact ⟨m + 1, by omega, .step h (hg ▸ he)⟩

end Search

/-- The search for italics comes to its end, with no more steps than the run has characters, and what it
has written is the run with exactly its italic pairs as elements: the pairs of underscores on one line
with something between them that no word touches from outside, except those that open with an underscore
that has closed one before. -/
theorem italics_search_ends (run : Text) :
    (∃ n ≤ run.length, Search.Ends run n .start (italicizeUnderscores run)) ∧
      italicizeUnderscores run = italicized run := by
  refine ⟨?_, italicizeUnderscores_eq_italicized run⟩
  rw [← Search.goal_start]
  exact Search.ends_goal .start ⟨Nat.le_refl 0, Nat.zero_le _⟩

end Gamebook.Markup
