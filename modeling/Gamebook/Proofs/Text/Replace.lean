import Gamebook.Text.Replace

/-!
# Replacing piece by piece

Where a matcher does not look at the character before it, a text is replaced piece by piece: what
holds no match stays, and what is a match gives way to its replacement.
-/

namespace Gamebook.Text

/-! ## Suffixes -/

theorem suffix_append_cases {α : Type} {x y s : List α} (h : s <:+ x ++ y) :
    s <:+ y ∨ ∃ x', x' ≠ [] ∧ x' <:+ x ∧ s = x' ++ y := by
  induction x with
  | nil => exact .inl h
  | cons c x ih =>
      rcases List.suffix_cons_iff.1 h with rfl | h
      · exact .inr ⟨c :: x, List.cons_ne_nil _ _, List.suffix_refl _, rfl⟩
      · rcases ih h with h | ⟨x', hn, hs, rfl⟩
        · exact .inl h
        · exact .inr ⟨x', hn, hs.trans (List.suffix_cons ..), rfl⟩

/-! ## Every replacement -/

variable {f : Text → Option (Text × Text)}

theorem replaceFrom_before (before before' : Option Char) (skip : Nat) (t : Text) :
    replaceFrom (fun _ => f) before skip t = replaceFrom (fun _ => f) before' skip t := by
  cases t with
  | nil => rfl
  | cons c r => rfl

theorem replaceFrom_skip (before : Option Char) (x rest : Text) :
    replaceFrom (fun _ => f) before x.length (x ++ rest) = replaceMatches (fun _ => f) rest := by
  induction x generalizing before with
  | nil => exact replaceFrom_before before none 0 rest
  | cons c x ih => exact ih (some c)

theorem replaceMatches_match {c : Char} {x rest new : Text}
    (h : f (c :: x ++ rest) = some (new, rest)) :
    replaceMatches (fun _ => f) (c :: x ++ rest) = new ++ replaceMatches (fun _ => f) rest := by
  have hl : (x ++ rest).length - rest.length = x.length := by
    rw [List.length_append, Nat.add_sub_cancel]
  rw [List.cons_append] at h ⊢
  rw [replaceMatches, replaceFrom, h]
  simp only [hl, replaceFrom_skip]

theorem replaceMatches_cons {c : Char} {r : Text} (h : f (c :: r) = none) :
    replaceMatches (fun _ => f) (c :: r) = c :: replaceMatches (fun _ => f) r := by
  rw [replaceMatches, replaceFrom, h]
  exact congrArg (c :: ·) (replaceFrom_before (some c) none 0 r)

/-- A piece in which no match begins stays as it is. -/
theorem replaceMatches_append {p : Text} (rest : Text)
    (h : ∀ s, s ≠ [] → s <:+ p → f (s ++ rest) = none) :
    replaceMatches (fun _ => f) (p ++ rest) = p ++ replaceMatches (fun _ => f) rest := by
  induction p with
  | nil => rfl
  | cons c p ih =>
      have hc : f (c :: (p ++ rest)) = none := h (c :: p) (List.cons_ne_nil _ _) (List.suffix_refl _)
      rw [List.cons_append, replaceMatches_cons hc,
        ih fun s hn hs => h s hn (hs.trans (List.suffix_cons ..))]
      rfl

/-- Where a piece holds every match that begins in it, it is replaced on its own. -/
theorem replaceMatches_append_of {rest : Text}
    (h : ∀ s, s ≠ [] → f (s ++ rest) = (f s).map fun (new, behind) => (new, behind ++ rest))
    (hf : ∀ s new behind, f s = some (new, behind) → ∃ c x, s = c :: x ++ behind) (p : Text) :
    replaceMatches (fun _ => f) (p ++ rest) =
      replaceMatches (fun _ => f) p ++ replaceMatches (fun _ => f) rest := by
  induction hn : p.length using Nat.strongRecOn generalizing p with
  | ind n ih =>
      cases p with
      | nil => rfl
      | cons c p =>
          have hp := h (c :: p) (List.cons_ne_nil c p)
          cases hm : f (c :: p) with
          | none =>
              rw [hm, Option.map_none, List.cons_append] at hp
              rw [List.cons_append, replaceMatches_cons hm, replaceMatches_cons hp,
                ih p.length (hn ▸ Nat.lt_succ_self _) p rfl, List.cons_append]
          | some found =>
              obtain ⟨new, behind⟩ := found
              obtain ⟨d, x, he⟩ := hf _ _ _ hm
              rw [hm, Option.map_some, he, List.append_assoc] at hp
              rw [he] at hm hn ⊢
              have hl : behind.length < n := by
                rw [List.length_append, List.length_cons] at hn
                omega
              rw [List.append_assoc, replaceMatches_match hp, replaceMatches_match hm,
                ih _ hl behind rfl, List.append_assoc]

theorem replaceAll_append {old : Text} (ho : old ≠ []) (new rest : Text) :
    replaceAll old new (old ++ rest) = new ++ replaceAll old new rest := by
  obtain ⟨c, x, rfl⟩ := List.exists_cons_of_ne_nil ho
  have h : (after? (c :: x) (c :: x ++ rest)).map (new, ·) = some (new, rest) := by
    rw [after?_append]
    rfl
  exact replaceMatches_match (f := fun t => (after? (c :: x) t).map (new, ·)) h

theorem replaceAll_cons {old : Text} {c : Char} {r : Text} (h : ¬ old <+: c :: r) (new : Text) :
    replaceAll old new (c :: r) = c :: replaceAll old new r := by
  have hn : after? old (c :: r) = none :=
    Option.eq_none_iff_forall_ne_some.2 fun rest hr => h ⟨rest, (after?_eq_some hr).symm⟩
  exact replaceMatches_cons (by rw [hn]; rfl)

/-! ## The first find -/

variable {α : Type} {g : Text → Option (α × Text)}

theorem splitFirst?_here {t rest : Text} {a : α} (ht : t ≠ []) (h : g t = some (a, rest)) :
    splitFirst? g t = some ([], a, rest) := by
  cases t with
  | nil => exact absurd rfl ht
  | cons c t => rw [splitFirst?, h]

/-- What is found behind a piece in which nothing is found. -/
theorem splitFirst?_append {p : Text} (rest : Text)
    (h : ∀ s, s ≠ [] → s <:+ p → g (s ++ rest) = none) :
    splitFirst? g (p ++ rest) =
      (splitFirst? g rest).map fun (before, a, behind) => (p ++ before, a, behind) := by
  induction p with
  | nil => simp
  | cons c p ih =>
      have hc : g (c :: (p ++ rest)) = none := h (c :: p) (List.cons_ne_nil _ _) (List.suffix_refl _)
      rw [List.cons_append, splitFirst?, hc,
        ih fun s hn hs => h s hn (hs.trans (List.suffix_cons ..))]
      rw [Option.map_map]
      rfl

end Gamebook.Text
