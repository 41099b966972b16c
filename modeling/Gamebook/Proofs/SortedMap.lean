import Gamebook.SortedMap

/-!
# Maps and their entries

A map is the map of its entries, and has at each key the value of its entry. Maps with the same value
at every key are equal.
-/

namespace Gamebook.SortedMap

variable {κ ν : Type} [Ord κ]

theorem ext {m n : SortedMap κ ν} (h : m.entries = n.entries) : m = n := by
  cases m
  cases n
  cases h
  rfl

theorem insertEntry_last [Std.OrientedOrd κ] {k : κ} {v : ν} {es : List (κ × ν)}
    (h : ∀ e ∈ es, compare e.1 k = .lt) : insertEntry k v es = es ++ [(k, v)] := by
  induction es with
  | nil => rfl
  | cons e es ih =>
      have he : compare k e.1 = .gt := Std.OrientedCmp.gt_iff_lt.2 (h e (by simp))
      rw [insertEntry, he, List.cons_append, ih fun f hf => h f (by simp [hf])]

theorem entries_foldl_insert [Std.TransOrd κ] (es : List (κ × ν)) (m : SortedMap κ ν)
    (h : (m.entries ++ es).Pairwise fun a b => compare a.1 b.1 = .lt) :
    (es.foldl (fun m e => m.insert e.1 e.2) m).entries = m.entries ++ es := by
  induction es generalizing m with
  | nil => exact (List.append_nil _).symm
  | cons e es ih =>
      have hi : (m.insert e.1 e.2).entries = m.entries ++ [e] :=
        insertEntry_last fun f hf => (List.pairwise_append.1 h).2.2 f hf e (by simp)
      have ha : m.entries ++ e :: es = (m.insert e.1 e.2).entries ++ es := by simp [hi]
      rw [List.foldl_cons, ih (m.insert e.1 e.2) (ha ▸ h), ha]

@[simp] theorem ofList_entries [Std.TransOrd κ] (m : SortedMap κ ν) : ofList m.entries = m :=
  ext (entries_foldl_insert m.entries empty m.sorted)

theorem entries_unit (m : SortedMap κ Unit) : m.keys.map (·, ()) = m.entries := by
  rw [keys, List.map_map]
  exact List.map_id'' (fun _ => rfl) _

theorem isEmpty_iff {m : SortedMap κ ν} : m.isEmpty = true ↔ m = .empty := by
  constructor
  · intro h
    exact ext (List.isEmpty_iff.1 h)
  · rintro rfl
    rfl

theorem keys_mapValues {μ : Type} (f : κ → ν → μ) (m : SortedMap κ ν) :
    (m.mapValues f).keys = m.keys := by
  rw [keys, mapValues, List.map_map]
  rfl

/-! ## Values -/

theorem contains_iff {m : SortedMap κ ν} {k : κ} :
    m.contains k = true ↔ ∃ v, m.get? k = some v := by
  rw [contains_eq_isSome, Option.isSome_iff_exists]

theorem contains_eq_false_iff {m : SortedMap κ ν} {k : κ} :
    m.contains k = false ↔ m.get? k = none := by
  rw [contains_eq_isSome, Option.isSome_eq_false_iff, Option.isNone_iff_eq_none]

variable [Std.TransOrd κ]

theorem ne_of_lt {a b : κ} (h : compare a b = .lt) : a ≠ b := by
  rintro rfl
  have he : compare a a = .eq := Std.ReflCmp.compare_self
  rw [he] at h
  cases h

theorem keys_nodup (m : SortedMap κ ν) : m.keys.Nodup := by
  rw [keys, List.Nodup, List.pairwise_map]
  exact m.sorted.imp ne_of_lt

variable [Std.LawfulEqOrd κ]

theorem get?_eq_some_iff {m : SortedMap κ ν} {k : κ} {v : ν} :
    m.get? k = some v ↔ (k, v) ∈ m.entries := by
  obtain ⟨es, hs⟩ := m
  simp only [get?]
  induction es with
  | nil => simp
  | cons e es ih =>
      obtain ⟨hlt, hs⟩ := List.pairwise_cons.1 hs
      by_cases hk : compare k e.1 = .eq
      · have hke : k = e.1 := Std.LawfulEqCmp.eq_of_compare hk
        have hne : (k, v) ∉ es := fun hm => ne_of_lt (hlt _ hm) hke.symm
        simp only [List.find?_cons, hk, beq_self_eq_true, Option.map_some, Option.some.injEq,
          List.mem_cons, hne, or_false]
        constructor
        · rintro rfl
          exact Prod.ext hke rfl
        · rintro rfl
          rfl
      · have hne : (k, v) ≠ e := by
          rintro rfl
          exact hk Std.ReflCmp.compare_self
        have hb : (compare k e.1 == .eq) = false := beq_false_of_ne hk
        simp only [List.find?_cons, hb, List.mem_cons, hne, false_or]
        exact ih hs

theorem eq_of_get? {m n : SortedMap κ ν} (h : ∀ k, m.get? k = n.get? k) : m = n := by
  have hm (e : κ × ν) : e ∈ m.entries ↔ e ∈ n.entries := by
    rw [← get?_eq_some_iff, ← get?_eq_some_iff, h]
  have hd (m : SortedMap κ ν) : m.entries.Nodup :=
    m.sorted.imp fun hlt he => ne_of_lt hlt (congrArg Prod.fst he)
  refine ext (((List.perm_ext_iff_of_nodup (hd m) (hd n)).2 hm).eq_of_pairwise ?_ m.sorted n.sorted)
  intro a b _ _ hab hba
  exact absurd rfl (ne_of_lt (Std.TransCmp.lt_trans hab hba))

theorem get?_mapValues {μ : Type} (f : κ → ν → μ) (m : SortedMap κ ν) (k : κ) :
    (m.mapValues f).get? k = (m.get? k).map (f k) := by
  refine Option.ext fun w => ?_
  rw [get?_eq_some_iff, Option.map_eq_some_iff]
  constructor
  · intro h
    obtain ⟨⟨k', v⟩, hm, he⟩ := List.mem_map.1 h
    cases he
    exact ⟨v, get?_eq_some_iff.2 hm, rfl⟩
  · rintro ⟨v, hv, rfl⟩
    exact List.mem_map.2 ⟨(k, v), get?_eq_some_iff.1 hv, rfl⟩

theorem get?_filter_eq_some_iff {p : κ → ν → Bool} {m : SortedMap κ ν} {k : κ} {v : ν} :
    (m.filter p).get? k = some v ↔ m.get? k = some v ∧ p k v = true := by
  rw [get?_eq_some_iff, get?_eq_some_iff]
  exact List.mem_filter

theorem contains_filter_iff {p : κ → ν → Bool} {m : SortedMap κ ν} {k : κ} :
    (m.filter p).contains k = true ↔ ∃ v, m.get? k = some v ∧ p k v = true := by
  simp only [contains_iff, get?_filter_eq_some_iff]

theorem isEmpty_eq_false_iff {m : SortedMap κ ν} :
    m.isEmpty = false ↔ ∃ k, m.contains k = true := by
  rw [isEmpty, List.isEmpty_eq_false_iff_exists_mem]
  constructor
  · rintro ⟨⟨k, v⟩, h⟩
    exact ⟨k, contains_iff.2 ⟨v, get?_eq_some_iff.2 h⟩⟩
  · rintro ⟨k, h⟩
    obtain ⟨v, h⟩ := contains_iff.1 h
    exact ⟨(k, v), get?_eq_some_iff.1 h⟩

theorem get?_foldl_insert {es : List (κ × ν)} (h : (es.map (·.1)).Nodup) (m : SortedMap κ ν)
    {k : κ} {v : ν} :
    (es.foldl (fun m e => m.insert e.1 e.2) m).get? k = some v ↔
      (k, v) ∈ es ∨ k ∉ es.map (·.1) ∧ m.get? k = some v := by
  induction es generalizing m with
  | nil => simp
  | cons e es ih =>
      obtain ⟨hk, hn⟩ := List.nodup_cons.1 h
      rw [List.foldl_cons, ih hn, get?_insert, List.map_cons, List.mem_cons, List.mem_cons]
      by_cases he : compare k e.1 = .eq
      · have heq : k = e.1 := Std.LawfulEqCmp.eq_of_compare he
        subst heq
        have hm : (e.1, v) ∉ es := fun hm => hk (List.mem_map.2 ⟨_, hm, rfl⟩)
        have hv : (e.1, v) = e ↔ e.2 = v := ⟨fun h => h ▸ rfl, fun h => h ▸ rfl⟩
        simp only [if_pos he, Option.some.injEq, hk, not_false_eq_true, true_and, hm, false_or, hv,
          not_true_eq_false, false_and, or_false]
      · have hne : k ≠ e.1 := by
          rintro rfl
          exact he Std.ReflCmp.compare_self
        have hpe : (k, v) ≠ e := by
          rintro rfl
          exact hne rfl
        simp only [if_neg he, hne, hpe, false_or]

theorem get?_ofList {es : List (κ × ν)} (h : (es.map (·.1)).Nodup) {k : κ} {v : ν} :
    (ofList es).get? k = some v ↔ (k, v) ∈ es := by
  rw [ofList, get?_foldl_insert h]
  simp

theorem mem_keys_iff {m : SortedMap κ ν} {k : κ} : k ∈ m.keys ↔ m.contains k = true := by
  rw [contains_iff, keys, List.mem_map]
  constructor
  · rintro ⟨e, he, rfl⟩
    exact ⟨e.2, get?_eq_some_iff.2 he⟩
  · rintro ⟨v, hv⟩
    exact ⟨(k, v), get?_eq_some_iff.1 hv, rfl⟩

theorem contains_insert_eq_false_iff {m : SortedMap κ ν} {k k' : κ} {v : ν} :
    (m.insert k v).contains k' = false ↔ m.contains k' = false ∧ k' ≠ k := by
  rw [contains_eq_false_iff, contains_eq_false_iff, get?_insert]
  by_cases he : k' = k
  · simp [he]
  · have hc : ¬ compare k' k = .eq := fun hc => he (Std.LawfulEqCmp.eq_of_compare hc)
    simp [he, hc]

theorem get?_foldl_erase [DecidableEq κ] (ks : List κ) (m : SortedMap κ ν) (k : κ) :
    (ks.foldl erase m).get? k = if k ∈ ks then none else m.get? k := by
  induction ks generalizing m with
  | nil => rfl
  | cons k' ks ih =>
      rw [List.foldl_cons, ih, get?_erase]
      by_cases he : k = k'
      · have hc : compare k' k' = .eq := Std.ReflCmp.compare_self
        simp only [he, hc, if_true, ite_self, List.mem_cons, true_or]
      · have hc : ¬ compare k' k = .eq := fun hc => he (Std.LawfulEqCmp.eq_of_compare hc).symm
        simp only [if_neg hc, List.mem_cons, he, false_or]

end Gamebook.SortedMap
