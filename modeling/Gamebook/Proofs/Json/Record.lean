import Gamebook.Json.Decode
import Gamebook.Proofs.Json.RoundTrip

/-!
# Records from their fields

A record of fields that may be missing is read field by field, and a list item by item. What is
written and is not nested too deep can be held as a whole.
-/

namespace Gamebook.Json

/-- The fields that are present. -/
def present (fields : List (String × Option Json)) : List (String × Json) :=
  fields.filterMap fun (k, v) => v.map (k, ·)

theorem present_cons (k : String) (v : Option Json) (fields : List (String × Option Json)) :
    present ((k, v) :: fields) = (v.map (k, ·)).toList ++ present fields := by
  cases v <;> rfl

theorem mem_of_mem_present {fields : List (String × Option Json)} {k : String} {v : Json}
    (h : (k, v) ∈ present fields) : (k, some v) ∈ fields := by
  obtain ⟨⟨k', v'⟩, hm, he⟩ := List.mem_filterMap.1 h
  obtain ⟨w, rfl, hw⟩ := Option.map_eq_some_iff.1 he
  cases hw
  exact hm

theorem present_sublist (fields : List (String × Option Json)) :
    ((present fields).map (·.1)).Sublist (fields.map (·.1)) := by
  induction fields with
  | nil => exact .slnil
  | cons f fields ih =>
      obtain ⟨k, v⟩ := f
      rw [present_cons, List.map_cons]
      cases v with
      | none => exact ih.cons k
      | some v => exact ih.cons_cons k

theorem lookup_present {fields : List (String × Option Json)} (h : (fields.map (·.1)).Nodup)
    (name : String) : (present fields).lookup name = (fields.lookup name).join := by
  induction fields with
  | nil => rfl
  | cons f fields ih =>
      obtain ⟨k, v⟩ := f
      obtain ⟨hk, hn⟩ := List.nodup_cons.1 h
      rw [present_cons, List.lookup_cons]
      have ih := ih hn
      by_cases he : name = k
      · subst he
        cases v with
        | none =>
            have hl : fields.lookup name = none := List.lookup_eq_none_iff.2 fun g hg => by
              simp only [bne_iff_ne, ne_eq]
              rintro rfl
              exact hk (List.mem_map.2 ⟨g, hg, rfl⟩)
            simp [ih, hl]
        | some v => simp
      · have hb : (name == k) = false := beq_false_of_ne he
        rw [hb]
        cases v with
        | none => exact ih
        | some v => simpa [List.lookup_cons, hb] using ih

/-- A record holds what is present of its fields. -/
theorem record?_ofFields {names : List String} {fields : List (String × Option Json)}
    (h : fields.map (·.1) = names) (hn : names.Nodup) :
    (ofFields fields).record? names = some ⟨present fields, false⟩ := by
  have hf : (present fields).filter (fun f => f.1 ∈ names) = present fields := by
    refine List.filter_eq_self.2 fun f hf => ?_
    rw [← h, decide_eq_true_eq]
    exact List.mem_map_of_mem (mem_of_mem_present hf)
  have hd : ((present fields).map (·.1)).Nodup := (present_sublist fields).nodup (h ▸ hn)
  have ho : ofFields fields = .object (present fields) := rfl
  simp only [ho, record?, hf, if_pos hd]

theorem readsBack_ofFields {fields : List (String × Option Json)}
    (h : ∀ k v, (k, some v) ∈ fields → v.ReadsBack) : (ofFields fields).ReadsBack := by
  have hf : FieldsReadBack (present fields) := by
    induction fields with
    | nil => trivial
    | cons f fields ih =>
        obtain ⟨k, v⟩ := f
        have ih := ih fun k v hm => h k v (List.mem_cons_of_mem _ hm)
        cases v with
        | none => exact ih
        | some v => exact ⟨h k v (List.mem_cons_self ..), ih⟩
  exact hf

theorem get?_present {fields : List (String × Option Json)} (h : (fields.map (·.1)).Nodup)
    (positional : Bool) (name : String) :
    (Record.mk (present fields) positional).get? name = (fields.lookup name).join :=
  lookup_present h name

namespace Record

variable {α : Type} {r : Record} {name : String}

theorem required?_of_get? {v : Json} {decode : Json → Option α} {x : α}
    (hv : r.get? name = some v) (hx : decode v = some x) : r.required? name decode = some x := by
  rw [required?, hv]
  exact hx

theorem orElse?_of_get? {v : Json} {decode : Json → Option α} {absent x : α}
    (hv : r.get? name = some v) (hx : decode v = some x) :
    r.orElse? name decode absent = some x := by
  rw [orElse?, hv]
  exact hx

theorem orElse?_nullable {s : Option String} (hs : r.get? name = s.map .string) :
    r.orElse? name (Json.nullable? Json.string?) none = some s := by
  rw [orElse?, hs]
  cases s <;> rfl

end Record

/-! ## Lists -/

theorem list?_map {α : Type} {write : α → Json} {item? : Json → Option α}
    (h : ∀ x, item? (write x) = some x) (xs : List α) :
    list? item? (.array (xs.map write)) = some xs := by
  have hm : (xs.map write).mapM item? = some xs := by
    induction xs with
    | nil => rfl
    | cons x xs ih => simp [List.mapM_cons, h, ih]
  exact hm

theorem itemsDepth_map_le {α : Type} {write : α → Json} {n : Nat} {xs : List α}
    (h : ∀ x ∈ xs, (write x).depth ≤ n) : itemsDepth (xs.map write) ≤ n := by
  induction xs with
  | nil => exact Nat.zero_le n
  | cons x xs ih => exact Nat.max_le.2 ⟨h x (by simp), ih fun y hy => h y (by simp [hy])⟩

/-! ## Values that are held as a whole -/

mutual

theorem isSound_of_readsBack : (v : Json) → v.ReadsBack → v.isSound = true
  | .null, _ => rfl
  | .bool _, _ => rfl
  | .number _, _ => rfl
  | .string _, _ => rfl
  | .array items, h => areSound_of_readBack items h
  | .object fields, h => fieldsAreSound_of_readBack fields h

theorem areSound_of_readBack : (vs : List Json) → ItemsReadBack vs → areSound vs = true
  | [], _ => rfl
  | v :: vs, h => Bool.and_eq_true_iff.2
      ⟨isSound_of_readsBack v h.1, areSound_of_readBack vs h.2⟩

theorem fieldsAreSound_of_readBack :
    (fs : List (String × Json)) → FieldsReadBack fs → fieldsAreSound fs = true
  | [], _ => rfl
  | (_, v) :: fs, h => Bool.and_eq_true_iff.2
      ⟨isSound_of_readsBack v h.1, fieldsAreSound_of_readBack fs h.2⟩

end

/-- What is written and is not nested too deep can be held as a whole. -/
theorem isHeld_of_readsBack {v : Json} {level : Nat} (h : v.ReadsBack)
    (hd : v.depth + level ≤ maxDepth) : v.isHeld level = true := by
  simp [isHeld, isSound_of_readsBack v h, hd]

end Gamebook.Json
