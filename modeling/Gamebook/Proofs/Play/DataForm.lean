import Gamebook.Play.Json
import Gamebook.Proofs.Json.RoundTrip
import Gamebook.Proofs.PageId.Written
import Gamebook.Proofs.SortedMap
import Gamebook.Proofs.Value.Range

/-!
# Snapshots from their data forms

A data form has no place for a number out of range, so a snapshot is read from its data form exactly
when it holds none.
-/

namespace Gamebook

/-- The numbers that a snapshot holds. -/
def Snapshot.numbers (s : Snapshot) : List Float :=
  s.before.numbers ++ s.history.flatMap fun v => v.before.numbers

/-- Whether numbers are neither infinite nor no numbers. -/
def Decimal.AllFinite (xs : List Float) : Prop := ∀ x ∈ xs, Decimal.isFinite x = true

instance (xs : List Float) : Decidable (Decimal.AllFinite xs) :=
  inferInstanceAs (Decidable (∀ x ∈ xs, _))

theorem Decimal.allFinite_append {xs ys : List Float} :
    AllFinite (xs ++ ys) ↔ AllFinite xs ∧ AllFinite ys :=
  List.forall_mem_append

/-! ## Values and variables -/

theorem Value.ofJson?_toJson {v : Value} (h : ∀ x, v = .number x → Decimal.isFinite x = true) :
    ofJson? v.toJson = some v := by
  cases v with
  | bool b => rfl
  | number x => simp [toJson, Json.float, h x rfl, ofJson?, Json.float?]
  | string s => rfl

theorem Value.ofJson?_toJson_eq_none {x : Float} (h : ¬ Decimal.isFinite x = true) :
    ofJson? (toJson (.number x)) = none := by
  simp [toJson, Json.float, h, ofJson?, Json.float?]

namespace Variables

theorem mapM_ofJson? {es : List (String × Value)}
    (h : ∀ e ∈ es, ∀ x, e.2 = .number x → Decimal.isFinite x = true) :
    (es.map fun (k, v) => (k, v.toJson)).mapM (fun f => (Value.ofJson? f.2).map (f.1, ·)) =
      some es := by
  induction es with
  | nil => rfl
  | cons e es ih =>
      have he := Value.ofJson?_toJson (h e (by simp))
      have ih := ih fun f hf => h f (by simp [hf])
      simp [List.mapM_cons, he, ih]

theorem mapM_ofJson?_eq_none {es : List (String × Value)} {k : String} {x : Float}
    (hk : (k, Value.number x) ∈ es) (hx : ¬ Decimal.isFinite x = true) :
    (es.map fun (k, v) => (k, v.toJson)).mapM (fun f => (Value.ofJson? f.2).map (f.1, ·)) =
      none := by
  induction es with
  | nil => cases hk
  | cons e es ih =>
      rw [List.map_cons, List.mapM_cons]
      rcases List.mem_cons.1 hk with rfl | hk
      · simp [Value.ofJson?_toJson_eq_none hx]
      · cases Value.ofJson? e.2.toJson <;> simp [ih hk]

theorem ofJson?_toJson (vars : Variables) :
    ofJson? vars.toJson = if Decimal.AllFinite vars.numbers then some vars else none := by
  have hj : ofJson? vars.toJson = ((vars.entries.map fun (k, v) => (k, v.toJson)).mapM
      fun f => (Value.ofJson? f.2).map (f.1, ·)).map SortedMap.ofList := rfl
  by_cases h : Decimal.AllFinite vars.numbers
  · have hm : ∀ e ∈ vars.entries, ∀ x, e.2 = .number x → Decimal.isFinite x = true := by
      intro e he x hx
      exact h x (mem_numbers.2 ⟨e.1, hx ▸ he⟩)
    rw [if_pos h, hj, mapM_ofJson? hm, Option.map_some, SortedMap.ofList_entries]
  · rw [if_neg h]
    simp only [Decimal.AllFinite, Classical.not_forall] at h
    obtain ⟨x, hx, hf⟩ := h
    obtain ⟨k, hk⟩ := mem_numbers.1 hx
    rw [hj, mapM_ofJson?_eq_none hk hf, Option.map_none]

end Variables

/-! ## Records -/

theorem Visit.ofJson?_toJson (v : Visit) :
    ofJson? v.toJson = if Decimal.AllFinite v.before.numbers then some v else none := by
  have hr : v.toJson.record? ["page", "variablesBefore"] =
      some ⟨[("page", v.page.toJson), ("variablesBefore", v.before.toJson)], false⟩ := rfl
  simp only [ofJson?, hr, Json.Record.required?, Json.Record.get?, List.lookup_cons,
    String.reduceBEq, beq_self_eq_true, Option.bind_some, Option.bind_eq_bind, PageId.ofJson?_toJson,
    Variables.ofJson?_toJson]
  split <;> rfl

theorem Visit.mapM_ofJson? (vs : List Visit) :
    (vs.map toJson).mapM ofJson? =
      if Decimal.AllFinite (vs.flatMap fun v => v.before.numbers) then some vs else none := by
  induction vs with
  | nil => rfl
  | cons v vs ih =>
      rw [List.map_cons, List.mapM_cons, ih, ofJson?_toJson]
      simp only [List.flatMap_cons, Decimal.allFinite_append]
      by_cases hv : Decimal.AllFinite v.before.numbers
      · by_cases hs : Decimal.AllFinite (vs.flatMap fun v => v.before.numbers)
        · rw [if_pos hv, if_pos hs, if_pos ⟨hv, hs⟩]
          rfl
        · rw [if_pos hv, if_neg hs, if_neg fun h => hs h.2]
          rfl
      · rw [if_neg hv, if_neg (not_and_of_not_left _ hv)]
        rfl

/-- A snapshot is read from its data form, unless it holds a number out of range. -/
theorem Snapshot.ofJson?_toJson (s : Snapshot) :
    ofJson? s.toJson = if Decimal.AllFinite s.numbers then some s else none := by
  have hr : s.toJson.record? ["schemaVersion", "page", "variablesBefore", "history"] =
      some ⟨[("schemaVersion", .string s.schema), ("page", s.page.toJson),
        ("variablesBefore", s.before.toJson), ("history", .array (s.history.map Visit.toJson))],
        false⟩ := rfl
  simp only [ofJson?, hr, Json.Record.required?, Json.Record.orElse?, Json.Record.get?,
    List.lookup_cons, String.reduceBEq, beq_self_eq_true, Option.bind_some, Option.bind_eq_bind, Json.string?,
    PageId.ofJson?_toJson, Variables.ofJson?_toJson, Json.list?, Visit.mapM_ofJson?]
  simp only [numbers, Decimal.allFinite_append]
  by_cases hb : Decimal.AllFinite s.before.numbers
  · by_cases hh : Decimal.AllFinite (s.history.flatMap fun v => v.before.numbers)
    · rw [if_pos hb, if_pos hh, if_pos ⟨hb, hh⟩]
      rfl
    · rw [if_pos hb, if_neg hh, if_neg fun h => hh h.2]
      rfl
  · rw [if_neg hb, if_neg (not_and_of_not_left _ hb)]
    rfl

/-! ## Written forms -/

theorem Value.readsBack_toJson {v : Value}
    (h : ∀ x, v = .number x → Decimal.isFinite x = true → (Json.Number.float x).ReadsBack) :
    v.toJson.ReadsBack := by
  cases v with
  | bool b => trivial
  | number x =>
      by_cases hx : Decimal.isFinite x = true
      · have hj : toJson (.number x) = .number (.float x) := if_pos hx
        rw [hj]
        exact h x rfl hx
      · have hj : toJson (.number x) = .null := if_neg hx
        rw [hj]
        trivial
  | string s => trivial

/-- Whether the numbers among some that have a written form read back from it. -/
def Decimal.ReadBack (xs : List Float) : Prop :=
  ∀ x ∈ xs, Decimal.isFinite x = true → (Json.Number.float x).ReadsBack

theorem Variables.readsBack_toJson {vars : Variables} (h : Decimal.ReadBack vars.numbers) :
    vars.toJson.ReadsBack := by
  have hf : ∀ es : List (String × Value), (∀ e ∈ es, e ∈ vars.entries) →
      Json.FieldsReadBack (es.map fun (k, v) => (k, v.toJson)) := by
    intro es he
    induction es with
    | nil => trivial
    | cons e es ih =>
        refine ⟨Value.readsBack_toJson fun x hx => h x ?_, ih fun f hf => he f (by simp [hf])⟩
        exact mem_numbers.2 ⟨e.1, hx ▸ he e (by simp)⟩
  exact hf vars.entries fun _ h => h

theorem Visit.itemsReadBack_toJson {vs : List Visit}
    (h : Decimal.ReadBack (vs.flatMap fun v => v.before.numbers)) :
    Json.ItemsReadBack (vs.map toJson) :=
  Json.itemsReadBack_map fun v hv =>
    have hb : Decimal.ReadBack v.before.numbers :=
      fun x hx => h x (List.mem_flatMap.2 ⟨v, hv, hx⟩)
    ⟨trivial, Variables.readsBack_toJson hb, trivial⟩

theorem Snapshot.readsBack_toJson {s : Snapshot} (h : Decimal.ReadBack s.numbers) :
    s.toJson.ReadsBack := by
  obtain ⟨hb, hh⟩ := List.forall_mem_append.1 h
  exact ⟨trivial, trivial, Variables.readsBack_toJson hb, Visit.itemsReadBack_toJson hh, trivial⟩

end Gamebook
