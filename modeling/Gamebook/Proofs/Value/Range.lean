import Gamebook.Directive.Scan

/-!
# Numbers out of range

What an author writes is a finite number or none, so variables that hold finite numbers go on to hold
finite numbers until a sum or difference is out of range.
-/

namespace Gamebook

/-- The numbers that variables hold. -/
def Variables.numbers (vars : Variables) : List Float := vars.values.filterMap Value.number?

namespace Assignment

/-- Whether the result of a change is out of range. -/
def overflows (vars : Variables) : Assignment → Bool
  | set _ _ => false
  | add name amount => !Decimal.isFinite (numberOrZero vars name + amount)
  | sub name amount => !Decimal.isFinite (numberOrZero vars name - amount)

/-- Whether the result of one of some changes in turn is out of range. -/
def someOverflows (vars : Variables) : List Assignment → Bool
  | [] => false
  | a :: as => a.overflows vars || someOverflows (a.apply vars) as

/-- Whether what a change sets a variable to is no number out of range. -/
def IsFinite : Assignment → Prop
  | set _ value => ∀ x, value = .number x → Decimal.isFinite x = true
  | _ => True

end Assignment

/-! ## What is written -/

theorem Value.isFinite_ofLiteral {raw : Text} {x : Float} (h : ofLiteral raw = .number x) :
    Decimal.isFinite x = true := by
  simp only [ofLiteral] at h
  split at h
  · cases h
  · split at h
    · cases h
    · split at h
      · next hx =>
        cases h
        exact (Option.filter_eq_some_iff.1 hx).2
      · cases h

namespace Directive

theorem isFinite_set? {inner : Text} {a : Assignment} (h : set? inner = some a) : a.IsFinite := by
  simp only [set?, Option.bind_eq_bind, Option.bind_eq_some_iff] at h
  obtain ⟨r, -, ⟨name, r⟩, -, h⟩ := h
  split at h
  · cases h
    exact fun x hx => Value.isFinite_ofLiteral hx
  · cases h

theorem isFinite_add? {inner : Text} {a : Assignment} (h : add? inner = some a) : a.IsFinite := by
  obtain ⟨⟨name, x⟩, -, rfl⟩ := Option.map_eq_some_iff.1 h
  exact trivial

theorem isFinite_sub? {inner : Text} {a : Assignment} (h : sub? inner = some a) : a.IsFinite := by
  obtain ⟨⟨name, x⟩, -, rfl⟩ := Option.map_eq_some_iff.1 h
  exact trivial

/-- No assignment of a text sets a variable to a number out of range. -/
theorem isFinite_assignments {t : Text} {a : Assignment} (h : a ∈ assignments t) : a.IsFinite := by
  rw [assignments, Find.gather_eq] at h
  obtain ⟨⟨start, inner⟩, -, h⟩ := List.mem_flatMap.1 h
  obtain ⟨read, hr, h⟩ := List.mem_filterMap.1 h
  simp only [assignmentReaders, List.mem_cons, List.not_mem_nil, or_false] at hr
  rcases hr with rfl | rfl | rfl
  · exact isFinite_set? h
  · exact isFinite_add? h
  · exact isFinite_sub? h

end Directive

/-! ## What changes leave -/

theorem Variables.mem_numbers {vars : Variables} {x : Float} :
    x ∈ vars.numbers ↔ ∃ k, (k, Value.number x) ∈ vars.entries := by
  simp only [numbers, SortedMap.values, List.mem_filterMap, List.mem_map, Prod.exists]
  constructor
  · rintro ⟨v, ⟨k, w, hk, rfl⟩, hv⟩
    cases w with
    | number y => cases hv; exact ⟨k, hk⟩
    | bool => cases hv
    | string => cases hv
  · rintro ⟨k, hk⟩
    exact ⟨_, ⟨k, _, hk, rfl⟩, rfl⟩

theorem Variables.mem_numbers_insert {vars : Variables} {name : String} {v : Value} {x : Float}
    (h : x ∈ Variables.numbers (vars.insert name v)) : v = .number x ∨ x ∈ vars.numbers := by
  obtain ⟨k, hk⟩ := mem_numbers.1 h
  rcases SortedMap.mem_insertEntry hk with he | hk
  · cases he
    exact .inl rfl
  · exact .inr (mem_numbers.2 ⟨k, hk⟩)

namespace Assignment

variable {vars : Variables}

theorem isFinite_apply {a : Assignment} (hv : ∀ x ∈ vars.numbers, Decimal.isFinite x = true)
    (ha : a.IsFinite) (ho : a.overflows vars = false) :
    ∀ x ∈ (a.apply vars).numbers, Decimal.isFinite x = true := by
  intro x hx
  cases a with
  | set name value =>
      rcases Variables.mem_numbers_insert hx with h | h
      · exact ha x h
      · exact hv x h
  | add name amount =>
      rcases Variables.mem_numbers_insert hx with h | h
      · cases h
        simpa [overflows] using ho
      · exact hv x h
  | sub name amount =>
      rcases Variables.mem_numbers_insert hx with h | h
      · cases h
        simpa [overflows] using ho
      · exact hv x h

theorem isFinite_applyAll {as : List Assignment}
    (hv : ∀ x ∈ vars.numbers, Decimal.isFinite x = true) (ha : ∀ a ∈ as, a.IsFinite)
    (ho : someOverflows vars as = false) :
    ∀ x ∈ (applyAll vars as).numbers, Decimal.isFinite x = true := by
  induction as generalizing vars with
  | nil => exact hv
  | cons a as ih =>
      simp only [someOverflows, Bool.or_eq_false_iff] at ho
      exact ih (isFinite_apply hv (ha a (by simp)) ho.1) (fun b hb => ha b (by simp [hb])) ho.2

end Assignment
end Gamebook
