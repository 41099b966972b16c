/-!
# Finite maps in key order

Variables, pages and files are finite maps whose order shows in every answer. A map is the list of
its entries with strictly increasing keys, so two maps that agree at every key are equal.
-/

namespace Gamebook

/-- Entries with strictly increasing keys. -/
structure SortedMap (κ ν : Type) [Ord κ] where
  entries : List (κ × ν)
  sorted : entries.Pairwise fun a b => compare a.1 b.1 = .lt

namespace SortedMap

variable {κ ν μ : Type} [Ord κ]

instance [DecidableEq κ] [DecidableEq ν] : DecidableEq (SortedMap κ ν) := fun a b =>
  if h : a.entries = b.entries then isTrue (by cases a; cases b; simp_all)
  else isFalse fun e => h (congrArg entries e)

/-- The map with no entries. -/
def empty : SortedMap κ ν := ⟨[], .nil⟩

instance : EmptyCollection (SortedMap κ ν) := ⟨empty⟩
instance : Inhabited (SortedMap κ ν) := ⟨empty⟩

/-- The value at a key. -/
def get? (m : SortedMap κ ν) (k : κ) : Option ν :=
  (m.entries.find? fun e => compare k e.1 == .eq).map (·.2)

/-- Whether a key has a value. -/
def contains (m : SortedMap κ ν) (k : κ) : Bool := m.entries.any fun e => compare k e.1 == .eq

/-- The keys in order. -/
def keys (m : SortedMap κ ν) : List κ := m.entries.map (·.1)

/-- The values in the order of their keys. -/
def values (m : SortedMap κ ν) : List ν := m.entries.map (·.2)

/-- Whether the map has no entries. -/
def isEmpty (m : SortedMap κ ν) : Bool := m.entries.isEmpty

/-- The number of entries. -/
def size (m : SortedMap κ ν) : Nat := m.entries.length

/-- Puts an entry in its place, instead of the one that the key had. -/
def insertEntry (k : κ) (v : ν) : List (κ × ν) → List (κ × ν)
  | [] => [(k, v)]
  | e :: es =>
    match compare k e.1 with
    | .lt => (k, v) :: e :: es
    | .eq => (k, v) :: es
    | .gt => e :: insertEntry k v es

theorem mem_insertEntry {k : κ} {v : ν} {e : κ × ν} {es : List (κ × ν)}
    (h : e ∈ insertEntry k v es) : e = (k, v) ∨ e ∈ es := by
  induction es with
  | nil => simpa [insertEntry] using h
  | cons f fs ih =>
    unfold insertEntry at h
    split at h <;> simp only [List.mem_cons] at h ⊢ <;> grind

theorem insertEntry_sorted [Std.TransOrd κ] {k : κ} {v : ν} {es : List (κ × ν)}
    (h : es.Pairwise fun a b => compare a.1 b.1 = .lt) :
    (insertEntry k v es).Pairwise fun a b => compare a.1 b.1 = .lt := by
  induction es with
  | nil => simp [insertEntry]
  | cons f fs ih =>
    obtain ⟨hf, hfs⟩ := List.pairwise_cons.1 h
    unfold insertEntry
    split
    · next hc =>
      refine List.pairwise_cons.2 ⟨fun e he => ?_, h⟩
      rcases List.mem_cons.1 he with rfl | he
      · exact hc
      · exact Std.TransCmp.lt_trans hc (hf e he)
    · next hc =>
      exact List.pairwise_cons.2 ⟨fun e he => Std.TransCmp.lt_of_eq_of_lt hc (hf e he), hfs⟩
    · next hc =>
      refine List.pairwise_cons.2 ⟨fun e he => ?_, ih hfs⟩
      rcases mem_insertEntry he with rfl | he
      · exact Std.OrientedCmp.gt_iff_lt.1 hc
      · exact hf e he

/-- The map with `v` at `k`, whatever was there. -/
def insert [Std.TransOrd κ] (m : SortedMap κ ν) (k : κ) (v : ν) : SortedMap κ ν :=
  ⟨insertEntry k v m.entries, insertEntry_sorted m.sorted⟩

/-- The entries that satisfy `p`. -/
def filter (p : κ → ν → Bool) (m : SortedMap κ ν) : SortedMap κ ν :=
  ⟨m.entries.filter fun e => p e.1 e.2, m.sorted.filter _⟩

/-- The map without a key. -/
def erase (m : SortedMap κ ν) (k : κ) : SortedMap κ ν := m.filter fun k' _ => compare k k' != .eq

/-- The map with every value replaced. -/
def mapValues (f : κ → ν → μ) (m : SortedMap κ ν) : SortedMap κ μ :=
  ⟨m.entries.map fun e => (e.1, f e.1 e.2), by
    rw [List.pairwise_map]
    exact m.sorted⟩

/-- The map of a list of entries; of two with one key the later counts. -/
def ofList [Std.TransOrd κ] (es : List (κ × ν)) : SortedMap κ ν :=
  es.foldl (fun m e => m.insert e.1 e.2) empty

@[simp] theorem get?_empty (k : κ) : (empty : SortedMap κ ν).get? k = none := rfl

theorem contains_eq_isSome (m : SortedMap κ ν) (k : κ) : m.contains k = (m.get? k).isSome := by
  simp [contains, get?, List.isSome_find?]

theorem get?_insert [Std.TransOrd κ] [Std.LawfulEqOrd κ] (m : SortedMap κ ν) (k k' : κ) (v : ν) :
    (m.insert k v).get? k' = if compare k' k = .eq then some v else m.get? k' := by
  obtain ⟨es, hs⟩ := m
  simp only [get?, insert]
  induction es with
  | nil => by_cases h : compare k' k = .eq <;> simp [insertEntry, h]
  | cons f fs ih =>
    have ih := ih (List.pairwise_cons.1 hs).2
    unfold insertEntry
    split
    · next hc => by_cases h : compare k' k = .eq <;> simp [h]
    · next hc =>
      have hkf := Std.LawfulEqCmp.eq_of_compare hc
      by_cases h : compare k' k = .eq
      · simp [h]
      · have h' : ¬ compare k' f.1 = .eq := by rw [← hkf]; exact h
        simp [h, h']
    · next hc =>
      by_cases h : compare k' f.1 = .eq
      · have hne : ¬ compare k' k = .eq := by
          intro e
          have h1 := Std.LawfulEqCmp.eq_of_compare h
          have h2 := Std.LawfulEqCmp.eq_of_compare e
          subst h1; subst h2
          simp at hc
        simp [h, hne]
      · simpa [List.find?_cons, h] using ih

theorem get?_erase [Std.TransOrd κ] [Std.LawfulEqOrd κ] (m : SortedMap κ ν) (k k' : κ) :
    (m.erase k).get? k' = if compare k k' = .eq then none else m.get? k' := by
  obtain ⟨es, hs⟩ := m
  simp only [get?, erase, filter]
  clear hs
  induction es with
  | nil => simp
  | cons f fs ih =>
    by_cases hk : compare k k' = .eq
    · have := Std.LawfulEqCmp.eq_of_compare hk
      subst this
      by_cases hf : compare k f.1 = .eq <;> simp_all
    · by_cases hf : compare k f.1 = .eq
      · have hf' := Std.LawfulEqCmp.eq_of_compare hf
        have hk' : ¬ compare k' f.1 = .eq := by
          intro e
          exact hk (by rw [Std.LawfulEqCmp.eq_of_compare e, ← hf']; exact Std.ReflCmp.compare_self)
        simp_all
      · by_cases hk' : compare k' f.1 = .eq <;> simp_all

theorem size_erase_lt {m : SortedMap κ ν} {k : κ} {v : ν} (h : m.get? k = some v) :
    (m.erase k).size < m.size := by
  obtain ⟨e, he, -⟩ := Option.map_eq_some_iff.1 h
  simp only [size, erase, filter]
  refine List.length_filter_lt_length_iff_exists.2 ⟨e, List.mem_of_find?_eq_some he, ?_⟩
  have := List.find?_some he
  simp_all

end SortedMap
end Gamebook
