import Gamebook.PageId.Basic

/-!
# The tree of page ids

A choice leads by default to the child of its page, one step further and one letter longer; a page
without choices leads to its continuation, one step further. The last page number is its own
successor.
-/

namespace Gamebook.PageId

/-- The number of the step after, which stays at the greatest page number. -/
def nextNumber (p : PageId) : Nat := min (p.number + 1) maxPageNumber

theorem one_le_nextNumber (p : PageId) : 1 ≤ p.nextNumber := by
  have := p.one_le
  simp only [nextNumber, maxPageNumber]
  omega

theorem nextNumber_le_max (p : PageId) : p.nextNumber ≤ maxPageNumber := Nat.min_le_right _ _

/-- Where a choice leads by default. -/
def child (p : PageId) (l : Letter) : PageId :=
  ⟨p.nextNumber, p.path ++ [l], p.one_le_nextNumber, p.nextNumber_le_max⟩

/-- Where a choice with any character for a letter leads by default: nowhere outside a to e. -/
def childAt? (p : PageId) (ch : Char) : Option PageId := (Letter.ofChar? ch.toLower).map p.child

/-- The children of the first letters. -/
def children (p : PageId) (count : Nat) : List (Letter × PageId) :=
  (Letter.all.take count).map fun l => (l, p.child l)

/-- Where a page without choices leads. -/
def continuation (p : PageId) : PageId :=
  ⟨p.nextNumber, p.path, p.one_le_nextNumber, p.nextNumber_le_max⟩

/-- The page one step before, without the last letter. -/
def parent? (p : PageId) : Option PageId :=
  if h : p.number ≤ 1 then none
  else
    some ⟨p.number - 1, p.path.dropLast, Nat.le_sub_one_of_lt (Nat.lt_of_not_le h),
      Nat.le_trans (Nat.sub_le _ _) p.le_max⟩

/-- The children of a page among certain pages, in the order of their letters. -/
def childrenIn (p : PageId) (pages : List PageId) : List PageId :=
  (Letter.all.map p.child).filter fun q => q ∈ pages

/-- The pages among certain ones that are no children of a page. -/
def othersIn (p : PageId) (pages : List PageId) : List PageId :=
  pages.filter fun q => q ∉ Letter.all.map p.child

theorem mem_childrenIn {p q : PageId} {pages : List PageId} :
    q ∈ p.childrenIn pages ↔ q ∈ Letter.all.map p.child ∧ q ∈ pages := by
  rw [childrenIn, List.mem_filter, decide_eq_true_iff]

theorem mem_othersIn {p q : PageId} {pages : List PageId} :
    q ∈ p.othersIn pages ↔ q ∈ pages ∧ q ∉ Letter.all.map p.child := by
  rw [othersIn, List.mem_filter, decide_eq_true_iff]

theorem length_childrenIn_le (p : PageId) (pages : List PageId) : (p.childrenIn pages).length ≤ 5 :=
  List.length_filter_le _ _

theorem length_othersIn_le (p : PageId) (pages : List PageId) :
    (p.othersIn pages).length ≤ pages.length :=
  List.length_filter_le _ _

theorem length_othersIn_lt {p : PageId} {pages : List PageId} (h : p.childrenIn pages ≠ []) :
    (p.othersIn pages).length < pages.length := by
  obtain ⟨q, h⟩ := List.exists_mem_of_ne_nil _ h
  obtain ⟨hc, hq⟩ := mem_childrenIn.1 h
  exact List.length_filter_lt_length_iff_exists.2 ⟨q, hq, fun hn => of_decide_eq_true hn hc⟩

/-- The pages that are found from those in `queue` on, while those in `left` are not found yet: the
page in front leaves the queue, and its children that are left are found and queue up behind. -/
def walk (queue left : List PageId) : List PageId :=
  match queue with
  | [] => []
  | p :: queue => p.childrenIn left ++ walk (queue ++ p.childrenIn left) (p.othersIn left)
termination_by 6 * left.length + queue.length
decreasing_by
  -- Either pages are found, at most five, and fewer are left, or none is, and the queue gets shorter.
  have hfive := p.length_childrenIn_le left
  have hle := p.length_othersIn_le left
  rw [List.length_append, List.length_cons]
  by_cases h : p.childrenIn left = []
  · rw [h, List.length_nil]
    omega
  · have hlt := length_othersIn_lt h
    omega

/-- The pages reached from `p` through children that are in `existing`, in the order in which they
are found, which is that of the lengths of their paths. -/
def descendants (p : PageId) (existing : List PageId) : List PageId :=
  walk [p] (existing.filter fun q => q ≠ p)

end Gamebook.PageId
