import Gamebook.Proofs.Graph.Subtree

/-!
# Copying a subtree

A copy moves a page by a difference of step numbers and an exchange of the letters in front, which can
be undone, so no two pages come to stand in one place. It succeeds exactly where each page of the
subtree has a place that is free, and then it only adds the moved pages, which hang below the target as
the subtree hangs below its page.
-/

namespace Gamebook

namespace PageId

variable {source target p q p' q' : PageId} {w : List Letter}

/-- Whether moving `source` to `target` moves a page below `source` to another page: the number changes
by as much, and the path of `target` takes the place of that of `source`. -/
structure Moves (source target p q : PageId) : Prop where
  number : (q.number : Int) = p.number - source.number + target.number
  path : ∃ w, p.path = source.path ++ w ∧ q.path = target.path ++ w

theorem Moves.symm (h : Moves source target p q) : Moves target source q p where
  number := by
    have := h.number
    omega
  path := h.path.imp fun _ hw => hw.symm

theorem Moves.target_eq (h : Moves source target p q) (h' : Moves source target p q') : q = q' := by
  obtain ⟨w, hp, hq⟩ := h.path
  obtain ⟨w', hp', hq'⟩ := h'.path
  obtain rfl : w = w' := List.append_cancel_left (hp.symm.trans hp')
  refine eq_of_number_path ?_ (hq.trans hq'.symm)
  have := h.number
  have := h'.number
  omega

theorem Moves.source_eq (h : Moves source target p q) (h' : Moves source target p' q) : p = p' :=
  h.symm.target_eq h'.symm

theorem pathBehind_append (front w : List Letter) : pathBehind front (front ++ w) = w := by
  rw [pathBehind, if_pos (List.isPrefixOf_iff_prefix.2 (List.prefix_append ..)), List.drop_left]

theorem relocate?_eq_some_iff (h : source.path <+: p.path) :
    source.relocate? target p = some q ↔ Moves source target p q := by
  obtain ⟨w, hw⟩ := h
  have hb : pathBehind source.path p.path = w := hw ▸ pathBehind_append source.path w
  have h1 := q.one_le
  have hm := q.le_max
  constructor
  · intro hq
    rw [relocate?] at hq
    split at hq
    · next hr =>
        obtain rfl := Option.some.inj hq
        exact ⟨Int.toNat_of_nonneg (by omega), w, hw.symm, by rw [hb]⟩
    · cases hq
  · intro hq
    have hn := hq.number
    obtain ⟨w', hp', hq'⟩ := hq.path
    obtain rfl : w = w' := List.append_cancel_left (hw.trans hp')
    rw [relocate?, dif_pos (by omega), Option.some.injEq]
    refine eq_of_number_path ?_ (by rw [hq', hb])
    change Int.toNat _ = q.number
    omega

/-- What a word leads to is moved to what the word leads to from the target, as far as no number on the
way is too great. -/
theorem moves_below_iff (h : source.number + w.length ≤ maxPageNumber) :
    Moves source target (source.below w) q ↔
      target.number + w.length ≤ maxPageNumber ∧ q = target.below w := by
  have hs := number_below_of_le h
  have hm := q.le_max
  constructor
  · intro hq
    have hn := hq.number
    obtain ⟨w', hp, hq'⟩ := hq.path
    obtain rfl : w = w' := List.append_cancel_left ((path_below source w).symm.trans hp)
    have hn : q.number = target.number + w.length := by omega
    exact ⟨by omega, eq_below hn hq'⟩
  · rintro ⟨ht, rfl⟩
    refine ⟨?_, w, path_below source w, path_below target w⟩
    rw [hs, number_below_of_le ht]
    omega

end PageId

namespace Pages

open PageId (Hangs Moves)

variable {pages copied next : Pages} {source target s q : PageId} {page : Page}
  {ss : List PageId}

/-! ## Adding the moved pages -/

theorem copyPage_eq_ok_iff (hs : source.path <+: s.path) (hp : pages.get? s = some page) :
    pages.copyPage source target copied s = .ok next ↔
      ∃ q, Moves source target s q ∧ pages.contains q = false ∧ copied.contains q = false ∧
        next = copied.insert q page := by
  simp only [← PageId.relocate?_eq_some_iff hs, copyPage]
  cases source.relocate? target s with
  | none => simp
  | some place =>
      dsimp only
      by_cases hc : (pages.contains place || copied.contains place) = true
      · rw [if_pos hc]
        constructor
        · intro h
          cases h
        · rintro ⟨q, hq, hpq, hcq, -⟩
          cases hq
          rw [hpq, hcq] at hc
          cases hc
      · rw [if_neg hc, hp]
        simp only [Bool.or_eq_true, not_or, Bool.not_eq_true] at hc
        constructor
        · intro h
          cases h
          exact ⟨place, rfl, hc.1, hc.2, rfl⟩
        · rintro ⟨q, hq, -, -, rfl⟩
          cases hq
          rfl

theorem get?_insert_iff (hq : copied.contains q = false) {id : PageId} {other : Page} :
    (copied.insert q page).get? id = some other ↔
      copied.get? id = some other ∨ id = q ∧ page = other := by
  have hn := SortedMap.contains_eq_false_iff.1 hq
  rw [SortedMap.get?_insert]
  by_cases he : id = q
  · subst he
    rw [if_pos Std.ReflCmp.compare_self, hn]
    simp
  · rw [if_neg fun hc => he (Std.LawfulEqCmp.eq_of_compare hc)]
    simp [he]

/-- What is to be moved: pages of the story below `source`, each once. -/
structure Movable (pages : Pages) (source : PageId) (ss : List PageId) : Prop where
  nodup : ss.Nodup
  below : ∀ s ∈ ss, source.path <+: s.path
  there : ∀ s ∈ ss, ∃ page, pages.get? s = some page

theorem Movable.tail (h : Movable pages source (s :: ss)) : Movable pages source ss where
  nodup := (List.nodup_cons.1 h.nodup).2
  below t ht := h.below t (List.mem_cons_of_mem _ ht)
  there t ht := h.there t (List.mem_cons_of_mem _ ht)

/-- One step of a copy that succeeds, and the steps behind it. -/
theorem Movable.foldlM_cons (h : Movable pages source (s :: ss)) :
    (s :: ss).foldlM (pages.copyPage source target) copied = .ok next ↔
      ∃ page q, pages.get? s = some page ∧ Moves source target s q ∧ pages.contains q = false ∧
        copied.contains q = false ∧
          ss.foldlM (pages.copyPage source target) (copied.insert q page) = .ok next := by
  obtain ⟨page, hp⟩ := h.there s (List.mem_cons_self ..)
  have hs := h.below s (List.mem_cons_self ..)
  rw [List.foldlM_cons]
  constructor
  · intro hf
    cases hc : pages.copyPage source target copied s with
    | error r => rw [hc] at hf; cases hf
    | ok mid =>
        rw [hc] at hf
        obtain ⟨q, hq, ho, hn, rfl⟩ := (copyPage_eq_ok_iff hs hp).1 hc
        exact ⟨page, q, hp, hq, ho, hn, hf⟩
  · rintro ⟨page', q, hp', hq, ho, hn, hf⟩
    cases hp.symm.trans hp'
    rw [(copyPage_eq_ok_iff hs hp).2 ⟨q, hq, ho, hn, rfl⟩]
    exact hf

/-- A copy adds the moved pages and nothing else. -/
theorem Movable.get?_foldlM (h : Movable pages source ss)
    (hf : ss.foldlM (pages.copyPage source target) copied = .ok next) {id : PageId} {page : Page} :
    next.get? id = some page ↔ copied.get? id = some page ∨
      ∃ s ∈ ss, Moves source target s id ∧ pages.get? s = some page := by
  induction ss generalizing copied with
  | nil =>
      cases hf
      simp
  | cons s ss ih =>
      obtain ⟨p, q, hp, hq, -, hn, hf⟩ := h.foldlM_cons.1 hf
      rw [ih h.tail hf, get?_insert_iff hn, or_assoc]
      refine or_congr_right ?_
      constructor
      · rintro (⟨rfl, rfl⟩ | ⟨t, ht, hm, hp⟩)
        · exact ⟨s, List.mem_cons_self .., hq, hp⟩
        · exact ⟨t, List.mem_cons_of_mem _ ht, hm, hp⟩
      · rintro ⟨t, ht, hm, hpt⟩
        rcases List.mem_cons.1 ht with rfl | ht
        · exact .inl ⟨hm.target_eq hq, Option.some.inj (hp.symm.trans hpt)⟩
        · exact .inr ⟨t, ht, hm, hpt⟩

/-- A copy succeeds exactly where each page has a place that is free. -/
theorem Movable.exists_foldlM_iff (h : Movable pages source ss)
    (hold : ∀ q, copied.contains q = false → pages.contains q = false) :
    (∃ next, ss.foldlM (pages.copyPage source target) copied = .ok next) ↔
      ∀ s ∈ ss, ∃ q, Moves source target s q ∧ copied.contains q = false := by
  induction ss generalizing copied with
  | nil => exact ⟨fun _ => nofun, fun _ => ⟨copied, rfl⟩⟩
  | cons s ss ih =>
      obtain ⟨page, hp⟩ := h.there s (List.mem_cons_self ..)
      have ih (q : PageId) := @ih (copied.insert q page) h.tail fun r hr =>
        hold r (SortedMap.contains_insert_eq_false_iff.1 hr).1
      simp only [h.foldlM_cons, List.forall_mem_cons]
      constructor
      · rintro ⟨next, page', q, hp', hq, -, hn, hf⟩
        cases hp.symm.trans hp'
        refine ⟨⟨q, hq, hn⟩, fun t ht => ?_⟩
        obtain ⟨r, hr, hrn⟩ := (ih q).1 ⟨next, hf⟩ t ht
        exact ⟨r, hr, (SortedMap.contains_insert_eq_false_iff.1 hrn).1⟩
      · rintro ⟨⟨q, hq, hn⟩, hss⟩
        -- No other page has the place that is taken here, so all other places stay free.
        obtain ⟨next, hf⟩ := (ih q).2 fun t ht => by
          obtain ⟨r, hr, hrn⟩ := hss t ht
          refine ⟨r, hr, SortedMap.contains_insert_eq_false_iff.2 ⟨hrn, ?_⟩⟩
          rintro rfl
          exact (List.nodup_cons.1 h.nodup).1 (hq.source_eq hr ▸ ht)
        exact ⟨next, page, q, hp, hq, hold q hn, hn, hf⟩

/-! ## The copy -/

theorem movable_subtree (h : pages.contains source = true) :
    Movable pages source (pages.subtree source) where
  nodup := subtree_nodup
  below s hs := by
    obtain ⟨w, -, rfl⟩ := mem_subtree_iff.1 hs
    rw [PageId.path_below]
    exact List.prefix_append ..
  there s hs := SortedMap.contains_iff.1 (contains_of_mem_subtree h hs)

theorem copySubtree_eq_ok_iff : pages.copySubtree source target = .ok copied ↔
    pages.contains source = true ∧ target.isWithin source = false ∧
      (pages.subtree source).foldlM (pages.copyPage source target) pages = .ok copied := by
  rw [copySubtree]
  cases pages.contains source <;> cases target.isWithin source <;> simp

/-- In a story below the greatest page number a word leads down by as many steps as it has letters. -/
theorem number_le_of_hangs (hmax : ∀ id ∈ pages.keys, id.number < maxPageNumber) {w : List Letter}
    (hw : Hangs pages.keys source w) : source.number + w.length ≤ maxPageNumber := by
  by_cases h : w = []
  · subst h
    exact source.le_max
  · have hn := hmax _ (hw w h (List.prefix_refl w))
    rw [PageId.number_below] at hn
    omega

/-- What a copy of the subtree of `source` at `target` is. -/
structure IsCopy (pages : Pages) (source target : PageId) (copied : Pages) : Prop where
  /-- The pages of the story stay as they are. -/
  old : ∀ id, pages.contains id = true → copied.get? id = pages.get? id
  /-- The new pages are the places of the pages of the subtree. -/
  new : ∀ id, copied.contains id = true ∧ pages.contains id = false ↔
    ∃ s ∈ pages.subtree source, Moves source target s id
  /-- Each page of the subtree has one place, and stands there. -/
  place : ∀ s ∈ pages.subtree source,
    ∃! q, Moves source target s q ∧ copied.get? q = pages.get? s
  /-- No two pages of the subtree have one place. -/
  distinct : ∀ s ∈ pages.subtree source, ∀ s' ∈ pages.subtree source, ∀ q,
    Moves source target s q → Moves source target s' q → s = s'
  /-- A child of a page belongs to the subtree exactly if the child of its place is a new page. -/
  child : ∀ s ∈ pages.subtree source, ∀ q, Moves source target s q → ∀ l,
    s.child l ∈ pages.subtree source ↔
      ∃ s' ∈ pages.subtree source, Moves source target s' (q.child l)
  /-- The new pages are the target and descendants of it. -/
  hangs : ∀ s ∈ pages.subtree source, ∀ q, Moves source target s q →
    q = target ∨ q ∈ target.descendants copied.keys

theorem get?_copySubtree (h : pages.copySubtree source target = .ok copied) {id : PageId} :
    copied.get? id = some page ↔ pages.get? id = some page ∨
      ∃ s ∈ pages.subtree source, Moves source target s id ∧ pages.get? s = some page := by
  obtain ⟨hs, -, hf⟩ := copySubtree_eq_ok_iff.1 h
  exact (movable_subtree hs).get?_foldlM hf

/-- Each page of a subtree that was copied has a place that was free, and stands there. -/
theorem exists_moves_of_copySubtree (h : pages.copySubtree source target = .ok copied)
    (hs : s ∈ pages.subtree source) : ∃ q, Moves source target s q ∧
      pages.contains q = false ∧ copied.get? q = pages.get? s := by
  obtain ⟨hsource, -, hf⟩ := copySubtree_eq_ok_iff.1 h
  have hmov := movable_subtree hsource
  obtain ⟨q, hq, hn⟩ := (hmov.exists_foldlM_iff fun _ hq => hq).1 ⟨copied, hf⟩ s hs
  obtain ⟨page, hp⟩ := hmov.there s hs
  exact ⟨q, hq, hn, ((get?_copySubtree h).2 (.inr ⟨s, hs, hq, hp⟩)).trans hp.symm⟩

/-- The place of what a word leads to is what the word leads to from the target. -/
theorem moves_below_iff_of_copySubtree (hmax : ∀ id ∈ pages.keys, id.number < maxPageNumber)
    (h : pages.copySubtree source target = .ok copied) {w : List Letter}
    (hw : Hangs pages.keys source w) :
    Moves source target (source.below w) q ↔ q = target.below w := by
  obtain ⟨r, hr, -⟩ := exists_moves_of_copySubtree h (below_mem_subtree_iff.2 hw)
  have hm {q : PageId} := @PageId.moves_below_iff source target q w (number_le_of_hangs hmax hw)
  rw [hm, and_iff_right (hm.1 hr).1]

theorem isCopy_of_copySubtree (hmax : ∀ id ∈ pages.keys, id.number < maxPageNumber)
    (h : pages.copySubtree source target = .ok copied) : IsCopy pages source target copied where
  old id hid := by
    obtain ⟨page, hp⟩ := SortedMap.contains_iff.1 hid
    exact ((get?_copySubtree h).2 (.inl hp)).trans hp.symm
  new id := by
    constructor
    · rintro ⟨hc, hp⟩
      obtain ⟨page, hc⟩ := SortedMap.contains_iff.1 hc
      rcases (get?_copySubtree h).1 hc with hc | ⟨s, hs, hm, -⟩
      · cases (SortedMap.contains_eq_false_iff.1 hp).symm.trans hc
      · exact ⟨s, hs, hm⟩
    · rintro ⟨s, hs, hm⟩
      obtain ⟨q, hq, hn, hg⟩ := exists_moves_of_copySubtree h hs
      obtain rfl := hm.target_eq hq
      have hp := contains_of_mem_subtree (copySubtree_eq_ok_iff.1 h).1 hs
      exact ⟨by rw [SortedMap.contains_eq_isSome, hg, ← SortedMap.contains_eq_isSome, hp], hn⟩
  place s hs := by
    obtain ⟨q, hq, -, hg⟩ := exists_moves_of_copySubtree h hs
    exact ⟨q, ⟨hq, hg⟩, fun r hr => hr.1.target_eq hq⟩
  distinct s _ s' _ q hq hq' := hq.source_eq hq'
  child s hs q hq l := by
    -- Both sides say that the word that leads to the child leads through pages of the story.
    obtain ⟨w, hw, rfl⟩ := mem_subtree_iff.1 hs
    obtain rfl := (moves_below_iff_of_copySubtree hmax h hw).1 hq
    rw [← PageId.below_concat, ← PageId.below_concat, below_mem_subtree_iff]
    constructor
    · exact fun hl => ⟨_, below_mem_subtree_iff.2 hl,
        (moves_below_iff_of_copySubtree hmax h hl).2 rfl⟩
    · rintro ⟨s', hs', hm⟩
      obtain ⟨v, hv, rfl⟩ := mem_subtree_iff.1 hs'
      have he := (moves_below_iff_of_copySubtree hmax h hv).1 hm
      rwa [PageId.below_injective he]
  hangs s hs q hq := by
    obtain ⟨w, hw, rfl⟩ := mem_subtree_iff.1 hs
    obtain rfl := (moves_below_iff_of_copySubtree hmax h hw).1 hq
    rw [← List.mem_cons]
    refine below_mem_subtree_iff.2 fun v _ hvw => SortedMap.mem_keys_iff.2 ?_
    have hv := hw.of_prefix hvw
    have hsv := below_mem_subtree_iff.2 hv
    obtain ⟨r, hr, -, hg⟩ := exists_moves_of_copySubtree h hsv
    obtain rfl := (moves_below_iff_of_copySubtree hmax h hv).1 hr
    rw [SortedMap.contains_eq_isSome, hg, ← SortedMap.contains_eq_isSome]
    exact contains_of_mem_subtree (copySubtree_eq_ok_iff.1 h).1 hsv

/-- In a story below the greatest page number a subtree is copied exactly if its page is there, the
target is not within it, and each of its pages has a place that is free. Then the result is the story
with a copy of the subtree. -/
theorem copySubtree_isomorphic (pages : Pages)
    (hmax : ∀ id ∈ pages.keys, id.number < maxPageNumber) (source target : PageId) :
    ((∃ copied, pages.copySubtree source target = .ok copied) ↔
      pages.contains source = true ∧
      (¬ ∃ w, target.path = source.path ++ w ∧ target.number = source.number + w.length) ∧
      ∀ s ∈ pages.subtree source, ∃ q, Moves source target s q ∧ pages.contains q = false) ∧
    ∀ copied, pages.copySubtree source target = .ok copied →
      IsCopy pages source target copied := by
  refine ⟨?_, fun _ => isCopy_of_copySubtree hmax⟩
  simp only [copySubtree_eq_ok_iff, exists_and_left, ← PageId.isWithin_iff, Bool.not_eq_true]
  refine and_congr_right fun hs => and_congr_right fun _ => ?_
  exact (movable_subtree hs).exists_foldlM_iff fun _ hq => hq

/-- A tower is copied to a page whose path goes on from its own, but by two letters in one step. -/
theorem copySubtree_tower :
    let tower : PageId := { number := 2, path := [.a] }
    let roof : PageId := { number := 3, path := [.a, .a] }
    let target : PageId := { number := 3, path := [.a, .a, .b] }
    let pages : Pages := .ofList [(.root, ⟨"A gate.", true, false, [⟨'a', "In", none⟩]⟩),
      (tower, ⟨"A tower.", true, false, [⟨'a', "Up", none⟩]⟩), (roof, ⟨"A roof.", false, true, []⟩)]
    (∀ id ∈ pages.keys, id.number < maxPageNumber) ∧
      ∃ copied, pages.copySubtree tower target = .ok copied ∧ IsCopy pages tower target copied := by
  intro tower roof target pages
  have hmax : ∀ id ∈ pages.keys, id.number < maxPageNumber := by decide +kernel
  have hsub : pages.subtree tower = [tower, roof] := by decide +kernel
  have hcopy := copySubtree_isomorphic pages hmax tower target
  obtain ⟨copied, hc⟩ := hcopy.1.2 ⟨by decide +kernel, by simp [tower, target], by
    rw [hsub]
    refine List.forall_mem_cons.2 ⟨⟨target, ⟨rfl, [], rfl, rfl⟩, by decide +kernel⟩,
      List.forall_mem_singleton.2 ⟨target.child .a, ⟨rfl, [.a], rfl, rfl⟩, by decide +kernel⟩⟩⟩
  exact ⟨hmax, copied, hc, hcopy.2 copied hc⟩

end Pages
end Gamebook
