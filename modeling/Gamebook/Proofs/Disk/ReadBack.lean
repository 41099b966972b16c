import Gamebook.Disk.Basic
import Gamebook.Proofs.Text.Line

/-!
# Reading what was written

The text that is written to the file at a path is found there. The folders on the way are found
because a disk never loses a folder when folders are made or a file is put on it.
-/

namespace Gamebook.Disk

/-- Whether the folders of a disk are folders of another. -/
def FoldersIn (d made : Disk) : Prop := ∀ l, d.isFolder l = true → made.isFolder l = true

theorem FoldersIn.refl (d : Disk) : d.FoldersIn d := fun _ h => h

theorem FoldersIn.trans {a b c : Disk} (hab : a.FoldersIn b) (hbc : b.FoldersIn c) :
    a.FoldersIn c :=
  fun l h => hbc l (hab l h)

theorem isFolder_nil (d : Disk) : d.isFolder [] = true := rfl

theorem isFolder_iff {d : Disk} {l : Location} :
    d.isFolder l = true ↔
      l = [] ∨ (∃ f ∈ d.folders, l <+: f) ∨ ∃ f ∈ d.files.keys, l <+: f ∧ l ≠ f := by
  simp [isFolder, isAbove, or_assoc]

theorem isFolder_of_prefix {d : Disk} {outer l : Location} (h : outer <+: l)
    (hl : d.isFolder l = true) : d.isFolder outer = true := by
  rcases isFolder_iff.1 hl with rfl | ⟨f, hf, hp⟩ | ⟨f, hf, hp, hn⟩
  · rw [List.prefix_nil.1 h]
    exact isFolder_nil d
  · exact isFolder_iff.2 (.inr (.inl ⟨f, hf, h.trans hp⟩))
  · refine isFolder_iff.2 (.inr (.inr ⟨f, hf, h.trans hp, ?_⟩))
    rintro rfl
    exact hn (hp.eq_of_length (Nat.le_antisymm hp.length_le h.length_le))

theorem isFolder_dropLast {d : Disk} {l : Location} (hl : d.isFolder l = true) :
    d.isFolder l.dropLast = true :=
  isFolder_of_prefix (List.dropLast_prefix l) hl

/-! ## What writing keeps -/

theorem foldersIn_addFolder (d : Disk) (l : Location) :
    d.FoldersIn { d with folders := l :: d.folders } := by
  intro x hx
  rcases isFolder_iff.1 hx with rfl | ⟨f, hf, hp⟩ | ⟨f, hf, hp⟩
  · exact isFolder_nil _
  · exact isFolder_iff.2 (.inr (.inl ⟨f, List.mem_cons_of_mem _ hf, hp⟩))
  · exact isFolder_iff.2 (.inr (.inr ⟨f, hf, hp⟩))

theorem isFolder_addFolder (d : Disk) (l : Location) :
    isFolder { d with folders := l :: d.folders } l = true :=
  isFolder_iff.2 (.inr (.inl ⟨l, List.mem_cons_self .., List.prefix_refl l⟩))

theorem mem_keys_insertEntry {k x : Location} {v : Content} {es : List (Location × Content)}
    (h : x ∈ es.map (·.1)) : x ∈ (SortedMap.insertEntry k v es).map (·.1) := by
  induction es with
  | nil => cases h
  | cons e es ih =>
      rw [SortedMap.insertEntry]
      cases hc : compare k e.1 with
      | lt => exact List.mem_cons_of_mem _ h
      | eq =>
          have hk : k = e.1 := Std.LawfulEqCmp.eq_of_compare hc
          rw [List.map_cons, ← hk] at h
          exact h
      | gt =>
          rw [List.map_cons] at h ⊢
          rcases List.mem_cons.1 h with rfl | h
          · exact List.mem_cons_self ..
          · exact List.mem_cons_of_mem _ (ih h)

theorem foldersIn_addFile (d : Disk) (l : Location) (c : Content) :
    d.FoldersIn { d with files := d.files.insert l c } := by
  intro x hx
  rcases isFolder_iff.1 hx with rfl | ⟨f, hf, hp⟩ | ⟨f, hf, hp⟩
  · exact isFolder_nil _
  · exact isFolder_iff.2 (.inr (.inl ⟨f, hf, hp⟩))
  · exact isFolder_iff.2 (.inr (.inr ⟨f, mem_keys_insertEntry hf, hp⟩))

/-! ## The way to a file -/

/-- The place that a name leads to from a folder. -/
def nextPlace (l : Location) (n : String) : Location :=
  if n = "" ∨ n = "." then l else if n = ".." then l.dropLast else l ++ [n]

theorem walk_cons (d : Disk) (l : Location) (n : String) (ns : List String) :
    d.walk l (n :: ns) = if d.isFolder l then d.walk (nextPlace l n) ns else none := by
  rw [walk, nextPlace]
  cases d.isFolder l with
  | false => rfl
  | true =>
      by_cases hs : n = "" ∨ n = "."
      · simp [hs]
      · by_cases hu : n = ".."
        · simp [hu]
        · simp [hs, hu]

theorem walk_mono {d made : Disk} (h : d.FoldersIn made) {ns : List String} {l place : Location}
    (hw : d.walk l ns = some place) : made.walk l ns = some place := by
  induction ns generalizing l with
  | nil => exact hw
  | cons n ns ih =>
      rw [walk_cons] at hw ⊢
      cases hf : d.isFolder l with
      | false => simp [hf] at hw
      | true =>
          simp only [hf, ↓reduceIte] at hw
          simp only [h l hf, ↓reduceIte]
          exact ih hw

theorem walk_append {d : Disk} {ns : List String} {l place : Location}
    (h : d.walk l ns = some place) (rest : List String) :
    d.walk l (ns ++ rest) = d.walk place rest := by
  induction ns generalizing l with
  | nil => cases h; rfl
  | cons n ns ih =>
      rw [walk_cons] at h
      rw [List.cons_append, walk_cons]
      cases hf : d.isFolder l with
      | false => simp [hf] at h
      | true =>
          simp only [hf, ↓reduceIte] at h ⊢
          exact ih h

/-- To make folders is to go on from the next place, on a disk that has a folder there. -/
theorem makeFolders_cons {d : Disk} {l : Location} {n : String} {ns : List String}
    {r : Disk × Location} (h : d.makeFolders l (n :: ns) = some r) (hl : d.isFolder l = true) :
    ∃ next : Disk, d.FoldersIn next ∧ next.isFolder (nextPlace l n) = true ∧
      next.makeFolders (nextPlace l n) ns = some r := by
  rw [makeFolders] at h
  unfold nextPlace
  by_cases hs : n = "" ∨ n = "."
  · rw [if_pos hs] at h ⊢
    exact ⟨d, .refl d, hl, h⟩
  · rw [if_neg hs] at h ⊢
    by_cases hu : n = ".."
    · rw [if_pos hu] at h ⊢
      exact ⟨d, .refl d, isFolder_dropLast hl, h⟩
    · rw [if_neg hu] at h ⊢
      split at h
      · cases h
      · split at h
        · next hn => exact ⟨d, .refl d, hn, h⟩
        · exact ⟨_, foldersIn_addFolder d _, isFolder_addFolder d _, h⟩

/-- The folders that are made lead to the place they are made for. -/
theorem walk_of_makeFolders {d made : Disk} {l folder : Location} {ns : List String}
    (h : d.makeFolders l ns = some (made, folder)) (hl : d.isFolder l = true) :
    d.FoldersIn made ∧ made.isFolder folder = true ∧ made.walk l ns = some folder := by
  induction ns generalizing d l with
  | nil =>
      cases h
      exact ⟨.refl _, hl, rfl⟩
  | cons n ns ih =>
      obtain ⟨next, hi, hf, hn⟩ := makeFolders_cons h hl
      obtain ⟨hj, hg, hw⟩ := ih hn hf
      refine ⟨hi.trans hj, hg, ?_⟩
      rw [walk_cons, if_pos ((hi.trans hj) l hl)]
      exact hw

/-- To write a text is to make the folders on the way and to put a file of the last name in the place
they lead to, where no folder is. -/
theorem writeText?_eq_some_iff {d next : Disk} {path text : String} :
    d.writeText? path text = some next ↔ ∃ ns name made folder,
      names path = ns ++ [name] ∧ (name ≠ "" ∧ name ≠ "." ∧ name ≠ "..") ∧
      d.makeFolders [] ns = some (made, folder) ∧ made.isFolder (folder ++ [name]) = false ∧
      next = { made with files := made.files.insert (folder ++ [name]) (.text text) } := by
  simp only [writeText?, Option.bind_eq_bind]
  constructor
  · intro h
    obtain ⟨name, hlast, h⟩ := Option.bind_eq_some_iff.1 h
    obtain ⟨ns, hns⟩ := List.getLast?_eq_some_iff.1 hlast
    split at h
    · cases h
    · next hn =>
        rw [hns, List.dropLast_concat] at h
        obtain ⟨⟨made, folder⟩, hm, h⟩ := Option.bind_eq_some_iff.1 h
        split at h
        · cases h
        · next hf =>
            cases h
            exact ⟨ns, name, made, folder, hns, by simpa using hn, hm, Bool.eq_false_iff.2 hf, rfl⟩
  · rintro ⟨ns, name, made, folder, hns, hn, hm, hf, rfl⟩
    have hn : name ∉ ["", ".", ".."] := by simpa using hn
    simp only [hns, List.getLast?_concat, List.dropLast_concat, Option.bind_some, if_neg hn, hm, hf,
      Bool.false_eq_true, if_false]

/-- A path at which a text was written leads to a file with that text. -/
theorem readText?_of_writeText? {d next : Disk} {path text : String}
    (h : d.writeText? path text = some next) :
    next.holds path = true ∧ next.readText? path = some text := by
  obtain ⟨ns, name, made, folder, hns, hn, hm, -, rfl⟩ := writeText?_eq_some_iff.1 h
  obtain ⟨-, hf, hw⟩ := walk_of_makeFolders hm d.isFolder_nil
  have hi := foldersIn_addFile made (folder ++ [name]) (.text text)
  have hget : (made.files.insert (folder ++ [name]) (.text text)).get? (folder ++ [name]) =
      some (.text text) := by
    rw [SortedMap.get?_insert, if_pos Std.ReflCmp.compare_self]
  have hlocate : locate?
      { made with files := made.files.insert (folder ++ [name]) (.text text) } path =
        some (folder ++ [name]) := by
    have hfile : isFile { made with files := made.files.insert (folder ++ [name]) (.text text) }
        (folder ++ [name]) = true := by
      rw [isFile, SortedMap.contains_eq_isSome, hget]
      rfl
    rw [locate?, hns, walk_append (walk_mono hi hw), walk, hi folder hf]
    simp [hn.1, hn.2.1, hn.2.2, walk, hfile]
  refine ⟨?_, ?_⟩
  · rw [holds, hlocate]
    rfl
  · simp [readText?, hlocate, hget]

theorem writeText?_absolute_empty (d : Disk) (here text : String) :
    d.writeText? (absolute here "") text = none := by
  have hn : ∃ ns, names (absolute here "") = ns ++ [""] := by
    obtain ⟨t, ht⟩ : ∃ t : Text, (absolute here "").toList = t ++ '/' :: [] := by
      unfold absolute
      simp only [String.toList_empty, List.head?_nil, reduceCtorEq, ↓reduceIte, String.append_empty]
      split
      · next h => exact List.getLast?_eq_some_iff.1 h
      · exact ⟨here.toList, by simp⟩
    refine ⟨(Text.splitOn '/' t).map String.ofList, ?_⟩
    rw [names, ht, Text.splitOn_append_cons, List.map_append]
    rfl
  obtain ⟨ns, hn⟩ := hn
  simp [writeText?, hn]

end Gamebook.Disk
