import Gamebook.Cli.Source
import Gamebook.Proofs.Disk.ReadBack
import Gamebook.Proofs.SortedMap

/-!
# What is written elsewhere

A text that is written to a file outside a folder leaves the folder as it was: it is found where it was
found before, and it holds the same files. So a story in it is loaded as before.
-/

namespace Gamebook

namespace Disk

variable {d made next : Disk} {l folder top x : Location} {ns : List String} {path root text : String}

/-! ## Places -/

/-- The place that an absolute path names. -/
def place (path : String) : Location := (names path).foldl nextPlace []

theorem eq_foldl_of_walk (h : d.walk l ns = some top) : top = ns.foldl nextPlace l := by
  induction ns generalizing l with
  | nil => exact (Option.some.inj h).symm
  | cons n ns ih =>
      rw [walk_cons] at h
      split at h
      · exact ih h
      · cases h

theorem eq_place_of_locate? (h : d.locate? path = some top) : top = place path :=
  eq_foldl_of_walk (Option.filter_eq_some_iff.1 h).1

theorem files_of_makeFolders (h : d.makeFolders l ns = some (made, folder)) :
    made.files = d.files := by
  induction ns generalizing d l with
  | nil => cases h; rfl
  | cons n ns ih =>
      rw [makeFolders] at h
      split at h
      · exact ih h
      · split at h
        · exact ih h
        · split at h
          · cases h
          · split at h
            · exact ih h
            · have hm := ih h
              exact hm

/-- To write a text is to make folders and to put the file at the place that the path names. -/
theorem writeText?_eq_some (h : d.writeText? path text = some next) :
    ∃ made : Disk, d.FoldersIn made ∧ made.files = d.files ∧
      next = { made with files := made.files.insert (place path) (.text text) } := by
  obtain ⟨ns, name, made, folder, hns, hn, hm, -, rfl⟩ := writeText?_eq_some_iff.1 h
  obtain ⟨hi, -, hw⟩ := walk_of_makeFolders hm d.isFolder_nil
  have hp : place path = folder ++ [name] := by
    rw [place, hns, List.foldl_append, ← eq_foldl_of_walk hw, List.foldl_cons, List.foldl_nil,
      nextPlace, if_neg (not_or.2 ⟨hn.1, hn.2.1⟩), if_neg hn.2.2]
  exact ⟨made, hi, files_of_makeFolders hm, by rw [hp]⟩

theorem isSome_writeText?_congr (d : Disk) (path text text' : String) :
    (d.writeText? path text).isSome = (d.writeText? path text').isSome := by
  simp only [writeText?, Option.bind_eq_bind]
  cases (names path).getLast? with
  | none => rfl
  | some name =>
      simp only [Option.bind_some]
      split
      · rfl
      · cases d.makeFolders [] (names path).dropLast with
        | none => rfl
        | some r =>
            simp only [Option.bind_some]
            split <;> rfl

/-! ## Folders that stay as they are -/

/-- Whether a folder at a path is still there on another disk, with the same files. -/
def Keeps (root : String) (d next : Disk) : Prop :=
  ∀ top, d.locate? root = some top → d.isFolder top = true →
    next.locate? root = some top ∧ next.isFolder top = true ∧
      ∀ l, isAbove top l = true → next.files.get? l = d.files.get? l

/-- A path outside a folder. -/
def Outside (root path : String) : Prop := isAbove (place root) (place path) = false

instance (root path : String) : Decidable (Outside root path) :=
  inferInstanceAs (Decidable (_ = false))

theorem locate?_mono (h : d.FoldersIn next) (hl : d.locate? root = some top)
    (ht : d.isFolder top = true) : next.locate? root = some top := by
  obtain ⟨hw, -⟩ := Option.filter_eq_some_iff.1 hl
  exact Option.filter_eq_some_iff.2 ⟨walk_mono h hw, by simp [h top ht]⟩

theorem keeps_of_writeText? (h : d.writeText? path text = some next) (ho : Outside root path) :
    Keeps root d next := by
  obtain ⟨made, hi, hf, rfl⟩ := writeText?_eq_some h
  intro top hl ht
  have hm := hi.trans (foldersIn_addFile made (place path) (.text text))
  refine ⟨locate?_mono hm hl ht, hm top ht, fun l ha => ?_⟩
  have hn : l ≠ place path := by
    rintro rfl
    rw [eq_place_of_locate? hl, ho] at ha
    cases ha
  rw [SortedMap.get?_insert, if_neg fun hc => hn (Std.LawfulEqCmp.eq_of_compare hc), hf]

/-!
## Writing again

Where a text was written, another can be written: the folders on the way are there, and the file that
was written is in the way of none of them.
-/

/-- Folders that were made once lead the same way on a disk that has them and no file in their place. -/
theorem makeFolders_again (h : d.makeFolders l ns = some (made, folder)) (hl : d.isFolder l = true)
    (hi : made.FoldersIn next)
    (hf : ∀ x, made.isFolder x = true → d.isFile x = false → next.isFile x = false) :
    next.makeFolders l ns = some (next, folder) := by
  induction ns generalizing d l with
  | nil =>
      cases h
      rfl
  | cons n ns ih =>
      rw [makeFolders] at h ⊢
      split at h
      · next hs =>
          rw [if_pos hs]
          exact ih h hl hf
      · next hs =>
          rw [if_neg hs]
          split at h
          · next hu =>
              rw [if_pos hu]
              exact ih h (isFolder_dropLast hl) hf
          · next hu =>
              rw [if_neg hu]
              split at h
              · cases h
              · next hfile =>
                  -- the folder of this name is there now, whether it was made or not
                  have hgo {d' : Disk} (hd : d'.makeFolders (l ++ [n]) ns = some (made, folder))
                      (hn : d'.isFolder (l ++ [n]) = true) (he : d'.files = d.files) :
                      (if next.isFile (l ++ [n]) then none
                        else if next.isFolder (l ++ [n]) then next.makeFolders (l ++ [n]) ns
                        else makeFolders { next with folders := (l ++ [n]) :: next.folders }
                          (l ++ [n]) ns) = some (next, folder) := by
                    have hmade := (walk_of_makeFolders hd hn).1 _ hn
                    rw [hf _ hmade (Bool.eq_false_iff.2 hfile), hi _ hmade]
                    refine ih hd hn fun x hx hdx => hf x hx ?_
                    rwa [isFile, he] at hdx
                  split at h
                  · next hn => exact hgo h hn rfl
                  · exact hgo h (isFolder_addFolder d _) rfl

theorem isFile_addFile_of_ne (hx : x ≠ l) (d : Disk) (c : Content) :
    isFile { d with files := d.files.insert l c } x = d.isFile x := by
  have hc : compare x l ≠ .eq := fun hc => hx (Std.LawfulEqCmp.eq_of_compare hc)
  simp only [isFile, SortedMap.contains_eq_isSome, SortedMap.get?_insert, hc, if_false]

theorem mem_keys_of_insert {c : Content} {files : SortedMap Location Content}
    (h : x ∈ (files.insert l c).keys) : x = l ∨ x ∈ files.keys := by
  obtain ⟨e, he, rfl⟩ := List.mem_map.1 h
  rcases SortedMap.mem_insertEntry he with rfl | he
  · exact .inl rfl
  · exact .inr (List.mem_map_of_mem he)

/-- A file is no folder once it is written, if it was none before. -/
theorem isFolder_addFile_self (h : d.isFolder l = false) (c : Content) :
    isFolder { d with files := d.files.insert l c } l = false := by
  refine Bool.eq_false_iff.2 fun hl => Bool.eq_false_iff.1 h (isFolder_iff.2 ?_)
  rcases isFolder_iff.1 hl with hl | hl | ⟨f, hf, hp, hn⟩
  · exact .inl hl
  · exact .inr (.inl hl)
  · rcases mem_keys_of_insert hf with rfl | hf
    · exact absurd rfl hn
    · exact .inr (.inr ⟨f, hf, hp, hn⟩)

theorem isSome_writeText?_again (h : d.writeText? path text = some next) (more : String) :
    (next.writeText? path more).isSome = true := by
  obtain ⟨ns, name, made, folder, hns, hn, hm, hf, rfl⟩ := writeText?_eq_some_iff.1 h
  have hfiles := files_of_makeFolders hm
  have hagain : makeFolders
      { made with files := made.files.insert (folder ++ [name]) (.text text) } [] ns =
        some ({ made with files := made.files.insert (folder ++ [name]) (.text text) }, folder) := by
    refine makeFolders_again hm d.isFolder_nil (foldersIn_addFile made _ _) fun x hx hdx => ?_
    have hne : x ≠ folder ++ [name] := by
      rintro rfl
      exact Bool.eq_false_iff.1 hf hx
    rwa [isFile_addFile_of_ne hne, isFile, hfiles]
  exact Option.isSome_iff_exists.2 ⟨_, writeText?_eq_some_iff.2 ⟨ns, name, _, folder, hns, hn, hagain,
    isFolder_addFile_self hf _, rfl⟩⟩

end Disk

/-! ## Stories that stay as they are -/

namespace StoryFolder

theorem foldlM_addFile (top : Location) (es : List (Location × Content)) (f : StoryFolder) :
    es.foldlM (addFile top) f = (es.filter fun e => Disk.isAbove top e.1).foldlM (addFile top) f := by
  induction es generalizing f with
  | nil => rfl
  | cons e es ih =>
      obtain ⟨l, content⟩ := e
      cases ha : Disk.isAbove top l with
      | true =>
          rw [List.filter_cons_of_pos (by exact ha), List.foldlM_cons, List.foldlM_cons]
          exact bind_congr ih
      | false =>
          rw [List.filter_cons_of_neg (by simp [ha]), List.foldlM_cons, ← ih]
          have hn : addFile top f (l, content) = .ok f := by simp [addFile, ha]
          rw [hn]
          rfl

/-- A folder with the same files holds the same of a story. -/
theorem read_congr {d next : Disk} {top : Location}
    (h : ∀ l, Disk.isAbove top l = true → next.files.get? l = d.files.get? l) :
    read next top = read d top := by
  have hf : next.files.filter (fun l _ => Disk.isAbove top l) =
      d.files.filter fun l _ => Disk.isAbove top l := by
    refine SortedMap.eq_of_get? fun l => Option.ext fun c => ?_
    rw [SortedMap.get?_filter_eq_some_iff, SortedMap.get?_filter_eq_some_iff]
    exact and_congr_left fun ha => by rw [h l ha]
  rw [read, read, foldlM_addFile, foldlM_addFile top d.files.entries]
  exact congrArg (fun m : SortedMap Location Content => m.entries.foldlM (addFile top) _) hf

end StoryFolder

namespace LoadedStory

variable {d next : Disk} {here path : String} {s : LoadedStory}

theorem load_of_keeps (h : load d here path = .ok s)
    (hk : Disk.Keeps (Disk.absolute here path) d next) : load next here path = .ok s := by
  unfold load at h ⊢
  simp only at h ⊢
  cases hl : d.locate? (Disk.absolute here path) with
  | none => simp [hl] at h
  | some top =>
      cases hf : d.isFolder top with
      | false => simp [hl, hf] at h
      | true =>
          obtain ⟨hl', hf', hsame⟩ := hk top hl hf
          simpa only [hl, hf, hl', hf', StoryFolder.read_congr hsame] using h

end LoadedStory
end Gamebook
