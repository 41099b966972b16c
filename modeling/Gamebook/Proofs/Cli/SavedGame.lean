import Gamebook.Cli.SavedGame
import Gamebook.Proofs.Disk.ReadBack
import Gamebook.Proofs.Play.Chain
import Gamebook.Proofs.Play.DataForm
import Gamebook.Proofs.Play.Restore

/-!
# Loading what was saved

A saved play is loaded, and goes on where it was, as long as its variables hold no number out of
range. Such a number is written as nothing, and then nothing of the saved game can be loaded. Only a
sum or difference on the way can bring one about.
-/

namespace Gamebook

/-! ## Resuming -/

/-- A play that comes about by moves is resumed from its snapshot as it was. -/
theorem Stage.resume_snapshot {s : Stage} {p : Play} {snapshot : Snapshot} (h : s.Reaches p)
    (hs : p.snapshot = .ok snapshot) : s.resume snapshot = .ok p :=
  Renders.resume_snapshot (fun _ hm => (h.sound.of_moment hm).2) hs

/-! ## Numbers on the way -/

/-- Whether a sum or difference of a visited page was out of range. -/
def Stage.Overflows (s : Stage) (v : Visit) : Prop :=
  ∃ page, s.pages.page? v.page = some page ∧
    Assignment.someOverflows v.before (Directive.assignments page.prose) = true

/-- Variables stay finite along a history in which nothing was out of range. -/
theorem Stage.Carries.allFinite {s : Stage} {h : List Visit} {vars : Variables}
    (hc : s.Carries h vars) (hi : Decimal.AllFinite s.initial.numbers)
    (ho : ∀ v ∈ h, ¬ s.Overflows v) :
    Decimal.AllFinite vars.numbers ∧ Decimal.AllFinite (h.flatMap fun v => v.before.numbers) := by
  induction h generalizing vars with
  | nil =>
      cases hc
      exact ⟨hi, List.forall_mem_nil _⟩
  | cons v earlier ih =>
      obtain ⟨hb, he⟩ := ih hc.2 fun w hw => ho w (by simp [hw])
      obtain ⟨page, hp, rfl⟩ := Option.map_eq_some_iff.1 hc.1
      have hv : Assignment.someOverflows v.before (Directive.assignments page.prose) = false := by
        rw [← Bool.not_eq_true]
        exact fun h => ho v (by simp) ⟨page, hp, h⟩
      refine ⟨Assignment.isFinite_applyAll hb (fun _ => Directive.isFinite_assignments) hv, ?_⟩
      rw [List.flatMap_cons]
      exact Decimal.allFinite_append.2 ⟨hb, he⟩

theorem Stage.Reaches.allFinite {s : Stage} {p : Play} {snapshot : Snapshot} (h : s.Reaches p)
    (hs : p.snapshot = .ok snapshot) (hi : Decimal.AllFinite s.initial.numbers)
    (ho : ∀ v ∈ p.history, ¬ s.Overflows v) : Decimal.AllFinite snapshot.numbers := by
  obtain ⟨m, hm, rfl⟩ := Play.snapshot_eq_ok hs
  obtain ⟨hb, hh⟩ := (h.sound.of_moment hm).1.allFinite hi ho
  refine Decimal.allFinite_append.2 ⟨hb, fun x hx => hh x ?_⟩
  simpa using hx

/-! ## Saved games -/

namespace SavedGame

theorem ofJson?_toJson (g : SavedGame) :
    ofJson? g.toJson = if Decimal.AllFinite g.snapshot.numbers then some g else none := by
  have hr : g.toJson.record? ["schemaVersion", "storyId", "snapshot"] =
      some ⟨[("schemaVersion", .string g.schema), ("storyId", .string g.storyId),
        ("snapshot", g.snapshot.toJson)], false⟩ := rfl
  simp only [ofJson?, hr, Json.Record.required?, Json.Record.get?, List.lookup_cons,
    String.reduceBEq, beq_self_eq_true, Option.bind_some, Option.bind_eq_bind, Json.string?,
    Snapshot.ofJson?_toJson]
  split <;> rfl

theorem read_eq_ok_iff {path text : String} {g : SavedGame} : read path text = .ok g ↔
    (Json.parse? text).bind ofJson? = some g ∧ g.schema = currentSchema := by
  rw [read]
  cases (Json.parse? text).bind ofJson? with
  | none => exact ⟨nofun, nofun⟩
  | some g' =>
      rw [Option.some_inj]
      by_cases hs : g'.schema = currentSchema
      · simp only [if_neg (not_not.2 hs), Except.ok.injEq]
        exact ⟨fun h => ⟨h, h ▸ hs⟩, And.left⟩
      · simp only [if_pos hs]
        exact ⟨nofun, fun h => absurd h.2 (h.1 ▸ hs)⟩

/-- A saved game is loaded from a file that can be read as one of the current schema. -/
theorem load_eq_ok_iff {d : Disk} {here path : String} {g : SavedGame} : load d here path = .ok g ↔
    path ≠ "" ∧ ∃ text, d.readText? (Disk.absolute here path) = some text ∧
      (Json.parse? text).bind ofJson? = some g ∧ g.schema = currentSchema := by
  simp only [← @read_eq_ok_iff path]
  have hholds (h : d.holds (Disk.absolute here path) = false) :
      d.readText? (Disk.absolute here path) = none := by
    rw [Disk.readText?, Option.not_isSome_iff_eq_none.1 (Bool.eq_false_iff.1 h)]
    rfl
  rw [load]
  split
  · next hn =>
      constructor
      · intro h
        cases h
      · rintro ⟨hp, text, ht, -⟩
        rcases Bool.or_eq_true_iff.1 hn with he | hh
        · exact absurd (of_decide_eq_true he) hp
        · cases ht.symm.trans (hholds (Bool.not_eq_true' _ ▸ hh))
  · next hn =>
      have hp : path ≠ "" := fun he => hn (by simp [he])
      cases d.readText? (Disk.absolute here path) <;> simp [hp]

theorem read_write {g : SavedGame} (hg : g.schema = currentSchema)
    (hr : Decimal.ReadBack g.snapshot.numbers) (path : String) :
    read path g.write =
      if Decimal.AllFinite g.snapshot.numbers then .ok g else .error (.malformed path) := by
  have hj : g.toJson.ReadsBack := ⟨trivial, trivial, Snapshot.readsBack_toJson hr, trivial⟩
  rw [read, write, Json.parse?_pretty hj, Option.bind_some, ofJson?_toJson]
  by_cases hf : Decimal.AllFinite g.snapshot.numbers
  · simp only [if_pos hf, hg, ne_eq, not_true_eq_false, ↓reduceIte]
  · simp only [if_neg hf]

theorem save_eq_ok {d next : Disk} {here path id : String} {p : Play}
    (h : save d here path id p = .ok next) :
    ∃ snapshot, p.snapshot = .ok snapshot ∧
      d.writeText? (Disk.absolute here path) (write ⟨currentSchema, id, snapshot⟩) = some next := by
  unfold save at h
  cases hs : p.snapshot with
  | error cause => simp [hs] at h
  | ok snapshot =>
      simp only [hs] at h
      split at h
      · next hw => cases h; exact ⟨snapshot, rfl, hw⟩
      · cases h

/-- What is loaded from a path is read from the text that was written there. -/
theorem load_of_writeText? {d next : Disk} {here path text : String}
    (h : d.writeText? (Disk.absolute here path) text = some next) :
    load next here path = read path text := by
  have hp : path ≠ "" := by
    rintro rfl
    rw [Disk.writeText?_absolute_empty] at h
    cases h
  obtain ⟨hh, hr⟩ := Disk.readText?_of_writeText? h
  simp [load, hp, hh, hr]

/-- A play that comes about by moves and is saved is loaded as it was saved and resumed as it was,
unless a number that was saved is out of range; and none is if no sum or difference on the way was.
The numbers that have a written form are taken to read back from it. -/
theorem load_of_save {s : Stage} {p : Play} {d next : Disk} {here path id : String}
    (hp : s.Reaches p) (hs : save d here path id p = .ok next)
    (hr : ∀ snapshot, p.snapshot = .ok snapshot → Decimal.ReadBack snapshot.numbers) :
    ∃ snapshot, p.snapshot = .ok snapshot ∧
      load next here path =
        (if Decimal.AllFinite snapshot.numbers then .ok ⟨currentSchema, id, snapshot⟩
        else .error (.malformed path)) ∧
      s.resume snapshot = .ok p ∧
      (Decimal.AllFinite s.initial.numbers → (∀ v ∈ p.history, ¬ s.Overflows v) →
        Decimal.AllFinite snapshot.numbers) := by
  obtain ⟨snapshot, hsnap, hw⟩ := save_eq_ok hs
  have hl := (load_of_writeText? hw).trans (read_write (g := ⟨_, id, _⟩) rfl (hr _ hsnap) path)
  exact ⟨snapshot, hsnap, hl, s.resume_snapshot hp hsnap, hp.allFinite hsnap⟩

/-- A play that counts in halves is loaded from the file that it is saved in. -/
theorem load_of_save_half :
    let s : Stage := { pages := ⟨fun _ => some (.ofSource "{add:n=1.5}")⟩ }
    let p := (s.perform s.start (.jump "2")).1
    ∃ snapshot next, p.snapshot = .ok snapshot ∧
      save .blank "/home" "saves/game.json" "story" p = .ok next ∧
      load next "/home" "saves/game.json" = .ok ⟨currentSchema, "story", snapshot⟩ := by
  intro s p
  have hp : s.Reaches p := .move (.move (m := .start) .fresh (by simp)) (by simp)
  obtain ⟨snapshot, hs, hn⟩ : ∃ snapshot, p.snapshot = .ok snapshot ∧ snapshot.numbers = [1.5] := by
    refine ⟨_, rfl, ?_⟩
    have hv : ((Page.ofSource "{add:n=1.5}").variablesAfter .empty).numbers = [1.5] := by
      rw [Page.variablesAfter, Directive.assignments, Find.gather_eq]
      decide +kernel
    exact congrArg (· ++ []) hv
  obtain ⟨next, hd⟩ : ∃ next, save .blank "/home" "saves/game.json" "story" p = .ok next := ⟨_, rfl⟩
  have hr : Decimal.ReadBack snapshot.numbers := by
    rw [hn]
    exact List.forall_mem_singleton.2 fun _ => rfl
  obtain ⟨_, hsnap, hl, -⟩ := load_of_save hp hd fun _ h => by
    cases hs.symm.trans h
    exact hr
  cases hs.symm.trans hsnap
  refine ⟨snapshot, next, hs, hd, hl.trans (if_pos ?_)⟩
  rw [hn]
  decide +kernel

/-- A play whose sum is out of range cannot be loaded from the file that it is saved in. -/
theorem not_load_of_save_overflow :
    let text : Text := "\x7bset:x=1e308\x7d\x7badd:x=1".toList ++ List.replicate 308 '0' ++ ['\x7d']
    let s : Stage := { pages := ⟨fun _ => some (.ofSource (String.ofList text))⟩ }
    let p := (s.perform s.start (.jump "2")).1
    s.Reaches p ∧ Decimal.AllFinite s.initial.numbers ∧
      ∃ next, save .blank "/home" "saves/game.json" "story" p = .ok next ∧
        load next "/home" "saves/game.json" = .error (.malformed "saves/game.json") := by
  intro text s p
  refine ⟨.move (.move (m := .start) .fresh (by simp)) (by simp), by decide, ?_⟩
  obtain ⟨snapshot, hs, hn⟩ : ∃ snapshot, p.snapshot = .ok snapshot ∧
      snapshot.numbers = [Decimal.infinity] := by
    refine ⟨_, rfl, ?_⟩
    have hv : ((Page.ofSource (String.ofList text)).variablesAfter .empty).numbers =
        [Decimal.infinity] := by
      simp only [Page.variablesAfter, Page.prose, Page.ofSource, String.toList_ofList,
        Directive.assignments, Find.gather_eq]
      decide +kernel
    exact congrArg (· ++ []) hv
  obtain ⟨next, hd⟩ : ∃ next, save .blank "/home" "saves/game.json" "story" p = .ok next := ⟨_, rfl⟩
  obtain ⟨_, hsnap, hw⟩ := save_eq_ok hd
  cases hs.symm.trans hsnap
  have hf : ¬ Decimal.isFinite Decimal.infinity = true := by decide +kernel
  have hr : Decimal.ReadBack snapshot.numbers := by
    rw [hn]
    exact List.forall_mem_singleton.2 fun h => absurd h hf
  have hl := read_write (g := ⟨currentSchema, "story", snapshot⟩) rfl hr "saves/game.json"
  refine ⟨next, hd, (load_of_writeText? hw).trans (hl.trans (if_neg ?_))⟩
  rw [hn]
  exact fun h => hf (h _ (List.mem_singleton.2 rfl))

end SavedGame
end Gamebook
