import Gamebook.Cli.Run
import Gamebook.Proofs.Cli.SavedGame
import Gamebook.Proofs.Disk.Elsewhere
import Gamebook.Proofs.Story.Loading

/-!
# An agent's commands and one live play

An agent plays a story by commands that share nothing but files: each loads the story and the game that
the command before it saved, makes one move, and saves again. Step by step it is told what one play that
stays in memory would tell it, refusals included: the file holds a snapshot of the live play, and the
story stays as it is. A refused move and the end of the story leave the disk as it was.
-/

namespace Gamebook

open Cli

variable {s : LoadedStory} {root here out : String} {d next : Disk} {file : Option String}
  {p q : Play} {m : Move} {c : Command} {cause : Refusal} {snapshot : Snapshot}

/-! ## Stories and saved games -/

theorem LoadedStory.load_congr {path here' path' : String}
    (h : Disk.absolute here path = Disk.absolute here' path') (d : Disk) :
    load d here path = load d here' path' := by
  simp only [load, h]

theorem Disk.absolute_eq_self {path : String} (h : path.toList.head? = some '/') (here : String) :
    absolute here path = path :=
  if_pos h

/-- The name under which games of a story are saved leads to its folder. -/
theorem LoadedStory.id_of_load {path : String} (h : load d here path = .ok s) :
    s.id = scheme ++ Disk.absolute here path := by
  unfold load at h
  simp only at h
  repeat' split at h
  all_goals cases h
  rfl

theorem LoadedStory.loadReference_scheme (d : Disk) (here root : String) :
    loadReference d here (scheme ++ root) = load d here root := by
  rw [loadReference, String.toList_append, Text.after?_append]
  simp only [String.ofList_toList]

/-- A start that shows no page leaves the play as it is before its start. -/
theorem Stage.start_of_ended {s : Stage} (h : s.start.isEnded = true) : s.start = s.fresh := by
  unfold Stage.start Stage.enter at h ⊢
  cases hp : s.pages.page? .root with
  | some page => simp [hp, Stage.showPage, Play.isEnded] at h
  | none => rfl

namespace SavedGame

/-- The game in which a snapshot of a story is saved. -/
def ofSnapshot (s : LoadedStory) (snapshot : Snapshot) : SavedGame := ⟨currentSchema, s.id, snapshot⟩

/-- Whether a game is what its written form is read as. -/
def ReadsBack (g : SavedGame) : Prop := (Json.parse? g.write).bind ofJson? = some g

/-- A game reads back if its numbers do and none is out of range. -/
theorem readsBack_of_numbers {g : SavedGame} (hr : Decimal.ReadBack g.snapshot.numbers)
    (hf : Decimal.AllFinite g.snapshot.numbers) : g.ReadsBack := by
  have hj : g.toJson.ReadsBack := ⟨trivial, trivial, Snapshot.readsBack_toJson hr, trivial⟩
  rw [ReadsBack, write, Json.parse?_pretty hj, Option.bind_some, ofJson?_toJson, if_pos hf]

/-- A game that reads back is loaded from a file that holds its written form. -/
theorem load_of_readText? {g : SavedGame} (hg : g.schema = currentSchema) (hr : g.ReadsBack)
    {path : String} (hp : path ≠ "")
    (hd : d.readText? (Disk.absolute here path) = some g.write) : load d here path = .ok g :=
  load_eq_ok_iff.2 ⟨hp, g.write, hd, hr, hg⟩

end SavedGame

namespace Cli

/-! ## Games that go on from file to file -/

/-- The move that a command asks for, of a game that is saved in a file or has not begun, and the file
in which it is saved afterwards; `root` is the folder of the story. -/
inductive Asks (root here : String) : Option String → Command → Move → String → Prop
  | start {dir out : String} (h : Disk.absolute here dir = root) :
      Asks root here none (.start dir out) .start out
  | choose {stateIn out : String} {letter : Char} :
      Asks root here (some (Disk.absolute here stateIn)) (.choose stateIn letter out)
        (.choose letter) out
  | goOn {stateIn out : String} :
      Asks root here (some (Disk.absolute here stateIn)) (.goOn stateIn out) .goOn out

/-- The games of a story, in the folder `root`, that an agent's commands lead to: the disk, the file in
which the game was last saved, and the play that stays in memory and is asked for the same moves. A
game goes on when it reads back from its file, and that is outside the folder of the story and can be
written; a move that ends the story ends the game. Between two commands anything may happen to the disk
that leaves the folder and the file as they are. -/
inductive Game (s : LoadedStory) (root : String) : Disk → Option String → Play → Prop
  | unstarted {d : Disk} {here : String} (ha : root.toList.head? = some '/')
      (hs : LoadedStory.load d here root = .ok s) : Game s root d none s.stage.fresh
  | page {d : Disk} {file : Option String} {p q : Play} {here out : String} {i : Invocation}
      {m : Move} {snapshot : Snapshot} (h : Game s root d file p)
      (ha : Asks root here file i.command m out) (hi : i.badFilter? = none)
      (hm : s.stage.perform p m = (q, none)) (hq : q.snapshot = .ok snapshot)
      (hr : (SavedGame.ofSnapshot s snapshot).ReadsBack)
      (ho : Disk.Outside root (Disk.absolute here out))
      (hw : (d.writeText? (Disk.absolute here out)
        (SavedGame.ofSnapshot s snapshot).write).isSome = true)
      (input : List Terminal.Line) :
      Game s root (i.run d here input).disk (some (Disk.absolute here out)) q
  | refused {d : Disk} {file : Option String} {p q : Play} {here out : String} {i : Invocation}
      {m : Move} {cause : Refusal} (h : Game s root d file p)
      (ha : Asks root here file i.command m out) (hi : i.badFilter? = none)
      (hm : s.stage.perform p m = (q, some cause)) (input : List Terminal.Line) :
      Game s root (i.run d here input).disk file q
  | elsewhere {d next : Disk} {file : Option String} {p : Play} (h : Game s root d file p)
      (hk : Disk.Keeps root d next) (hf : ∀ f ∈ file, next.readText? f = d.readText? f) :
      Game s root next file p

/-- What a command says, with its exit code. -/
def Outcome.said (o : Outcome) : Nat × Text := (o.code, o.printed)

/-- What is to be said of a move on a live play, with its exit code: where the play stands and in
which file it is saved, if it goes on, or why the move was refused. -/
def answer (out : String) : Play × Option Refusal → Nat × Text
  | (_, some cause) => (1, unlines (faultLines cause.report))
  | (q, none) => (0, unlines (stopLines q.output (if q.isEnded then none else some out)))

/-! ## What a file holds of a live play -/

/-- Whether a file holds a live play; without a file the play has not begun. -/
def Holds (s : LoadedStory) (d : Disk) (p : Play) : Option String → Prop
  | none => p = s.stage.fresh
  | some f => (∀ here, Disk.absolute here "" ≠ f) ∧ ∃ snapshot, p.snapshot = .ok snapshot ∧
      (SavedGame.ofSnapshot s snapshot).ReadsBack ∧
      d.readText? f = some (SavedGame.ofSnapshot s snapshot).write

/-- What every command keeps: the story is in its folder, the live play shows what it was entered with,
and the file holds it. -/
structure Kept (s : LoadedStory) (root : String) (d : Disk) (file : Option String) (p : Play) :
    Prop where
  story : ∀ here path, Disk.absolute here path = root → LoadedStory.load d here path = .ok s
  absolute : root.toList.head? = some '/'
  renders : s.stage.Renders p
  holds : Holds s d p file

theorem Kept.id (h : Kept s root d file p) : s.id = LoadedStory.scheme ++ root := by
  have ha := Disk.absolute_eq_self h.absolute root
  have hid := LoadedStory.id_of_load (h.story root root ha)
  rwa [ha] at hid

/-- A move of a saved game is made as on the live play. -/
theorem Kept.transition {stateIn : String}
    (h : Kept s root d (some (Disk.absolute here stateIn)) p) (out : String)
    (move : Stage → Play → Except Refusal Play) :
    Cli.transition d here stateIn out move =
      ((move s.stage p).mapError Refusal.report).bind (stopAt d here out s.id) := by
  obtain ⟨hn, snapshot, hs, hr, hd⟩ := h.holds
  have hp : stateIn ≠ "" := by
    rintro rfl
    exact hn here rfl
  have hl := SavedGame.load_of_readText? (g := .ofSnapshot s snapshot) rfl hr hp hd
  have hs' : LoadedStory.loadReference d here s.id = .ok s := by
    rw [h.id, LoadedStory.loadReference_scheme]
    exact h.story here root (Disk.absolute_eq_self h.absolute here)
  have hres : s.stage.resume snapshot = .ok p := h.renders.resume_snapshot hs
  simp only [Cli.transition, hl, SavedGame.ofSnapshot, Except.mapError, bind, Except.bind, hs', hres]

/-- A command of a game makes its move as on the live play, and saves the game where that goes on. -/
theorem Kept.run_command (h : Kept s root d file p) (ha : Asks root here file c m out)
    (input : List Terminal.Line) : c.run d here input =
      match s.stage.perform p m with
      | (_, some cause) => .error cause.report
      | (q, none) => stopAt d here out s.id q := by
  cases ha with
  | @start dir _ hd =>
      have hf : p = s.stage.fresh := h.holds
      have hl : loadStory d here dir = .ok s := by
        rw [loadStory, h.story here dir hd]
        rfl
      subst hf
      simp only [Command.run, hl, bind, Except.bind, startPlay, Stage.perform]
      cases s.stage.start.isEnded <;> rfl
  | choose =>
      rw [Command.run, h.transition, Stage.perform]
      cases s.stage.choose p _ <;> rfl
  | goOn =>
      rw [Command.run, h.transition, Stage.perform]
      cases s.stage.goOn p <;> rfl

/-! ## Where a command stops -/

theorem stopAt_ended (hq : q.isEnded = true) (d : Disk) (here out id : String) :
    stopAt d here out id q = .ok (printing d 0 (stopLines q.output none)) := by
  obtain ⟨vars, moment, history⟩ := q
  cases moment with
  | none => rfl
  | some m => cases hq

theorem stopAt_page (hs : q.snapshot = .ok snapshot)
    (hw : d.writeText? (Disk.absolute here out) (SavedGame.ofSnapshot s snapshot).write = some next) :
    stopAt d here out s.id q = .ok (printing next 0 (stopLines q.output (some out))) := by
  obtain ⟨m, hm, -⟩ := Play.snapshot_eq_ok hs
  have ho : q.output = .page m.view := by rw [Play.output, hm]
  have hd : SavedGame.save d here out s.id q = .ok next := by
    rw [SavedGame.save, hs]
    simp only
    rw [← SavedGame.ofSnapshot, hw]
  simp only [stopAt, ho, hd, Except.mapError, bind, Except.bind]

section

variable {i : Invocation}

theorem Invocation.run_of_usable (hi : i.badFilter? = none) (d : Disk) (here : String)
    (input : List Terminal.Line) : i.run d here input =
      match i.command.run d here input with
      | .ok outcome => outcome
      | .error f => failing d f := by
  cases hr : i.command.run d here input <;> simp only [Invocation.run, hi, hr]

variable (h : Kept s root d file p) (ha : Asks root here file i.command m out)
  (hi : i.badFilter? = none) (input : List Terminal.Line)

include h ha hi

theorem Kept.run_refused (hm : s.stage.perform p m = (q, some cause)) :
    i.run d here input = failing d cause.report := by
  rw [Invocation.run_of_usable hi, h.run_command ha, hm]

theorem Kept.run_ended (hm : s.stage.perform p m = (q, none)) (hq : q.isEnded = true) :
    i.run d here input = printing d 0 (stopLines q.output none) := by
  rw [Invocation.run_of_usable hi, h.run_command ha, hm]
  simp only [stopAt_ended hq]

theorem Kept.run_page (hm : s.stage.perform p m = (q, none)) (hs : q.snapshot = .ok snapshot)
    (hw : d.writeText? (Disk.absolute here out) (SavedGame.ofSnapshot s snapshot).write =
      some next) :
    i.run d here input = printing next 0 (stopLines q.output (some out)) := by
  rw [Invocation.run_of_usable hi, h.run_command ha, hm]
  simp only [stopAt_page hs hw]

end

/-! ## What every command keeps -/

theorem Kept.refused (h : Kept s root d file p) (ha : Asks root here file c m out)
    (hm : s.stage.perform p m = (q, some cause)) : q = p := by
  cases ha with
  | start =>
      have hf : p = s.stage.fresh := h.holds
      simp only [Stage.perform, Prod.mk.injEq] at hm
      obtain ⟨rfl, hc⟩ := hm
      rw [hf]
      refine Stage.start_of_ended ?_
      by_contra hn
      simp [hn] at hc
  | choose =>
      simp only [Stage.perform] at hm
      split at hm
      · cases hm
      · cases hm; rfl
  | goOn =>
      simp only [Stage.perform] at hm
      split at hm
      · cases hm
      · cases hm; rfl

theorem Kept.page (h : Kept s root d file p) (hm : s.stage.perform p m = (q, none))
    (hs : q.snapshot = .ok snapshot) (hr : (SavedGame.ofSnapshot s snapshot).ReadsBack)
    (ho : Disk.Outside root (Disk.absolute here out))
    (hw : d.writeText? (Disk.absolute here out) (SavedGame.ofSnapshot s snapshot).write =
      some next) :
    Kept s root next (some (Disk.absolute here out)) q := by
  refine ⟨fun here' path hp => ?_, h.absolute, ?_, fun here' he => ?_, snapshot, hs, hr,
    (Disk.readText?_of_writeText? hw).2⟩
  · exact LoadedStory.load_of_keeps (h.story here' path hp)
      (hp ▸ Disk.keeps_of_writeText? hw ho)
  · have hp := h.renders.perform m
    rwa [hm] at hp
  · rw [← he, Disk.writeText?_absolute_empty] at hw
    cases hw

theorem Kept.elsewhere (h : Kept s root d file p) (hk : Disk.Keeps root d next)
    (hf : ∀ f ∈ file, next.readText? f = d.readText? f) : Kept s root next file p := by
  refine ⟨fun here path hp => LoadedStory.load_of_keeps (h.story here path hp) (hp ▸ hk),
    h.absolute, h.renders, ?_⟩
  have hh := h.holds
  cases file with
  | none => exact hh
  | some f =>
      obtain ⟨hn, snapshot, hs, hr, hd⟩ := hh
      exact ⟨hn, snapshot, hs, hr, (hf f rfl).trans hd⟩

/-- The story and the saved game are there however far the commands have led. -/
theorem Game.kept (h : Game s root d file p) : Kept s root d file p := by
  induction h with
  | unstarted ha hs =>
      refine ⟨fun here path hp => ?_, ha, Stage.renders_of_ended rfl, rfl⟩
      rw [← hs]
      exact LoadedStory.load_congr (hp.trans (Disk.absolute_eq_self ha _).symm) _
  | page _ ha hi hm hs hr ho hw input ih =>
      obtain ⟨next, hn⟩ := Option.isSome_iff_exists.1 hw
      rw [ih.run_page ha hi input hm hs hn]
      exact ih.page hm hs hr ho hn
  | refused _ ha hi hm input ih =>
      rw [ih.run_refused ha hi input hm, ih.refused ha hm]
      exact ih
  | elsewhere _ hk hf ih => exact ih.elsewhere hk hf

/-! ## The answers of a game -/

/-- However far an agent's commands have led, the next one says what the play says that stays in memory
and is asked for the same move. Where the move is refused or ends the story the disk stays as it was;
where it goes on, which takes a file that can be written, the game is saved and nothing else is
written. -/
theorem agent_answers_as_play {i : Invocation} (h : Game s root d file p)
    (ha : Asks root here file i.command m out) (hi : i.badFilter? = none)
    (hw : ∀ snapshot, (s.stage.perform p m).2 = none →
      (s.stage.perform p m).1.snapshot = .ok snapshot →
      (d.writeText? (Disk.absolute here out) (SavedGame.ofSnapshot s snapshot).write).isSome = true)
    (input : List Terminal.Line) :
    let outcome := i.run d here input
    let played := s.stage.perform p m
    outcome.said = answer out played ∧
      (played.2.isSome = true ∨ played.1.isEnded = true → outcome.disk = d) ∧
      ∀ snapshot, played.2 = none → played.1.snapshot = .ok snapshot →
        d.writeText? (Disk.absolute here out) (SavedGame.ofSnapshot s snapshot).write =
          some outcome.disk := by
  have hk := h.kept
  cases hm : s.stage.perform p m with
  | mk q refusal =>
      rw [hm] at hw
      cases refusal with
      | some cause =>
          rw [hk.run_refused ha hi input hm]
          exact ⟨rfl, fun _ => rfl, nofun⟩
      | none =>
          cases hq : q.isEnded with
          | true =>
              rw [hk.run_ended ha hi input hm hq]
              refine ⟨by simp [Outcome.said, answer, printing, hq], fun _ => rfl, fun snapshot _ hs => ?_⟩
              obtain ⟨m, hmom, -⟩ := Play.snapshot_eq_ok hs
              rw [Play.isEnded, show q.moment = some m from hmom] at hq
              cases hq
          | false =>
              obtain ⟨m, hmom⟩ := Stage.exists_moment hq
              obtain ⟨snapshot, hs⟩ : ∃ snapshot, q.snapshot = .ok snapshot := by
                rw [Play.snapshot, hmom]
                exact ⟨_, rfl⟩
              obtain ⟨next, hn⟩ := Option.isSome_iff_exists.1 (hw _ rfl hs)
              rw [hk.run_page ha hi input hm hs hn]
              refine ⟨by simp [Outcome.said, answer, printing, hq], fun hf => ?_, fun snapshot _ hs' => ?_⟩
              · simp [hq] at hf
              · cases hs.symm.trans hs'
                exact hn

/-- A door on a disk. -/
def doorDisk : Disk :=
  ⟨.ofList [(["games", "door", "1.txt"], .text "A door.\na) Enter"),
    (["games", "door", "2a.txt"], .text "\x7badd:n\x7dA hall.")], []⟩

/-- The story of the door. -/
def doorStory : LoadedStory :=
  ⟨"story-dir:/games/door", "Story door",
    ⟨.ofList [(.root, .ofSource "A door.\na) Enter"),
      (PageId.root.child .a, .ofSource "\x7badd:n\x7dA hall.")], .empty, none⟩⟩

theorem load_doorDisk : LoadedStory.load doorDisk "/games" "door" = .ok doorStory := by
  have h : (LoadedStory.load doorDisk "/games" "door").toOption.map
      (fun s => (s.id, s.title, s.story)) =
        some (doorStory.id, doorStory.title, doorStory.story) := by
    decide +kernel
  obtain ⟨⟨id, title, story⟩, hs, he⟩ := Option.map_eq_some_iff.1 h
  cases he
  exact ok_of_toOption hs

/-- An agent starts at the door and takes the choice to enter: the second command, which has the game
from the file that the first one wrote, says what the live play says. -/
theorem agent_answers_as_play_door :
    let start : Invocation := ⟨none, .start "door" "saves/1.json"⟩
    let enter : Invocation := ⟨none, .choose "saves/1.json" 'a' "saves/2.json"⟩
    let first := start.run doorDisk "/games" []
    let second := enter.run first.disk "/games" []
    LoadedStory.load doorDisk "/games" "door" = .ok doorStory ∧
      second.said =
        answer "saves/2.json" (doorStory.stage.perform doorStory.stage.start (.choose 'a')) := by
  intro start enter first second
  have hs : doorStory.stage.start.snapshot = .ok ⟨Snapshot.currentSchema, .root, .empty, []⟩ := rfl
  have hf : "/games/saves/1.json" = Disk.absolute "/games" "saves/1.json" := by decide +kernel
  have hu : Game doorStory "/games/door" doorDisk none doorStory.stage.fresh := by
    refine @Game.unstarted _ _ _ "/games" (by decide +kernel) ?_
    exact (LoadedStory.load_congr (by decide +kernel) _).trans load_doorDisk
  have hg : Game doorStory "/games/door" first.disk (some "/games/saves/1.json")
      doorStory.stage.start := by
    rw [hf]
    refine .page hu (.start ?_) ?_ ?_ hs ?_ ?_ ?_ []
    · decide +kernel
    · rfl
    · rfl
    · exact SavedGame.readsBack_of_numbers (List.forall_mem_nil _) (List.forall_mem_nil _)
    · decide +kernel
    · decide +kernel
  have hw : (first.disk.writeText? (Disk.absolute "/games" "saves/2.json") "").isSome = true := by
    decide +kernel
  have ha : Asks "/games/door" "/games" (some "/games/saves/1.json") enter.command (.choose 'a')
      "saves/2.json" := by
    rw [hf]
    exact .choose
  refine ⟨load_doorDisk, (agent_answers_as_play hg ha rfl (fun snapshot _ _ => ?_) []).1⟩
  rw [Disk.isSome_writeText?_congr _ _ _ ""]
  exact hw

end Cli
end Gamebook
