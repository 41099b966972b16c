import Gamebook.Proofs.Cli.Agent
import Gamebook.Proofs.Disk.Elsewhere
import Gamebook.Proofs.Play.Offered
import Gamebook.Proofs.Terminal.Prompt

/-!
# How a session ends

Where games can be saved, a session ends well if every command to load finds a saved game of the story
and every command to start anew finds a first page: it takes all its lines, or it ends where a line asks
it to quit or where the play ends, and all other lines are answered. A command to load that finds no such
game ends the session as a failure.
-/

namespace Gamebook.Terminal

namespace Session

/-- Whether the save file of a session holds a game of its story that can be gone on with. -/
def FindsGame (s : Session) (d : Disk) : Prop :=
  s.savePath ≠ "" ∧ ∃ text g page,
    d.readText? (Disk.absolute s.here s.savePath) = some text ∧
    (Json.parse? text).bind SavedGame.ofJson? = some g ∧
    g.schema = SavedGame.currentSchema ∧ g.storyId = s.story.id ∧
    g.snapshot.schema = Snapshot.currentSchema ∧
    s.story.stage.pages.page? g.snapshot.page = some page

/-- Whether games of a session can be saved on a disk. -/
def CanSave (s : Session) (d : Disk) : Prop :=
  (d.writeText? (Disk.absolute s.here s.savePath) "").isSome = true

instance (s : Session) (d : Disk) : Decidable (s.CanSave d) := inferInstanceAs (Decidable (_ = true))

/-- Whether a line can be served: one that asks to load finds a game, and one that asks to start anew
finds a first page. -/
def Serves (s : Session) (st : State) (t : Text) : Prop :=
  (asked t = ":load" → s.FindsGame st.disk) ∧
    (asked t = ":restart" → s.story.stage.start.isEnded = false)

/-- How a session that was given lines ends well: it has taken all of them, or all before one that asks
to quit, or the play has ended. -/
inductive EndsWell (s : Session) (p : Play) (d : Disk) (ls : List Text) (st : State) : Prop
  | input (h : s.Prompts p d ls st)
  | quit {before after : List Text} {t : Text} (hl : ls = before ++ t :: after)
      (h : s.Prompts p d before st) (ha : asked t = ":quit")
  | ended (h : st.play.output = .ended)

/-- What is printed for a line after which a session goes on: a message, where the play stays as it
was, or the page where the play stands then. A prompt follows. -/
inductive Answered (st next : State) : Text → Prop
  | message {said : Text} (hs : said ≠ []) (hp : next.play = st.play) (hv : next.shown = st.shown) :
      Answered st next (line said ++ prompt)
  | page {said : Text} {v : View} (hp : next.play.output = .page v) (hv : next.shown = .page v) :
      Answered st next (said ++ (viewText v ++ prompt))

variable {s : Session} {p q : Play} {d next : Disk} {ls before after : List Text} {st : State}
  {v : View} {t : Text} {fault : Fault}

/-! ## Saved games -/

theorem findsGame_iff : s.FindsGame d ↔ ∃ q, s.loadPlay d = .ok q := by
  simp only [loadPlay_eq_ok_iff, SavedGame.load_eq_ok_iff, Stage.resume_eq_ok_iff]
  constructor
  · rintro ⟨hp, text, g, page, hr, hg, hs, hid, hsnap, hpage⟩
    exact ⟨_, g, ⟨hp, text, hr, hg, hs⟩, hid, hsnap, page, hpage, rfl⟩
  · rintro ⟨q, g, ⟨hp, text, hr, hg, hs⟩, hid, hsnap, page, hpage, -⟩
    exact ⟨hp, text, g, page, hr, hg, hs, hid, hsnap, hpage⟩

theorem CanSave.save (h : s.CanSave d) (hp : p.output = .page v) (id : String) :
    ∃ next, SavedGame.save d s.here s.savePath id p = .ok next := by
  obtain ⟨m, hm, -⟩ := Play.output_eq_page_iff.1 hp
  rw [CanSave, Disk.isSome_writeText?_congr _ _ _ (SavedGame.write
    ⟨SavedGame.currentSchema, id, ⟨Snapshot.currentSchema, m.page, m.before, p.history.reverse⟩⟩)] at h
  obtain ⟨next, hw⟩ := Option.isSome_iff_exists.1 h
  exact ⟨next, by simp only [SavedGame.save, Play.snapshot, hm, hw]⟩

theorem canSave_of_save {id : String}
    (h : SavedGame.save d s.here s.savePath id p = .ok next) : s.CanSave next := by
  obtain ⟨_, -, hw⟩ := SavedGame.save_eq_ok h
  exact Disk.isSome_writeText?_again hw ""

theorem Prompts.canSave (h : s.Prompts p d ls st) (hd : s.CanSave d) : s.CanSave st.disk :=
  h.keeps (I := fun st => s.CanSave st.disk) (fun _ => hd)
    (fun _ _ _ hsave => canSave_of_save hsave) fun _ _ _ _ hst _ => hst

/-! ## Lines that end a session -/

theorem step_of_quit (hv : st.shown = .page v) (ha : asked t = ":quit") :
    s.step st (.text t) = (st, line "bye".toList, .over) := by
  rw [asked] at ha
  have hr : s.reply st v (Text.trim t) = (st, .quit (line "bye".toList)) := by
    unfold reply
    rw [ha]
    rfl
  simp only [step, hv, hr]

theorem step_of_fails (hv : st.shown = .page v) (hf : s.Fails st (asked t) fault) :
    s.step st (.text t) = (st, [], .failed fault) := by
  generalize ha : asked t = a at hf
  have hr : s.reply st v (Text.trim t) = (st, .fail fault) := by
    rw [asked] at ha
    unfold reply
    rw [ha]
    cases hf with
    | save h => simp only [save, h]
    | load h => simp only [load, h]
    | restart h => simp only [restart, h, if_true]
  simp only [step, hv, hr]

theorem fails_of_step {said : Text} {last : State} (hv : st.shown = .page v)
    (h : s.step st (.text t) = (last, said, .failed fault)) : s.Fails st (asked t) fault := by
  rcases step_cases hv t with ⟨disk, message, -, -, he⟩ | ⟨q, said', -, he⟩ | ⟨-, he⟩ | ⟨_, hf, he⟩
  · cases h.symm.trans he
  · rcases turn_cases { st with play := q } said' with ⟨v', -, ht⟩ | ⟨-, ht⟩
    · cases h.symm.trans (he.trans ht)
    · cases h.symm.trans (he.trans ht)
  · cases h.symm.trans he
  · cases h.symm.trans he
    exact hf

/-- At a prompt where games can be saved, a line fails exactly if it cannot be served. -/
theorem Prompts.fails_iff (h : s.Prompts p d ls st) (hd : s.CanSave d) (t : Text) :
    (∃ fault, s.Fails st (asked t) fault) ↔ ¬ s.Serves st t := by
  obtain ⟨v, -, ho⟩ := h.shown
  constructor
  · rintro ⟨fault, hf⟩ ⟨hload, hrestart⟩
    generalize asked t = a at hf hload hrestart
    cases hf with
    | save hs =>
        obtain ⟨next, hn⟩ := (h.canSave hd).save ho s.story.id
        cases hs.symm.trans hn
    | load hl =>
        obtain ⟨q, hq⟩ := findsGame_iff.1 (hload rfl)
        cases hl.symm.trans hq
    | restart hr => cases hr.symm.trans (hrestart rfl)
  · intro hn
    rcases Classical.not_and_iff_not_or_not.1 hn with hn | hn
    · obtain ⟨ha, hf⟩ := Classical.not_imp.1 hn
      rw [ha]
      cases hl : s.loadPlay st.disk with
      | ok q => exact absurd (findsGame_iff.2 ⟨q, hl⟩) hf
      | error cause => exact ⟨_, .load hl⟩
    · obtain ⟨ha, he⟩ := Classical.not_imp.1 hn
      rw [ha]
      exact ⟨_, .restart (Bool.not_eq_false _ ▸ he)⟩

/-! ## Lines that are answered -/

/-- A line that is served at a prompt and does not ask to quit is answered, or the play ends. -/
theorem Prompts.answered (h : s.Prompts p d ls st) (hd : s.CanSave d) (hs : s.Serves st t)
    (hq : asked t ≠ ":quit") :
    (s.step st (.text t)).2.2 = .waiting ∧
        Answered st (s.step st (.text t)).1 (s.step st (.text t)).2.1 ∨
      (s.step st (.text t)).2.2 = .over ∧ (s.step st (.text t)).1.play.output = .ended := by
  obtain ⟨v, hv, -⟩ := h.shown
  rcases step_cases hv t with ⟨disk, message, hm, -, he⟩ | ⟨q, said, -, he⟩ | ⟨ha, -⟩ | ⟨fault, hf, -⟩
  · rw [he]
    exact .inl ⟨rfl, .message hm rfl rfl⟩
  · rw [he]
    rcases turn_cases { st with play := q } said with ⟨v', ho, hturn⟩ | ⟨ho, hturn⟩
    · rw [hturn]
      exact .inl ⟨rfl, .page ho rfl⟩
    · rw [hturn]
      exact .inr ⟨rfl, ho⟩
  · exact absurd ha hq
  · exact absurd hs ((h.fails_iff hd t).1 ⟨fault, hf⟩)

/-! ## A whole session -/

/-- A session takes all its lines, or those before one that ends it, or ends at its start. -/
theorem play_cases (s : Session) (p : Play) (d : Disk) (ls : List Text) :
    (s.Prompts p d ls (s.play p d (ls.map .text)).1 ∧ (s.play p d (ls.map .text)).2.2 = .over) ∨
    (∃ before t after st said, ls = before ++ t :: after ∧ s.Prompts p d before st ∧
      s.step st (.text t) =
        ((s.play p d (ls.map .text)).1, said, (s.play p d (ls.map .text)).2.2) ∧
      (s.play p d (ls.map .text)).2.2 ≠ .waiting) ∨
    p.output = .ended ∧ (s.play p d (ls.map .text)).2.2 = .over ∧
      (s.play p d (ls.map .text)).1.play = p := by
  rcases s.opening_cases p d with ⟨st, h⟩ | ⟨ho, hall⟩
  · obtain ⟨said, hplay⟩ := h.play
    have hp := hplay (ls.map .text)
    rw [List.map_nil, List.nil_append] at hp
    rw [hp]
    rcases h.run ls with hin | ⟨mid, t, after, last, said', hl, hlast, hs, hn⟩
    · exact .inl hin
    · exact .inr (.inl ⟨mid, t, after, last, said', hl, hlast, hs, hn⟩)
  · exact .inr (.inr ⟨ho, hall _⟩)

/-- A line that fails at a prompt ends the session, whatever comes behind it. -/
theorem Prompts.play_of_fails (h : s.Prompts p d before st) (hf : s.Fails st (asked t) fault)
    (after : List Text) :
    (s.play p d ((before ++ t :: after).map .text)).2.2 = .failed fault := by
  obtain ⟨v, hv, -⟩ := h.shown
  obtain ⟨said, hplay⟩ := h.play
  rw [List.map_append, hplay, List.map_cons, Session.run, step_of_fails hv hf]

theorem exitCode_eq_zero_iff (r : State × Text × Status) :
    (Cli.sessionOutcome r).code = 0 ↔ ∀ fault, r.2.2 ≠ .failed fault := by
  obtain ⟨st, printed, status⟩ := r
  cases status <;> simp [Cli.sessionOutcome]

/-- Where games can be saved, a session exits with code zero exactly if each line that it comes to is
served. It then ends at the end of its input, where a line asks to quit, or with the play; and every
other line that is served at a prompt is answered, with a message or a page and with a prompt. -/
theorem exit_zero_iff_serves (hd : s.CanSave d) (p : Play) (ls : List Text) :
    ((Cli.sessionOutcome (s.play p d (ls.map .text))).code = 0 ↔
      ∀ before t after st, ls = before ++ t :: after → s.Prompts p d before st → s.Serves st t) ∧
    ((Cli.sessionOutcome (s.play p d (ls.map .text))).code = 0 →
      s.EndsWell p d ls (s.play p d (ls.map .text)).1) ∧
    ∀ before st t, s.Prompts p d before st → s.Serves st t → asked t ≠ ":quit" →
      (s.step st (.text t)).2.2 = .waiting ∧
          Answered st (s.step st (.text t)).1 (s.step st (.text t)).2.1 ∨
        (s.step st (.text t)).2.2 = .over ∧ (s.step st (.text t)).1.play.output = .ended := by
  rw [exitCode_eq_zero_iff]
  have hserves (hall : ∀ fault, (s.play p d (ls.map .text)).2.2 ≠ .failed fault) {before t after st}
      (hl : ls = before ++ t :: after) (h : s.Prompts p d before st) : s.Serves st t := by
    refine Classical.not_not.1 fun hn => ?_
    obtain ⟨fault, hf⟩ := (h.fails_iff hd t).2 hn
    exact hall fault (hl ▸ h.play_of_fails hf after)
  refine ⟨⟨fun hall _ _ _ _ => hserves hall, fun hall fault hf => ?_⟩, fun hall => ?_,
    fun _ _ _ h => h.answered hd⟩
  · rcases s.play_cases p d ls with ⟨-, ho⟩ | ⟨before, t, after, st, said, hl, h, hs, -⟩ | ⟨-, ho, -⟩
    · cases ho.symm.trans hf
    · obtain ⟨v, hv, -⟩ := h.shown
      have hfails := fails_of_step hv (hf ▸ hs)
      exact (h.fails_iff hd t).1 ⟨_, hfails⟩ (hall before t after st hl h)
    · cases ho.symm.trans hf
  · rcases s.play_cases p d ls with ⟨h, -⟩ | ⟨before, t, after, st, said, hl, h, hs, hn⟩ | ⟨ho, -, hp⟩
    · exact .input h
    · by_cases ha : asked t = ":quit"
      · obtain ⟨v, hv, -⟩ := h.shown
        have hlast := congrArg Prod.fst (hs.symm.trans (step_of_quit hv ha))
        exact .quit hl (hlast ▸ h) ha
      · rcases h.answered hd (hserves hall hl h) ha with ⟨hw, -⟩ | ⟨-, hend⟩
        · rw [hs] at hw
          exact absurd hw hn
        · rw [hs] at hend
          exact .ended hend
    · exact .ended (hp.symm ▸ ho)

open Cli (doorStory doorDisk)

/-- A session at the door. -/
def atDoor : Session := ⟨doorStory, "save.json", "/games"⟩

/-- What is left of a session at the door when it was given lines. -/
def atDoorGiven (ls : List String) : State × Text × Status :=
  atDoor.play doorStory.stage.start doorDisk (ls.map fun l => .text l.toList)

/-- A game at the door is saved and loaded, and the session goes on until it is asked to quit. -/
theorem exit_zero_iff_serves_door :
    let ls := [":save", " :load", "z", "a", ":back", ":quit"]
    atDoor.CanSave doorDisk ∧
      (∀ before t after st, ls.map String.toList = before ++ t :: after →
        atDoor.Prompts doorStory.stage.start doorDisk before st → atDoor.Serves st t) ∧
      atDoor.EndsWell doorStory.stage.start doorDisk (ls.map String.toList) (atDoorGiven ls).1 := by
  intro ls
  have hd : atDoor.CanSave doorDisk := by decide +kernel
  have hcode : (Cli.sessionOutcome
      (atDoorGiven [":save", " :load", "z", "a", ":back", ":quit"])).code = 0 := by decide +kernel
  obtain ⟨hiff, hends, -⟩ :=
    exit_zero_iff_serves hd doorStory.stage.start (ls.map String.toList)
  rw [List.map_map] at hiff hends
  exact ⟨hd, hiff.1 hcode, hends hcode⟩

/-- A command to load where no game was saved ends the session at the door with code one, though the
page waits for a choice and a game could be saved. A command to go back where no page is before is
answered. -/
theorem load_unsaved_exits : atDoor.CanSave doorDisk ∧
    (atDoorGiven [":load", ":quit"]).2.2 = .failed (SavedGame.Failure.missing "save.json").report ∧
    (Cli.sessionOutcome (atDoorGiven [":load", ":quit"])).code = 1 ∧
    (Cli.sessionOutcome (atDoorGiven [":back", ":quit"])).code = 0 := by
  refine ⟨?_, ?_, ?_, ?_⟩ <;> decide +kernel

end Session
end Gamebook.Terminal
