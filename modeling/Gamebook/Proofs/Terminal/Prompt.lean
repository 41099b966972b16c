import Gamebook.Cli.Run
import Gamebook.Proofs.Play.Restore
import Gamebook.Terminal.Session

/-!
# Prompts

A session waits at a prompt until a line ends it. A line that is answered at a prompt says something at
the same page or makes a move of the play and shows the page where that leads; the others quit, end the
play, or fail, which only the commands that save, load and start anew do.
-/

namespace Gamebook.Terminal

namespace Session

/-- The prompts of a session: where it stands when it has taken lines and waits for another. -/
inductive Prompts (s : Session) (p : Play) (d : Disk) : List Text → State → Prop
  | opening {st : State} {said : Text} (h : s.opening p d = (st, said, .waiting)) :
      Prompts s p d [] st
  | step {ls : List Text} {st next : State} {t said : Text} (h : Prompts s p d ls st)
      (hs : s.step st (.text t) = (next, said, .waiting)) : Prompts s p d (ls ++ [t]) next

/-- What a line asks for: its text without the blanks around it. -/
def asked (t : Text) : String := String.ofList (Text.trim t)

/-- Whether a command cannot be carried out: the game cannot be saved, there is no saved game of the
story, or the story has no first page to start anew from. -/
inductive Fails (s : Session) (st : State) : String → Fault → Prop
  | save {cause : SavedGame.Failure}
      (h : SavedGame.save st.disk s.here s.savePath s.story.id st.play = .error cause) :
      Fails s st ":save" cause.report
  | load {cause : SavedGame.Failure} (h : s.loadPlay st.disk = .error cause) :
      Fails s st ":load" cause.report
  | restart (h : s.story.stage.start.isEnded = true) : Fails s st ":restart" Refusal.noRoot.report

variable {s : Session} {p q : Play} {d : Disk} {ls before : List Text} {st next : State} {v : View}
  {t said : Text} {status : Status}

/-! ## One line -/

theorem message_ne_empty (cause : Refusal) : cause.report.message.toList ≠ [] := by
  have hlast {a b : String} (h : b.toList ≠ []) : (a ++ b).toList ≠ [] := by
    rw [String.toList_append]
    exact List.append_ne_nil_of_right_ne_nil _ h
  cases cause with
  | noRoot | endedAtChoice | endedAtContinue | nothingBefore | nothingToSave =>
      exact List.cons_ne_nil _ _
  | noSuchChoice | waitsForChoice | foreignSnapshot | lostPage => exact hlast (List.cons_ne_nil _ _)
  | badTarget cause =>
      cases cause with
      | zero => exact List.cons_ne_nil _ _
      | notAnId | outOfRange | letter => exact hlast (List.cons_ne_nil _ _)

theorem loadPlay_eq_ok_iff : s.loadPlay d = .ok q ↔
    ∃ g, SavedGame.load d s.here s.savePath = .ok g ∧ g.storyId = s.story.id ∧
      s.story.stage.resume g.snapshot = .ok q := by
  rw [loadPlay]
  cases SavedGame.load d s.here s.savePath with
  | error cause => simp [bind, Except.bind]
  | ok g =>
      by_cases hid : g.storyId = s.story.id
      · cases hr : s.story.stage.resume g.snapshot <;> simp [bind, Except.bind, hid, hr]
      · simp [bind, Except.bind, hid]

/-- A line that is answered at a page: something is said, and at most the disk is another, on which the
game was saved; or a move of the play is made; or the line quits; or a command fails. -/
theorem reply_cases (s : Session) (st : State) (v : View) (t : Text) :
    (∃ disk message, message ≠ [] ∧
      (disk = st.disk ∨
        SavedGame.save st.disk s.here s.savePath s.story.id st.play = .ok disk) ∧
      s.reply st v t = ({ st with disk }, .stay (line message))) ∨
    (∃ q said, (∃ m, s.story.stage.perform st.play m = (q, none)) ∧
      s.reply st v t = ({ st with play := q }, .turn said)) ∨
    (String.ofList t = ":quit" ∧ s.reply st v t = (st, .quit (line "bye".toList))) ∨
    ∃ fault, s.Fails st (String.ofList t) fault ∧ s.reply st v t = (st, .fail fault) := by
  unfold reply
  split
  · exact .inl ⟨st.disk, help.toList, by decide, .inl rfl, rfl⟩
  · next ha =>
      unfold save
      split
      · next disk hd => exact .inl ⟨disk, ("saved: " ++ s.savePath).toList, by simp, .inr hd, rfl⟩
      · next cause hc => exact .inr (.inr (.inr ⟨_, ha ▸ .save hc, rfl⟩))
  · next ha =>
      unfold load
      split
      · next q hq =>
          obtain ⟨g, -, -, hr⟩ := loadPlay_eq_ok_iff.1 hq
          exact .inr (.inl ⟨q, _, ⟨.resume g.snapshot, by simp [Stage.perform, hr]⟩, rfl⟩)
      · next cause hc => exact .inr (.inr (.inr ⟨_, ha ▸ .load hc, rfl⟩))
  · unfold back
    split
    · next q hq => exact .inr (.inl ⟨q, _, ⟨.back, by simp [Stage.perform, hq]⟩, rfl⟩)
    · next cause _ =>
        exact .inl ⟨st.disk, cause.report.message.toList, message_ne_empty cause, .inl rfl, rfl⟩
  · next ha =>
      unfold restart
      simp only
      split
      · next he => exact .inr (.inr (.inr ⟨_, ha ▸ .restart he, rfl⟩))
      · next he => exact .inr (.inl ⟨_, _, ⟨.start, by simp [Stage.perform, he]⟩, rfl⟩)
  · next ha => exact .inr (.inr (.inl ⟨ha, rfl⟩))
  · unfold takeMove
    split
    · exact .inl ⟨st.disk, noMove.toList, by decide, .inl rfl, rfl⟩
    · next m _ =>
        split
        · next q hq => exact .inr (.inl ⟨q, _, ⟨m, hq⟩, rfl⟩)
        · next cause _ =>
            exact .inl ⟨st.disk, cause.report.message.toList, message_ne_empty cause, .inl rfl, rfl⟩

theorem step_cases (hv : st.shown = .page v) (t : Text) :
    (∃ disk message, message ≠ [] ∧
      (disk = st.disk ∨
        SavedGame.save st.disk s.here s.savePath s.story.id st.play = .ok disk) ∧
      s.step st (.text t) = ({ st with disk }, line message ++ prompt, .waiting)) ∨
    (∃ q said, (∃ m, s.story.stage.perform st.play m = (q, none)) ∧
      s.step st (.text t) = State.turn { st with play := q } said) ∨
    (asked t = ":quit" ∧ s.step st (.text t) = (st, line "bye".toList, .over)) ∨
    ∃ fault, s.Fails st (asked t) fault ∧ s.step st (.text t) = (st, [], .failed fault) := by
  rcases s.reply_cases st v (Text.trim t) with ⟨disk, message, hm, hd, hr⟩ | ⟨q, said, hq, hr⟩ |
      ⟨ha, hr⟩ | ⟨fault, hf, hr⟩
  · exact .inl ⟨disk, message, hm, hd, by simp only [step, hv, hr]⟩
  · exact .inr (.inl ⟨q, said, hq, by simp only [step, hv, hr]⟩)
  · exact .inr (.inr (.inl ⟨ha, by simp only [step, hv, hr]⟩))
  · exact .inr (.inr (.inr ⟨fault, hf, by simp only [step, hv, hr]⟩))

theorem turn_cases (st : State) (said : Text) :
    (∃ v, st.play.output = .page v ∧
      st.turn said = ({ st with shown := .page v }, said ++ (viewText v ++ prompt), .waiting)) ∨
    st.play.output = .ended ∧
      st.turn said = ({ st with shown := .ended }, said ++ (line [] ++ line "[END]".toList), .over) := by
  unfold State.turn
  cases ho : st.play.output with
  | page v => exact .inl ⟨v, rfl, rfl⟩
  | ended => exact .inr ⟨rfl, rfl⟩

/-- Where a turn waits, the page where the play stands is shown, with a prompt. -/
theorem turn_eq_waiting {printed : Text} (h : st.turn said = (next, printed, .waiting)) :
    ∃ v, st.play.output = .page v ∧ next = { st with shown := .page v } ∧
      printed = said ++ (viewText v ++ prompt) := by
  rcases turn_cases st said with ⟨v, ho, ht⟩ | ⟨-, ht⟩
  · cases h.symm.trans ht
    exact ⟨v, ho, rfl, rfl⟩
  · cases h.symm.trans ht

/-! ## All lines -/

/-- A session stands at a prompt at its start, or is over. -/
theorem opening_cases (s : Session) (p : Play) (d : Disk) :
    (∃ st, s.Prompts p d [] st) ∨
      p.output = .ended ∧ ∀ ls, (s.play p d ls).2.2 = .over ∧ (s.play p d ls).1.play = p := by
  rcases turn_cases ⟨p, d, p.output⟩ (line s.story.title.toList ++ line help.toList) with
    ⟨v, -, ht⟩ | ⟨ho, ht⟩
  · exact .inl ⟨_, .opening ht⟩
  · refine .inr ⟨ho, fun ls => ?_⟩
    have hplay : s.play p d ls = s.opening p d := by
      simp only [Session.play, opening, ht]
    rw [hplay, opening, ht]
    exact ⟨rfl, rfl⟩

/-- At every prompt the page that was shown last is the one where the play stands. -/
theorem Prompts.shown (h : s.Prompts p d ls st) :
    ∃ v, st.shown = .page v ∧ st.play.output = .page v := by
  induction h with
  | opening h =>
      obtain ⟨v, hv, rfl, -⟩ := turn_eq_waiting h
      exact ⟨v, rfl, hv⟩
  | step _ hs ih =>
      obtain ⟨v, hv, ho⟩ := ih
      rcases step_cases hv _ with ⟨disk, message, -, -, he⟩ | ⟨q, said, -, he⟩ | ⟨-, he⟩ | ⟨_, -, he⟩
      · cases hs.symm.trans he
        exact ⟨v, hv, ho⟩
      · obtain ⟨v', hv', rfl, -⟩ := turn_eq_waiting (he.symm.trans hs)
        exact ⟨v', rfl, hv'⟩
      · cases hs.symm.trans he
      · cases hs.symm.trans he

/-- What holds where the session starts, however the page is shown, and is kept when the game is saved
and when a move is made, holds at every prompt. -/
theorem Prompts.keeps {I : State → Prop} (h : s.Prompts p d ls st) (hstart : ∀ v, I ⟨p, d, .page v⟩)
    (hsave : ∀ st disk, I st →
      SavedGame.save st.disk s.here s.savePath s.story.id st.play = .ok disk → I { st with disk })
    (hmove : ∀ st m q v, I st → s.story.stage.perform st.play m = (q, none) →
      I { st with play := q, shown := .page v }) : I st := by
  induction h with
  | opening h =>
      obtain ⟨v, -, rfl, -⟩ := turn_eq_waiting h
      exact hstart v
  | @step _ st _ _ _ hpr hs ih =>
      obtain ⟨v, hv, -⟩ := hpr.shown
      rcases step_cases hv _ with ⟨disk, message, -, hdisk, he⟩ | ⟨q, said, ⟨m, hm⟩, he⟩ | ⟨-, he⟩ |
          ⟨_, -, he⟩
      · cases hs.symm.trans he
        rcases hdisk with rfl | hdisk
        · exact ih
        · exact hsave st disk ih hdisk
      · obtain ⟨v', -, rfl, -⟩ := turn_eq_waiting (he.symm.trans hs)
        exact hmove st m q v' ih hm
      · cases hs.symm.trans he
      · cases hs.symm.trans he

/-- A session goes on from each of its prompts. -/
theorem Prompts.play (h : s.Prompts p d before st) : ∃ said, ∀ ls, s.play p d (before.map .text ++ ls) =
    ((s.run st ls).1, said ++ (s.run st ls).2.1, (s.run st ls).2.2) := by
  induction h with
  | @opening st said h =>
      refine ⟨said, fun ls => ?_⟩
      simp only [Session.play, h, List.map_nil, List.nil_append]
  | @step before st next t said _ hs ih =>
      obtain ⟨earlier, hp⟩ := ih
      refine ⟨earlier ++ said, fun ls => ?_⟩
      rw [List.map_append, List.append_assoc, hp]
      simp only [List.map_cons, List.map_nil, List.cons_append, List.nil_append, run, hs,
        List.append_assoc]

/-- From a prompt a session takes all lines, or it takes them up to one that ends it. -/
theorem Prompts.run (h : s.Prompts p d before st) (ls : List Text) :
    (s.Prompts p d (before ++ ls) (s.run st (ls.map .text)).1 ∧
      (s.run st (ls.map .text)).2.2 = .over) ∨
    ∃ mid t after last said, ls = mid ++ t :: after ∧ s.Prompts p d (before ++ mid) last ∧
      s.step last (.text t) = ((s.run st (ls.map .text)).1, said, (s.run st (ls.map .text)).2.2) ∧
      (s.run st (ls.map .text)).2.2 ≠ .waiting := by
  induction ls generalizing before st with
  | nil => exact .inl ⟨by simpa [Session.run] using h, rfl⟩
  | cons t ls ih =>
      rw [List.map_cons, Session.run]
      match hs : s.step st (.text t) with
      | (next, said, .waiting) =>
          simp only
          rcases ih (h.step hs) with ⟨hp, ho⟩ | ⟨mid, t', after, last, said', rfl, hp, he, hn⟩
          · exact .inl ⟨by simpa using hp, ho⟩
          · exact .inr ⟨t :: mid, t', after, last, said', rfl, by simpa using hp, he, hn⟩
      | (next, said, .over) =>
          exact .inr ⟨[], t, ls, st, said, rfl, by simpa using h, hs, nofun⟩
      | (next, said, .failed fault) =>
          exact .inr ⟨[], t, ls, st, said, rfl, by simpa using h, hs, nofun⟩

end Session
end Gamebook.Terminal
