import Gamebook.Proofs.Cli.Agent
import Gamebook.Proofs.PageId.Written
import Gamebook.Proofs.Play.Offered
import Gamebook.Proofs.Terminal.Prompt
import Gamebook.Proofs.Text.Caseless

/-!
# Lines are answers to the page where the play stands

At every prompt the page that a line is read at is the one where the play stands. The moves that the
page lists are made; a line that is neither a command nor such a move changes nothing.
-/

namespace Gamebook

/-- The moves that a page lists, as they are typed: an empty line, where there is nothing to choose, or
the letter of a choice in either case. -/
inductive View.Lists (v : View) : Text → Prop
  | goOn (h : v.isEnding = true ∨ v.canContinue = true) : Lists v []
  | choice {o : Offer} {letter : Char} (ho : o ∈ v.offers) (hl : o.letter = letter.toLower) :
      Lists v [letter]

/-- Whether every choice of the pages has one of the letters of choices. -/
def Stage.Lettered (s : Stage) : Prop :=
  ∀ id page, s.pages.page? id = some page → ∀ c ∈ page.choices, ∃ l : Letter, c.letter = l.toChar

theorem LoadedStory.lettered_of_load {d : Disk} {here path : String} {s : LoadedStory}
    (h : load d here path = .ok s) : s.stage.Lettered := by
  unfold load at h
  simp only at h
  split at h
  · cases h
  · split at h
    · cases h
    · split at h
      · cases h
      · split at h
        · cases h
        · split at h
          · cases h
          · next hs =>
              cases h
              exact fun id page hp => ((Story.loaded_of_ofFiles hs).pages id page hp).letters

theorem Stage.Renders.letters {s : Stage} {p : Play} {v : View} (h : s.Renders p) (hs : s.Lettered)
    (hv : p.output = .page v) : ∀ o ∈ v.offers, ∃ l : Letter, o.letter = l.toChar := by
  obtain ⟨m, hm, rfl⟩ := Play.output_eq_page_iff.1 hv
  obtain ⟨page, hp, hview, -⟩ := h m hm
  intro o ho
  rw [hview] at ho
  simp only [Stage.view] at ho
  split at ho
  · cases ho
  · obtain ⟨c, hc, hmap⟩ := List.mem_filterMap.1 ho
    obtain ⟨target, -, rfl⟩ := Option.map_eq_some_iff.1 hmap
    exact hs m.page page hp c hc

namespace Terminal.Session

/-- What a line can ask for as a command. -/
def commands : List String := [":help", ":save", ":load", ":back", ":restart", ":quit"]

variable {s : Session} {p : Play} {d : Disk} {ls : List Text} {st : State} {v : View} {t : Text}

/-! ## The plays of a session -/

theorem Prompts.arises (h : s.Prompts p d ls st) (hp : s.story.stage.Arises p) :
    s.story.stage.Arises st.play := by
  refine h.keeps (I := fun st => s.story.stage.Arises st.play) (fun _ => hp) (fun _ _ hst _ => hst) ?_
  intro st m q _ hst hm
  have hq := hst.move m
  rwa [hm] at hq

/-! ## Lines that are moves -/

theorem reply_of_not_command (h : asked t ∉ commands) (st : State) (v : View) :
    s.reply st v (Text.trim t) = s.takeMove st v (Text.trim t) := by
  rw [asked] at h
  unfold reply
  split
  all_goals first
    | rfl
    | next ha =>
        rw [ha] at h
        exact absurd h (by decide)

theorem not_command_of_lists (h : v.Lists (Text.trim t)) : asked t ∉ commands := by
  have hlen : (Text.trim t).length ≤ 1 := by
    generalize Text.trim t = typed at h
    cases h <;> simp
  intro ha
  have hlong : ∀ c ∈ commands, 1 < c.toList.length := by decide
  have hc := hlong _ ha
  rw [asked, String.toList_ofList] at hc
  omega

theorem move_of_lists (hr : s.story.stage.Renders p) (hs : s.story.stage.Lettered)
    (hv : p.output = .page v) (h : v.Lists t) :
    ∃ m, move? v t = some m ∧ s.story.stage.Accepts p m := by
  cases h with
  | goOn h =>
      have hnone : v.offers = [] := by
        cases hr.way hv with
        | ending _ ho => exact ho
        | choice he _ hc => simp [he, hc] at h
        | goOn _ ho => exact ho
      exact ⟨.goOn, if_pos (by simpa using h), hr.accepts_goOn_iff.2 ⟨v, hv, hnone⟩⟩
  | @choice o letter ho hl =>
      obtain ⟨l, hletter⟩ := hr.letters hs hv o ho
      have hlower : letter.toLower.isLower = true := by
        rw [← hl, hletter]
        exact l.isLower_toChar
      have halpha : letter.isAlpha = true := Text.isAlpha_of_toLower hlower
      have hsome : v.offers.isEmpty = false :=
        List.isEmpty_eq_false_iff.2 (List.ne_nil_of_mem ho)
      exact ⟨.choose letter, if_pos (by simp [halpha, hsome]),
        Stage.accepts_choose_iff.2 ⟨v, hv, o, ho, hl⟩⟩

theorem refused_of_not_lists {m : Move} (hv : p.output = .page v) (hm : move? v t = some m)
    (h : ¬ v.Lists t) : ∃ cause, s.story.stage.perform p m = (p, some cause) := by
  unfold move? at hm
  split at hm
  · split at hm
    · next hg => exact absurd (.goOn (by simpa using hg)) h
    · cases hm
  · next letter =>
      split at hm
      · cases hm
        rcases Stage.perform_outcome (s := s.story.stage) (p := p) (m := .choose letter) nofun with
          ⟨q, hq⟩ | hc
        · obtain ⟨v', hv', o, ho, hl⟩ := Stage.accepts_choose_iff.1 (congrArg Prod.snd hq)
          cases hv.symm.trans hv'
          exact absurd (.choice ho hl) h
        · exact hc
      · cases hm
  · cases hm

/-- At every prompt of a session of a loaded story, the page at which the next line is read is the one
where the play stands. A line that is a move listed there is made, an empty line that is none asks for
nothing, and the letters of the choices are listed in either case. A line that is neither a command nor
such a move is answered with a message, leaves everything as it was, and if it is tried as a move the
play refuses it unchanged. -/
theorem prompt_shows_play {disk : Disk} {here path : String}
    (hs : LoadedStory.load disk here path = .ok s.story) (hp : s.story.stage.Arises p)
    (h : s.Prompts p d ls st) : ∃ v, st.shown = .page v ∧ st.play.output = .page v ∧
      (∀ t, v.Lists (Text.trim t) → ∃ m q, move? v (Text.trim t) = some m ∧
        s.story.stage.perform st.play m = (q, none) ∧
        s.step st (.text t) = State.turn { st with play := q } []) ∧
      (v.Lists [] ∨ move? v [] = none) ∧
      (∀ o ∈ v.offers, v.Lists [o.letter] ∧ v.Lists [o.letter.toUpper]) ∧
      ∀ t, asked t ∉ commands → ¬ v.Lists (Text.trim t) →
        (∃ said, s.step st (.text t) = (st, line said ++ prompt, .waiting)) ∧
        ∀ m, move? v (Text.trim t) = some m →
          ∃ cause, s.story.stage.perform st.play m = (st.play, some cause) := by
  obtain ⟨v, hshown, hv⟩ := h.shown
  have hr := (h.arises hp).renders
  have hl := LoadedStory.lettered_of_load hs
  refine ⟨v, hshown, hv, fun t ht => ?_, ?_, fun o ho => ?_, fun t hc ht => ?_⟩
  · obtain ⟨m, hm, ha⟩ := move_of_lists hr hl hv ht
    obtain ⟨q, hq⟩ : ∃ q, s.story.stage.perform st.play m = (q, none) := ⟨_, Prod.ext rfl ha⟩
    refine ⟨m, q, hm, hq, ?_⟩
    have hreply := reply_of_not_command (s := s) (not_command_of_lists ht) st v
    rw [takeMove, hm] at hreply
    simp only [hq] at hreply
    simp only [step, hshown, hreply]
  · by_cases hg : v.isEnding = true ∨ v.canContinue = true
    · exact .inl (.goOn hg)
    · exact .inr (if_neg (by simpa using hg))
  · obtain ⟨l, hletter⟩ := hr.letters hl hv o ho
    refine ⟨.choice ho ?_, .choice ho ?_⟩ <;> rw [hletter] <;> cases l <;> rfl
  · have hreply := reply_of_not_command (s := s) hc st v
    refine ⟨?_, fun m hm => refused_of_not_lists hv hm ht⟩
    rw [takeMove] at hreply
    cases hm : move? v (Text.trim t) with
    | none =>
        simp only [hm] at hreply
        exact ⟨noMove.toList, by simp only [step, hshown, hreply]⟩
    | some m =>
        obtain ⟨cause, hcause⟩ := refused_of_not_lists (s := s) hv hm ht
        simp only [hm, hcause] at hreply
        exact ⟨cause.report.message.toList, by simp only [step, hshown, hreply]⟩

open Cli (doorStory doorDisk load_doorDisk)

/-- At the door the choice to enter is taken by its letter in either case, and another letter changes
nothing. -/
theorem prompt_shows_play_door :
    let s : Session := ⟨doorStory, "save.json", "/games"⟩
    LoadedStory.load doorDisk "/games" "door" = .ok s.story ∧
      s.story.stage.Arises s.story.stage.start ∧
      ∃ st v, s.Prompts s.story.stage.start doorDisk [] st ∧ st.shown = .page v ∧
        st.play.output = .page v ∧ v.offers.map (·.letter) = ['a'] ∧
        (∃ q, s.step st (.text " A".toList) = State.turn { st with play := q } []) ∧
        ∃ said, s.step st (.text "z".toList) = (st, line said ++ prompt, .waiting) := by
  intro s
  have hp : s.story.stage.Arises s.story.stage.start := .move .fresh .start
  have hstart : doorStory.stage.start.output = .page ⟨.root, "<p>A door.</p>".toList,
      [⟨'a', "Enter", PageId.root.child .a⟩], [], false, false⟩ := by decide +kernel
  rcases turn_cases ⟨s.story.stage.start, doorDisk, s.story.stage.start.output⟩
    (line s.story.title.toList ++ line help.toList) with ⟨v, ho, ht⟩ | ⟨ho, -⟩
  · have h := Prompts.opening (s := s) ht
    obtain ⟨v', hv', hout, hmoves, -, hlists, hnone⟩ := prompt_shows_play load_doorDisk hp h
    obtain rfl : v = v' := Output.page.inj hv'
    obtain rfl := Output.page.inj (hstart.symm.trans ho)
    refine ⟨load_doorDisk, hp, _, _, h, rfl, hout, rfl, ?_, ?_⟩
    · have hA := (hlists _ List.mem_cons_self).2
      obtain ⟨m, q, -, -, hstep⟩ := hmoves " A".toList hA
      exact ⟨q, hstep⟩
    · refine (hnone "z".toList (by decide) fun hz => ?_).1
      rw [show Text.trim "z".toList = ['z'] by decide] at hz
      cases hz with
      | choice hmem hl =>
          rw [List.mem_singleton.1 hmem] at hl
          exact absurd hl (by decide)
  · cases hstart.symm.trans ho

end Terminal.Session
end Gamebook
