import Gamebook.Proofs.Json.RoundTrip
import Gamebook.Proofs.Terminal.Current
import Gamebook.Proofs.Text.Line

/-!
# What an agent is told

Where a play stops is printed as records, each on a line of its own. What authors write stands in the
records in quotation marks, on one line whatever breaks it has, so the records say all of what they are
made from: different stops are never printed alike.
-/

namespace Gamebook

/-! ## What is told -/

/-- What an agent is told of a page: what a reader sees of it, without the targets of the choices. -/
structure Told where
  page : PageId
  html : Text
  choices : List (Char × String)
  audio : List Directive
  canContinue : Bool
  isEnding : Bool

/-- What an agent is told of a page that is shown. -/
def View.told (v : View) : Told where
  page := v.page
  html := v.html
  choices := v.offers.map fun o => (o.letter, o.text)
  audio := v.audio
  canContinue := v.canContinue
  isEnding := v.isEnding

/-- What an agent is told of a page, unless it is told that the story has ended. -/
def Output.told? : Output → Option Told
  | page v => some v.told
  | ended => none

/-- What all pages have in common that plays of stories show: only sounds are asked for, and the letter
of a choice is no line feed. -/
structure View.Regular (v : View) : Prop where
  audio : ∀ d ∈ v.audio, d.isSound = true
  letters : ∀ o ∈ v.offers, o.letter ≠ '\n'

/-- Whether the page shown, if there is one, is regular. -/
def Output.Regular : Output → Prop
  | page v => v.Regular
  | ended => True

theorem Stage.audio_view (s : Stage) (id : PageId) (r : Rendering) :
    ∀ d ∈ (s.view id r).audio, d.isSound = true := by
  intro d hd
  obtain ⟨sound, -, rfl⟩ := List.mem_map.1 hd
  rfl

theorem Letter.toChar_ne_lineFeed (l : Letter) : l.toChar ≠ '\n' := by cases l <;> decide

/-- What is shown in any play of a story that is loaded is regular. -/
theorem LoadedStory.regular_of_arises {d : Disk} {here path : String} {s : LoadedStory}
    (hs : load d here path = .ok s) {p : Play} (hp : s.stage.Arises p) : p.output.Regular := by
  cases hv : p.output with
  | ended => trivial
  | page v =>
      have hr := hp.renders
      have hl := hr.letters (lettered_of_load hs) hv
      obtain ⟨m, hm, rfl⟩ := Play.output_eq_page_iff.1 hv
      obtain ⟨page, -, hview, -⟩ := hr m hm
      refine ⟨hview ▸ Stage.audio_view s.stage m.page _, fun o ho => ?_⟩
      obtain ⟨l, he⟩ := hl o ho
      exact he ▸ l.toChar_ne_lineFeed

namespace Json

/-! ## Texts in quotation marks -/

theorem quote_injective : Function.Injective quote := by
  intro s t h
  have hi : s.flatMap escape = t.flatMap escape :=
    List.append_cancel_right (List.cons.inj h).2
  have hs := unescape?_flatMap_escape s
  rw [hi, unescape?_flatMap_escape t] at hs
  cases hs
  rfl

theorem lineFeed_not_mem_escape (c : Char) : '\n' ∉ escape c := by
  have hd : ∀ n < 16, Nat.digitChar n ≠ '\n' := by decide
  unfold escape
  split_ifs with h₁ h₂ h₃
  · decide
  · decide
  · decide
  · decide
  · decide
  · decide
  · decide
  · simp [hexDigit, Ne.symm (hd _ (Nat.mod_lt _ (by decide)))]
  · simpa using Ne.symm h₃

theorem lineFeed_not_mem_quote (t : Text) : '\n' ∉ quote t := by
  have h : '\n' ∉ t.flatMap escape := by
    intro h
    obtain ⟨c, -, hc⟩ := List.mem_flatMap.1 h
    exact lineFeed_not_mem_escape c hc
  simp [quote, h]

theorem lineFeed_not_mem_writeFields {fs : List (String × Json)} (h : ∀ f ∈ fs, '\n' ∉ write f.2) :
    '\n' ∉ writeFields fs := by
  induction fs with
  | nil => exact List.not_mem_nil
  | cons f fs ih =>
      obtain ⟨k, v⟩ := f
      have hv : '\n' ∉ write v := h (k, v) List.mem_cons_self
      have hk := lineFeed_not_mem_quote k.toList
      cases fs with
      | nil => simp [writeFields, hk, hv]
      | cons f fs =>
          have hr := ih fun g hg => h g (List.mem_cons_of_mem _ hg)
          simp [writeFields, hk, hv, hr]

end Json

/-! ## Sounds -/

theorem Channel.word_injective {c d : Channel} (h : c.word = d.word) : c = d := by
  cases c <;> cases d <;> simp_all [Channel.word]

namespace Sound

theorem readsBack_toJson (s : Sound) : (Directive.sound s).toJson.ReadsBack := by
  cases s with
  | music file loop => exact ⟨trivial, trivial, trivial, trivial⟩
  | sfx file => exact ⟨trivial, trivial, trivial⟩
  | ambient file => exact ⟨trivial, trivial, trivial⟩
  | stop channel => exact ⟨trivial, trivial, trivial⟩

/-- The kind of a record tells the sounds apart, and its fields hold all of them. -/
theorem toJson_injective {s t : Sound} (h : (Directive.sound s).toJson = (Directive.sound t).toJson) :
    s = t := by
  cases s <;> cases t <;> simp_all [Directive.toJson, Directive.record]
  exact Channel.word_injective h

theorem compact_injective {s t : Sound}
    (h : (Directive.sound s).toJson.compact = (Directive.sound t).toJson.compact) : s = t := by
  have hs := Json.parse?_compact s.readsBack_toJson
  rw [h, Json.parse?_compact t.readsBack_toJson] at hs
  exact (toJson_injective (Option.some.inj hs)).symm

theorem lineFeed_not_mem_compact (s : Sound) : '\n' ∉ (Directive.sound s).toJson.compact.toList := by
  have hs (t : String) : '\n' ∉ Json.write (.string t) := Json.lineFeed_not_mem_quote t.toList
  have hb (b : Bool) : '\n' ∉ Json.write (.bool b) := by cases b <;> decide
  have hf {kind : String} {fields : List (String × Json)}
      (h : ∀ f ∈ fields, '\n' ∉ Json.write f.2) :
      '\n' ∉ (Directive.record kind fields).compact.toList := by
    have hall : ∀ f ∈ ("kind", Json.string kind) :: fields, '\n' ∉ Json.write f.2 :=
      List.forall_mem_cons.2 ⟨hs kind, h⟩
    have hw := Json.lineFeed_not_mem_writeFields hall
    simp [Directive.record, Json.compact, Json.write, hw]
  cases s with
  | music file loop => exact hf (by simp [hs, hb])
  | sfx file => exact hf (by simp [hs])
  | ambient file => exact hf (by simp [hs])
  | stop channel => exact hf (by simp [hs])

end Sound

namespace Cli

/-! ## Lines -/

theorem lines_unlines {ls : List String} (h : ∀ l ∈ ls, '\n' ∉ l.toList) :
    Text.lines (unlines ls) = ls.map fun l => l.toList ++ ['\n'] := by
  induction ls with
  | nil => rfl
  | cons l ls ih =>
      have hl : unlines (l :: ls) = l.toList ++ '\n' :: unlines ls := by simp [unlines]
      rw [hl, Text.lines_append_cons (h l List.mem_cons_self),
        ih fun k hk => h k (List.mem_cons_of_mem l hk), List.map_cons]

theorem unlines_injective {ls ks : List String} (hl : ∀ l ∈ ls, '\n' ∉ l.toList)
    (hk : ∀ k ∈ ks, '\n' ∉ k.toList) (h : unlines ls = unlines ks) : ls = ks := by
  have hm := lines_unlines hl
  rw [h, lines_unlines hk] at hm
  refine (List.map_injective_iff.2 (fun a b he => ?_) hm).symm
  exact String.toList_injective (List.append_cancel_right he)

/-! ## Records -/

/-- The record of a choice. -/
def choiceRecord (c : Char × String) : String := "CHOICE:" ++ c.1.toString ++ "|" ++ quoted c.2

/-- The record of a sound. -/
def audioRecord (d : Directive) : String := "AUDIO_JSON:" ++ d.toJson.compact

/-- The records behind those of choices and sounds. -/
def lastRecords (t : Told) (path : Option String) : List String :=
  ["CAN_CONTINUE:" ++ flag t.canContinue, "IS_ENDING:" ++ flag t.isEnding,
    "STATE_OUT:" ++ path.getD "NONE"]

/-- The records of a page that is shown. -/
def pageRecords (t : Told) (path : Option String) : List String :=
  "RESULT:OK" :: "EVENT:PAGE" :: ("PAGE:" ++ toString t.page) ::
    ("HTML_JSON:" ++ quoted (String.ofList t.html)) ::
    (t.choices.map choiceRecord ++ (t.audio.map audioRecord ++ lastRecords t path))

/-- The records of the end of the story. -/
def endRecords (path : Option String) : List String :=
  ["RESULT:OK", "EVENT:END", "STATE_OUT:" ++ path.getD "NONE"]

/-- What is printed of a stop is made from what is told of it. -/
theorem stopLines_eq (o : Output) (path : Option String) :
    stopLines o path = (o.told?.map (pageRecords · path)).getD (endRecords path) := by
  cases o with
  | page v =>
      simp only [stopLines, viewLines, Output.told?, View.told, Option.map_some, Option.getD_some, pageRecords,
        lastRecords, List.map_map, List.cons_append, List.append_assoc, List.nil_append]
      rfl
  | ended => rfl

theorem quoted_injective : Function.Injective quoted := by
  intro s t h
  exact String.toList_injective (Json.quote_injective (String.ofList_injective h))

theorem lineFeed_not_mem_quoted (s : String) : '\n' ∉ (quoted s).toList := by
  rw [quoted, String.toList_ofList]
  exact Json.lineFeed_not_mem_quote s.toList

theorem toList_choiceRecord (c : Char × String) :
    (choiceRecord c).toList = "CHOICE:".toList ++ c.1 :: '|' :: (quoted c.2).toList := by
  simp [choiceRecord]

theorem choiceRecord_injective : Function.Injective choiceRecord := by
  intro c d h
  have hl := congrArg String.toList h
  rw [toList_choiceRecord, toList_choiceRecord] at hl
  have hc := List.append_cancel_left hl
  simp only [List.cons.injEq, true_and] at hc
  exact Prod.ext hc.1 (quoted_injective (String.toList_injective hc.2))

theorem audioRecord_injective {c d : Directive} (hc : c.isSound = true) (hd : d.isSound = true)
    (h : audioRecord c = audioRecord d) : c = d := by
  cases c with
  | sound s =>
      cases d with
      | sound t => exact congrArg _ (Sound.compact_injective (String.append_right_inj _ |>.1 h))
      | assign | goto | asset | conditional => cases hd
  | assign | goto | asset | conditional => cases hc

theorem lineFeed_not_mem_audioRecord {d : Directive} (hd : d.isSound = true) :
    '\n' ∉ (audioRecord d).toList := by
  cases d with
  | sound s =>
      have hs := s.lineFeed_not_mem_compact
      simp [audioRecord, hs]
  | assign | goto | asset | conditional => cases hd

theorem flag_injective {a b : Bool} (h : flag a = flag b) : a = b := by
  cases a <;> cases b <;> simp_all [flag]

theorem toString_injective {p q : PageId} (h : toString p = toString q) : p = q := by
  have hp := PageId.parse_toString p
  rw [h, PageId.parse_toString q] at hp
  exact (Except.ok.inj hp).symm

/-- Where records of one kind stand in front of a record of another, they are known from each other. -/
theorem map_append_inj {α β : Type} {f : α → β} {xs ys : List α} {r s : List β}
    (hf : ∀ x ∈ xs, ∀ y ∈ ys, f x = f y → x = y) (hr : ∀ a, r.head? ≠ some (f a))
    (hs : ∀ a, s.head? ≠ some (f a)) (h : xs.map f ++ r = ys.map f ++ s) : xs = ys ∧ r = s := by
  induction xs generalizing ys with
  | nil =>
      cases ys with
      | nil => exact ⟨rfl, h⟩
      | cons y ys => exact absurd (congrArg List.head? h) (hr y)
  | cons x xs ih =>
      cases ys with
      | nil => exact absurd (congrArg List.head? h).symm (hs x)
      | cons y ys =>
          obtain ⟨hxy, ht⟩ := List.cons.inj h
          have hy : x = y := hf x List.mem_cons_self y List.mem_cons_self hxy
          obtain ⟨rfl, hrs⟩ := ih (fun a ha b hb =>
            hf a (List.mem_cons_of_mem x ha) b (List.mem_cons_of_mem y hb)) ht
          exact ⟨by rw [hy], hrs⟩

theorem audioRecord_ne (t : Told) (path : Option String) (d : Directive) :
    (lastRecords t path).head? ≠ some (audioRecord d) := by
  intro h
  have hl := congrArg String.toList (Option.some.inj h)
  simp [audioRecord] at hl

theorem choiceRecord_ne (t : Told) (path : Option String) (c : Char × String) :
    (t.audio.map audioRecord ++ lastRecords t path).head? ≠ some (choiceRecord c) := by
  intro h
  cases ha : t.audio with
  | nil =>
      rw [ha] at h
      have hl := congrArg String.toList (Option.some.inj h)
      rw [toList_choiceRecord] at hl
      simp at hl
  | cons d ds =>
      rw [ha] at h
      have hl := congrArg String.toList (Option.some.inj h)
      rw [toList_choiceRecord] at hl
      simp [audioRecord] at hl

/-- The records of a page say all that is told of it, and the path. -/
theorem pageRecords_inj {t u : Told} {path path' : Option String}
    (ht : ∀ d ∈ t.audio, d.isSound = true) (hu : ∀ d ∈ u.audio, d.isSound = true)
    (h : pageRecords t path = pageRecords u path') :
    t = u ∧ path.getD "NONE" = path'.getD "NONE" := by
  simp only [pageRecords, List.cons.injEq, true_and, String.append_right_inj] at h
  obtain ⟨hpage, hhtml, h⟩ := h
  obtain ⟨hchoices, h⟩ := map_append_inj (fun _ _ _ _ he => choiceRecord_injective he)
    (choiceRecord_ne t path) (choiceRecord_ne u path') h
  obtain ⟨haudio, h⟩ := map_append_inj (fun c hc d hd he => audioRecord_injective (ht c hc) (hu d hd) he)
    (audioRecord_ne t path) (audioRecord_ne u path') h
  simp only [lastRecords, List.cons.injEq, and_true, String.append_right_inj] at h
  obtain ⟨hcan, hending, hpath⟩ := h
  refine ⟨?_, hpath⟩
  cases t
  cases u
  simp only [Told.mk.injEq]
  exact ⟨toString_injective hpage, String.ofList_injective (quoted_injective hhtml), hchoices, haudio,
    flag_injective hcan, flag_injective hending⟩

/-! ## What is printed -/

theorem lineFeed_not_mem_path {path : Option String} (hp : ∀ p ∈ path, '\n' ∉ p.toList) :
    '\n' ∉ ("STATE_OUT:" ++ path.getD "NONE").toList := by
  cases path with
  | none => decide
  | some p => simp [hp p rfl]

theorem lineFeed_not_mem_choiceRecord {c : Char × String} (hc : c.1 ≠ '\n') :
    '\n' ∉ (choiceRecord c).toList := by
  rw [toList_choiceRecord]
  simp [lineFeed_not_mem_quoted, Ne.symm hc]

theorem lineFeed_not_mem_pageRecords {v : View} {path : Option String} (hv : v.Regular)
    (hp : ∀ p ∈ path, '\n' ∉ p.toList) : ∀ l ∈ pageRecords v.told path, '\n' ∉ l.toList := by
  have hflag (b : Bool) : '\n' ∉ (flag b).toList := by cases b <;> decide
  have hpage : '\n' ∉ (toString v.page).toList := by
    rw [show (toString v.page).toList = v.page.toText from String.toList_ofList]
    exact PageId.not_mem_toText (by decide) v.page
  simp only [pageRecords, List.forall_mem_cons, List.forall_mem_append, List.forall_mem_map, lastRecords]
  refine ⟨by decide, by decide, ?_, ?_, ?_, ?_, ?_, ?_, ?_, List.forall_mem_nil _⟩
  · simp [View.told, hpage]
  · simp [lineFeed_not_mem_quoted]
  · intro c hc
    obtain ⟨o, ho, rfl⟩ := List.mem_map.1 hc
    exact lineFeed_not_mem_choiceRecord (hv.letters o ho)
  · exact fun d hd => lineFeed_not_mem_audioRecord (hv.audio d hd)
  · simp [hflag]
  · simp [hflag]
  · exact lineFeed_not_mem_path hp

theorem lineFeed_not_mem_stopLines {o : Output} {path : Option String} (ho : o.Regular)
    (hp : ∀ p ∈ path, '\n' ∉ p.toList) : ∀ l ∈ stopLines o path, '\n' ∉ l.toList := by
  rw [stopLines_eq]
  cases o with
  | page v => exact lineFeed_not_mem_pageRecords ho hp
  | ended =>
      exact List.forall_mem_cons.2 ⟨by decide, List.forall_mem_cons.2 ⟨by decide,
        List.forall_mem_singleton.2 (lineFeed_not_mem_path hp)⟩⟩

/-- The records of a stop say all that is told of it, and the path. -/
theorem stopLines_inj {o o' : Output} {path path' : Option String} (ho : o.Regular) (ho' : o'.Regular)
    (h : stopLines o path = stopLines o' path') :
    o.told? = o'.told? ∧ path.getD "NONE" = path'.getD "NONE" := by
  rw [stopLines_eq, stopLines_eq] at h
  cases o with
  | page v =>
      cases o' with
      | page w =>
          obtain ⟨ht, hp⟩ := pageRecords_inj ho.audio ho'.audio h
          exact ⟨congrArg some ht, hp⟩
      | ended => simp [Output.told?, pageRecords, endRecords] at h
  | ended =>
      cases o' with
      | page w => simp [Output.told?, pageRecords, endRecords] at h
      | ended =>
          simp only [Output.told?, Option.map_none, Option.getD_none, endRecords, List.cons.injEq, and_true,
            true_and, String.append_right_inj] at h
          exact ⟨rfl, h⟩

/-- A stop is printed with each record on a line of its own, and two stops are printed alike only where
the same is told of both and their paths are the same; a stop without a path has the path `NONE`. -/
theorem printed_stop_inj {o o' : Output} {path path' : Option String} (ho : o.Regular)
    (ho' : o'.Regular) (hp : ∀ p ∈ path, '\n' ∉ p.toList) (hp' : ∀ p ∈ path', '\n' ∉ p.toList) :
    Text.lines (unlines (stopLines o path)) = (stopLines o path).map (fun l => l.toList ++ ['\n']) ∧
      (unlines (stopLines o path) = unlines (stopLines o' path') ↔
        o.told? = o'.told? ∧ path.getD "NONE" = path'.getD "NONE") := by
  have hl := lineFeed_not_mem_stopLines ho hp
  have hl' := lineFeed_not_mem_stopLines ho' hp'
  refine ⟨lines_unlines hl, fun h => stopLines_inj ho ho' (unlines_injective hl hl' h), fun h => ?_⟩
  rw [stopLines_eq, stopLines_eq, h.1]
  simp only [pageRecords, lastRecords, endRecords, h.2]

/-- The words of a choice cannot pass for another choice, nor the name of a sound for another record. -/
theorem printed_stop_inj_forged :
    let html := "<p>\"Halt!\"\nIS_ENDING:true</p>".toList
    let audio := [Directive.sound (.sfx "a\"\x7d\n.wav")]
    let one : Output :=
      .page ⟨.root, html, [⟨'a', "Go\"\nCHOICE:b|\"Stay", .root⟩], audio, false, false⟩
    let two : Output := .page ⟨.root, html, [⟨'a', "Go", .root⟩, ⟨'b', "Stay", .root⟩], audio, false, false⟩
    one.Regular ∧ two.Regular ∧ '\n' ∉ "s.json".toList ∧
      Text.lines (unlines (stopLines one (some "s.json"))) =
        (stopLines one (some "s.json")).map (fun l => l.toList ++ ['\n']) ∧
      unlines (stopLines one (some "s.json")) ≠ unlines (stopLines two (some "s.json")) := by
  intro html audio one two
  have h₁ : one.Regular :=
    ⟨List.forall_mem_singleton.2 rfl, List.forall_mem_singleton.2 (by decide)⟩
  have h₂ : two.Regular :=
    ⟨List.forall_mem_singleton.2 rfl,
      List.forall_mem_cons.2 ⟨by decide, List.forall_mem_singleton.2 (by decide)⟩⟩
  have hp : '\n' ∉ "s.json".toList := by decide
  have hpath : ∀ p ∈ some "s.json", '\n' ∉ p.toList := by
    rintro p ⟨⟩
    exact hp
  obtain ⟨hl, hi⟩ := printed_stop_inj h₁ h₂ hpath hpath
  refine ⟨h₁, h₂, hp, hl, fun he => ?_⟩
  have ht := (hi.1 he).1
  simp [one, two, Output.told?, View.told] at ht

end Cli
end Gamebook
