import Gamebook.Proofs.Page.Offers
import Gamebook.Proofs.Play.LineEnd
import Gamebook.Story.Files

/-!
# Pages from their exported text

A page is written as text with its choices for lines. Read from that text it has the same choices
exactly if the text that it had offers them already or lines can say them all, and then it is
rendered as before.
-/

namespace Gamebook

open Text

/-! ## Choices and their lines -/

namespace Choice

theorem eq_some_of_filterMap_eq {f : Choice → Option Choice} {cs : List Choice}
    (h : cs.filterMap f = cs) : ∀ c ∈ cs, f c = some c := by
  induction cs with
  | nil => exact List.forall_mem_nil _
  | cons c cs ih =>
      rw [List.filterMap_cons] at h
      cases hc : f c with
      | none =>
          rw [hc] at h
          have hl := congrArg List.length h
          have := List.length_filterMap_le f cs
          simp only [List.length_cons] at hl
          omega
      | some d =>
          rw [hc] at h
          obtain ⟨rfl, hs⟩ := List.cons.inj h
          exact List.forall_mem_cons.2 ⟨hc, ih hs⟩

theorem filterMap_eq_self {f : Choice → Option Choice} {cs : List Choice}
    (h : ∀ c ∈ cs, f c = some c) : cs.filterMap f = cs := by
  induction cs with
  | nil => rfl
  | cons c cs ih =>
      rw [List.filterMap_cons_some (h c (by simp)), ih fun d hd => h d (by simp [hd])]

/-- What is read of the lines of choices is all of them only if each is read as it was. -/
theorem eq_some_of_foldl_addNew {f : Choice → Option Choice} {cs : List Choice}
    (h : (cs.filterMap f).foldl addNew [] = cs) : ∀ c ∈ cs, f c = some c := by
  obtain ⟨ys, he, hs⟩ := foldl_addNew_sublist [] (cs.filterMap f)
  rw [h, List.nil_append] at he
  subst he
  exact eq_some_of_filterMap_eq (hs.eq_of_length_le (List.length_filterMap_le f cs)).symm

theorem offers_join {ls : List Text} (h : ∀ l ∈ ls, '\n' ∉ l) :
    offers (join ['\n'] ls) = ls.filterMap ofLine? := by
  induction ls with
  | nil => rfl
  | cons l ls ih =>
      cases ls with
      | nil =>
          rw [join, offers_last (h l (by simp)), List.filterMap_cons]
          cases ofLine? l <;> rfl
      | cons k ls =>
          rw [join_cons_cons, List.append_assoc, List.singleton_append, offers_line (h l (by simp)), ih fun m hm => h m (by simp [hm]),
            List.filterMap_cons (a := l)]
          cases ofLine? l <;> rfl

theorem remains_join {ls : List Text} (h : ∀ l ∈ ls, '\n' ∉ l)
    (ho : ∀ l ∈ ls, (ofLine? l).isSome = true) : remains (join ['\n'] ls) = [] := by
  induction ls with
  | nil => rfl
  | cons l ls ih =>
      have hl : ofLine? l ≠ none := Option.isSome_iff_ne_none.1 (ho l (by simp))
      cases ls with
      | nil => rw [join, remains_last (h l (by simp)), if_neg hl]
      | cons k ls =>
          rw [join_cons_cons, List.append_assoc, List.singleton_append, remains_line (h l (by simp)), if_neg hl,
            ih (fun m hm => h m (by simp [hm])) fun m hm => ho m (by simp [hm])]
          rfl

theorem oneLine_of_mem_split {t : Text} {c : Choice} (h : c ∈ (split t).1) :
    '\n' ∉ c.text.toList ∧ '\r' ∉ c.text.toList := by
  obtain ⟨l, hl, ho⟩ := exists_line_of_mem_split h
  refine ⟨fun hn => (mem_of_ofLine? ho hn).2 rfl, fun hr => unixLines_not_mem t ?_⟩
  exact mem_of_mem_lines hl (mem_of_mem_dropLineFeed (mem_of_ofLine? ho hr).1)

end Choice

/-! ## Exported pages -/

namespace Page

/-- What holds of every page that is loaded: it is marked by its choices, has those that its text
offers if it has none of its own, and its choices have different letters. -/
structure Loaded (p : Page) : Prop where
  marked : p.hasChoices = !p.choices.isEmpty
  own : p.choices = [] → (Choice.split p.content.toList).1 = []
  letters : ∀ c ∈ p.choices, ∃ l : Letter, c.letter = l.toChar
  distinct : (p.choices.map (·.letter)).Nodup

/-- Whether the choices of a page can be said by lines: its text says them already, or a line can say
each. -/
def Exportable (p : Page) : Prop :=
  (Choice.split p.content.toList).1 = p.choices ∨ ∀ c ∈ p.choices, c.FitsLine

/-- The page that is read from the exported text of a page. -/
def exported (p : Page) : Page := .ofSource (String.ofList (Story.sourceOf p))

/-- The prose of a page without the line feeds at its end, on lines of its own. -/
def front (p : Page) : Text :=
  let body := dropEndWhile (· = '\n') p.prose
  if body = [] then [] else body ++ ['\n']

theorem prose_eq (p : Page) :
    ∃ body n m, p.prose = body ++ lineFeeds n ∧ p.front = body ++ lineFeeds m ∧
      (p.front = [] ∨ p.front = body ++ ['\n']) := by
  obtain ⟨dropped, hd, hn⟩ := dropEndWhile_append_eq (· = '\n') p.prose
  have hl : dropped = lineFeeds dropped.length :=
    List.eq_replicate_iff.2 ⟨rfl, fun c hc => by simpa using hn c hc⟩
  rw [hl] at hd
  unfold front
  by_cases hb : dropEndWhile (· = '\n') p.prose = []
  · exact ⟨_, _, 0, hd, by simp [hb, lineFeeds], .inl (if_pos hb)⟩
  · exact ⟨_, _, 1, hd, by simp [hb, lineFeeds], .inr (if_neg hb)⟩

variable {p : Page}

theorem sourceOf_eq_content (h : p.choices = [] ∨ (Choice.split p.content.toList).1 = p.choices) :
    Story.sourceOf p = p.content.toList :=
  if_pos h

theorem sourceOf_eq_lines (h : ¬ (p.choices = [] ∨ (Choice.split p.content.toList).1 = p.choices)) :
    Story.sourceOf p = p.front ++ join ['\n'] (p.choices.map Choice.toLine) :=
  if_neg h

theorem offers_front (p : Page) : Choice.offers p.front = [] := by
  obtain ⟨body, n, m, hp, hm, -⟩ := p.prose_eq
  have ho := Choice.offers_remains (unixLines p.content.toList)
  have hr : Choice.remains (unixLines p.content.toList) = p.prose := rfl
  rw [hr, hp, ignores_lineFeeds Choice.offers_lineEnd] at ho
  rw [hm, ignores_lineFeeds Choice.offers_lineEnd, ho]

theorem not_mem_front (p : Page) : '\r' ∉ p.front := by
  obtain ⟨body, n, m, hp, -, hf⟩ := p.prose_eq
  intro h
  rcases hf with hf | hf
  · rw [hf] at h
    cases h
  · rw [hf] at h
    have hb : '\r' ∈ body := by simpa using h
    have hr : '\r' ∈ p.prose := hp ▸ List.mem_append_left _ hb
    exact unixLines_not_mem _ (Choice.mem_remains hr)

theorem split_front_append {lines : Text} (h : '\r' ∉ lines) :
    Choice.split (p.front ++ lines) =
      ((Choice.offers lines).foldl Choice.addNew [], p.front ++ Choice.remains lines) := by
  have hr : '\r' ∉ p.front ++ lines := by simp [p.not_mem_front, h]
  have ho := p.offers_front
  rw [Choice.split_eq, unixLines_of_not_mem hr]
  obtain ⟨body, n, m, -, -, hf | hf⟩ := p.prose_eq
  · rw [hf]
    rfl
  · have he := Choice.remains_eq_self ho
    rw [hf] at ho he ⊢
    rw [List.append_assoc, List.singleton_append, Choice.offers_append, Choice.remains_append, ho,
      he, List.append_assoc]
    rfl

theorem exported_eq (p : Page) :
    p.exported =
      ⟨String.ofList (Story.sourceOf p), !(Choice.split (Story.sourceOf p)).1.isEmpty, false,
        (Choice.split (Story.sourceOf p)).1⟩ := by
  rw [exported, ofSource, String.toList_ofList]

/-- Choices whose words have no line breaks are offered line by line. -/
theorem split_lines (hl : ∀ c ∈ p.choices, ∃ l : Letter, c.letter = l.toChar)
    (ht : ∀ c ∈ p.choices, '\n' ∉ c.text.toList ∧ '\r' ∉ c.text.toList) :
    (Choice.split (p.front ++ join ['\n'] (p.choices.map Choice.toLine))).1 =
      (p.choices.filterMap fun c => Choice.ofLine? c.toLine).foldl Choice.addNew [] := by
  have hn : ∀ l ∈ p.choices.map Choice.toLine, '\n' ∉ l := by
    intro l hm
    obtain ⟨c, hc, rfl⟩ := List.mem_map.1 hm
    exact Choice.IsBreak.not_mem_toLine (.inl rfl) (hl c hc) (ht c hc).1
  have hr : '\r' ∉ join ['\n'] (p.choices.map Choice.toLine) := by
    refine not_mem_join (by decide) fun l hm => ?_
    obtain ⟨c, hc, rfl⟩ := List.mem_map.1 hm
    exact Choice.IsBreak.not_mem_toLine (.inr rfl) (hl c hc) (ht c hc).2
  rw [split_front_append hr, Choice.offers_join hn, List.filterMap_map]
  rfl

/-- A page read from its exported text has the choices that it had exactly if they can be said. -/
theorem Loaded.choices_exported_iff (h : p.Loaded) :
    p.exported.choices = p.choices ↔ p.Exportable := by
  rw [exported_eq]
  by_cases hc : p.choices = [] ∨ (Choice.split p.content.toList).1 = p.choices
  · have hs : (Choice.split p.content.toList).1 = p.choices := by
      rcases hc with hc | hc
      · rw [hc, h.own hc]
      · exact hc
    rw [sourceOf_eq_content hc]
    exact iff_of_true hs (.inl hs)
  · rw [sourceOf_eq_lines hc]
    dsimp only
    constructor
    · intro hs
      refine .inr fun c hm => (Choice.ofLine?_toLine_iff (h.letters c hm)).1 ?_
      have ht : ∀ c ∈ p.choices, '\n' ∉ c.text.toList ∧ '\r' ∉ c.text.toList := by
        intro c hm
        rw [← hs] at hm
        exact Choice.oneLine_of_mem_split hm
      rw [split_lines h.letters ht] at hs
      exact ⟨(ht c hm).2, Choice.eq_some_of_foldl_addNew hs c hm⟩
    · rintro (hs | hs)
      · exact absurd (.inr hs) hc
      · have hf : (p.choices.filterMap fun c => Choice.ofLine? c.toLine) = p.choices :=
          Choice.filterMap_eq_self fun c hm =>
            ((Choice.ofLine?_toLine_iff (h.letters c hm)).2 (hs c hm)).2
        rw [split_lines h.letters fun c hm => (hs c hm).oneLine, hf]
        exact Choice.foldl_addNew_eq (by simpa using h.distinct)

/-- Behind the prose of a page there is nothing in its exported text but choices. -/
theorem Loaded.prose_exported (h : p.Loaded) (he : p.Exportable) :
    ∃ body n m, p.prose = body ++ lineFeeds n ∧ p.exported.prose = body ++ lineFeeds m := by
  have hp : p.exported.prose = (Choice.split (Story.sourceOf p)).2 := by
    rw [exported_eq, prose, String.toList_ofList]
  rw [hp]
  by_cases hc : p.choices = [] ∨ (Choice.split p.content.toList).1 = p.choices
  · rw [sourceOf_eq_content hc]
    exact ⟨p.prose, 0, 0, (List.append_nil _).symm, (List.append_nil _).symm⟩
  · rw [sourceOf_eq_lines hc]
    have hs : ∀ c ∈ p.choices, c.FitsLine := he.resolve_left fun hs => hc (.inr hs)
    have hr : '\r' ∉ join ['\n'] (p.choices.map Choice.toLine) := by
      refine not_mem_join (by decide) fun l hm => ?_
      obtain ⟨c, hc, rfl⟩ := List.mem_map.1 hm
      exact Choice.IsBreak.not_mem_toLine (.inr rfl) (h.letters c hc) (hs c hc).oneLine.2
    have hj : Choice.remains (join ['\n'] (p.choices.map Choice.toLine)) = [] := by
      refine Choice.remains_join (fun l hm => ?_) fun l hm => ?_
      · obtain ⟨c, hc, rfl⟩ := List.mem_map.1 hm
        exact Choice.IsBreak.not_mem_toLine (.inl rfl) (h.letters c hc) (hs c hc).oneLine.1
      · obtain ⟨c, hc, rfl⟩ := List.mem_map.1 hm
        rw [((Choice.ofLine?_toLine_iff (h.letters c hc)).2 (hs c hc)).2]
        rfl
    obtain ⟨body, n, m, hb, hf, -⟩ := p.prose_eq
    rw [split_front_append hr, hj, List.append_nil]
    exact ⟨body, n, m, hb, hf⟩

end Page
end Gamebook
