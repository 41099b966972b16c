import Gamebook.Proofs.Graph.Journey

/-!
# What a check promises a reader

The diagnostics of a story are the findings at its pages, and each finding can be told by its message.
So a page that the graph reaches is not called unreachable, and one that has a continuation is no dead
end; and of a story without diagnostics only gotos, and choices that lead nowhere at all, can let a
reader fall off a page that is no ending.
-/

namespace Gamebook

namespace Finding

/-- The first letter of each message. -/
def initial : Finding → Char
  | blank | unreachable => 'P'
  | deadEnd _ => 'D'
  | plainBlocks _ | missingTarget _ _ => 'C'
  | missingAsset _ => 'M'

theorem head?_toList_append {s t : String} {c : Char} (h : s.toList.head? = some c) :
    (s ++ t).toList.head? = some c := by
  rw [String.toList_append, List.head?_append, h, Option.some_or]

theorem head?_message (f : Finding) : f.message.toList.head? = some f.initial := by
  cases f with
  | blank => decide
  | unreachable => exact head?_toList_append (head?_toList_append (by decide))
  | deadEnd next => exact head?_toList_append (c := 'D') (head?_toList_append (by decide))
  | plainBlocks cause => exact head?_toList_append (c := 'C') (by decide)
  | missingAsset name => exact head?_toList_append (c := 'M') (head?_toList_append (by decide))
  | missingTarget letter target =>
      exact head?_toList_append (c := 'C') (head?_toList_append (head?_toList_append
        (head?_toList_append (by decide))))

theorem initial_eq {f g : Finding} (h : f.message = g.message) : f.initial = g.initial := by
  have hh := congrArg (fun t : String => t.toList.head?) h
  simp only [head?_message, Option.some.injEq] at hh
  exact hh

theorem blank_message_ne : blank.message ≠ unreachable.message := by decide +kernel

theorem eq_unreachable {f : Finding} {id : PageId}
    (h : f.diagnostic id = unreachable.diagnostic id) : f = unreachable := by
  have hm : f.message = unreachable.message := congrArg Diagnostic.message h
  have hi := initial_eq hm
  cases f with
  | unreachable => rfl
  | blank => exact absurd hm blank_message_ne
  | _ => simp [initial] at hi

theorem eq_deadEnd {f : Finding} {id next : PageId}
    (h : f.diagnostic id = (deadEnd next).diagnostic id) : ∃ n, f = deadEnd n := by
  have hm : f.message = (deadEnd next).message := congrArg Diagnostic.message h
  have hi := initial_eq hm
  cases f with
  | deadEnd n => exact ⟨n, rfl⟩
  | _ => simp [initial] at hi

end Finding

namespace Pages

variable {pages reached : Pages} {catalog : Catalog} {config : RenderConfig} {id : PageId}
  {page : Page}

/-! ## Findings -/

theorem unreachable_mem_findingsAt :
    .unreachable ∈ pages.findingsAt reached catalog config id page ↔
      reached.contains id = false := by
  unfold findingsAt
  cases reached.contains id <;> simp

theorem deadEnd_mem_findingsAt {next : PageId} :
    .deadEnd next ∈ pages.findingsAt reached catalog config id page ↔
      pages.deadEnd? id page = some next := by
  unfold findingsAt
  simp

theorem missingTarget_mem_findingsAt {letter : Char} {target : PageId} :
    .missingTarget letter target ∈ pages.findingsAt reached catalog config id page ↔
      (letter, target) ∈ pages.missingTargets id page := by
  unfold findingsAt
  simp

/-- Nothing is found at a page exactly if it is reached and nothing else is wrong. -/
theorem findingsAt_eq_nil_iff (hid : pages.contains id = true) :
    pages.findingsAt reached catalog config id page = [] ↔
      reached.contains id = true ∧ pages.findingsAt pages catalog config id page = [] := by
  unfold findingsAt
  rw [hid]
  cases reached.contains id <;> simp

theorem kinds_eq_orphan_iff : pages.storyMap.kinds.get? id = some .orphan ↔
    pages.contains id = true ∧ (pages.reachable .root).contains id = false :=
  get?_classify_eq_orphan_iff

end Pages

namespace Story

open Play (output_eq_ended_iff)

variable {s : Story} {allowed : Html.AllowList} {initial : Variables} {p q : Play} {m : Moment}
  {vars : Variables} {id b : PageId} {page : Page}

/-- The findings at a page of the story. -/
def findingsAt (s : Story) (id : PageId) (page : Page) : List Finding :=
  s.pages.findingsAt (s.pages.reachable .root) s.catalog s.config id page

theorem diagnostics_eq (s : Story) : s.diagnostics =
    (if s.pages.contains .root then [] else [.missingRoot]) ++
      s.pages.entries.flatMap fun (id, page) =>
        (s.findingsAt id page).map (Finding.diagnostic id) := rfl

/-- A diagnostic about a page is that of a finding at the page. -/
theorem mem_diagnostics_iff {f : Finding} : f.diagnostic id ∈ s.diagnostics ↔
    ∃ page g, s.pages.get? id = some page ∧ g ∈ s.findingsAt id page ∧
      g.diagnostic id = f.diagnostic id := by
  rw [diagnostics_eq, List.mem_append, List.mem_flatMap]
  constructor
  · rintro (h | ⟨⟨i, page⟩, hp, h⟩)
    · split at h
      · cases h
      · cases congrArg Diagnostic.page (List.mem_singleton.1 h)
    · obtain ⟨g, hg, he⟩ := List.mem_map.1 h
      cases congrArg Diagnostic.page he
      exact ⟨page, g, SortedMap.get?_eq_some_iff.2 hp, hg, he⟩
  · rintro ⟨page, g, hp, hg, he⟩
    exact .inr ⟨(id, page), SortedMap.get?_eq_some_iff.1 hp, List.mem_map.2 ⟨g, hg, he⟩⟩

theorem not_reached_of_mem_diagnostics (h : Finding.unreachable.diagnostic id ∈ s.diagnostics) :
    (s.pages.reachable .root).contains id = false := by
  obtain ⟨page, g, -, hg, he⟩ := mem_diagnostics_iff.1 h
  cases Finding.eq_unreachable he
  exact Pages.unreachable_mem_findingsAt.1 hg

theorem deadEnd_of_mem_diagnostics {next : PageId}
    (h : (Finding.deadEnd next).diagnostic id ∈ s.diagnostics) :
    ∃ page, s.pages.get? id = some page ∧ s.pages.successors id page = [] := by
  obtain ⟨page, g, hp, hg, he⟩ := mem_diagnostics_iff.1 h
  obtain ⟨n, rfl⟩ := Finding.eq_deadEnd he
  refine ⟨page, hp, ?_⟩
  have hd := Pages.deadEnd_mem_findingsAt.1 hg
  rw [Pages.deadEnd?] at hd
  split at hd
  · next hc =>
      refine List.eq_nil_iff_forall_not_mem.2 fun b hb => ?_
      obtain ⟨hb, -, ⟨c, hm, -⟩ | ⟨-, rfl⟩⟩ := Pages.mem_successors_iff.1 hb
      · rw [hc.2.1] at hm
        cases hm
      · exact absurd hb (by simpa using hc.2.2)
  · cases hd

/-! ## Warnings and walks -/

/-- Warnings about the structure of a loaded story agree with its walks, gotos aside: no page is
called an orphan or unreachable that a walk shows whose gotos lead to no orphan, and where a reader
goes on from a page that is called a dead end, whatever the variables, a goto leads on. -/
theorem warnings_agree_with_walks {files : SortedMap String String} {assets : List String}
    (h : ofFiles files assets = .ok s) (allowed : Html.AllowList) (initial : Variables) :
    (∀ p id, (s.stage allowed initial).Walks
        (fun t => s.pages.storyMap.kinds.get? t ≠ some .orphan) p → p.page? = some id →
      s.pages.storyMap.kinds.get? id ≠ some .orphan ∧
        Finding.unreachable.diagnostic id ∉ s.diagnostics) ∧
    ∀ p q m vars next b, p.moment = some m → (s.stage allowed initial).Shows m vars →
      (Finding.deadEnd next).diagnostic m.page ∈ s.diagnostics →
      (s.stage allowed initial).goOn p = .ok q → q.page? = some b → p.gotoTarget? = some b := by
  have hl := loaded_of_ofFiles h
  constructor
  · intro p id hw hid
    have hmay (t : PageId) (ht : s.pages.storyMap.kinds.get? t ≠ some .orphan)
        (hc : s.pages.contains t = true) : (s.pages.reachable .root).contains t = true := by
      rw [Ne, Pages.kinds_eq_orphan_iff, not_and, Bool.not_eq_false] at ht
      exact ht hc
    have hr := hl.reachable_of_walks hmay hw hid
    refine ⟨fun ho => ?_, fun hd => ?_⟩
    · cases hr.symm.trans (Pages.kinds_eq_orphan_iff.1 ho).2
    · cases hr.symm.trans (not_reached_of_mem_diagnostics hd)
  · intro p q m vars next b hm hsh hd hq hb
    obtain ⟨page, hp, hs⟩ := deadEnd_of_mem_diagnostics hd
    rcases hl.mem_successors_of_goOn hm hsh hp hq hb with hmem | ht
    · rw [hs] at hmem
      cases hmem
    · exact ht

/-- A cellar from which only a goto leads on. -/
def cellar : Story :=
  ⟨.ofList [(.root, .ofSource "The cellar.\x7bgoto:5\x7d"),
    ({ number := 5, path := [] }, .ofSource "The tunnel.")], .empty, none⟩

/-- The page to which the goto of the cellar leads. -/
def tunnel : PageId := { number := 5, path := [] }

theorem ofFiles_cellar :
    ofFiles (.ofList [("1.txt", "The cellar.\x7bgoto:5\x7d"), ("5.txt", "The tunnel.")]) [] =
      .ok cellar :=
  ok_of_toOption (by decide +kernel)

theorem root_cellar :
    cellar.pages.get? .root = some (.ofSource "The cellar.\x7bgoto:5\x7d") := by
  decide +kernel

theorem goOn_cellar : ∃ q, (cellar.stage .story .empty).goOn (cellar.stage .story .empty).start =
    .ok q ∧ q.page? = some tunnel := by
  refine ⟨_, goOn_start tunnel root_cellar (by decide +kernel) (by decide +kernel) ?_, ?_⟩
  · rw [Directive.gotos, Find.gather_eq]
    decide +kernel
  · exact page?_navigate_stage.2 ⟨by decide +kernel, rfl⟩

theorem deadEnd_mem_cellar :
    (Finding.deadEnd { number := 2, path := [] }).diagnostic .root ∈ cellar.diagnostics :=
  mem_diagnostics_iff.2
    ⟨_, _, root_cellar, Pages.deadEnd_mem_findingsAt.2 (by decide +kernel), rfl⟩

/-- The cellar is shown and no orphan, and the page to which a reader goes on from it is the target of
its goto. -/
theorem warnings_agree_cellar :
    cellar.pages.storyMap.kinds.get? .root ≠ some .orphan ∧
      (cellar.stage .story .empty).start.gotoTarget? = some tunnel := by
  let may (t : PageId) : Prop := cellar.pages.storyMap.kinds.get? t ≠ some .orphan
  have hw : (cellar.stage .story .empty).Walks may (cellar.stage .story .empty).start := .start
  have hm := Stage.moment_start (s := cellar.stage .story .empty) root_cellar
  obtain ⟨q, hq, hb⟩ := goOn_cellar
  obtain ⟨hshown, hdead⟩ := warnings_agree_with_walks ofFiles_cellar .story .empty
  refine ⟨(hshown _ .root hw ?_).1, ?_⟩
  · rw [Play.page?, hm]
    rfl
  · exact hdead _ q _ _ _ tunnel hm (hw.shows hm) deadEnd_mem_cellar hq hb

/-- A page to which a goto leads is shown, though it is called an orphan and unreachable, and the
reader goes on to it from a page that is called a dead end. -/
theorem warnings_contradict_cellar :
    ofFiles (.ofList [("1.txt", "The cellar.\x7bgoto:5\x7d"), ("5.txt", "The tunnel.")]) [] =
      .ok cellar ∧
    ∃ q, (cellar.stage .story .empty).goOn (cellar.stage .story .empty).start = .ok q ∧
      q.page? = some tunnel ∧ cellar.pages.storyMap.kinds.get? tunnel = some .orphan ∧
      Finding.unreachable.diagnostic tunnel ∈ cellar.diagnostics ∧
      (Finding.deadEnd { number := 2, path := [] }).diagnostic .root ∈ cellar.diagnostics := by
  refine ⟨ofFiles_cellar, ?_⟩
  obtain ⟨q, hq, hb⟩ := goOn_cellar
  have hr : (cellar.pages.reachable .root).contains tunnel = false := by
    rw [Bool.eq_false_iff]
    intro hc
    rcases (Pages.contains_reachable_iff.1 hc).2.cases_head with he | ⟨id, ⟨page, hp, hs⟩, -⟩
    · cases he
    · have hn : cellar.pages.successors .root (.ofSource "The cellar.\x7bgoto:5\x7d") = [] := by
        decide +kernel
      cases root_cellar.symm.trans hp
      rw [hn] at hs
      cases hs
  have hp : cellar.pages.get? tunnel = some (.ofSource "The tunnel.") := by decide +kernel
  refine ⟨q, hq, hb, Pages.kinds_eq_orphan_iff.2 ⟨by decide +kernel, hr⟩, ?_, deadEnd_mem_cellar⟩
  exact mem_diagnostics_iff.2 ⟨_, _, hp, Pages.unreachable_mem_findingsAt.2 hr, rfl⟩

/-! ## Stories without diagnostics -/

/-- There are no diagnostics exactly if there is a first page and nothing is found at any page. -/
theorem diagnostics_eq_nil_iff : s.diagnostics = [] ↔ s.pages.contains .root = true ∧
    ∀ id page, s.pages.get? id = some page → s.findingsAt id page = [] := by
  have hroot : (if s.pages.contains .root then [] else [Diagnostic.missingRoot]) = [] ↔
      s.pages.contains .root = true := by
    cases s.pages.contains .root <;> simp
  rw [diagnostics_eq, List.append_eq_nil_iff, List.flatMap_eq_nil_iff, hroot]
  constructor
  · rintro ⟨hr, hf⟩
    exact ⟨hr, fun id page hp =>
      List.map_eq_nil_iff.1 (hf (id, page) (SortedMap.get?_eq_some_iff.1 hp))⟩
  · rintro ⟨hr, hf⟩
    exact ⟨hr, fun e he =>
      List.map_eq_nil_iff.2 (hf e.1 e.2 (SortedMap.get?_eq_some_iff.2 he))⟩

/-- A story with a first page has no diagnostics if all its pages are reached and nothing else is
wrong with them. -/
theorem diagnostics_eq_nil_of_reached (hr : s.pages.contains .root = true)
    (hl : ∀ e ∈ s.pages.entries, Relation.ReflTransGen s.pages.Leads .root e.1)
    (hf : ∀ e ∈ s.pages.entries, s.pages.findingsAt s.pages s.catalog s.config e.1 e.2 = []) :
    s.diagnostics = [] := by
  refine diagnostics_eq_nil_iff.2 ⟨hr, fun id page hp => ?_⟩
  have he : (id, page) ∈ s.pages.entries := SortedMap.get?_eq_some_iff.1 hp
  rw [findingsAt, Pages.findingsAt_eq_nil_iff (SortedMap.contains_iff.2 ⟨page, hp⟩)]
  exact ⟨Pages.contains_reachable_iff.2 ⟨hr, hl (id, page) he⟩, hf (id, page) he⟩

/-- Where nothing is found, every choice that leads anywhere leads to a page. -/
theorem contains_of_findingsAt_eq_nil (h : s.findingsAt id page = []) {c : Choice}
    (hc : c ∈ page.choices) {target : PageId} (ht : c.target? id = some target) :
    s.pages.contains target = true := by
  cases hm : s.pages.contains target with
  | true => rfl
  | false =>
      have hmem : (c.letter, target) ∈ s.pages.missingTargets id page :=
        List.mem_filterMap.2 ⟨c, hc, by simp [ht, hm]⟩
      have hf : .missingTarget c.letter target ∈ s.findingsAt id page :=
        Pages.missingTarget_mem_findingsAt.2 hmem
      rw [h] at hf
      cases hf

/-- Where nothing is found, a page that is no ending and has no choices has a continuation. -/
theorem contains_continuation_of_findingsAt_eq_nil (h : s.findingsAt id page = [])
    (he : page.isEnding = false) (hc : page.choices = []) :
    s.pages.contains id.continuation = true := by
  cases hm : s.pages.contains id.continuation with
  | true => rfl
  | false =>
      have hd : s.pages.deadEnd? id page = some id.continuation := by
        rw [Pages.deadEnd?, if_pos ⟨by simp [he], hc, by simp [hm]⟩]
      have hf : .deadEnd id.continuation ∈ s.findingsAt id page := Pages.deadEnd_mem_findingsAt.2 hd
      rw [h] at hf
      cases hf

/-- Whether a reader who goes on from a page shown gets to no page: the last goto leads to none, or
without a goto none of the choices that the page has leads anywhere, and there is no continuation. -/
def LosesReader (s : Story) (p : Play) (id : PageId) (page : Page) : Prop :=
  (∃ t, p.gotoTarget? = some t ∧ s.pages.contains t = false) ∨
    p.gotoTarget? = none ∧ page.choices ≠ [] ∧ (∀ c ∈ page.choices, c.target? id = none) ∧
      s.pages.contains id.continuation = false

theorem page?_navigate_eq_none :
    ((s.stage allowed initial).navigate p id).page? = none ↔ s.pages.contains id = false := by
  rw [Stage.page?_navigate, SortedMap.contains_eq_isSome]
  change (if (s.pages.get? id).isSome then some id else none) = none ↔ _
  cases (s.pages.get? id).isSome <;> simp

/-- Going on from a page at which nothing is found ends the story exactly if the page is an ending or
loses its reader. -/
theorem ended_iff_of_findingsAt_eq_nil (h : s.findingsAt m.page page = []) (hm : p.moment = some m)
    (hsh : (s.stage allowed initial).Shows m vars) (hp : s.pages.get? m.page = some page)
    (hq : (s.stage allowed initial).goOn p = .ok q) :
    q.output = .ended ↔
      page.isEnding = true ∨ page.isEnding = false ∧ s.LosesReader p m.page page := by
  rw [output_eq_ended_iff]
  rcases hsh.of_goOn hm hp hq with ⟨he, hq⟩ | ⟨he, hc, hq⟩
  · rw [← hq, Stage.page?_leave]
    simp [he]
  · rw [← hq, page?_navigate_eq_none, LosesReader]
    cases hg : p.gotoTarget? with
    | some t => simp [he]
    | none =>
        have hcont := contains_continuation_of_findingsAt_eq_nil h he
        simp only [he, Bool.false_eq_true, false_or, true_and, reduceCtorEq, false_and,
          exists_false, Option.getD_none]
        refine ⟨fun hn => ⟨fun hnil => ?_, hc, hn⟩, fun hl => hl.2.2⟩
        cases hn.symm.trans (hcont hnil)

/-- In a story without diagnostics a start and every choice show a page, and going on ends the story
exactly at endings and where a page loses its reader. -/
theorem ended_iff_of_diagnostics_eq_nil (h : s.diagnostics = []) (allowed : Html.AllowList)
    (initial : Variables) :
    (s.stage allowed initial).start.output ≠ .ended ∧
    ∀ p, (s.stage allowed initial).Walks (fun _ => True) p →
      (∀ letter q, (s.stage allowed initial).choose p letter = .ok q → q.output ≠ .ended) ∧
      ∀ q, (s.stage allowed initial).goOn p = .ok q →
        (q.output = .ended ↔ ∃ id page, p.page? = some id ∧ s.pages.get? id = some page ∧
          (page.isEnding = true ∨ page.isEnding = false ∧ s.LosesReader p id page)) := by
  obtain ⟨hr, hf⟩ := diagnostics_eq_nil_iff.1 h
  refine ⟨?_, fun p hw => ⟨fun letter q hq => ?_, fun q hq => ?_⟩⟩
  · rw [Ne, output_eq_ended_iff, page?_start.2 ⟨hr, rfl⟩]
    nofun
  · obtain ⟨m, o, hm, -⟩ := Stage.choose_eq_ok.1 hq
    obtain ⟨page, hp⟩ := get?_of_walks hw hm
    obtain ⟨-, c, hc, target, ht, rfl⟩ := (hw.shows hm).of_choose hm hp hq
    rw [Ne, output_eq_ended_iff, page?_navigate_eq_none,
      contains_of_findingsAt_eq_nil (hf _ _ hp) hc ht]
    nofun
  · obtain ⟨m, hm, -⟩ := Stage.goOn_eq_ok.1 hq
    obtain ⟨page, hp⟩ := get?_of_walks hw hm
    have hid : p.page? = some m.page := by rw [Play.page?, hm]; rfl
    rw [ended_iff_of_findingsAt_eq_nil (hf _ _ hp) hm (hw.shows hm) hp hq, hid]
    constructor
    · exact fun he => ⟨m.page, page, rfl, hp, he⟩
    · rintro ⟨id, r, hi, hr, he⟩
      cases hi
      cases hr.symm.trans hp
      exact he

/-- A first page that leads to all the others leaves nothing to tell where nothing else is wrong. -/
theorem diagnostics_eq_nil_of_first (hp : s.pages.get? .root = some page)
    (he : ∀ e ∈ s.pages.entries, (e.1 = .root ∨ e.1 ∈ s.pages.successors .root page) ∧
      s.pages.findingsAt s.pages s.catalog s.config e.1 e.2 = []) : s.diagnostics = [] := by
  refine diagnostics_eq_nil_of_reached (SortedMap.contains_iff.2 ⟨page, hp⟩) (fun e hm => ?_)
    fun e hm => (he e hm).2
  rcases (he e hm).1 with hr | hs
  · exact hr ▸ .refl
  · exact .single ⟨page, hp, hs⟩

/-- A bridge, with a goto behind the words, and the far shore, an ending. -/
def bridge (goto : String) : Story :=
  ⟨.ofList [(.root, .ofSource ("The bridge." ++ goto)),
    ({ number := 2, path := [] }, ⟨"The far shore.", false, true, []⟩)], .empty, none⟩

/-- Without a goto nobody falls off the bridge. -/
theorem bridge_holds :
    ((bridge "").stage .story .empty).start.output ≠ .ended ∧
    ∀ q, ((bridge "").stage .story .empty).goOn ((bridge "").stage .story .empty).start = .ok q →
      q.output ≠ .ended := by
  have hp : (bridge "").pages.get? .root = some (.ofSource "The bridge.") := by decide +kernel
  have hm := Stage.moment_start (s := (bridge "").stage .story .empty) hp
  have hg : ((bridge "").stage .story .empty).start.gotoTarget? = none := by
    rw [Play.gotoTarget?, hm]
    change (Directive.gotos _).getLast? = none
    rw [Directive.gotos, Find.gather_eq]
    decide +kernel
  obtain ⟨hs, hw⟩ := ended_iff_of_diagnostics_eq_nil
    (diagnostics_eq_nil_of_first hp (by decide +kernel)) .story .empty
  refine ⟨hs, fun q hq he => ?_⟩
  obtain ⟨id, page, hid, hpage, h⟩ := ((hw _ .start).2 q hq).1 he
  rw [Play.page?, hm] at hid
  cases hid
  cases hpage.symm.trans hp
  rcases h with h | ⟨-, ⟨t, ht, -⟩ | ⟨-, hc, -⟩⟩
  · cases h
  · cases ht.symm.trans hg
  · exact hc rfl

/-- Whether going on from the first page ends the story though that page is no ending. -/
def FallsOff (s : Story) : Prop := ∃ page q, s.pages.get? .root = some page ∧
  page.isEnding = false ∧ (s.stage .story .empty).goOn (s.stage .story .empty).start = .ok q ∧
    q.output = .ended

theorem fallsOff_of_missing {t : PageId} (hp : s.pages.get? .root = some page)
    (he : page.isEnding = false) (hc : page.choices.filterMap (·.target? .root) = [])
    (ht : (Directive.gotos (page.resolvedProse s.config .empty)).getLast?.getD
      PageId.root.continuation = t) (hn : s.pages.contains t = false) : s.FallsOff :=
  ⟨page, _, hp, he, goOn_start t hp he hc ht, output_eq_ended_iff.2 (page?_navigate_eq_none.2 hn)⟩

/-- A signpost with a choice that stands under no letter and names no page. -/
def signpost : Story :=
  ⟨.ofList [(.root, ⟨"A signpost.", true, false, [⟨'z', "Go on", none⟩]⟩)], .empty, none⟩

/-- Stories without diagnostics end on a page that is no ending, where a goto leads to no page and
where none of a page's choices leads anywhere. -/
theorem falls_off_bridge :
    (ofFiles (.ofList [("1.txt", "The bridge.\x7bgoto:9\x7d"), ("2.json", (PageRecord.structured
        PageRecord.currentVersion "The far shore." false true []).toJson.pretty)]) [] =
      .ok (bridge "\x7bgoto:9\x7d") ∧
      (bridge "\x7bgoto:9\x7d").diagnostics = [] ∧ (bridge "\x7bgoto:9\x7d").FallsOff) ∧
    signpost.diagnostics = [] ∧ signpost.FallsOff := by
  have hb : (bridge "\x7bgoto:9\x7d").pages.get? .root =
      some (.ofSource "The bridge.\x7bgoto:9\x7d") := by decide +kernel
  have hs : signpost.pages.get? .root = some ⟨"A signpost.", true, false, [⟨'z', "Go on", none⟩]⟩ := by
    decide +kernel
  refine ⟨⟨ok_of_toOption (by decide +kernel), diagnostics_eq_nil_of_first hb (by decide +kernel),
    fallsOff_of_missing (t := { number := 9, path := [] }) hb rfl (by decide +kernel) ?_
      (by decide +kernel)⟩, diagnostics_eq_nil_of_first hs (by decide +kernel),
    fallsOff_of_missing (t := { number := 2, path := [] }) hs rfl (by decide +kernel) ?_
      (by decide +kernel)⟩
  · rw [Directive.gotos, Find.gather_eq]
    decide +kernel
  · rw [Directive.gotos, Find.gather_eq]
    decide +kernel

end Story
end Gamebook
