import Gamebook.Proofs.Conditional.Bracket
import Gamebook.Proofs.Directive.Around
import Gamebook.Proofs.Graph.Check
import Gamebook.Proofs.Page.Prose

/-!
# Blocks that a check finds unbalanced

A check matches the brackets of a page's text as it is written; what is shown has those of the prose
that is left without assignments. These are the same brackets where no choice has one in its line, none
holds a carriage return, and no loose braces meet. Then the author is told exactly of the pages whose
blocks are shown as plain text.
-/

namespace Gamebook

open Text Piece

/-! ## Brackets that stay -/

namespace Text

variable {t t' : Text} {limit : Option Nat}

theorem brackets_eq (t : Text) : t.brackets = (insides (ofText t)).filterMap Bracket.ofInside? := by
  rw [insides, List.filterMap_filterMap]
  rfl

/-- A text and one with the same brackets both divide, or neither. -/
theorem isOk_parse_congr (h : t.brackets = t'.brackets) :
    (∃ ss, Segment.parse limit t = .ok ss) ↔ ∃ ss, Segment.parse limit t' = .ok ss := by
  rw [Segment.isOk_parse_iff, Segment.isOk_parse_iff, nesting, nesting, h]

/-- Insides that are left when no bracket goes have the same brackets. -/
theorem filterMap_brackets {p : Text → Bool} {is : List Text}
    (h : ∀ i ∈ is, p i = false → Bracket.ofInside? i = none) :
    (is.filter p).filterMap Bracket.ofInside? = is.filterMap Bracket.ofInside? := by
  induction is with
  | nil => rfl
  | cons i is ih =>
      obtain ⟨hi, his⟩ := List.forall_mem_cons.1 h
      cases hp : p i with
      | true => rw [List.filter_cons_of_pos hp, List.filterMap_cons, List.filterMap_cons, ih his]
      | false =>
          rw [List.filter_cons_of_neg (by simp [hp]), ih his, List.filterMap_cons, hi hp]

/-- Line breaks may be written otherwise where no bracket holds one. -/
theorem brackets_unixLines
    (h : ∀ i ∈ insides (ofText t), '\r' ∈ i → Bracket.ofInside? i = none) :
    (unixLines t).brackets = t.brackets := by
  rw [brackets_eq, insides_unixLines, brackets_eq]
  exact filterMap_brackets fun i hi hw => h i hi (by simpa [isWhole] using hw)

/-- Lines that offer choices may go where they have no brackets. -/
theorem brackets_remains
    (h : ∀ l ∈ lines t, (Choice.ofLine? (dropLineFeed l)).isSome → l.brackets = []) :
    (Choice.remains t).brackets = t.brackets := by
  rw [brackets_eq, brackets_eq, Choice.insides_remains, Choice.insides_lines t,
    List.filterMap_flatMap, List.filterMap_flatMap]
  refine List.flatMap_congr fun l hl => ?_
  rw [Choice.proseInsides]
  split
  · next hc => rw [← brackets_eq, h l hl hc]; rfl
  · rfl

/-- Tokens that are no brackets may be dropped where no loose braces meet. -/
theorem brackets_dropInTurn {kinds : List (Text → Bool)} (ha : t.Apart)
    (h : ∀ i, Bracket.ofInside? i ≠ none → ∀ p ∈ kinds, p i = false) :
    (Directive.dropInTurn kinds t).brackets = t.brackets := by
  induction kinds generalizing t with
  | nil => rfl
  | cons p kinds ih =>
      have hk := ih (Directive.apart_dropTokens ha p) fun i hi q hq => h i hi q (.tail p hq)
      have hd : (dropTokens p t).brackets = t.brackets := by
        rw [brackets_eq, dropTokens_eq_filter, (apart_of_sublist ha List.filter_sublist).2,
          insides_filter_keeps, brackets_eq]
        refine filterMap_brackets fun i _ hi => ?_
        by_contra hb
        simp [h i hb p List.mem_cons_self] at hi
      exact hk.trans hd

theorem brackets_dropAssignments (ha : t.Apart) :
    (Directive.dropAssignments t).brackets = t.brackets := by
  refine brackets_dropInTurn ha fun i hi p hp => ?_
  by_cases hc : Directive.isClosing i = true
  · exact Directive.not_assignment_of_isClosing hc p hp
  · cases ho : Directive.opening? i with
    | none => exact absurd (by simp [Bracket.ofInside?, hc, ho]) hi
    | some test => exact (Directive.not_assignment_of_opening? ho).2 p hp

end Text

/-- Whether the brackets of a page's text are those of the prose that its assignments leave: no line of
a choice has one, none holds a carriage return, and no loose braces meet when assignments are dropped. -/
structure Page.KeepsBrackets (p : Page) : Prop where
  offered : ∀ l ∈ lines (unixLines p.content.toList),
    (Choice.ofLine? (dropLineFeed l)).isSome → l.brackets = []
  whole : ∀ i ∈ insides (ofText p.content.toList), '\r' ∈ i → Bracket.ofInside? i = none
  apart : p.prose.Apart

theorem Page.KeepsBrackets.brackets_eq {p : Page} (h : p.KeepsBrackets) :
    brackets p.content.toList = (Directive.dropAssignments p.prose).brackets := by
  rw [brackets_dropAssignments h.apart, Page.prose_eq_remains, brackets_remains h.offered,
    brackets_unixLines h.whole]

/-! ## Warnings -/

theorem Finding.eq_plainBlocks {f : Finding} {id : PageId} {cause : Segment.Unbalanced}
    (h : f.diagnostic id = (plainBlocks cause).diagnostic id) : ∃ c, f = plainBlocks c := by
  have hs : f.severity = .warning := congrArg Diagnostic.severity h
  have hm : f.message = (plainBlocks cause).message := congrArg Diagnostic.message h
  have hi := initial_eq hm
  cases f with
  | plainBlocks c => exact ⟨c, rfl⟩
  | missingTarget letter target => cases hs
  | _ => simp [initial] at hi

theorem Pages.plainBlocks_mem_findingsAt {pages reached : Pages} {catalog : Catalog}
    {config : RenderConfig} {id : PageId} {page : Page} {cause : Segment.Unbalanced} :
    .plainBlocks cause ∈ pages.findingsAt reached catalog config id page ↔
      unbalanced? config page = some cause := by
  unfold findingsAt
  simp

namespace Story

variable {s : Story} {id : PageId} {page : Page}

/-- Whether an author is told that a page's blocks are shown as plain text. -/
def WarnsOfBlocks (s : Story) (id : PageId) : Prop :=
  ∃ cause, (Finding.plainBlocks cause).diagnostic id ∈ s.diagnostics

/-- The author is told of a page's blocks exactly if its text, as it is written, does not divide. -/
theorem warnsOfBlocks_iff (hp : s.pages.get? id = some page) : s.WarnsOfBlocks id ↔
    ¬ ∃ ss, Segment.parse (some s.config.maxIfDepth) page.content.toList = .ok ss := by
  have hu : (∃ cause, Pages.unbalanced? s.config page = some cause) ↔
      ¬ ∃ ss, Segment.parse (some s.config.maxIfDepth) page.content.toList = .ok ss := by
    rw [Pages.unbalanced?]
    cases Segment.parse (some s.config.maxIfDepth) page.content.toList <;> simp
  rw [← hu]
  constructor
  · rintro ⟨cause, hc⟩
    obtain ⟨page', g, hp', hg, he⟩ := mem_diagnostics_iff.1 hc
    obtain ⟨c, rfl⟩ := Finding.eq_plainBlocks he
    cases hp.symm.trans hp'
    exact ⟨c, Pages.plainBlocks_mem_findingsAt.1 hg⟩
  · rintro ⟨cause, hc⟩
    exact ⟨cause, mem_diagnostics_iff.2
      ⟨page, _, hp, Pages.plainBlocks_mem_findingsAt.2 hc, rfl⟩⟩

/-- Of a page that keeps its brackets, the author is told that blocks are shown as plain text exactly if
the prose that is rendered does not divide into blocks. -/
theorem warnsOfBlocks_iff_of_keepsBrackets (hp : s.pages.get? id = some page)
    (hk : page.KeepsBrackets) : s.WarnsOfBlocks id ↔
      ¬ ∃ ss, Segment.parse (some s.config.maxIfDepth)
        (Directive.dropAssignments page.prose) = .ok ss := by
  rw [warnsOfBlocks_iff hp]
  exact not_congr (isOk_parse_congr hk.brackets_eq)

/-- A story of one page. -/
def single (content : String) : Story := ⟨.ofList [(.root, .ofSource content)], .empty, none⟩

/-- Of a block that is never closed the author is told, and what is rendered does not divide. -/
theorem warnsOfBlocks_lamp :
    let content := "\x7bset:lamp=true\x7dA hall.\x7bif:lamp\x7d It is lit\x7b/if\x7d \x7b\n" ++
      "\x7bif:key\x7dA door.\na) Go on"
    (single content).WarnsOfBlocks .root ∧
      ¬ ∃ ss, Segment.parse (some (single content).config.maxIfDepth)
        (Directive.dropAssignments (Page.ofSource content).prose) = .ok ss := by
  intro content
  have hp : (single content).pages.get? .root = some (.ofSource content) := by decide +kernel
  have hk : (Page.ofSource content).KeepsBrackets :=
    ⟨by decide +kernel, by decide +kernel, by decide +kernel⟩
  have hn : ¬ ∃ ss, Segment.parse (some (single content).config.maxIfDepth)
      (Directive.dropAssignments (Page.ofSource content).prose) = .ok ss := by
    rw [Segment.isOk_parse_some_iff]
    decide +kernel
  exact ⟨(warnsOfBlocks_iff_of_keepsBrackets hp hk).2 hn, hn⟩

/-- A block that is closed in the line of a choice is shown as plain text, and the author is not told. -/
theorem not_warnsOfBlocks_door :
    let content := "\x7bif:key\x7dThe door is open.\na) Open it\x7b/if\x7d"
    let page := Page.ofSource content
    (single content).pages.get? .root = some page ∧
    ¬ (single content).WarnsOfBlocks .root ∧
    (¬ ∃ ss, Segment.parse (some (single content).config.maxIfDepth)
      (Directive.dropAssignments page.prose) = .ok ss) ∧
    (page.render (single content).config .story .empty).html =
      "<p>\x7bif:key\x7dThe door is open.</p>".toList := by
  intro content page
  have hp : (single content).pages.get? .root = some page := by decide +kernel
  refine ⟨hp, ?_, ?_, by decide +kernel⟩
  · rw [warnsOfBlocks_iff hp, not_not, Segment.isOk_parse_some_iff]
    decide +kernel
  · rw [Segment.isOk_parse_some_iff]
    decide +kernel

end Story
end Gamebook
