import Gamebook.Json.Printer
import Gamebook.Proofs.Json.Natural
import Gamebook.Proofs.Json.Record
import Gamebook.Proofs.Story.Loading

/-!
# Stored pages are kept

A stored page is read from its data form. The page that is made of it is the one that was stored if
its choices have different letters and it is marked by them, and, should it have none, its text
offers none; so every page that comes of a text, of a record or of a story is kept.
-/

namespace Gamebook

open Text

theorem Letter.isBlank_toChar (l : Letter) : isBlank l.toChar = false := by cases l <;> rfl

theorem PageId.trim_toText (p : PageId) : trim p.toText = p.toText :=
  trim_eq_self fun _ hc => not_isBlank_of_isAlphanum (isAlphanum_of_mem_toText hc)

/-! ## Choices -/

namespace ChoiceRecord

theorem ofJson?_toJson (c : ChoiceRecord) : ofJson? c.toJson = some c := by
  obtain ⟨letter, text, goto⟩ := c
  cases goto <;> rfl

theorem readsBack_toJson (c : ChoiceRecord) : c.toJson.ReadsBack := by
  obtain ⟨letter, text, goto⟩ := c
  cases goto <;> exact ⟨trivial, trivial, by trivial⟩

theorem depth_toJson (c : ChoiceRecord) : c.toJson.depth = 1 := by
  obtain ⟨letter, text, goto⟩ := c
  cases goto <;> rfl

variable {c : Choice} {cs : List Choice}

theorem letter?_ofChoice {l : Letter} (h : c.letter = l.toChar) :
    (ofChoice c).letter? = .ok l := by
  have ht : trim (ofChoice c).letter.toList = [l.toChar] := by
    have hl : (ofChoice c).letter.toList = [l.toChar] := by simp [ofChoice, h]
    rw [hl]
    exact trim_eq_self fun ch hc => List.mem_singleton.1 hc ▸ l.isBlank_toChar
  simp only [letter?, ht, Letter.toLower_toChar, Letter.ofChar?_toChar]

theorem target?_ofChoice (c : Choice) : (ofChoice c).target? = .ok c.goto := by
  obtain ⟨letter, text, goto⟩ := c
  cases goto with
  | none => rfl
  | some p =>
      have ht : trim (toString p).toList = p.toText := by
        rw [show (toString p).toList = p.toText from String.toList_ofList]
        exact p.trim_toText
      have hn : p.toText ≠ [] := fun hn => Decimal.digits_ne_nil _ (List.append_eq_nil_iff.1 hn).1
      simp only [target?, ofChoice, Option.map_some, ht, if_neg hn, PageId.parse?_toText]

theorem addTo_ofChoice (h : Choice.Lettered (cs ++ [c])) :
    addTo cs (ofChoice c) = .ok (cs ++ [c]) := by
  obtain ⟨-, ⟨l, hl⟩, hn⟩ := Choice.lettered_concat_iff.1 h
  have ha : addTo cs (ofChoice c) = if (cs.any fun d => d.letter == l.toChar) = true then
      .error (.repeated l.toChar) else .ok (cs ++ [⟨l.toChar, c.text, c.goto⟩]) := by
    rw [addTo, letter?_ofChoice hl, target?_ofChoice]
    rfl
  rw [ha, ← hl, if_neg (Bool.eq_false_iff.1 hn)]

theorem foldlM_addTo {rest : List Choice} (h : Choice.Lettered (cs ++ rest)) :
    (rest.map ofChoice).foldlM addTo cs = .ok (cs ++ rest) := by
  induction rest generalizing cs with
  | nil => rw [List.append_nil]; rfl
  | cons c rest ih =>
      have hs : cs ++ c :: rest = (cs ++ [c]) ++ rest := by simp
      rw [hs] at h ⊢
      rw [List.map_cons, List.foldlM_cons, addTo_ofChoice h.left]
      exact ih h

end ChoiceRecord

/-! ## Pages -/

namespace PageRecord

/-- The records that a data form can hold. -/
def Storable : PageRecord → Prop
  | source _ => True
  | structured version _ _ _ _ => version < Nat.pow 2 32

variable {r : PageRecord}

theorem readsBack_toJson (h : r.Storable) : r.toJson.ReadsBack := by
  cases r with
  | source content => trivial
  | structured version content hasChoices isEnding choices =>
      have hv : version < Nat.pow 2 64 := Nat.lt_trans h (by decide)
      exact ⟨Json.readsBack_whole hv, trivial, trivial, trivial,
        Json.itemsReadBack_map fun c _ => c.readsBack_toJson, trivial⟩

theorem depth_toJson_le (r : PageRecord) : r.toJson.depth ≤ 3 := by
  cases r with
  | source content => exact Nat.zero_le 3
  | structured version content hasChoices isEnding choices =>
      have hc : Json.itemsDepth (choices.map ChoiceRecord.toJson) ≤ 1 :=
        Json.itemsDepth_map_le fun c _ => Nat.le_of_eq c.depth_toJson
      simp only [toJson, Json.depth, Json.fieldsDepth, Json.nat]
      omega

/-- A record is read field by field. Its fields are kept a variable: the kernel must not compute the
bound of the version. -/
theorem ofJson?_eq_some {v : Json} {r : Json.Record} {version : Nat} {content : String}
    {hasChoices isEnding : Bool} {choices : List ChoiceRecord} (hh : v.isHeld 0 = true)
    (hs : ∀ s, v ≠ .string s)
    (hr : v.record? ["version", "content", "hasChoices", "isEnding", "choices"] = some r)
    (hv : r.required? "version" (Json.natOfBits? 32) = some version)
    (ht : r.required? "content" Json.string? = some content)
    (hm : r.orElse? "hasChoices" Json.bool? false = some hasChoices)
    (he : r.orElse? "isEnding" Json.bool? false = some isEnding)
    (hc : r.orElse? "choices" (Json.list? ChoiceRecord.ofJson?) [] = some choices) :
    ofJson? v = some (structured version content hasChoices isEnding choices) := by
  rw [ofJson?, if_neg (not_not_intro hh)]
  · simp only [hr, Option.bind_eq_bind, Option.bind_some, hv, ht, hm, he, hc]
  · exact hs

theorem ofJson?_toJson (h : r.Storable) : ofJson? r.toJson = some r := by
  have hh : r.toJson.isHeld 0 = true :=
    Json.isHeld_of_readsBack (readsBack_toJson h) (Nat.le_trans r.depth_toJson_le (by decide))
  cases r with
  | source content => exact if_neg (not_not_intro hh)
  | structured version content hasChoices isEnding choices =>
      have hc := Json.list?_map ChoiceRecord.ofJson?_toJson choices
      exact ofJson?_eq_some hh nofun rfl
        (Json.Record.required?_of_get? rfl (Json.natOfBits?_nat h))
        (Json.Record.required?_of_get? rfl rfl) (Json.Record.orElse?_of_get? rfl rfl)
        (Json.Record.orElse?_of_get? rfl rfl) (Json.Record.orElse?_of_get? rfl hc)

theorem ofText_of_parse? {t : String} (h : r.Storable) (ht : Json.parse? t = some r.toJson) :
    ofText t = .ok r := by
  rw [ofText, ht, Option.bind_some, ofJson?_toJson h]

theorem ofText_compact (h : r.Storable) : ofText r.toJson.compact = .ok r :=
  ofText_of_parse? h (Json.parse?_compact (readsBack_toJson h))

theorem ofText_pretty (h : r.Storable) : ofText r.toJson.pretty = .ok r :=
  ofText_of_parse? h (Json.parse?_pretty (readsBack_toJson h))

theorem storable_ofPage (p : Page) : (ofPage p).Storable :=
  (by decide : currentVersion < Nat.pow 2 32)

/-- The pages that a record keeps are those that hold what every loaded page does. -/
theorem page_ofPage_iff {p : Page} : (ofPage p).page = .ok p ↔ p.Loaded := by
  refine ⟨Page.loaded_of_record, fun h => ?_⟩
  have hl : Choice.Lettered ([] ++ p.choices) := ⟨h.letters, h.distinct⟩
  -- Without choices it has those that its text offers: none.
  have hc : (if p.choices = [] then (Choice.split p.content.toList).1 else p.choices) =
      p.choices := by
    split
    · next hn => rw [h.own hn, hn]
    · rfl
  have hp : (ofPage p).page = .ok ⟨p.content, !p.choices.isEmpty, p.isEnding, p.choices⟩ := by
    rw [ofPage, page, ChoiceRecord.foldlM_addTo hl, if_neg (not_not_intro rfl)]
    simp only [List.nil_append]
    show Except.ok _ = _
    rw [hc]
  rw [hp, ← h.marked]

end PageRecord

namespace Page

/-- The pages that come of a text, of a stored record or of a story's files, endings or not. -/
inductive Produced : Page → Prop
  | source (content : String) : Produced (.ofSource content)
  | record {r : PageRecord} {p : Page} (h : r.page = .ok p) : Produced p
  | story {files : SortedMap String String} {assets : List String} {s : Story} {id : PageId}
      {p : Page} (h : Story.ofFiles files assets = .ok s) (hp : s.pages.get? id = some p) :
      Produced p
  | marked {p : Page} (h : Produced p) (isEnding : Bool) : Produced { p with isEnding }

theorem Produced.loaded {p : Page} (h : p.Produced) : p.Loaded := by
  induction h with
  | source content => exact loaded_ofSource content
  | record h => exact loaded_of_record h
  | story h hp => exact (Story.loaded_of_ofFiles h).pages _ _ hp
  | marked _ isEnding ih => exact ih.withEnding isEnding

/-- A page is kept by its record, which is what either written form of its data form holds. -/
theorem Produced.kept_by_record {p : Page} (h : p.Produced) :
    PageRecord.ofText (PageRecord.ofPage p).toJson.compact = .ok (.ofPage p) ∧
      PageRecord.ofText (PageRecord.ofPage p).toJson.pretty = .ok (.ofPage p) ∧
      (PageRecord.ofPage p).page = .ok p :=
  ⟨PageRecord.ofText_compact (PageRecord.storable_ofPage p),
    PageRecord.ofText_pretty (PageRecord.storable_ofPage p),
    PageRecord.page_ofPage_iff.2 h.loaded⟩

/-- A page of a text with quotation marks, a backslash and letters beyond the first ones, whose
choice line has capitals, made an ending. -/
theorem Produced.kept_bridge :
    let p : Page := { Page.ofSource "Die \"Brücke\"\nB) [02A] Über \\ sie " with isEnding := true }
    p.choices = [⟨'b', "Über \\ sie", some { number := 2, path := [.a] }⟩] ∧
      PageRecord.ofText (PageRecord.ofPage p).toJson.compact = .ok (.ofPage p) ∧
      PageRecord.ofText (PageRecord.ofPage p).toJson.pretty = .ok (.ofPage p) ∧
      (PageRecord.ofPage p).page = .ok p :=
  ⟨by decide +kernel, ((Produced.source _).marked true).kept_by_record⟩

end Page
end Gamebook
