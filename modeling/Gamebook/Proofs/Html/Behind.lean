import Gamebook.Html.Token

/-!
# What is left behind a token

Each reader takes its token off the front, so what it leaves is a suffix of the text it was given.
-/

namespace Gamebook

open Text

theorem Text.suffix_of_after? {pre t r : Text} (h : after? pre t = some r) : r <:+ t :=
  ⟨pre, (after?_eq_some h).symm⟩

theorem Text.suffix_of_findFirst? {f : Text → Option Text}
    (hf : ∀ t r, f t = some r → r <:+ t) {t r : Text} (h : findFirst? f t = some r) : r <:+ t := by
  induction t with
  | nil => cases h
  | cons c t ih =>
      rw [findFirst?] at h
      split at h
      · next found hc =>
          cases h
          exact hf _ _ hc
      · exact (ih h).trans (List.suffix_cons ..)

namespace Html

namespace Reference

theorem suffix_dropSemicolon (t : Text) : dropSemicolon t <:+ t := by
  unfold dropSemicolon
  split
  · exact List.suffix_cons ..
  · exact List.suffix_refl _

theorem suffix_number? {t rest : Text} {n : Nat} (h : number? t = some (n, rest)) : rest <:+ t := by
  unfold number? at h
  cases t with
  | nil => simp at h
  | cons c r =>
      have hnone {base : Nat} {ds s : Text} (hs : s <:+ c :: r)
          (h : (if ds = [] then none else some (numberOf base ds, s)) = some (n, rest)) :
          rest <:+ c :: r := by
        split at h
        · cases h
        · cases h
          exact hs
      dsimp only at h
      split at h
      · exact hnone ((List.dropWhile_suffix _).trans (List.suffix_cons ..)) h
      · exact hnone (List.dropWhile_suffix _) h

theorem suffix_read? {inAttribute : Bool} {t value rest : Text}
    (h : read? inAttribute t = some (value, rest)) : rest <:+ t := by
  unfold read? at h
  split at h
  · next r =>
      obtain ⟨⟨n, behind⟩, hn, he⟩ := Option.map_eq_some_iff.1 h
      cases he
      exact ((suffix_dropSemicolon _).trans (suffix_number? hn)).trans (List.suffix_cons ..)
  · dsimp only at h
    split at h
    · next hd _ =>
        cases h
        exact (List.suffix_cons ..).trans (hd ▸ List.drop_suffix _ _)
    · split at h
      · cases h
      · split at h
        · cases h
        · obtain ⟨x, -, he⟩ := Option.map_eq_some_iff.1 h
          cases he
          exact List.drop_suffix _ _

end Reference

namespace Token

theorem suffix_afterBracket (t : Text) : afterBracket t <:+ t :=
  (List.drop_suffix _ _).trans (List.dropWhile_suffix _)

theorem suffix_attributeValue? {t rest : Text} {value : String}
    (h : attributeValue? t = some (value, rest)) : rest <:+ t := by
  have hquoted (q : Char) (r : Text) : r.dropWhile (· ≠ q) <:+ r := List.dropWhile_suffix _
  have hspace : t.dropWhile isSpace <:+ t := List.dropWhile_suffix _
  rw [attributeValue?] at h
  dsimp only at h
  split at h
  · cases h
  · next r hr =>
      split at h
      · cases h
      · next behind hd =>
          cases h
          have hb : rest <:+ r := (List.suffix_cons ..).trans (hd ▸ hquoted '"' r)
          exact (hb.trans (List.suffix_cons ..)).trans (hr ▸ hspace)
  · next r hr =>
      split at h
      · cases h
      · next behind hd =>
          cases h
          have hb : rest <:+ r := (List.suffix_cons ..).trans (hd ▸ hquoted '\'' r)
          exact (hb.trans (List.suffix_cons ..)).trans (hr ▸ hspace)
  · cases h
    exact (List.dropWhile_suffix _).trans hspace

theorem suffix_attributes? {as bs : List Attribute} {rounds : Nat} {t rest : Text} {closing : Bool}
    (h : attributes? as rounds t = some (bs, closing, rest)) : rest <:+ t := by
  induction rounds generalizing as t with
  | zero => cases h
  | succ rounds ih =>
      have hspace : t.dropWhile isSpace <:+ t := List.dropWhile_suffix _
      rw [attributes?] at h
      split at h
      · cases h
      · next hr =>
          cases h
          exact (List.suffix_cons ..).trans (hr ▸ hspace)
      · next hr =>
          cases h
          exact ((List.suffix_cons ..).trans (List.suffix_cons ..)).trans (hr ▸ hspace)
      · next r _ hr => exact ((ih h).trans (List.suffix_cons ..)).trans (hr ▸ hspace)
      · next c r _ _ _ hr =>
          have hc : r <:+ t := (List.suffix_cons ..).trans (hr ▸ hspace)
          dsimp only at h
          split at h
          · next r' he =>
              have hr' : r' <:+ r := (he ▸ List.suffix_cons '=' r' : r' <:+ _).trans
                ((List.dropWhile_suffix _).trans (List.dropWhile_suffix _))
              split at h
              · cases h
              · next hv => exact ((ih h).trans (suffix_attributeValue? hv)).trans (hr'.trans hc)
          · exact (ih h).trans
              (((List.dropWhile_suffix _).trans (List.dropWhile_suffix _)).trans hc)

theorem suffix_tag? {t rest : Text} {name : String} {as : List Attribute} {closing : Bool}
    (h : tag? t = some (name, as, closing, rest)) : rest <:+ t := by
  rw [tag?, Option.map_eq_some_iff] at h
  obtain ⟨⟨bs, c, r⟩, ha, he⟩ := h
  cases he
  exact (suffix_attributes? ha).trans (List.dropWhile_suffix _)

theorem suffix_startTagToken (t : Text) : (startTagToken t).2 <:+ t := by
  rw [startTagToken]
  split
  · next h => exact suffix_tag? h
  · exact List.nil_suffix

theorem suffix_endTagToken (t : Text) : (endTagToken t).2 <:+ t := by
  rw [endTagToken]
  split
  · next h => exact suffix_tag? h
  · exact List.nil_suffix

theorem suffix_afterComment (t : Text) : afterComment t <:+ t := by
  unfold afterComment
  split
  · exact List.suffix_cons ..
  · exact (List.suffix_cons ..).trans (List.suffix_cons ..)
  · dsimp only
    cases h : findFirst? (fun t => after? "-->".toList t <|> after? "--!>".toList t) t with
    | none => exact List.nil_suffix
    | some rest =>
        refine suffix_of_findFirst? (fun s r hs => ?_) h
        cases ha : after? "-->".toList s with
        | some r' =>
            rw [ha] at hs
            cases hs
            exact suffix_of_after? ha
        | none =>
            rw [ha] at hs
            exact suffix_of_after? hs

theorem suffix_unparsed (t : Text) : (unparsed t).2 <:+ t := by
  rw [unparsed]
  split
  · next rest h => exact suffix_of_findFirst? (fun _ _ => suffix_of_after?) h
  · exact List.nil_suffix

theorem suffix_declaration (foreign : Bool) (t : Text) : (declaration foreign t).2 <:+ t := by
  unfold declaration
  split
  · next r h => exact (suffix_afterComment r).trans (suffix_of_after? h)
  · split
    · next r _ h => exact (suffix_unparsed _).trans (suffix_of_after? h)
    · split
      · exact suffix_afterBracket t
      · exact suffix_afterBracket t

theorem suffix_markup (foreign : Bool) (t : Text) : (markup foreign t).2 <:+ t := by
  unfold markup
  split
  · exact (suffix_declaration foreign _).trans (List.suffix_cons ..)
  · exact (suffix_afterBracket _).trans (List.suffix_cons ..)
  · exact (List.suffix_cons ..).trans (List.suffix_cons ..)
  · split
    · exact (suffix_endTagToken _).trans (List.suffix_cons ..)
    · exact (suffix_afterBracket _).trans (List.suffix_cons ..)
  · exact List.nil_suffix
  · split
    · exact suffix_startTagToken _
    · exact List.suffix_refl _
  · exact List.nil_suffix

theorem suffix_nextOrdinary (foreign : Bool) (t : Text) : (nextOrdinary foreign t).2 <:+ t := by
  unfold nextOrdinary
  split
  · exact List.nil_suffix
  · exact (suffix_markup foreign _).trans (List.suffix_cons ..)
  · split
    · next h => exact (Reference.suffix_read? h).trans (List.suffix_cons ..)
    · exact List.suffix_cons ..
  · exact List.suffix_cons ..
  · exact (List.dropWhile_suffix _).trans (List.suffix_cons ..)

theorem suffix_nextInElement (reading : Reading) (content t : Text) :
    (nextInElement reading content t).2.1 <:+ t := by
  unfold nextInElement
  split
  · exact (suffix_endTagToken _).trans (List.drop_suffix _ _)
  · exact List.drop_suffix _ _

theorem suffix_next (reading : Reading) (foreign : Bool) (t : Text) :
    (next reading foreign t).2.1 <:+ t := by
  unfold next
  split
  · exact suffix_nextOrdinary foreign t
  · exact List.nil_suffix
  · exact suffix_nextInElement _ _ t
  · exact suffix_nextInElement _ _ t

end Token
end Html
end Gamebook
