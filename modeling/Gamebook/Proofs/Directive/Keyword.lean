import Gamebook.Directive.Listing
import Gamebook.Proofs.Text.Caseless
import Gamebook.Proofs.Text.Trim

/-!
# What kind of directive a token is

A token that a reader accepts says by its keyword, or by the lack of one, which reader that is, so no
other reader accepts it. The exception are twofold tokens: a keyword with a long s is a keyword where
case does not count, and none where ASCII letters alone are lowered, so that a token such as
`sfx:loop` can be read as a sound and as a file that is to loop.
-/

namespace Gamebook.Directive

open Text

variable {i word r : Text} {k : String}

/-! ## Words in front of a colon -/

theorem ne_colon (h : ':' ∉ word) : ∀ c ∈ word, decide (c ≠ ':') = true := by
  intro c hc
  simp only [ne_eq, decide_eq_true_eq]
  rintro rfl
  exact h hc

theorem splitColon_eq_self (h : ':' ∉ word) : splitColon word = (word, none) := by
  rw [splitColon, dropWhile_eq_nil (ne_colon h)]

theorem splitColon_append (h : ':' ∉ word) : splitColon (word ++ ':' :: r) = (word, some r) := by
  have hw := ne_colon h
  have hd : (word ++ ':' :: r).dropWhile (· ≠ ':') = ':' :: r := by
    rw [List.dropWhile_append_of_pos hw]
    rfl
  have ht : (word ++ ':' :: r).takeWhile (· ≠ ':') = word := by
    rw [List.takeWhile_append_of_pos hw]
    exact List.append_nil word
  rw [splitColon, hd, ht]
  rfl

theorem eq_of_splitColon (h : splitColon i = (word, some r)) : i = word ++ ':' :: r := by
  unfold splitColon at h
  split at h
  · next hd =>
      obtain ⟨rfl, h⟩ := Prod.mk.inj h
      cases h
      rw [← hd, List.takeWhile_append_dropWhile]
  · cases h

theorem fold_keyword (hk : k ∈ keywords) :
    fold k.toList = k.toList ∧ fold (k ++ ":").toList = (k ++ ":").toList ∧ ':' ∉ k.toList := by
  revert k
  decide

theorem letter_of_keyword (hk : k ∈ keywords) : ∀ c ∈ k.toList, c.isLower = true ∧ c ≠ 'k' := by
  have hall : (keywords.all fun k => k.toList.all fun c => c.isLower && c != 'k') = true := by decide
  intro c hc
  simpa using List.all_eq_true.1 (List.all_eq_true.1 hall k hk) c hc

theorem eq_of_isWord {k' : String} (hk : k ∈ keywords) (hk' : k' ∈ keywords)
    (h : isWord k.toList word = true) (h' : isWord k'.toList word = true) : k = k' := by
  rw [isWord_iff (fold_keyword hk).1] at h
  rw [isWord_iff (fold_keyword hk').1] at h'
  exact String.toList_inj.1 (h.symm.trans h')

/-- What a keyword with its colon is read off of. -/
theorem splitColon_of_afterWord? (hk : k ∈ keywords) (h : afterWord? (k ++ ":").toList i = some r) :
    ∃ word, splitColon i = (word, some r) ∧ isWord k.toList word = true := by
  obtain ⟨hf, hfc, hc⟩ := fold_keyword hk
  obtain ⟨x, rfl, hx⟩ := (afterWord?_eq_some_iff hfc).1 h
  rw [String.toList_append] at hx
  obtain ⟨word, colon, rfl, hw, hcolon⟩ := List.map_eq_append_iff.1 hx
  obtain ⟨c, rfl, hcc⟩ := List.map_eq_singleton_iff.1 hcolon
  have hcc : c = ':' := eq_of_foldLetter hcc (by decide)
  subst hcc
  have hword : ':' ∉ word := fun hm => hc (hw ▸ foldLetter_mem_fold hm)
  refine ⟨word, ?_, (isWord_iff hf).2 hw⟩
  rw [List.append_assoc]
  exact splitColon_append hword

theorem afterWord?_of_splitColon (hk : k ∈ keywords) (hs : splitColon i = (word, some r))
    (h : isWord k.toList word = true) : afterWord? (k ++ ":").toList i = some r := by
  obtain ⟨hf, hfc, -⟩ := fold_keyword hk
  refine (afterWord?_eq_some_iff hfc).2 ⟨word ++ [':'], ?_, ?_⟩
  · rw [eq_of_splitColon hs, List.append_assoc]
    rfl
  · rw [fold, List.map_append, String.toList_append]
    exact congrArg (· ++ [':']) ((isWord_iff hf).1 h)

theorem not_isBlank_of_isWord (hk : k ∈ keywords) (h : isWord k.toList word = true) :
    ∀ c ∈ word, isBlank c = false :=
  not_isBlank_of_fold (fun c hc => (letter_of_keyword hk c hc).1) ((isWord_iff (fold_keyword hk).1).1 h)

/-- A keyword without a long s is a keyword also where ASCII letters alone are lowered. -/
theorem isKeyword_of_isWord (hk : k ∈ keywords) (h : isWord k.toList word = true)
    (hs : '\u017f' ∉ word) : isKeyword word = true := by
  rw [isWord_iff (fold_keyword hk).1] at h
  rw [isKeyword, lower_trim_of_fold (letter_of_keyword hk) h hs, String.ofList_toList,
    decide_eq_true_eq]
  exact hk

/-- Lowering ASCII letters leaves the long s alone, which no keyword has. -/
theorem not_isKeyword_of_mem (hk : k ∈ keywords) (h : isWord k.toList word = true)
    (hs : '\u017f' ∈ word) : isKeyword word = false := by
  rw [isWord_iff (fold_keyword hk).1] at h
  refine Bool.eq_false_iff.2 fun hkey => ?_
  have hm := mem_lower_trim_of_fold (fun c hc => (letter_of_keyword hk c hc).1) h hs
  rw [isKeyword, decide_eq_true_eq] at hkey
  rw [← String.toList_ofList (l := lower (trim word))] at hm
  exact absurd hm ((by decide : ∀ k ∈ keywords, '\u017f' ∉ k.toList) _ hkey)

/-! ## Gaps -/

theorem mem_inGaps {c : Char} (h : c ∈ r) : isGap c = true ∨ c ∈ inGaps r := by
  rw [← List.takeWhile_append_dropWhile (p := isGap) (l := r)] at h
  rcases List.mem_append.1 h with h | h
  · exact .inl (List.all_eq_true.1 List.all_takeWhile c h)
  · obtain ⟨dropped, hd, hg⟩ := dropEndWhile_append_eq isGap (r.dropWhile isGap)
    rw [hd] at h
    rcases List.mem_append.1 h with h | h
    · exact .inr h
    · exact .inl (hg c h)

theorem fold_inGaps_of_isLoop (h : isLoop r = true) : fold (inGaps r) = "loop".toList :=
  (isWord_iff (by decide)).1 h

theorem not_mem_of_isLoop {c : Char} (h : isLoop r = true)
    (hc : isGap c = false ∧ foldLetter c ∉ "loop".toList) : c ∉ r := by
  intro hm
  rcases mem_inGaps hm with hg | hm
  · cases hg.symm.trans hc.1
  · exact hc.2 (fold_inGaps_of_isLoop h ▸ foldLetter_mem_fold hm)

/-- What is a word of some other kind is no loop. -/
theorem not_isLoop (ws : List String) (hw : ∀ w ∈ ws, fold w.toList = w.toList ∧ w ≠ "loop")
    (h : (ws.any fun w => isWord w.toList (inGaps r)) = true) : isLoop r = false := by
  obtain ⟨w, hmem, h⟩ := List.any_eq_true.1 h
  refine Bool.eq_false_iff.2 fun hl => (hw w hmem).2 ?_
  rw [isWord_iff (hw w hmem).1, fold_inGaps_of_isLoop hl] at h
  exact String.toList_inj.1 h.symm

/-! ## Kinds -/

/-- What kind of directive a token can be: a file that is to loop, or what the keyword in front of its
colon says, or without a keyword an asset. -/
def kindOf (i : Text) : String :=
  match splitColon i with
  | (word, some r) =>
    if isLoop r && !isKeyword word then "loop"
    else (keywords.find? fun k => isWord k.toList word).getD "asset"
  | (_, none) => "asset"

/-- Whether a token is two directives: a change, music or a sound, as its keyword has a long s, of or
with the name `loop`, and a file with that name that is to loop. -/
def isTwofold (i : Text) : Bool :=
  match splitColon i with
  | (word, some r) =>
    isLoop r && word.contains '\u017f' && ["sub", "music", "sfx"].any fun k => isWord k.toList word
  | (_, none) => false

theorem find?_keyword (hk : k ∈ keywords) (h : isWord k.toList word = true) :
    (keywords.find? fun k => isWord k.toList word) = some k := by
  have hs : (keywords.find? fun k => isWord k.toList word).isSome = true :=
    List.find?_isSome.2 ⟨k, hk, h⟩
  obtain ⟨k', hf⟩ := Option.isSome_iff_exists.1 hs
  have hw := List.find?_some hf
  rw [hf, eq_of_isWord (List.mem_of_find?_eq_some hf) hk hw h]

theorem kindOf_of_afterWord? (hk : k ∈ keywords) (h : afterWord? (k ++ ":").toList i = some r)
    (hl : isLoop r = true → isTwofold i = false ∧ k ≠ "set" ∧ k ≠ "stop") : kindOf i = k := by
  obtain ⟨word, hs, hw⟩ := splitColon_of_afterWord? hk h
  rw [kindOf, hs]
  simp only
  split
  · next hc =>
      exfalso
      simp only [Bool.and_eq_true, Bool.not_eq_true'] at hc
      obtain ⟨ht, h₁, h₂⟩ := hl hc.1
      -- a keyword that is none where ASCII letters alone are lowered has a long s
      have hlong : '\u017f' ∈ word := by
        refine Decidable.byContradiction fun hn => ?_
        cases hc.2.symm.trans (isKeyword_of_isWord hk hw hn)
      have hks : 's' ∈ k.toList := by
        rw [← (isWord_iff (fold_keyword hk).1).1 hw]
        exact foldLetter_mem_fold hlong
      have hk3 : k ∈ ["sub", "music", "sfx"] :=
        (by decide : ∀ k ∈ keywords, 's' ∈ k.toList → k ≠ "set" → k ≠ "stop" →
          k ∈ ["sub", "music", "sfx"]) k hk hks h₁ h₂
      have hany : (["sub", "music", "sfx"].any fun k => isWord k.toList word) = true :=
        List.any_eq_true.2 ⟨k, hk3, hw⟩
      simp only [isTwofold, hs] at ht
      rw [hc.1, hany, List.contains_iff_mem.2 hlong] at ht
      cases ht
  · rw [find?_keyword hk hw, Option.getD_some]

/-! ## Readers -/

/-- The readers of a listing, each with the kind of token that it accepts. -/
def byKind : List (String × (Text → Option Directive)) :=
  [("set", fun inner => (set? inner).map .assign),
    ("add", fun inner => (add? inner).map .assign),
    ("sub", fun inner => (sub? inner).map .assign),
    ("music", fun inner => (music? inner).map .sound),
    ("sfx", fun inner => (sfx? inner).map .sound),
    ("ambient", fun inner => (ambient? inner).map .sound),
    ("loop", fun inner => (loop? inner).map .sound),
    ("stop", fun inner => (stop? inner).map .sound),
    ("goto", fun inner => (goto? inner).map .goto),
    ("asset", fun inner => (asset? inner).map .asset)]

theorem readers_eq : Listing.readers = byKind.map (·.2) := rfl

theorem exists_of_isSome_bind {α β : Type} {x : Option α} {f : α → Option β}
    (h : (x >>= f).isSome = true) : ∃ a, x = some a ∧ (f a).isSome = true := by
  cases x with
  | none => cases h
  | some a => exact ⟨a, rfl, h⟩

theorem mem_of_splitName? {t name rest : Text} {c : Char} (h : splitName? t = some (name, rest))
    (hc : c ∈ rest) : c ∈ t := by
  cases t with
  | nil => cases h
  | cons d t =>
      simp only [splitName?] at h
      split at h
      · cases h
        exact List.mem_cons_of_mem d ((List.dropWhile_suffix _).mem hc)
      · cases h

theorem not_isLoop_of_set? (h : (set? i).isSome = true) :
    ∃ r, afterWord? "set:".toList i = some r ∧ isLoop r = false := by
  obtain ⟨r, hr, h⟩ := exists_of_isSome_bind h
  obtain ⟨⟨name, rest⟩, hn, h⟩ := exists_of_isSome_bind h
  refine ⟨r, hr, Bool.eq_false_iff.2 fun hl => not_mem_of_isLoop hl (c := '=') (by decide) ?_⟩
  simp only at h
  split at h
  · next he =>
      have hm : '=' ∈ rest := (List.dropWhile_suffix isGap).mem (show '=' ∈ skipGap rest by simp [he])
      exact (List.dropWhile_suffix isGap).mem (mem_of_splitName? hn hm)
  · cases h

theorem not_isLoop_of_stopWord? (h : (stopWord? i).isSome = true) :
    ∃ r, afterWord? "stop:".toList i = some r ∧ isLoop r = false := by
  obtain ⟨r, hr, h⟩ := exists_of_isSome_bind h
  refine ⟨r, hr, not_isLoop (Channel.every.map Channel.word) (by decide) ?_⟩
  simp only at h
  split at h
  · next hc => simpa [List.any_map] using hc
  · cases h

theorem kindOf_of_stopWord? (h : (stopWord? i).isSome = true) :
    kindOf i = "stop" ∧ isTwofold i = false := by
  obtain ⟨r, hr, hl⟩ := not_isLoop_of_stopWord? h
  obtain ⟨word, hs, -⟩ := splitColon_of_afterWord? (k := "stop") (by decide) hr
  have hk : kindOf i = "stop" :=
    kindOf_of_afterWord? (by decide) hr fun h => by cases hl.symm.trans h
  exact ⟨hk, by simp [isTwofold, hs, hl]⟩

theorem kindOf_of_loop? (h : (loop? i).isSome = true) : kindOf i = "loop" := by
  unfold loop? at h
  unfold kindOf
  split at h
  · cases h
  · next hs =>
      split at h
      · next hc => simp [hs, hc]
      · cases h
  · cases h

theorem not_isWord_of_assetName? {name : Text} (h : (assetName? name).isSome = true)
    (hk : k ∈ keywords) : ¬ isWord k.toList name = true := by
  intro hw
  have hb := not_isBlank_of_isWord hk hw
  have hd : dropGapEnd name = name := dropEndWhile_eq_self fun c hc =>
    Bool.eq_false_iff.2 fun hg => by cases (hb c hc).symm.trans (isBlank_of_isGap hg)
  rw [assetName?, hd] at h
  cases name with
  | nil => cases h
  | cons c cs =>
      simp only at h
      split at h
      · next hc =>
          obtain ⟨hc, hcs, hn⟩ := hc
          refine hn (isKeyword_of_isWord hk hw fun hlong => ?_)
          rcases List.mem_cons.1 hlong with rfl | hlong
          · cases hc
          · cases List.all_eq_true.1 hcs _ hlong
      · cases h

theorem kindOf_of_asset? (h : (asset? i).isSome = true) :
    kindOf i = "asset" ∧ isTwofold i = false := by
  unfold asset? at h
  split at h
  · next name hs => simp [kindOf, isTwofold, hs]
  · next name r hs =>
      simp only at h
      split at h
      · next hsize =>
          have hl : isLoop r = false :=
            not_isLoop (AssetSize.every.map AssetSize.word) (by decide)
              (by simpa [List.any_map] using hsize)
          rw [Option.isSome_map] at h
          have hnone : (keywords.find? fun k => isWord k.toList name) = none :=
            List.find?_eq_none.2 fun k hk => not_isWord_of_assetName? h hk
          simp [kindOf, isTwofold, hs, hl, hnone]
      · cases h

/-- A token that is not twofold is of the kind of every reader that accepts it. -/
theorem kindOf_of_reads {x : String × (Text → Option Directive)} (hx : x ∈ byKind)
    (h : (x.2 i).isSome = true) (ht : isTwofold i = false) : kindOf i = x.1 := by
  simp only [byKind, List.mem_cons, List.not_mem_nil, or_false] at hx
  have hword {k : String} {α : Type} {f : Text → Option α} (hk : k ∈ keywords)
      (hs : k ≠ "set" ∧ k ≠ "stop") (h : (afterWord? (k ++ ":").toList i >>= f).isSome = true) :
      kindOf i = k := by
    obtain ⟨r, hr, -⟩ := exists_of_isSome_bind h
    exact kindOf_of_afterWord? hk hr fun _ => ⟨ht, hs⟩
  rcases hx with rfl | rfl | rfl | rfl | rfl | rfl | rfl | rfl | rfl | rfl <;>
    simp only [Option.isSome_map] at h
  · obtain ⟨r, hr, hl⟩ := not_isLoop_of_set? h
    exact kindOf_of_afterWord? (by decide) hr fun h => by cases hl.symm.trans h
  · exact hword (by decide) (by decide) (Option.isSome_map ▸ h)
  · exact hword (by decide) (by decide) (Option.isSome_map ▸ h)
  · exact hword (by decide) (by decide) h
  · exact hword (by decide) (by decide) (Option.isSome_map ▸ h)
  · exact hword (by decide) (by decide) (Option.isSome_map ▸ h)
  · exact kindOf_of_loop? h
  · rw [stop?, Option.isSome_map] at h
    obtain ⟨word, hw, -⟩ := exists_of_isSome_bind h
    exact (kindOf_of_stopWord? (hw ▸ rfl)).1
  · exact hword (by decide) (by decide) h
  · exact (kindOf_of_asset? h).1

theorem kindOf_of_opening? (h : (opening? i).isSome = true) :
    kindOf i = "if" ∧ isTwofold i = false := by
  obtain ⟨r, hr, -⟩ := exists_of_isSome_bind h
  obtain ⟨word, hs, hw⟩ := splitColon_of_afterWord? (k := "if") (by decide) hr
  have ht : isTwofold i = false := by
    have hany : (["sub", "music", "sfx"].any fun k => isWord k.toList word) = false := by
      refine Bool.eq_false_iff.2 fun hany => ?_
      obtain ⟨k, hk, hkw⟩ := List.any_eq_true.1 hany
      have hkey : k ∈ keywords ∧ k ≠ "if" :=
        (by decide : ∀ k ∈ ["sub", "music", "sfx"], k ∈ keywords ∧ k ≠ "if") k hk
      exact hkey.2 (eq_of_isWord hkey.1 (by decide) hkw hw)
    simp only [isTwofold, hs, hany, Bool.and_false]
  exact ⟨kindOf_of_afterWord? (by decide) hr fun _ => ⟨ht, by decide⟩, ht⟩

/-! ## How many readers accept a token -/

variable {α : Type} {l : List (String × (Text → Option α))} {n : String}

theorem reads_eq_nil (h : ∀ x ∈ l, (x.2 i).isSome = true → x.1 = n) (hn : n ∉ l.map (·.1)) :
    (l.filterMap fun x => x.2 i) = [] := by
  refine List.filterMap_eq_nil_iff.2 fun x hx => ?_
  cases hr : x.2 i with
  | none => rfl
  | some a => exact absurd (List.mem_map.2 ⟨x, hx, h x hx (by simp [hr])⟩) hn

theorem length_reads_le_one (h : ∀ x ∈ l, (x.2 i).isSome = true → x.1 = n)
    (hn : (l.map (·.1)).Nodup) : (l.filterMap fun x => x.2 i).length ≤ 1 := by
  induction l with
  | nil => exact Nat.zero_le 1
  | cons x l ih =>
      obtain ⟨hx, hl⟩ := List.forall_mem_cons.1 h
      obtain ⟨hxn, hn⟩ := List.nodup_cons.1 hn
      rw [List.filterMap_cons]
      cases hr : x.2 i with
      | none => exact ih hl hn
      | some a =>
          have he : x.1 = n := hx (by simp [hr])
          simp [reads_eq_nil hl (he ▸ hxn)]

theorem two_le_length_reads {x y : String × (Text → Option α)} (hx : x ∈ l) (hy : y ∈ l)
    (hne : x.1 ≠ y.1) (hxi : (x.2 i).isSome = true) (hyi : (y.2 i).isSome = true) :
    2 ≤ (l.filterMap fun x => x.2 i).length := by
  obtain ⟨a, ha⟩ := Option.isSome_iff_exists.1 hxi
  obtain ⟨b, hb⟩ := Option.isSome_iff_exists.1 hyi
  have hpos {l : List (String × (Text → Option α))} (hy : y ∈ l) :
      0 < (l.filterMap fun x => x.2 i).length :=
    List.length_pos_of_mem (List.mem_filterMap.2 ⟨y, hy, hb⟩)
  obtain ⟨front, behind, rfl⟩ := List.append_of_mem hx
  rw [List.filterMap_append, List.filterMap_cons, ha, List.length_append, List.length_cons]
  rcases List.mem_append.1 hy with hy | hy
  · have := hpos hy
    omega
  · rcases List.mem_cons.1 hy with rfl | hy
    · exact absurd rfl hne
    · have := hpos hy
      omega

/-! ## Twofold tokens -/

theorem isNameStart_of_foldLetter {c : Char} (h : (foldLetter c).isLower = true) :
    isNameStart c = true := by
  simp only [isNameStart, isAlpha_iff, Bool.or_eq_true, beq_iff_eq]
  unfold foldLetter at h
  split at h
  · exact .inl (.inr ‹_›)
  · split at h
    · exact .inr ‹_›
    · rcases toLower_eq_self_or c with hc | ⟨hc, -⟩
      · exact .inl (.inl (.inl (.inr (hc ▸ h))))
      · exact .inl (.inl (.inl (.inl hc)))

theorem change?_of_isLoop {keyword : String} (h : afterWord? keyword.toList i = some r)
    (hl : isLoop r = true) : (change? keyword i).isSome = true := by
  have hf := fold_inGaps_of_isLoop hl
  obtain ⟨gaps, hs, hg⟩ := dropEndWhile_append_eq isGap (skipGap r)
  have hs : skipGap r = inGaps r ++ gaps := hs
  have hname : ∀ c ∈ inGaps r, isNameStart c = true := by
    intro c hc
    have hc : foldLetter c ∈ "loop".toList := hf ▸ foldLetter_mem_fold hc
    exact isNameStart_of_foldLetter
      (List.all_eq_true.1 (by decide : "loop".toList.all Char.isLower = true) _ hc)
  have hgap : gaps.dropWhile isNameChar = gaps := by
    cases gaps with
    | nil => rfl
    | cons c cs =>
        refine List.dropWhile_cons_of_neg ?_
        have hc := hg c List.mem_cons_self
        simp only [isGap, Bool.or_eq_true, beq_iff_eq] at hc
        rcases hc with rfl | rfl <;> decide
  cases hx : inGaps r with
  | nil => rw [hx] at hf; cases hf
  | cons c x =>
      rw [hx, List.cons_append] at hs
      rw [hx] at hname
      have hn : ∀ c ∈ x, isNameChar c = true := fun c hc => by
        rw [isNameChar, hname c (List.mem_cons_of_mem _ hc), Bool.true_or]
      have hsplit : splitName? (skipGap r) = some (c :: (x ++ gaps).takeWhile isNameChar, gaps) := by
        rw [hs, splitName?, if_pos (hname c List.mem_cons_self),
          List.dropWhile_append_of_pos hn, hgap]
      have hskip : skipGap gaps = [] := dropWhile_eq_nil hg
      simp [change?, h, hsplit, hskip]

theorem file_of_isLoop (hl : isLoop r = true) : r ≠ [] ∧ ':' ∉ r := by
  refine ⟨?_, not_mem_of_isLoop hl (by decide)⟩
  rintro rfl
  cases hl

theorem music?_of_isLoop (h : afterWord? "music:".toList i = some r) (hl : isLoop r = true) :
    (music? i).isSome = true := by
  obtain ⟨hne, hcolon⟩ := file_of_isLoop hl
  rw [music?, h, Option.bind_eq_bind, Option.bind_some, splitColon_eq_self hcolon]
  cases r with
  | nil => exact absurd rfl hne
  | cons c cs => rfl

theorem sfx?_of_isLoop (h : afterWord? "sfx:".toList i = some r) (hl : isLoop r = true) :
    (sfx? i).isSome = true := by
  rw [sfx?, onlyFile?, h, Option.bind_eq_bind, Option.bind_some, if_neg (not_or.2 (file_of_isLoop hl))]
  rfl

/-- A twofold token is read as a file that is to loop, and as its keyword says. -/
theorem reads_of_isTwofold (h : isTwofold i = true) : (loop? i).isSome = true ∧
    ((sub? i).isSome = true ∨ (music? i).isSome = true ∨ (sfx? i).isSome = true) := by
  unfold isTwofold at h
  split at h
  · next word r hs =>
      simp only [Bool.and_eq_true, List.contains_iff_mem] at h
      obtain ⟨⟨hl, hlong⟩, hany⟩ := h
      obtain ⟨k, hk3, hw⟩ := List.any_eq_true.1 hany
      have hk : k ∈ keywords :=
        (by decide : ∀ k ∈ ["sub", "music", "sfx"], k ∈ keywords) k hk3
      have hafter := afterWord?_of_splitColon hk hs hw
      have hnk := not_isKeyword_of_mem hk hw hlong
      have hslash : '/' ∉ word := by
        intro hm
        have hm : '/' ∈ fold word := foldLetter_mem_fold hm
        rw [(isWord_iff (fold_keyword hk).1).1 hw] at hm
        exact absurd hm ((by decide : ∀ k ∈ keywords, '/' ∉ k.toList) k hk)
      refine ⟨?_, ?_⟩
      · cases word with
        | nil => cases hlong
        | cons c cs => simp [loop?, hs, hslash, hl, hnk]
      · simp only [List.mem_cons, List.not_mem_nil, or_false] at hk3
        rcases hk3 with rfl | rfl | rfl
        · exact .inl ((Option.isSome_map ..).trans (change?_of_isLoop hafter hl))
        · exact .inr (.inl (music?_of_isLoop hafter hl))
        · exact .inr (.inr (sfx?_of_isLoop hafter hl))
  · cases h

/-- At most one reader accepts a token that is not twofold, and more than one a token that is. -/
theorem length_readers_le_one_iff :
    (Listing.readers.filterMap fun read => read i).length ≤ 1 ↔ isTwofold i = false := by
  rw [readers_eq, List.filterMap_map]
  constructor
  · intro h
    refine Bool.eq_false_iff.2 fun ht => ?_
    obtain ⟨hloop, hother⟩ := reads_of_isTwofold ht
    have hfalse (x : String × (Text → Option Directive)) (hx : x ∈ byKind) (hn : x.1 ≠ "loop")
        (hr : (x.2 i).isSome = true) : False := by
      have htwo := two_le_length_reads hx
        (y := ("loop", fun inner => (loop? inner).map .sound)) (by simp [byKind]) hn hr
        (by simpa using hloop)
      exact absurd (Nat.le_trans htwo h) (by decide)
    rcases hother with hr | hr | hr
    · exact hfalse ("sub", fun inner => (sub? inner).map .assign) (by simp [byKind]) (by decide)
        (by simpa using hr)
    · exact hfalse ("music", fun inner => (music? inner).map .sound) (by simp [byKind]) (by decide)
        (by simpa using hr)
    · exact hfalse ("sfx", fun inner => (sfx? inner).map .sound) (by simp [byKind]) (by decide)
        (by simpa using hr)
  · intro ht
    exact length_reads_le_one (fun x hx h => (kindOf_of_reads hx h ht).symm) (by decide)

theorem reads_of_opening? (h : (opening? i).isSome = true) :
    (Listing.readers.filterMap fun read => read i) = [] := by
  obtain ⟨hk, ht⟩ := kindOf_of_opening? h
  rw [readers_eq, List.filterMap_map]
  exact reads_eq_nil (fun x hx hr => (kindOf_of_reads hx hr ht).symm.trans hk) (by decide)

end Gamebook.Directive
