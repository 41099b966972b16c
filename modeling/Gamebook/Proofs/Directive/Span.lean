import Gamebook.Proofs.Directive.Listing
import Gamebook.Proofs.Directive.Pass

/-!
# What is dropped and what is found

To drop assignments, or sounds and gotos, is to delete the spans of those that are found in the text,
where no pass drops a token that earlier ones brought about and no stop has a long s in its channel.
Otherwise more is dropped than is found. What is found never stays.
-/

namespace Gamebook

/-! ## Spans -/

namespace Text

variable {spans : List (Nat × Nat)} {start : Nat} {s t : Text}

/-- Whether a byte lies in one of some spans, each given by its first byte and the one behind it. -/
def inSpans (spans : List (Nat × Nat)) (k : Nat) : Bool := spans.any fun s => s.1 ≤ k && k < s.2

/-- A text that starts at byte `start` without the characters that start in some spans. -/
def withoutFrom (spans : List (Nat × Nat)) : Nat → Text → Text
  | _, [] => []
  | start, c :: r =>
    if inSpans spans start then withoutFrom spans (start + c.utf8Size) r
    else c :: withoutFrom spans (start + c.utf8Size) r

/-- The text without some byte spans. -/
def without (spans : List (Nat × Nat)) (t : Text) : Text := withoutFrom spans 0 t

theorem withoutFrom_append (spans : List (Nat × Nat)) (start : Nat) (s t : Text) :
    withoutFrom spans start (s ++ t) =
      withoutFrom spans start s ++ withoutFrom spans (start + s.byteLength) t := by
  induction s generalizing start with
  | nil => rfl
  | cons c s ih =>
      rw [List.cons_append, withoutFrom, withoutFrom, ih, byteLength_cons, Nat.add_assoc]
      split <;> rfl

/-- What lies in the spans as a whole, or outside them as a whole. -/
theorem withoutFrom_eq_ite {inside : Bool}
    (h : ∀ k, start ≤ k → k < start + t.byteLength → inSpans spans k = inside) :
    withoutFrom spans start t = if inside then [] else t := by
  induction t generalizing start with
  | nil => cases inside <;> rfl
  | cons c t ih =>
      have hpos := Char.utf8Size_pos c
      rw [byteLength_cons] at h
      have hrest : withoutFrom spans (start + c.utf8Size) t = if inside then [] else t :=
        ih fun k hk hlt => h k (Nat.le_trans (Nat.le_add_right _ _) hk) (by omega)
      rw [withoutFrom, h start (Nat.le_refl start) (by omega), hrest]
      cases inside <;> rfl

end Text

namespace Piece

open Text

variable {start k : Nat} {t inner : Text} {x y : Nat × Piece} {ps : List Piece}
  {spans : List (Nat × Nat)}

/-- The bytes that a piece takes. -/
def span (x : Nat × Piece) : Nat × Nat := (x.1, x.1 + x.2.source.byteLength)

theorem locate_pairwise (start : Nat) (ps : List Piece) :
    (locate start ps).Pairwise fun a b => (span a).2 ≤ b.1 := by
  induction ps generalizing start with
  | nil => exact .nil
  | cons p ps ih => exact List.pairwise_cons.2 ⟨fun b hb => le_of_mem_locate hb, ih _⟩

/-- A byte lies in one piece only. -/
theorem eq_of_mem_locate (hx : x ∈ locate start ps) (hy : y ∈ locate start ps)
    (hxk : x.1 ≤ k ∧ k < (span x).2) (hyk : y.1 ≤ k ∧ k < (span y).2) : x = y := by
  have h := locate_pairwise start ps
  generalize locate start ps = xs at hx hy h
  induction h with
  | nil => cases hx
  | cons hlt _ ih =>
      rcases List.mem_cons.1 hx with rfl | hxs
      · rcases List.mem_cons.1 hy with rfl | hys
        · rfl
        · have := hlt y hys
          omega
      · rcases List.mem_cons.1 hy with rfl | hys
        · have := hlt x hxs
          omega
        · exact ih hxs hys

theorem mem_tokens : (k, inner) ∈ tokens t ↔ (k, token inner) ∈ locate 0 (ofText t) := by
  rw [tokens, List.mem_filterMap]
  constructor
  · rintro ⟨⟨j, p⟩, hm, hp⟩
    cases p with
    | plain run => cases hp
    | token i =>
        cases hp
        exact hm
  · exact fun h => ⟨_, h, rfl⟩

/-- Spans in which some pieces lie, and the others do not, are deleted with these. -/
theorem withoutFrom_locate {f : Piece → Bool} (h : ∀ x ∈ locate start ps, ∀ k,
    x.1 ≤ k → k < (span x).2 → inSpans spans k = !f x.2) :
    withoutFrom spans start (ps.flatMap source) = (ps.filter f).flatMap source := by
  induction ps generalizing start with
  | nil => rfl
  | cons p ps ih =>
      obtain ⟨hp, hps⟩ := List.forall_mem_cons.1 h
      rw [List.flatMap_cons, withoutFrom_append, withoutFrom_eq_ite hp, ih hps, List.filter_cons]
      cases f p <;> rfl

/-- The spans of the tokens of a certain kind are deleted when these tokens are dropped. -/
theorem without_eq_dropTokens {p : Text → Bool} (h : ∀ s, s ∈ spans ↔
    ∃ x ∈ tokens t, p x.2 = true ∧ s = span (x.1, token x.2)) :
    t.without spans = dropTokens p t := by
  have hall : withoutFrom spans 0 ((ofText t).flatMap source) =
      ((ofText t).filter (keeps p)).flatMap source := by
    refine withoutFrom_locate fun ⟨j, q⟩ hq k hjk hk => ?_
    rw [keeps, Bool.not_not, Bool.eq_iff_iff, inSpans, List.any_eq_true]
    constructor
    · rintro ⟨s, hs, hsk⟩
      obtain ⟨⟨i, inner⟩, hx, hp, rfl⟩ := (h s).1 hs
      simp only [Bool.and_eq_true, decide_eq_true_eq] at hsk
      have he := eq_of_mem_locate (mem_tokens.1 hx) hq hsk ⟨hjk, hk⟩
      obtain rfl := (Prod.mk.inj he).2
      exact hp
    · intro hp
      cases q with
      | plain run => cases hp
      | token inner =>
          exact ⟨_, (h _).2 ⟨(j, inner), mem_tokens.2 hq, hp, rfl⟩, by simpa using ⟨hjk, hk⟩⟩
  rwa [source_ofText, ← dropTokens_eq_filter] at hall

end Piece

namespace Find

open Piece

variable {α : Type} {t : Text} {finds : List (Find α)} {s : Nat × Nat} {x : Nat × Text}

/-- The spans of the tokens of a text at which something was found. -/
def spans (finds : List (Find α)) (t : Text) : List (Nat × Nat) :=
  finds.filterMap fun a =>
    ((tokens t).find? fun x => x.1 == a.1).map fun x => span (x.1, token x.2)

theorem mem_spans : s ∈ spans finds t ↔
    ∃ x ∈ tokens t, (∃ a ∈ finds, a.1 = x.1) ∧ s = span (x.1, token x.2) := by
  rw [spans, List.mem_filterMap]
  constructor
  · rintro ⟨a, ha, hs⟩
    obtain ⟨x, hx, rfl⟩ := Option.map_eq_some_iff.1 hs
    have he : (x.1 == a.1) = true := List.find?_some (p := fun x : Nat × Text => x.1 == a.1) hx
    exact ⟨x, List.mem_of_find?_eq_some hx, ⟨a, ha, (beq_iff_eq.1 he).symm⟩, rfl⟩
  · rintro ⟨x, hx, ⟨a, ha, he⟩, rfl⟩
    refine ⟨a, ha, ?_⟩
    have hsome : ((tokens t).find? fun x => x.1 == a.1).isSome = true :=
      List.find?_isSome.2 ⟨x, hx, by simp [he]⟩
    obtain ⟨y, hy⟩ := Option.isSome_iff_exists.1 hsome
    have hya : (y.1 == a.1) = true := List.find?_some (p := fun x : Nat × Text => x.1 == a.1) hy
    have hyx : y = x :=
      eq_of_mem_tokens hx (List.mem_of_find?_eq_some hy) ((beq_iff_eq.1 hya).trans he)
    rw [hy, hyx]
    rfl

/-- Something is found at a token exactly if some reader accepts it. -/
theorem exists_mem_passes (readers : List (Text → Option α)) (h : x ∈ tokens t) :
    (∃ a ∈ passes readers t, a.1 = x.1) ↔
      (readers.any fun read => (read x.2).isSome) = true := by
  have hfilter := filter_passes readers h
  constructor
  · rintro ⟨a, ha, he⟩
    have hm : a ∈ (passes readers t).filter fun a => a.1 == x.1 := List.mem_filter.2 ⟨ha, by simp [he]⟩
    rw [hfilter] at hm
    obtain ⟨d, hd, -⟩ := List.mem_map.1 hm
    obtain ⟨read, hr, hd⟩ := List.mem_filterMap.1 hd
    exact List.any_eq_true.2 ⟨read, hr, hd ▸ rfl⟩
  · intro hany
    obtain ⟨read, hr, hs⟩ := List.any_eq_true.1 hany
    obtain ⟨d, hd⟩ := Option.isSome_iff_exists.1 hs
    have hm : (x.1, d) ∈ (readers.filterMap fun read => read x.2).map (x.1, ·) :=
      List.mem_map_of_mem (List.mem_filterMap.2 ⟨read, hr, hd⟩)
    rw [← hfilter] at hm
    exact ⟨_, (List.mem_filter.1 hm).1, rfl⟩

end Find

namespace Directive

open Piece Text

variable {t i word : Text}

/-! ## Assignments -/

/-- The kinds of tokens that are dropped as assignments, pass by pass. -/
def assignmentKinds : List (Text → Bool) :=
  [fun i => (set? i).isSome, fun i => (add? i).isSome, fun i => (sub? i).isSome]

theorem dropAssignments_eq (t : Text) : dropAssignments t = dropInTurn assignmentKinds t := rfl

/-- The spans of the assignments that are found in a text. -/
def assignmentSpans (t : Text) : List (Nat × Nat) :=
  Find.spans (Find.passes assignmentReaders t) t

theorem without_assignmentSpans (t : Text) :
    t.without (assignmentSpans t) = dropTokens (fun i => assignmentKinds.any (· i)) t := by
  refine without_eq_dropTokens fun s => Find.mem_spans.trans ?_
  refine exists_congr fun x => and_congr_right fun hx => and_congr_left fun _ => ?_
  exact Find.exists_mem_passes assignmentReaders hx

/-! ## Sounds and gotos -/

/-- The kinds of tokens that are dropped as sounds and gotos, pass by pass. -/
def sideEffectKinds : List (Text → Bool) :=
  [fun i => (music? i).isSome, fun i => (sfx? i).isSome, fun i => (ambient? i).isSome,
    fun i => (loop? i).isSome, fun i => (stopWord? i).isSome, fun i => (goto? i).isSome]

theorem dropSideEffects_eq (t : Text) : dropSideEffects t = dropInTurn sideEffectKinds t := rfl

/-- The spans of the sounds and gotos that are found in a text. -/
def sideEffectSpans (t : Text) : List (Nat × Nat) :=
  Find.spans (Find.passes soundReaders t) t ++ Find.spans (Find.passes [goto?] t) t

/-- Whether a token is found as a sound or a goto. -/
def isSideEffect (i : Text) : Bool :=
  (soundReaders.any fun read => (read i).isSome) || (goto? i).isSome

theorem without_sideEffectSpans (t : Text) :
    t.without (sideEffectSpans t) = dropTokens isSideEffect t := by
  refine without_eq_dropTokens fun s => ?_
  rw [sideEffectSpans, List.mem_append, Find.mem_spans, Find.mem_spans]
  have hmem (x : Nat × Text) (hx : x ∈ tokens t) : isSideEffect x.2 = true ↔
      (∃ a ∈ Find.passes soundReaders t, a.1 = x.1) ∨ ∃ a ∈ Find.passes [goto?] t, a.1 = x.1 := by
    rw [Find.exists_mem_passes _ hx, Find.exists_mem_passes _ hx]
    simp [isSideEffect]
  constructor
  · rintro (⟨x, hx, hf, rfl⟩ | ⟨x, hx, hf, rfl⟩)
    · exact ⟨x, hx, (hmem x hx).2 (.inl hf), rfl⟩
    · exact ⟨x, hx, (hmem x hx).2 (.inr hf), rfl⟩
  · rintro ⟨x, hx, hf, rfl⟩
    rcases (hmem x hx).1 hf with hf | hf
    · exact .inl ⟨x, hx, hf, rfl⟩
    · exact .inr ⟨x, hx, hf, rfl⟩

theorem isKind_of_isSideEffect (i : Text) (h : isSideEffect i = true) :
    sideEffectKinds.any (· i) = true := by
  simp only [isSideEffect, soundReaders, stop?, sideEffectKinds, List.any_cons, List.any_nil,
    Option.isSome_map, Bool.or_false, Bool.or_eq_true] at h ⊢
  rcases h with (h | h | h | h | h) | h
  · exact .inl h
  · exact .inr (.inl h)
  · exact .inr (.inr (.inl h))
  · exact .inr (.inr (.inr (.inl h)))
  · obtain ⟨word, hw, -⟩ := exists_of_isSome_bind h
    exact .inr (.inr (.inr (.inr (.inl (hw ▸ rfl)))))
  · exact .inr (.inr (.inr (.inr (.inr h))))

theorem letter_of_channel (c : Channel) : ∀ d ∈ c.word.toList, d.isLower = true ∧ d ≠ 'k' := by
  have hall : (c.word.toList.all fun d => d.isLower && d != 'k') = true := by cases c <;> decide
  intro d hd
  simpa using List.all_eq_true.1 hall d hd

/-- A stop is found exactly if its channel is written without a long s. -/
theorem stop?_iff (h : stopWord? i = some word) : (stop? i).isSome = true ↔ '\u017f' ∉ word := by
  obtain ⟨c, hc⟩ : ∃ c : Channel, isWord c.word.toList word = true := by
    obtain ⟨r, -, hr⟩ := Option.bind_eq_some_iff.1 h
    simp only at hr
    split at hr
    · next hany =>
        cases hr
        obtain ⟨c, -, hc⟩ := List.any_eq_true.1 hany
        exact ⟨c, hc⟩
    · cases hr
  have hletter := letter_of_channel c
  have hfold : fold word = c.word.toList := (isWord_iff (by cases c <;> decide)).1 hc
  rw [stop?, h, Option.isSome_map, Option.bind_some, Channel.ofText?, List.find?_isSome]
  constructor
  · rintro ⟨d, -, hd⟩ hs
    have hm := mem_lower_trim_of_fold (fun x hx => (hletter x hx).1) hfold hs
    rw [← beq_iff_eq.1 hd] at hm
    exact absurd hm (by cases d <;> decide)
  · intro hs
    refine ⟨c, by cases c <;> decide, ?_⟩
    rw [lower_trim_of_fold hletter hfold hs]
    exact beq_self_eq_true _

/-- A sound or a goto is one of the directives of a listing. -/
theorem exists_kind_of_isSideEffect (h : isSideEffect i = true) :
    ∃ x ∈ byKind, (x.2 i).isSome = true := by
  have hread : ∀ read ∈ Listing.readers, (read i).isSome = true →
      ∃ x ∈ byKind, (x.2 i).isSome = true := by
    intro read hr hs
    rw [readers_eq] at hr
    obtain ⟨x, hx, rfl⟩ := List.mem_map.1 hr
    exact ⟨x, hx, hs⟩
  rcases Bool.or_eq_true_iff.1 h with h | h
  · obtain ⟨read, hr, hs⟩ := List.any_eq_true.1 h
    refine hread (fun inner => (read inner).map .sound) ?_ (Option.isSome_map.trans hs)
    exact List.mem_append_left _ (List.mem_append_right _ (List.mem_map_of_mem hr))
  · exact hread (fun inner => (goto? inner).map .goto)
      (List.mem_append_right _ List.mem_cons_self) (Option.isSome_map.trans h)

/-- A token with a stop's keyword and channel is found only as a stop. -/
theorem stop?_of_isSideEffect (h : stopWord? i = some word) (hi : isSideEffect i = true) :
    (stop? i).isSome = true := by
  obtain ⟨x, hx, hs⟩ := exists_kind_of_isSideEffect hi
  obtain ⟨hk, ht⟩ := kindOf_of_stopWord? (h ▸ rfl : (stopWord? i).isSome = true)
  have hname := (kindOf_of_reads hx hs ht).symm.trans hk
  simp only [byKind, List.mem_cons, List.not_mem_nil, or_false] at hx
  rcases hx with rfl | rfl | rfl | rfl | rfl | rfl | rfl | rfl | rfl | rfl <;>
    first
    | exact absurd hname (by decide)
    | exact Option.isSome_map.symm.trans hs

theorem isSideEffect_iff_of_isKind :
    (sideEffectKinds.any (· i) = true → isSideEffect i = true) ↔
      ∀ word, stopWord? i = some word → '\u017f' ∉ word := by
  constructor
  · intro h word hw
    have hk : sideEffectKinds.any (· i) = true := by simp [sideEffectKinds, hw]
    exact (stop?_iff hw).1 (stop?_of_isSideEffect hw (h hk))
  · intro h hk
    simp only [sideEffectKinds, List.any_cons, List.any_nil, Bool.or_false, Bool.or_eq_true] at hk
    simp only [isSideEffect, soundReaders, List.any_cons, List.any_nil, Bool.or_false,
      Bool.or_eq_true]
    rcases hk with hk | hk | hk | hk | hk | hk
    · exact .inl (.inl hk)
    · exact .inl (.inr (.inl hk))
    · exact .inl (.inr (.inr (.inl hk)))
    · exact .inl (.inr (.inr (.inr (.inl hk))))
    · obtain ⟨word, hw⟩ := Option.isSome_iff_exists.1 hk
      exact .inl (.inr (.inr (.inr (.inr ((stop?_iff hw).2 (h word hw))))))
    · exact .inr hk

theorem dropSideEffects_sublist (t : Text) :
    (dropSideEffects t).Sublist (dropTokens isSideEffect t) := by
  rw [dropSideEffects_eq]
  exact (dropInTurn_sublist sideEffectKinds t).trans
    (dropTokens_sublist_dropTokens isKind_of_isSideEffect t)

theorem dropSideEffects_eq_iff (t : Text) : dropSideEffects t = dropTokens isSideEffect t ↔
    DropsOwn sideEffectKinds t ∧
      ∀ i ∈ insides (ofText t), ∀ word, stopWord? i = some word → '\u017f' ∉ word := by
  have hturn := dropInTurn_sublist sideEffectKinds t
  have honce := dropTokens_sublist_dropTokens isKind_of_isSideEffect t
  have hkinds := dropTokens_eq_iff (t := t) isKind_of_isSideEffect
  have hown := dropInTurn_eq_iff sideEffectKinds t
  rw [dropSideEffects_eq]
  constructor
  · intro he
    rw [he] at hturn
    have hmid := honce.eq_of_length_le hturn.length_le
    refine ⟨hown.1 (he.trans hmid.symm), fun i hi => ?_⟩
    exact isSideEffect_iff_of_isKind.1 (hkinds.1 hmid i hi)
  · rintro ⟨how, hstop⟩
    refine (hown.2 how).trans (hkinds.2 fun i hi => ?_)
    exact isSideEffect_iff_of_isKind.2 (hstop i hi)

end Directive

/-- Of what is found nothing stays when it is dropped. No more is dropped exactly if no pass drops a
token that earlier ones brought about, and among sounds no token stops a channel written with a long
s, which is no channel where ASCII letters alone are lowered. -/
theorem Text.dropped_eq_found_iff (t : Text) :
    ((Directive.dropAssignments t).Sublist (t.without (Directive.assignmentSpans t)) ∧
      (Directive.dropSideEffects t).Sublist (t.without (Directive.sideEffectSpans t))) ∧
    (Directive.dropAssignments t = t.without (Directive.assignmentSpans t) ↔
      Directive.DropsOwn Directive.assignmentKinds t) ∧
    (Directive.dropSideEffects t = t.without (Directive.sideEffectSpans t) ↔
      Directive.DropsOwn Directive.sideEffectKinds t ∧
        ∀ i ∈ Piece.insides (Piece.ofText t), ∀ word,
          Directive.stopWord? i = some word → '\u017f' ∉ word) := by
  rw [Directive.without_assignmentSpans, Directive.without_sideEffectSpans,
    Directive.dropAssignments_eq]
  exact ⟨⟨Directive.dropInTurn_sublist Directive.assignmentKinds t,
      Directive.dropSideEffects_sublist t⟩,
    Directive.dropInTurn_eq_iff Directive.assignmentKinds t, Directive.dropSideEffects_eq_iff t⟩

/-- An assignment inside a token makes that token one when it is dropped, which goes with it unapplied;
and a stop with a long s in its channel goes without having stopped anything. -/
theorem Text.dropped_not_found :
    let sum : Text := "\x7bsub:\x7bset:a=1\x7db=2\x7d".toList
    let stop : Text := "\x7bstop:\u017ffx\x7d".toList
    (Directive.assignments sum = [.set "a" (.number 1)] ∧
      sum.without (Directive.assignmentSpans sum) = "\x7bsub:b=2\x7d".toList ∧
      Directive.dropAssignments sum = []) ∧
    Directive.sounds stop = [] ∧ Directive.gotos stop = [] ∧
      stop.without (Directive.sideEffectSpans stop) = stop ∧ Directive.dropSideEffects stop = [] := by
  simp only [Directive.sounds, Directive.assignments, Directive.gotos, Find.gather_eq]
  decide +kernel

end Gamebook
