import Gamebook.Proofs.Conditional.Partner

/-!
# Division loses nothing

The segments of a text are the text: written back they give it, each block stands where it says, between
the two tokens of a pair, and every pair has its block. Tokens without a partner stay in the runs, and
runs that meet are one.
-/

namespace Gamebook

/-- The bytes of a part that stands in the middle of a text. -/
theorem Text.byteSlice_middle (a b c : Text) :
    byteSlice (a ++ (b ++ c)) a.byteLength (a.byteLength + b.byteLength) = b := by
  induction a with
  | nil =>
      simp only [List.nil_append, byteLength_nil, Nat.zero_add]
      induction b with
      | nil => cases c <;> simp [byteSlice]
      | cons x b ih =>
          have hx : 0 < x.utf8Size := Char.utf8Size_pos x
          have hs : x.utf8Size + byteLength b - x.utf8Size = byteLength b := by omega
          rw [List.cons_append, byteSlice, byteLength_cons, if_neg (by omega), if_pos rfl, hs, ih]
  | cons x a ih =>
      have hx : 0 < x.utf8Size := Char.utf8Size_pos x
      have hs : x.utf8Size + byteLength a - x.utf8Size = byteLength a := by omega
      have he : x.utf8Size + byteLength a + byteLength b - x.utf8Size =
          byteLength a + byteLength b := by omega
      rw [List.cons_append, byteSlice, byteLength_cons, if_neg (by omega), if_neg (by omega), hs, he,
        ih]

namespace Segment

/-! ## What segments say of themselves -/

mutual
/-- The pairs of tokens around a segment's blocks, outer before inner. -/
def pairs : Segment → List Bracket.Pair
  | text _ => []
  | block opener test start body raw closer => ⟨start, test, opener, raw, closer⟩ :: pairsOf body
/-- The pairs of tokens around the blocks of segments, outer before inner. -/
def pairsOf : List Segment → List Bracket.Pair
  | [] => []
  | s :: ss => pairs s ++ pairsOf ss
end

mutual
/-- Whether the blocks of a segment that is written from a byte on start where they say, and have
bodies that are written as they say. -/
def Placed : Nat → Segment → Prop
  | _, text _ => True
  | n, block opener _ start body raw _ =>
    start = n ∧ raw = sources body ∧ AllPlaced (n + opener.byteLength) body
/-- Whether the blocks of segments that are written from a byte on start where they say, and have
bodies that are written as they say. -/
def AllPlaced : Nat → List Segment → Prop
  | _, [] => True
  | n, s :: ss => Placed n s ∧ AllPlaced (n + Text.byteLength (source s)) ss
end

/-- Whether a segment is a run. -/
def isText : Segment → Bool
  | text _ => true
  | block .. => false

mutual
/-- Whether a segment is a run that is not empty, or a block in whose body no runs meet and none is
empty. -/
def Merged : Segment → Prop
  | text run => run ≠ []
  | block _ _ _ body _ _ => AllMerged body
/-- Whether no runs meet and none is empty, in segments and the bodies of their blocks. -/
def AllMerged : List Segment → Prop
  | [] => True
  | s :: ss => Merged s ∧ (isText s = true → ss.head?.any isText = false) ∧ AllMerged ss
end

/-- Whether segments are the division of a text that starts at a byte and has these pairs of tokens. -/
structure Divides (start : Nat) (written : Text) (found : List Bracket.Pair) (ss : List Segment) :
    Prop where
  sources : sources ss = written
  placed : AllPlaced start ss
  merged : AllMerged ss
  pairs : pairsOf ss = found

variable {strict : Bool} {limit : Option Nat} {whole w v run t : Text} {start n : Nat} {s : Segment}
  {ss parts : List Segment} {xs ys : List Bracket.Pair} {p : Piece} {ps qs : List Piece}
  {d d' : Division} {o : Opened} {os : List Opened}

/-! ## Segments behind one another -/

theorem sources_append (ss more : List Segment) : sources (ss ++ more) = sources ss ++ sources more := by
  induction ss with
  | nil => rfl
  | cons s ss ih => rw [List.cons_append, sources, sources, ih, List.append_assoc]

theorem pairsOf_append (ss more : List Segment) : pairsOf (ss ++ more) = pairsOf ss ++ pairsOf more := by
  induction ss with
  | nil => rfl
  | cons s ss ih => rw [List.cons_append, pairsOf, pairsOf, ih, List.append_assoc]

theorem allPlaced_append (n : Nat) (ss more : List Segment) : AllPlaced n (ss ++ more) ↔
    AllPlaced n ss ∧ AllPlaced (n + Text.byteLength (sources ss)) more := by
  induction ss generalizing n with
  | nil => simp [AllPlaced, sources]
  | cons s ss ih =>
      rw [List.cons_append, AllPlaced, AllPlaced, ih, sources, Text.byteLength_append, Nat.add_assoc,
        and_assoc]

theorem allMerged_concat (ss : List Segment) (s : Segment) : AllMerged (ss ++ [s]) ↔
    AllMerged ss ∧ Merged s ∧ (isText s = true → ss.getLast?.any isText = false) := by
  induction ss with
  | nil => simp [AllMerged]
  | cons x ss ih =>
      rw [List.cons_append, AllMerged, AllMerged, ih]
      cases ss with
      | nil => cases hx : isText x <;> cases hs : isText s <;> simp [AllMerged, hx, hs]
      | cons y ss =>
          simp only [List.cons_append, List.head?_cons, List.getLast?_cons_cons, and_assoc]

/-! ## Adding segments -/

/-- A run that is added joins the text in front of it, or it is a part of its own. -/
theorem addText_cases (hr : run ≠ []) (parts : List Segment) :
    (∃ before ps, parts = text before :: ps ∧
      Segment.addText run parts = text (before ++ run) :: ps) ∨
    (parts.head?.any isText = false ∧ Segment.addText run parts = text run :: parts) := by
  cases parts with
  | nil => exact .inr ⟨rfl, if_neg hr⟩
  | cons s ps =>
      cases s with
      | text before => exact .inl ⟨before, ps, rfl, if_neg hr⟩
      | block => exact .inr ⟨rfl, if_neg hr⟩

theorem Divides.addText (h : Divides start w xs parts.reverse) (run : Text) :
    Divides start (w ++ run) xs (Segment.addText run parts).reverse := by
  by_cases hr : run = []
  · simpa [Segment.addText, hr] using h
  obtain ⟨hs, hp, hm, hx⟩ := h
  rcases addText_cases hr parts with ⟨before, ps, rfl, he⟩ | ⟨hhead, he⟩
  · rw [List.reverse_cons] at hs hp hm hx
    rw [he, List.reverse_cons]
    refine ⟨?_, ?_, ?_, ?_⟩
    · rw [← hs, sources_append, sources_append]
      simp [Segment.sources, source]
    · exact (allPlaced_append ..).2 ⟨((allPlaced_append ..).1 hp).1, trivial, trivial⟩
    · obtain ⟨hps, hb, hl⟩ := (allMerged_concat ..).1 hm
      refine (allMerged_concat ..).2 ⟨hps, fun hn => hr (List.append_eq_nil_iff.1 hn).2, hl⟩
    · rw [← hx, pairsOf_append, pairsOf_append]
      rfl
  · rw [he, List.reverse_cons]
    refine ⟨?_, ?_, ?_, ?_⟩
    · rw [sources_append, hs]
      simp [Segment.sources, source]
    · exact (allPlaced_append ..).2 ⟨hp, trivial, trivial⟩
    · exact (allMerged_concat ..).2 ⟨hm, hr, fun _ => by rwa [List.getLast?_reverse]⟩
    · rw [pairsOf_append, hx]
      exact List.append_nil xs

theorem Divides.add (h : Divides start w xs parts.reverse) (hp : Placed (start + w.byteLength) s)
    (hm : Merged s) :
    Divides start (w ++ source s) (xs ++ Segment.pairs s) (Segment.add s parts).reverse := by
  cases s with
  | text run =>
      have ha := h.addText run
      rwa [← List.append_nil xs] at ha
  | block opener test at' body raw closer =>
      have he : Segment.add (block opener test at' body raw closer) parts =
          block opener test at' body raw closer :: parts := rfl
      rw [he, List.reverse_cons]
      refine ⟨?_, ?_, ?_, ?_⟩
      · simp [sources_append, h.sources, Segment.sources]
      · rw [allPlaced_append, h.sources]
        exact ⟨h.placed, hp, trivial⟩
      · exact (allMerged_concat ..).2 ⟨h.merged, hm, nofun⟩
      · simp [pairsOf_append, h.pairs, Segment.pairsOf]

theorem Divides.append (h : Divides start w xs parts.reverse)
    (hs : Divides (start + w.byteLength) v ys ss) :
    Divides start (w ++ v) (xs ++ ys) (ss.foldl (fun ps s => Segment.add s ps) parts).reverse := by
  obtain ⟨rfl, hp, hm, rfl⟩ := hs
  induction ss generalizing w xs parts with
  | nil => simpa [Segment.sources, pairsOf] using h
  | cons s ss ih =>
      have hadd := h.add hp.1 hm.1
      have hrest := ih hadd (by rw [Text.byteLength_append, ← Nat.add_assoc]; exact hp.2) hm.2.2
      simpa [Segment.sources, pairsOf] using hrest

end Segment
end Gamebook
