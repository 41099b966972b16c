import Gamebook.Directive.Scan
import Gamebook.Proofs.PageId.Spelling
import Gamebook.Proofs.Play.Literal
import Gamebook.Proofs.Text.TokenLine

/-!
# Patterns and passes

A pattern says of which texts it holds and what it captures in each. A pass takes a text from the left:
where no match begins it goes on by a character, and a match that it takes it goes on behind. The
patterns of the assignments hold of whole brace tokens only, so the passes find what is read off the
tokens.
-/

namespace Gamebook

open Text Piece

namespace Find

variable {α : Type} {M : Text → α → Prop} {read : Text → Option α} {k : Nat} {ps : List Piece}

/-! ## Passes -/

/-- What a pass with the pattern `M` finds in a text that starts at byte `k`. -/
inductive Pass (M : Text → α → Prop) : Nat → Text → List (Find α) → Prop
  | nil {k : Nat} : Pass M k [] []
  | skip {k : Nat} {c : Char} {t : Text} {finds : List (Find α)}
      (hno : ∀ m r a, c :: t = m ++ r → ¬ M m a) (h : Pass M (k + c.utf8Size) t finds) :
      Pass M k (c :: t) finds
  | take {k : Nat} {m r : Text} {a : α} {finds : List (Find α)} (hm : M m a)
      (h : Pass M (k + m.byteLength) r finds) : Pass M k (m ++ r) ((k, a) :: finds)

/-- Whether a pattern holds just of the tokens that `read` accepts, and captures what it reads. -/
def IsTokenwise (M : Text → α → Prop) (read : Text → Option α) : Prop :=
  ∀ m a, M m a ↔ ∃ inner, inner.filter isMark = [] ∧ m = (token inner).source ∧ read inner = some a

/-- What `read` finds in the tokens among pieces, the first of which starts at byte `k`. -/
def inPieces (read : Text → Option α) (k : Nat) (ps : List Piece) : List (Find α) :=
  ((locate k ps).filterMap tokenAt?).filterMap fun (start, inner) => (read inner).map (start, ·)

theorem inPieces_token (inner : Text) : inPieces read k (token inner :: ps) =
    ((read inner).map (k, ·)).toList ++ inPieces read (k + (token inner).source.byteLength) ps := by
  cases hr : read inner <;> simp [inPieces, locate, tokenAt?, hr]

theorem inPieces_consPlain (c : Char) :
    inPieces read k (consPlain c ps) = inPieces read (k + c.utf8Size) ps := by
  cases ps with
  | nil => rfl
  | cons p ps =>
      cases p with
      | token inner =>
          have hc : consPlain c (token inner :: ps) = plain [c] :: token inner :: ps := rfl
          have hl : (plain [c]).source.byteLength = c.utf8Size := Nat.add_zero _
          rw [hc, inPieces, locate, hl]
          rfl
      | plain run =>
          have hl : (plain (c :: run)).source.byteLength = c.utf8Size + (plain run).source.byteLength :=
            rfl
          rw [consPlain, inPieces, locate, hl, ← Nat.add_assoc]
          rfl

theorem inPieces_foldr_consPlain (run : Text) :
    inPieces read k (run.foldr consPlain ps) = inPieces read (k + run.byteLength) ps := by
  induction run generalizing k with
  | nil => rfl
  | cons c run ih => rw [List.foldr_cons, inPieces_consPlain, ih, byteLength_cons, Nat.add_assoc]

/-- The inside of a token and its closing brace are plain without the opening brace. -/
theorem ofText_behind_brace {inner : Text} (h : inner.filter isMark = []) (t : Text) :
    ofText (inner ++ '\x7d' :: t) = (inner ++ ['\x7d']).foldr consPlain (ofText t) := by
  induction inner with
  | nil => exact ofText_cons nofun
  | cons c inner ih =>
      have hc : ¬ isMark c = true := List.filter_eq_nil_iff.1 h c List.mem_cons_self
      have hi : inner.filter isMark = [] := by rwa [List.filter_cons_of_neg hc] at h
      have hb : c ≠ '\x7b' := fun he => hc (he ▸ rfl)
      rw [List.cons_append, ofText_cons fun he => absurd he hb, ih hi]
      rfl

/-- A pass finds only what is read off the tokens. -/
theorem Pass.eq_inPieces (hM : IsTokenwise M read) {t : Text} {finds : List (Find α)}
    (h : Pass M k t finds) : finds = inPieces read k (ofText t) := by
  induction h with
  | nil => rfl
  | @skip k c t finds hno _ ih =>
      by_cases hc : c = '\x7b' ∧ Closes t
      · -- a token begins here, but one that is not accepted
        obtain ⟨rfl, hcl⟩ := hc
        obtain ⟨inner, r, rfl, hi⟩ := hcl.exists_eq
        have hread : read inner = none := by
          refine Option.eq_none_iff_forall_ne_some.2 fun a ha => ?_
          refine hno (token inner).source r a ?_ ((hM _ a).2 ⟨inner, hi, rfl, ha⟩)
          rw [source_token, List.cons_append, List.append_assoc]
          rfl
        rw [ih, ofText_behind_brace hi, inPieces_foldr_consPlain, ofText_token hi, inPieces_token,
          hread, source_token, byteLength_cons, Nat.add_assoc]
        rfl
      · have hc : c = '\x7b' → ¬ Closes t := fun he hcl => hc ⟨he, hcl⟩
        rw [ofText_cons hc, inPieces_consPlain, ih]
  | @take k m r a finds hm _ ih =>
      obtain ⟨inner, hi, rfl, hread⟩ := (hM m a).1 hm
      have ht : ofText ((token inner).source ++ r) = token inner :: ofText r := by
        rw [source_token, List.cons_append, List.append_assoc]
        exact ofText_token hi
      rw [ht, inPieces_token, hread, ih]
      rfl

theorem exists_pass (hM : ∀ m a, M m a → m ≠ []) (k : Nat) (t : Text) : ∃ finds, Pass M k t finds := by
  by_cases h : ∃ m r a, t = m ++ r ∧ M m a
  · obtain ⟨m, r, a, he, hm⟩ := h
    have hlt : r.length < t.length := by
      have hpos : 0 < m.length := List.length_pos_of_ne_nil (hM m a hm)
      rw [he, List.length_append]
      omega
    obtain ⟨finds, hr⟩ := exists_pass hM (k + m.byteLength) r
    exact ⟨(k, a) :: finds, he ▸ .take hm hr⟩
  · cases t with
    | nil => exact ⟨[], .nil⟩
    | cons c t =>
        obtain ⟨finds, ht⟩ := exists_pass hM (k + c.utf8Size) t
        exact ⟨finds, .skip (fun m r a he hm => h ⟨m, r, a, he, hm⟩) ht⟩
termination_by t.length
decreasing_by
  · exact hlt
  · exact Nat.lt_succ_self _

/-- A pass finds what is read off the tokens, and nothing else. -/
theorem pass_iff (hM : IsTokenwise M read) {t : Text} {finds : List (Find α)} :
    Pass M 0 t finds ↔ finds = inText read t := by
  refine ⟨fun h => h.eq_inPieces hM, ?_⟩
  rintro rfl
  have hne : ∀ m a, M m a → m ≠ [] := by
    rintro m a hm rfl
    obtain ⟨inner, -, he, -⟩ := (hM [] a).1 hm
    cases he
  obtain ⟨finds, h⟩ := exists_pass hne 0 t
  have he := h.eq_inPieces hM
  rwa [he] at h

end Find

namespace Text

/-! ## Names and gaps -/

theorem not_isNameChar_of_isGap {c : Char} (h : isGap c = true) : isNameChar c = false := by
  simp only [isGap, Bool.or_eq_true, beq_iff_eq] at h
  rcases h with rfl | rfl <;> decide

theorem not_isMark_of_isGap {c : Char} (h : isGap c = true) : isMark c = false := by
  simp only [isGap, Bool.or_eq_true, beq_iff_eq] at h
  rcases h with rfl | rfl <;> decide

theorem skipGap_append {gap : Text} (h : ∀ c ∈ gap, isGap c = true) (t : Text) :
    skipGap (gap ++ t) = skipGap t := List.dropWhile_append_of_pos h

theorem skipGap_eq_self {t : Text} (h : ∀ c, t.head? = some c → isGap c = false) :
    skipGap t = t := by
  cases t with
  | nil => rfl
  | cons c t => exact List.dropWhile_cons_of_neg (Bool.eq_false_iff.1 (h c rfl))

/-- A name is split off as far as it goes. -/
theorem splitName?_eq_some_iff {t n r : Text} : splitName? t = some (n, r) ↔
    t = n ++ r ∧ IsVariable n ∧ ∀ c, r.head? = some c → isNameChar c = false := by
  constructor
  · intro h
    cases t with
    | nil => cases h
    | cons c s =>
        simp only [splitName?] at h
        split at h
        · next hc =>
            obtain ⟨rfl, rfl⟩ := Prod.mk.inj (Option.some.inj h)
            refine ⟨by simp, ?_, fun d hd => ?_⟩
            · have ht : ∀ d ∈ s.takeWhile isNameChar, isNameChar d = true :=
                List.all_eq_true.1 List.all_takeWhile
              simpa [IsVariable, splitName?, hc, List.takeWhile_takeWhile] using ht
            · have := List.head?_dropWhile_not isNameChar s
              rw [hd] at this
              simpa using this
        · cases h
  · rintro ⟨rfl, hn, hr⟩
    cases r with
    | nil => rwa [List.append_nil]
    | cons c r => exact hn.splitName?_append (hr c rfl) r

end Text

namespace Directive

/-! ## Amounts -/

/-- Digits, among which or before or behind which there may be a point. -/
inductive IsUnsigned : Text → Prop
  | whole {ds : Text} (hne : ds ≠ []) (hd : ∀ c ∈ ds, c.isDigit = true) : IsUnsigned ds
  | point {ds fs : Text} (hne : ds ≠ []) (hd : ∀ c ∈ ds, c.isDigit = true)
      (hf : ∀ c ∈ fs, c.isDigit = true) : IsUnsigned (ds ++ '.' :: fs)
  | fraction {fs : Text} (hne : fs ≠ []) (hf : ∀ c ∈ fs, c.isDigit = true) : IsUnsigned ('.' :: fs)

/-- Whether a text is a sign or none and digits with a point or without. -/
def IsSigned (t : Text) : Prop :=
  ∃ sign r, t = sign ++ r ∧ sign ∈ [[], ['-'], ['+']] ∧ IsUnsigned r

/-- Whether what stands behind the sign of an amount is one. -/
def isUnsigned (t : Text) : Bool :=
  let (whole, r) := Decimal.splitDigits t
  match r with
  | [] => whole ≠ []
  | '.' :: fraction => fraction.all Char.isDigit && (whole ≠ [] || fraction ≠ [])
  | _ => false

theorem isAmount_eq (t : Text) : isAmount t = isUnsigned (Decimal.splitSign t).2 := rfl

theorem isUnsigned_iff {t : Text} : isUnsigned t = true ↔ IsUnsigned t := by
  constructor
  · intro h
    rw [isUnsigned] at h
    cases hs : Decimal.splitDigits t with
    | mk whole r =>
        obtain ⟨rfl, hd⟩ := Decimal.eq_of_splitDigits hs
        simp only [hs] at h
        split at h
        · rw [List.append_nil]
          exact .whole (by simpa using h) hd
        · next fs =>
            simp only [Bool.and_eq_true, Bool.or_eq_true, decide_eq_true_eq] at h
            obtain ⟨hf, hne⟩ := h
            have hf : ∀ c ∈ fs, c.isDigit = true := List.all_eq_true.1 hf
            by_cases hw : whole = []
            · subst hw
              exact .fraction (hne.resolve_left fun hn => hn rfl) hf
            · exact .point hw hd hf
        · cases h
  · rintro (⟨hne, hd⟩ | ⟨hne, hd, hf⟩ | ⟨hne, hf⟩)
    · have hs := Decimal.splitDigits_append (r := []) hd nofun
      rw [List.append_nil] at hs
      simpa [isUnsigned, hs] using hne
    · next ds fs =>
        have hs := Decimal.splitDigits_append (r := '.' :: fs) hd fun c hc => by cases hc; decide
        simpa [isUnsigned, hs, hne] using hf
    · next fs =>
        have hs : Decimal.splitDigits ('.' :: fs) = ([], '.' :: fs) := rfl
        simpa [isUnsigned, hs, hne] using hf

theorem IsUnsigned.forall_mem {t : Text} (h : IsUnsigned t) :
    t ≠ [] ∧ ∀ c ∈ t, c.isDigit = true ∨ c = '.' := by
  rcases h with ⟨hne, hd⟩ | ⟨hne, hd, hf⟩ | ⟨hne, hf⟩
  · exact ⟨hne, fun c hc => .inl (hd c hc)⟩
  · refine ⟨by simp, fun c hc => ?_⟩
    rcases List.mem_append.1 hc with hc | hc
    · exact .inl (hd c hc)
    · exact (List.mem_cons.1 hc).symm.imp_left (hf c)
  · exact ⟨by simp, fun c hc => (List.mem_cons.1 hc).symm.imp_left (hf c)⟩

theorem isAmount_iff {t : Text} : isAmount t = true ↔ IsSigned t := by
  rw [isAmount_eq, isUnsigned_iff]
  constructor
  · intro h
    unfold Decimal.splitSign at h
    split at h
    · exact ⟨['-'], _, rfl, by simp, h⟩
    · exact ⟨['+'], _, rfl, by simp, h⟩
    · exact ⟨[], _, rfl, by simp, h⟩
  · rintro ⟨sign, r, rfl, hs, h⟩
    have hr : Decimal.splitSign r = (false, r) := by
      have hall := h.forall_mem.2
      unfold Decimal.splitSign
      split
      · exact absurd (hall '-' (by simp)) (by decide)
      · exact absurd (hall '+' (by simp)) (by decide)
      · rfl
    simp only [List.mem_cons, List.not_mem_nil, or_false] at hs
    rcases hs with rfl | rfl | rfl
    · rwa [List.nil_append, hr]
    · exact h
    · exact h

theorem IsSigned.forall_mem {t : Text} (h : IsSigned t) :
    t ≠ [] ∧ ∀ c ∈ t, isGap c = false ∧ isMark c = false := by
  obtain ⟨sign, r, rfl, hs, hr⟩ := h
  obtain ⟨hne, hr⟩ := hr.forall_mem
  have hpoint : ∀ c ∈ ['-', '+', '.'], isGap c = false ∧ isMark c = false := by simp [isGap, isMark]
  refine ⟨fun h => hne (List.append_eq_nil_iff.1 h).2, fun c hc => ?_⟩
  rcases List.mem_append.1 hc with hc | hc
  · simp only [List.mem_cons, List.not_mem_nil, or_false] at hs
    rcases hs with rfl | rfl | rfl
    · cases hc
    · exact hpoint c (by simp_all)
    · exact hpoint c (by simp_all)
  · rcases hr c hc with hd | rfl
    · have hn (d : Char) (h : d.isDigit = false) : c ≠ d := by
        rintro rfl
        cases hd.symm.trans h
      simp [isGap, isMark, hn]
    · exact hpoint '.' (by simp)

/-- What stands around an amount is dropped as far as it is gaps. -/
theorem inGaps_of_isSigned {before amount behind : Text} (hb : ∀ c ∈ before, isGap c = true)
    (ha : IsSigned amount) (hb' : ∀ c ∈ behind, isGap c = true) :
    inGaps (before ++ (amount ++ behind)) = amount := by
  obtain ⟨hne, hg⟩ := ha.forall_mem
  rw [inGaps, skipGap_append hb, skipGap_eq_self, dropGapEnd]
  · cases amount using List.reverseRecOn with
    | nil => exact absurd rfl hne
    | append_singleton amount c _ =>
        rw [List.append_assoc, List.singleton_append, dropEndWhile_append_cons (hg c (by simp)).1,
          dropEndWhile_eq_nil hb']
  · intro c hc
    cases amount with
    | nil => exact absurd rfl hne
    | cons d amount =>
        cases hc
        exact (hg _ List.mem_cons_self).1

/-! ## Patterns of assignments -/

/-- Whether a text is a word for the keyword, a name and `tail`, with spaces and tabs around the name.
-/
def Introduces (keyword : String) (t name tail : Text) : Prop :=
  ∃ word gap gap', t = word ++ (gap ++ (name ++ (gap' ++ tail))) ∧ fold word = keyword.toList ∧
    (∀ c ∈ gap, isGap c = true) ∧ IsVariable name ∧ ∀ c ∈ gap', isGap c = true

/-- What a `set` token is written as. -/
inductive SetPattern : Text → Assignment → Prop
  | intro {i name value : Text} (h : Introduces "set:" i name ('=' :: value))
      (hv : value.filter isMark = []) :
      SetPattern ('\x7b' :: (i ++ ['\x7d'])) (.set (String.ofList name) (Value.ofLiteral value))

/-- What a token is written as that changes a variable by an amount, or by one if none is written. -/
inductive ChangePattern (keyword : String) (make : String → Float → Assignment) :
    Text → Assignment → Prop
  | byOne {i name : Text} (h : Introduces keyword i name []) :
      ChangePattern keyword make ('\x7b' :: (i ++ ['\x7d'])) (make (String.ofList name) 1)
  | byAmount {i name before amount behind : Text}
      (h : Introduces keyword i name ('=' :: (before ++ (amount ++ behind))))
      (hb : ∀ c ∈ before, isGap c = true) (ha : IsSigned amount) (hb' : ∀ c ∈ behind, isGap c = true) :
      ChangePattern keyword make ('\x7b' :: (i ++ ['\x7d']))
        (make (String.ofList name) ((Decimal.finiteLiteral? amount).getD 1))

variable {k : String} {i t name tail : Text} {a : Assignment} {make : String → Float → Assignment}

theorem introduces_iff (hk : fold k.toList = k.toList)
    (ht : ∀ c, tail.head? = some c → isGap c = false ∧ isNameChar c = false) :
    Introduces k t name tail ↔ ∃ r rest, afterWord? k.toList t = some r ∧
      splitName? (skipGap r) = some (name, rest) ∧ skipGap rest = tail := by
  constructor
  · rintro ⟨word, gap, gap', rfl, hw, hg, hn, hg'⟩
    refine ⟨_, gap' ++ tail, (afterWord?_eq_some_iff hk).2 ⟨word, rfl, hw⟩, ?_, ?_⟩
    · rw [skipGap_append hg, hn.skipGap_append, splitName?_eq_some_iff]
      refine ⟨rfl, hn, fun c hc => ?_⟩
      cases gap' with
      | nil => exact (ht c hc).2
      | cons d gap' =>
          cases hc
          exact not_isNameChar_of_isGap (hg' c List.mem_cons_self)
    · rw [skipGap_append hg', skipGap_eq_self fun c hc => (ht c hc).1]
  · rintro ⟨r, rest, hw, hs, rfl⟩
    obtain ⟨word, rfl, hword⟩ := (afterWord?_eq_some_iff hk).1 hw
    obtain ⟨hr, hn, -⟩ := splitName?_eq_some_iff.1 hs
    have hgap (x : Text) : ∀ c ∈ x.takeWhile isGap, isGap c = true :=
      List.all_eq_true.1 List.all_takeWhile
    have hsplit (x : Text) : x = x.takeWhile isGap ++ skipGap x :=
      List.takeWhile_append_dropWhile.symm
    refine ⟨word, r.takeWhile isGap, rest.takeWhile isGap, ?_, hword, hgap r, hn, hgap rest⟩
    rw [← hsplit rest, ← hr, ← hsplit r]

theorem introduces_bare_iff (hk : fold k.toList = k.toList) :
    Introduces k t name [] ↔ ∃ r rest, afterWord? k.toList t = some r ∧
      splitName? (skipGap r) = some (name, rest) ∧ skipGap rest = [] :=
  introduces_iff hk nofun

theorem introduces_value_iff (hk : fold k.toList = k.toList) :
    Introduces k t name ('=' :: tail) ↔ ∃ r rest, afterWord? k.toList t = some r ∧
      splitName? (skipGap r) = some (name, rest) ∧ skipGap rest = '=' :: tail :=
  introduces_iff hk fun c hc => by cases hc; decide

theorem Introduces.filter_isMark (h : Introduces k i name tail)
    (hk : ∀ c ∈ k.toList, isMark c = false) : i.filter isMark = tail.filter isMark := by
  obtain ⟨word, gap, gap', rfl, hw, hg, hn, hg'⟩ := h
  have hnone {s : Text} (hs : ∀ c ∈ s, isMark c = false) : s.filter isMark = [] :=
    List.filter_eq_nil_iff.2 fun c hc => Bool.eq_false_iff.1 (hs c hc)
  have hword : ∀ c ∈ word, isMark c = false := by
    intro c hc
    refine Bool.eq_false_iff.2 fun hm => ?_
    have hf : foldLetter c = c := by
      rcases (by simpa [isMark, or_assoc] using hm : c = '\x7b' ∨ c = '\x7d' ∨ c = '\n')
        with rfl | rfl | rfl <;> decide
    have hc : c ∈ k.toList := hw ▸ hf ▸ foldLetter_mem_fold hc
    cases hm.symm.trans (hk c hc)
  simp only [List.filter_append, hnone hword, hnone fun c hc => not_isMark_of_isGap (hg c hc),
    hnone fun c hc => not_isMark_of_isGap (hg' c hc),
    hnone fun c hc => (not_mark_of_isPlain hn.isPlain hc).1, List.nil_append]

theorem set?_eq_some_iff : set? i = some a ↔ ∃ name value,
    Introduces "set:" i name ('=' :: value) ∧ a = .set (String.ofList name) (Value.ofLiteral value) := by
  have hk : fold "set:".toList = "set:".toList := by decide
  constructor
  · intro h
    obtain ⟨r, hr, h⟩ := Option.bind_eq_some_iff.1 h
    obtain ⟨⟨name, rest⟩, hn, h⟩ := Option.bind_eq_some_iff.1 h
    simp only at h
    split at h
    · next value ht =>
        cases h
        exact ⟨name, value, (introduces_value_iff hk).2 ⟨r, rest, hr, hn, ht⟩, rfl⟩
    · cases h
  · rintro ⟨name, value, h, rfl⟩
    obtain ⟨r, rest, hr, hn, ht⟩ := (introduces_value_iff hk).1 h
    rw [set?, hr, Option.bind_eq_bind, Option.bind_some, hn]
    simp [ht]

theorem change?_eq_some_iff {x : String × Float} (hk : fold k.toList = k.toList) :
    change? k i = some x ↔ (∃ name, Introduces k i name [] ∧ x = (String.ofList name, 1)) ∨
      ∃ name written, Introduces k i name ('=' :: written) ∧ IsSigned (inGaps written) ∧
        x = (String.ofList name, (Decimal.finiteLiteral? (inGaps written)).getD 1) := by
  constructor
  · intro h
    obtain ⟨r, hr, h⟩ := Option.bind_eq_some_iff.1 h
    obtain ⟨⟨name, rest⟩, hn, h⟩ := Option.bind_eq_some_iff.1 h
    simp only at h
    split at h
    · next ht =>
        cases h
        exact .inl ⟨name, (introduces_bare_iff hk).2 ⟨r, rest, hr, hn, ht⟩, rfl⟩
    · next written ht =>
        split at h
        · next ha =>
            cases h
            exact .inr ⟨name, written, (introduces_value_iff hk).2 ⟨r, rest, hr, hn, ht⟩,
              isAmount_iff.1 ha, rfl⟩
        · cases h
    · cases h
  · rintro (⟨name, h, rfl⟩ | ⟨name, written, h, ha, rfl⟩)
    · obtain ⟨r, rest, hr, hn, ht⟩ := (introduces_bare_iff hk).1 h
      rw [change?, hr, Option.bind_eq_bind, Option.bind_some, hn]
      simp [ht]
    · obtain ⟨r, rest, hr, hn, ht⟩ := (introduces_value_iff hk).1 h
      rw [change?, hr, Option.bind_eq_bind, Option.bind_some, hn]
      simp [ht, isAmount_iff.2 ha]

/-! ## Tokens -/

theorem isTokenwise_set : Find.IsTokenwise SetPattern set? := by
  have hk : ∀ c ∈ "set:".toList, isMark c = false := by simp [isMark]
  intro m a
  constructor
  · rintro ⟨h, hv⟩
    next i name value =>
      have hi : i.filter isMark = value.filter isMark := h.filter_isMark hk
      exact ⟨i, hi.trans hv, rfl, set?_eq_some_iff.2 ⟨name, value, h, rfl⟩⟩
  · rintro ⟨i, hi, rfl, hset⟩
    obtain ⟨name, value, h, rfl⟩ := set?_eq_some_iff.1 hset
    have hv : i.filter isMark = value.filter isMark := h.filter_isMark hk
    exact .intro h (hv.symm.trans hi)

theorem isTokenwise_change (hk : fold k.toList = k.toList) (hm : ∀ c ∈ k.toList, isMark c = false) :
    Find.IsTokenwise (ChangePattern k make) fun i => (change? k i).map fun (n, x) => make n x := by
  intro m a
  constructor
  · rintro (h | ⟨h, hb, ha, hb'⟩)
    · have hc := (change?_eq_some_iff hk).2 (.inl ⟨_, h, rfl⟩)
      exact ⟨_, h.filter_isMark hm, rfl, Option.map_eq_some_iff.2 ⟨_, hc, rfl⟩⟩
    · next i name before amount behind =>
        have hin := inGaps_of_isSigned hb ha hb'
        have hc := (change?_eq_some_iff hk).2 (.inr ⟨_, _, h, hin.symm ▸ ha, rfl⟩)
        rw [hin] at hc
        refine ⟨i, ?_, rfl, Option.map_eq_some_iff.2 ⟨_, hc, rfl⟩⟩
        rw [h.filter_isMark hm, List.filter_eq_nil_iff]
        intro c hc
        refine Bool.eq_false_iff.1 ?_
        simp only [List.mem_cons, List.mem_append] at hc
        rcases hc with rfl | hc | hc | hc
        · rfl
        · exact not_isMark_of_isGap (hb c hc)
        · exact (ha.forall_mem.2 c hc).2
        · exact not_isMark_of_isGap (hb' c hc)
  · rintro ⟨i, hi, rfl, hchange⟩
    obtain ⟨⟨n, x⟩, hc, rfl⟩ := Option.map_eq_some_iff.1 hchange
    rcases (change?_eq_some_iff hk).1 hc with ⟨name, h, he⟩ | ⟨name, written, h, ha, he⟩
    · cases he
      exact .byOne h
    · obtain ⟨behind, hd, hb⟩ := dropEndWhile_append_eq isGap (skipGap written)
      have hw : written = written.takeWhile isGap ++ (inGaps written ++ behind) :=
        List.takeWhile_append_dropWhile.symm.trans (congrArg _ hd)
      cases he
      exact .byAmount (hw ▸ h) (List.all_eq_true.1 List.all_takeWhile) ha hb

end Directive
end Gamebook
