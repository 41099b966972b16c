import Mathlib
import Gamebook.Proofs.Conditional.Rewriting
import Gamebook.Proofs.Page.Prose
import Gamebook.Proofs.Play.Hidden
import Gamebook.Proofs.Value.Range

/-!
# Literals that are set and asked for

A literal is written once where a variable is set to it and again where the variable is compared with it.
Both times it is all that stands behind the first sign, whatever it begins with, and no literal is a
number that differs from itself; so what was set is what is asked for.
-/

namespace Gamebook

open Text Piece

variable {n v yes no i r t : Text} {test : Test}

/-! ## Literals -/

theorem Decimal.beq_self_of_isFinite {x : Float} (h : isFinite x = true) : (x == x) = true := by
  rw [Float.beq_self_iff]
  rintro rfl
  have hn : isFinite Float.nan = false := by decide +kernel
  cases hn.symm.trans h

/-- A literal stands for a value that is the same as itself. -/
theorem Value.same_ofLiteral (raw : Text) : (ofLiteral raw).same (ofLiteral raw) = true := by
  cases h : ofLiteral raw with
  | bool b => exact beq_self_eq_true b
  | number x => exact Decimal.beq_self_of_isFinite (isFinite_ofLiteral h)
  | string s => exact beq_self_eq_true s

/-- A variable that was set to a literal is the literal. -/
theorem Test.holds_insert (vars : Variables) (name : String) (raw : Text) :
    holds ⟨name, .eq, .ofLiteral raw⟩ (vars.insert name (.ofLiteral raw)) = true ∧
      holds ⟨name, .ne, .ofLiteral raw⟩ (vars.insert name (.ofLiteral raw)) = false := by
  have hget : (vars.insert name (Value.ofLiteral raw)).get? name = some (.ofLiteral raw) := by
    rw [SortedMap.get?_insert, if_pos Std.ReflCmp.compare_self]
  simp [holds, hget, passes, Value.same_ofLiteral]

namespace Text

/-! ## Names -/

/-- Whether a text is the name of a variable. -/
def IsVariable (t : Text) : Prop := splitName? t = some (t, [])

instance : DecidablePred IsVariable := fun t =>
  inferInstanceAs (Decidable (splitName? t = some (t, [])))

theorem IsVariable.exists_eq (h : IsVariable n) :
    ∃ c r, n = c :: r ∧ isNameStart c = true ∧ ∀ d ∈ r, isNameChar d = true := by
  cases n with
  | nil => cases h
  | cons c r =>
      simp only [IsVariable, splitName?] at h
      split at h
      · next hc =>
          have hr : r.takeWhile isNameChar = r := (List.cons.inj (Prod.mk.inj (Option.some.inj h)).1).2
          exact ⟨c, r, rfl, hc, fun d hd => List.all_eq_true.1 List.all_takeWhile d (hr.symm ▸ hd)⟩
      · cases h

theorem IsVariable.forall_isNameChar (h : IsVariable n) : ∀ c ∈ n, isNameChar c = true := by
  obtain ⟨c, r, rfl, hc, hr⟩ := h.exists_eq
  have hc' : isNameChar c = true := by rw [isNameChar, hc, Bool.true_or]
  exact List.forall_mem_cons.2 ⟨hc', hr⟩

/-- A name ends where a character follows that is in no name. -/
theorem IsVariable.splitName?_append (h : IsVariable n) {c : Char} (hc : isNameChar c = false)
    (t : Text) : splitName? (n ++ c :: t) = some (n, c :: t) := by
  obtain ⟨d, r, rfl, hd, hr⟩ := h.exists_eq
  rw [List.cons_append, splitName?, if_pos hd, List.takeWhile_append_of_pos hr,
    List.dropWhile_append_of_pos hr]
  simp [hc]

theorem IsVariable.skipGap_append (h : IsVariable n) (t : Text) : skipGap (n ++ t) = n ++ t := by
  obtain ⟨c, r, rfl, hc, -⟩ := h.exists_eq
  have hg : isGap c = false := by
    refine Bool.eq_false_iff.2 fun hg => ?_
    rcases (by simpa [isGap] using hg : c = ' ' ∨ c = '\t') with rfl | rfl <;> cases hc
  simp [skipGap, hg]

/-! ## Texts without braces -/

/-- Whether a text stands on one line and has no braces. -/
def isPlain (t : Text) : Bool := t.all fun c => !isMark c && c != '\r'

theorem isPlain_append : isPlain (t ++ r) = true ↔ isPlain t = true ∧ isPlain r = true := by
  rw [isPlain, List.all_append, Bool.and_eq_true]
  rfl

theorem not_mark_of_isPlain (h : isPlain t = true) {c : Char} (hc : c ∈ t) :
    isMark c = false ∧ c ≠ '\r' := by
  simpa using List.all_eq_true.1 h c hc

theorem IsVariable.isPlain (h : IsVariable n) : isPlain n = true := by
  refine List.all_eq_true.2 fun c hc => ?_
  have hname := h.forall_isNameChar c hc
  have hm : isMark c = false := by
    refine Bool.eq_false_iff.2 fun hm => ?_
    rcases (by simpa [isMark, or_assoc] using hm : c = '\x7b' ∨ c = '\x7d' ∨ c = '\n')
      with rfl | rfl | rfl <;> cases hname
  have hr : c ≠ '\r' := by
    rintro rfl
    cases hname
  simp [hm, hr]

theorem filter_isMark_of_isPlain (h : isPlain t = true) : t.filter isMark = [] :=
  List.filter_eq_nil_iff.2 fun _ hc => Bool.eq_false_iff.1 (not_mark_of_isPlain h hc).1

/-- The pieces of a text without braces are runs without braces. -/
theorem exists_run_of_isPlain (h : isPlain t = true) {q : Piece} (hq : q ∈ ofText t) :
    ∃ run, q = .plain run ∧ '\x7b' ∉ run ∧ '\x7d' ∉ run := by
  have hs : ∀ c ∈ q.source, isMark c = false := fun c hc => by
    refine (not_mark_of_isPlain h ?_).1
    rw [← source_ofText t]
    exact List.mem_flatMap.2 ⟨q, hq, hc⟩
  cases q with
  | plain run =>
      refine ⟨run, rfl, fun hc => ?_, fun hc => ?_⟩
      · cases hs '\x7b' hc
      · cases hs '\x7d' hc
  | token i => cases hs '\x7b' List.mem_cons_self

theorem insides_of_isPlain (h : isPlain t = true) : insides (ofText t) = [] := by
  refine List.filterMap_eq_nil_iff.2 fun q hq => ?_
  obtain ⟨run, rfl, -⟩ := exists_run_of_isPlain h hq
  rfl

theorem brackets_of_isPlain (h : isPlain t = true) : t.brackets = [] := by
  refine List.filterMap_eq_nil_iff.2 fun q hq => ?_
  obtain ⟨run, rfl, -⟩ := exists_run_of_isPlain h hq
  rfl

theorem not_mem_of_isPlain (h : isPlain t = true) {c : Char} (hc : Choice.IsBreak c) : c ∉ t := by
  intro hm
  obtain ⟨hmark, hreturn⟩ := not_mark_of_isPlain h hm
  rcases hc with rfl | rfl
  · cases hmark
  · exact hreturn rfl

theorem isBody_of_isPlain (h : isPlain t = true) : t.IsBody where
  oneLine := ⟨not_mem_of_isPlain h (.inl rfl), not_mem_of_isPlain h (.inr rfl)⟩
  plain := by
    rw [Directive.assignments, Find.gather_eq_insides, insides_of_isPlain h]
    rfl
  matched := by
    rw [brackets_of_isPlain h]
    rfl

/-! ## The page's text -/

/-- What a token holds that sets a variable to a literal. -/
def setting (n v : Text) : Text := "set:".toList ++ (n ++ '=' :: v)

/-- What a token holds that compares a variable with a literal. -/
def asking (n : Text) (op : Comparison) (v : Text) : Text :=
  "if:".toList ++ (n ++ (op.sign.toList ++ v))

/-- Two blocks, of which one asks whether a variable is a literal and the other whether it is not. -/
def asked (n v yes no : Text) : Text :=
  withBlock [] (asking n .eq v) yes (withBlock [] (asking n .ne v) no [])

/-- A text that sets a variable to a literal and asks for it:
`{set:n=v}{if:n==v}yes{/if}{if:n!=v}no{/if}`. -/
def setAndAsk (n v yes no : Text) : Text := (token (setting n v)).source ++ asked n v yes no

theorem isPlain_setting (hn : IsVariable n) (hv : isPlain v = true) : isPlain (setting n v) = true := by
  have hvalue : isPlain ('=' :: v) = true := isPlain_append.2 ⟨(rfl : isPlain ['='] = true), hv⟩
  exact isPlain_append.2 ⟨rfl, isPlain_append.2 ⟨hn.isPlain, hvalue⟩⟩

theorem isPlain_asking (hn : IsVariable n) (hv : isPlain v = true) (op : Comparison) :
    isPlain (asking n op v) = true := by
  have hop : isPlain op.sign.toList = true := by cases op <;> rfl
  exact isPlain_append.2 ⟨rfl, isPlain_append.2 ⟨hn.isPlain, isPlain_append.2 ⟨hop, hv⟩⟩⟩

theorem setting_proper (hn : IsVariable n) (hv : isPlain v = true) : (setting n v).filter isMark = [] :=
  filter_isMark_of_isPlain (isPlain_setting hn hv)

theorem asking_proper (hn : IsVariable n) (hv : isPlain v = true) (op : Comparison) :
    (asking n op v).filter isMark = [] :=
  filter_isMark_of_isPlain (isPlain_asking hn hv op)

end Text

/-! ## The tokens -/

namespace Directive

theorem assignments_nil : assignments [] = [] := (isBody_of_isPlain (t := []) rfl).plain

/-- The literal is all that stands behind the first sign. -/
theorem set?_setting (hn : IsVariable n) (v : Text) :
    set? (setting n v) = some (.set (String.ofList n) (.ofLiteral v)) := by
  have hs : skipGap ('=' :: v) = '=' :: v := rfl
  rw [set?, setting, afterWord?_append (by decide)]
  simp only [Option.bind_eq_bind, Option.bind_some]
  rw [hn.skipGap_append, hn.splitName?_append (by decide), Option.bind_some, hs]
  rfl

theorem readers_setting (hn : IsVariable n) (v : Text) :
    (assignmentReaders.filterMap fun read => read (setting n v)) =
      [.set (String.ofList n) (.ofLiteral v)] := by
  have hadd : add? (setting n v) = none := rfl
  have hsub : sub? (setting n v) = none := rfl
  simp [assignmentReaders, set?_setting hn, hadd, hsub]

/-- The literal is all that stands behind a comparison whose sign does not start another. -/
theorem opening?_asking (hn : IsVariable n) {op : Comparison} (hop : op ≠ .gt ∧ op ≠ .lt) (v : Text) :
    opening? (asking n op v) = some ⟨String.ofList n, op, .ofLiteral v⟩ := by
  obtain ⟨c, w, hc, hs⟩ : ∃ c w, isNameChar c = false ∧ op.sign.toList = c :: w := by
    cases op <;> exact ⟨_, _, by decide, rfl⟩
  have hsplit : splitName? (n ++ (op.sign.toList ++ v)) = some (n, op.sign.toList ++ v) := by
    rw [hs]
    exact hn.splitName?_append hc _
  rw [opening?, asking, afterWord?_append (by decide)]
  simp only [Option.bind_eq_bind, Option.bind_some]
  rw [hn.skipGap_append, hsplit, Option.bind_some]
  -- behind `>` and `<` a literal with `=` in front would be read as another comparison
  cases op with
  | eq | ne | ge | le => rfl
  | gt => exact absurd rfl hop.1
  | lt => exact absurd rfl hop.2

end Directive

/-! ## The text -/

namespace Text

variable {s b : Text} {limit : Nat}

theorem brackets_withBlock (hi : i.filter isMark = []) (ho : Directive.opening? i = some test)
    (s b r : Text) : (withBlock s i b r).brackets =
      s.brackets ++ .opening :: (b.brackets ++ .closing :: r.brackets) := by
  have hopen : Bracket.ofPiece? (token i) = some .opening := Bracket.ofPiece?_of_testOf? ho
  have hclose : Bracket.ofPiece? (token blockEnd) = some .closing := by decide
  simp [brackets, ofText_withBlock hi, List.filterMap_append, hopen, hclose]

theorem onlyBlocks_withBlock (hi : i.filter isMark = []) (ho : Directive.opening? i = some test)
    (hs : s.OnlyBlocks) (hb : b.OnlyBlocks) (hr : r.OnlyBlocks) : (withBlock s i b r).OnlyBlocks := by
  have hopen : IsBlockPart (token i) :=
    Option.isSome_of_eq_some (Bracket.ofPiece?_of_testOf? (p := token i) ho)
  have hclose : IsBlockPart (token blockEnd) := by decide
  intro q hq
  rw [ofText_withBlock hi] at hq
  simp only [List.mem_append, List.mem_cons, List.not_mem_nil, or_false] at hq
  rcases hq with hq | ((rfl | hq) | rfl) | hq
  · exact hs q hq
  · exact hopen
  · exact hb q hq
  · exact hclose
  · exact hr q hq

theorem resolve_block (hi : i.filter isMark = []) (ho : Directive.opening? i = some test)
    (hb : b.brackets = []) (hu : Resolvable limit (withBlock s i b r)) (vars : Variables) :
    Resolvable limit (s ++ ((if test.holds vars then b else []) ++ r)) ∧
      resolve (some limit) vars (withBlock s i b r) =
        resolve (some limit) vars (s ++ ((if test.holds vars then b else []) ++ r)) := by
  have hr : Rewrites vars (withBlock s i b r) (s ++ ((if test.holds vars then b else []) ++ r)) :=
    .block s b r hi ho blockEnd_proper (by decide) hb
  obtain ⟨hv, he⟩ := hr.resolve_eq hu
  exact ⟨hv, he.symm⟩

theorem onlyBlocks_of_isPlain (h : isPlain t = true) : t.OnlyBlocks := by
  intro q hq
  obtain ⟨run, rfl, hrun⟩ := exists_run_of_isPlain h hq
  exact hrun

section

variable (hn : IsVariable n) (hv : isPlain v = true) (hy : isPlain yes = true)
  (hno : isPlain no = true)

include hn hv hy hno

theorem not_mem_setAndAsk {c : Char} (hc : Choice.IsBreak c) : c ∉ setAndAsk n v yes no := by
  have hbraces : '\x7b' ≠ c ∧ '\x7d' ≠ c := by rcases hc with rfl | rfl <;> decide
  have htoken {i : Text} (hi : isPlain i = true) : c ∉ (token i).source := by
    simp [source_token, not_mem_of_isPlain hi hc, hbraces.1.symm, hbraces.2.symm]
  have hset := htoken (isPlain_setting hn hv)
  have hask (op : Comparison) := htoken (isPlain_asking hn hv op)
  have hend := htoken (i := blockEnd) rfl
  simp [setAndAsk, asked, withBlock, hset, hask, hend, not_mem_of_isPlain hy hc, not_mem_of_isPlain hno hc]

theorem assignments_asked : Directive.assignments (asked n v yes no) = [] := by
  have hyes := isBody_of_isPlain hy
  have hnot := isBody_of_isPlain hno
  rw [asked,
    assignments_withBlock (asking_proper hn hv .eq) (Directive.opening?_asking hn (by decide) v) hyes,
    assignments_withBlock (asking_proper hn hv .ne) (Directive.opening?_asking hn (by decide) v) hnot,
    Directive.assignments_nil]
  rfl

theorem assignments_setAndAsk : Directive.assignments (setAndAsk n v yes no) =
    [.set (String.ofList n) (.ofLiteral v)] := by
  have hnil := Directive.assignments_nil
  have hasked := assignments_asked hn hv hy hno
  have h := Find.gather_append_token (setting_proper hn hv) Directive.assignmentReaders []
    (asked n v yes no)
  simp only [Directive.assignments] at hnil hasked ⊢
  rw [Directive.readers_setting hn, hnil, hasked] at h
  exact h

theorem dropAssignments_setAndAsk :
    Directive.dropAssignments (setAndAsk n v yes no) = asked n v yes no := by
  have hkind : ∃ p ∈ Directive.assignmentKinds, p (setting n v) = true :=
    ⟨_, List.mem_cons_self, by rw [Directive.set?_setting hn]; rfl⟩
  rw [Directive.dropAssignments_eq, setAndAsk, Directive.dropInTurn_token_append (setting_proper hn hv) hkind,
    ← Directive.dropAssignments_eq, Directive.dropAssignments_eq_self (assignments_asked hn hv hy hno)]

/-- Of the two blocks the one is left that asks for the literal that the variable was set to. -/
theorem resolve_asked (hl : 1 ≤ limit) (vars : Variables) :
    resolve (some limit) (vars.insert (String.ofList n) (.ofLiteral v)) (asked n v yes no) = yes := by
  have hplain := asking_proper hn hv
  have heq := Directive.opening?_asking hn (show Comparison.eq ≠ .gt ∧ Comparison.eq ≠ .lt by decide) v
  have hne := Directive.opening?_asking hn (show Comparison.ne ≠ .gt ∧ Comparison.ne ≠ .lt by decide) v
  obtain ⟨hset, hunset⟩ := Test.holds_insert vars (String.ofList n) v
  have hb : (asked n v yes no).brackets = [.opening, .closing, .opening, .closing] := by
    rw [asked, brackets_withBlock (hplain .eq) heq, brackets_withBlock (hplain .ne) hne,
      brackets_of_isPlain hy, brackets_of_isPlain hno]
    rfl
  have hnil : OnlyBlocks [] := onlyBlocks_of_isPlain rfl
  have hu : Resolvable limit (asked n v yes no) := by
    refine ⟨?_, ?_, ?_⟩
    · exact onlyBlocks_withBlock (hplain .eq) heq hnil (onlyBlocks_of_isPlain hy)
        (onlyBlocks_withBlock (hplain .ne) hne hnil (onlyBlocks_of_isPlain hno) hnil)
    · rw [hb]
      rfl
    · rw [nesting, hb]
      exact hl
  -- the first block is replaced by its body, and the one behind it by nothing
  obtain ⟨hrest, hfirst⟩ := resolve_block (hplain .eq) heq (brackets_of_isPlain hy) hu
    (vars.insert (String.ofList n) (.ofLiteral v))
  rw [hset, if_pos rfl] at hrest hfirst
  obtain ⟨-, hsecond⟩ := resolve_block (s := yes) (hplain .ne) hne (brackets_of_isPlain hno) hrest
    (vars.insert (String.ofList n) (.ofLiteral v))
  rw [hunset, if_neg (by decide), List.nil_append, List.append_nil] at hsecond
  exact hfirst.trans (hsecond.trans (resolve_of_brackets (brackets_of_isPlain hy) _))

end

end Text

namespace Page

variable {p : Page}

/-- One line that begins with a brace is prose. -/
theorem prose_of_brace {m : Text} (hp : p.content.toList = '\x7b' :: m)
    (hb : ∀ {c}, Choice.IsBreak c → c ∉ '\x7b' :: m) : p.prose = '\x7b' :: m := by
  have hn := hb (.inl rfl)
  have hnone : Choice.ofLine? ('\x7b' :: m) = none := by
    refine Option.not_isSome_iff_eq_none.1 fun h => ?_
    obtain ⟨ch, r, hs, -⟩ := (Choice.isSome_ofLine?_brace [] m hn).1 h
    cases hs
  rw [prose_eq_remains, hp, unixLines_of_not_mem (hb (.inr rfl)), Choice.remains_last hn, if_pos hnone]

/-- A page that sets a variable to a literal and asks for it stores the value of the literal, and of its two
blocks shows the one that asks whether the variable is that. -/
theorem render_setAndAsk (hp : p.content.toList = setAndAsk n v yes no) (hn : IsVariable n)
    (hv : isPlain v = true) (hy : isPlain yes = true) (hno : isPlain no = true) {config : RenderConfig}
    (hd : 1 ≤ config.maxIfDepth) (allowed : Html.AllowList) (vars : Variables) :
    (p.render config allowed vars).vars = vars.insert (String.ofList n) (Value.ofLiteral v) ∧
      p.resolvedProse config vars = yes := by
  have hprose : p.prose = setAndAsk n v yes no := prose_of_brace hp (not_mem_setAndAsk hn hv hy hno)
  have hvars : p.variablesAfter vars = vars.insert (String.ofList n) (.ofLiteral v) := by
    rw [variablesAfter, hprose, assignments_setAndAsk hn hv hy hno]
    rfl
  refine ⟨hvars, ?_⟩
  rw [resolvedProse, hvars, hprose, dropAssignments_setAndAsk hn hv hy hno]
  exact resolve_asked hn hv hy hno hd vars

/-- The literal may begin with the sign of a comparison and end in a blank that is no space. -/
theorem render_setAndAsk_signs :
    let p : Page := .ofSource ("\x7bset:sign== == 1\u3000\x7d" ++
      "\x7bif:sign=== == 1\u3000\x7dIt is.\x7b/if\x7d\x7bif:sign!== == 1\u3000\x7dIt is not.\x7b/if\x7d")
    let vars : Variables := SortedMap.empty.insert "sign" (.number 2)
    (p.render { maxIfDepth := 1 } .story vars).vars = vars.insert "sign" (.string "= == 1") ∧
      p.resolvedProse { maxIfDepth := 1 } vars = "It is.".toList := by
  intro p vars
  have hp : p.content.toList =
      setAndAsk "sign".toList "= == 1\u3000".toList "It is.".toList "It is not.".toList := by decide +kernel
  have hv : Value.ofLiteral "= == 1\u3000".toList = .string "= == 1" := by decide +kernel
  have h := render_setAndAsk hp (by decide) (by decide) (by decide) (by decide)
    (show 1 ≤ ({ maxIfDepth := 1 } : RenderConfig).maxIfDepth by decide) .story vars
  rwa [hv, String.ofList_toList] at h

end Page
end Gamebook
