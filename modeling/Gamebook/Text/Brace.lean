import Gamebook.Text.Basic

/-!
# Brace tokens

Every inline instruction of a story is a brace token: an opening brace, characters of one line with
no brace among them, and a closing brace. A text is cut into such tokens and the plain runs between
them; the pieces concatenate to the text, so an offset in it is the byte length of the pieces
before.
-/

namespace Gamebook

/-- A part of a story text: a plain run, or the inside of a brace token. -/
inductive Piece where
  | plain (run : Text)
  | token (inner : Text)
deriving DecidableEq, Repr, Inhabited

namespace Piece

/-- The characters that a piece stands for. -/
def source : Piece → Text
  | plain run => run
  | token inner => '{' :: (inner ++ ['}'])

/-- Puts a character in front of the pieces, in the plain run that they start with. -/
def consPlain (c : Char) : List Piece → List Piece
  | plain run :: ps => plain (c :: run) :: ps
  | ps => plain [c] :: ps

/-- The pieces of a text, and beside them, when the text runs to a closing brace with neither a
brace nor a line feed before it, what is before that brace and the pieces after it. -/
def scan : Text → List Piece × Option (Text × List Piece)
  | [] => ([], none)
  | c :: r =>
    let (ps, closing) := scan r
    if c = '}' then (consPlain c ps, some ([], ps))
    else if c = '{' then
      match closing with
      | some (inner, rest) => (token inner :: rest, none)
      | none => (consPlain c ps, none)
    else if c = '\n' then (consPlain c ps, none)
    else (consPlain c ps, closing.map fun (inner, rest) => (c :: inner, rest))

/-- The pieces of a text. -/
def ofText (t : Text) : List Piece := (scan t).1

/-- Each piece with the byte offset at which it starts, counted from `start`. -/
def locate (start : Nat) : List Piece → List (Nat × Piece)
  | [] => []
  | p :: ps => (start, p) :: locate (start + p.source.byteLength) ps

/-- The inside of a token that stands at an offset, with the offset. -/
def tokenAt? : Nat × Piece → Option (Nat × Text)
  | (_, plain _) => none
  | (start, token inner) => some (start, inner)

/-- The insides of the tokens of a text, each with the byte offset of its token. -/
def tokens (t : Text) : List (Nat × Text) := (locate 0 (ofText t)).filterMap tokenAt?

/-- Writes the pieces back, with each token replaced as `f` says of its inside; `none` keeps it. -/
def replaceTokens (f : Text → Option Text) (ps : List Piece) : Text :=
  ps.flatMap fun
    | plain run => run
    | token inner => (f inner).getD (token inner).source

/-- The text without the tokens whose inside satisfies `p`. -/
def dropTokens (p : Text → Bool) (t : Text) : Text :=
  replaceTokens (fun inner => if p inner then some [] else none) (ofText t)

theorem source_consPlain (c : Char) (ps : List Piece) :
    (consPlain c ps).flatMap source = c :: ps.flatMap source := by
  cases ps with
  | nil => rfl
  | cons p ps => cases p <;> simp [consPlain, source]

theorem source_scan (t : Text) :
    (scan t).1.flatMap source = t ∧
      ∀ inner rest, (scan t).2 = some (inner, rest) →
        inner ++ '}' :: rest.flatMap source = t := by
  induction t with
  | nil => simp [scan]
  | cons c r ih =>
    obtain ⟨h1, h2⟩ := ih
    unfold scan
    split
    next ps closing hs =>
    simp only [hs] at h1 h2
    split
    · next hc => simp [source_consPlain, h1, hc]
    · split
      · next hc =>
        cases closing with
        | none => simp [source_consPlain, h1, hc]
        | some p => simp [source, h2 p.1 p.2 rfl, hc]
      · split
        · simp [source_consPlain, h1]
        · refine ⟨by simp [source_consPlain, h1], ?_⟩
          intro inner rest h
          cases closing with
          | none => simp at h
          | some p =>
            simp only [Option.map_some, Option.some.injEq, Prod.mk.injEq] at h
            obtain ⟨rfl, rfl⟩ := h
            simp [h2 p.1 p.2 rfl]

/-- The pieces of a text concatenate to it. -/
@[simp] theorem source_ofText (t : Text) : (ofText t).flatMap source = t := (source_scan t).1

theorem le_of_mem_locate {start : Nat} {ps : List Piece} {x : Nat × Piece}
    (h : x ∈ locate start ps) : start ≤ x.1 := by
  induction ps generalizing start with
  | nil => simp [locate] at h
  | cons p ps ih =>
    rcases List.mem_cons.1 h with rfl | h
    · exact Nat.le_refl _
    · exact Nat.le_trans (Nat.le_add_right _ _) (ih h)

/-- Tokens do not overlap. -/
theorem tokens_pairwise (t : Text) : (tokens t).Pairwise fun a b => a.1 < b.1 := by
  unfold tokens
  generalize ofText t = ps
  generalize 0 = start
  induction ps generalizing start with
  | nil => simp [locate]
  | cons p ps ih =>
    cases p with
    | plain run => exact ih _
    | token inner =>
      refine List.pairwise_cons.2 ⟨fun x hx => ?_, ih _⟩
      obtain ⟨⟨k, q⟩, hy, hxy⟩ := List.mem_filterMap.1 hx
      have hle := le_of_mem_locate hy
      have hpos : 0 < (token inner).source.byteLength := by
        simp only [source, Text.byteLength_cons]
        exact Nat.lt_of_lt_of_le (Char.utf8Size_pos '{') (Nat.le_add_right _ _)
      cases q with
      | plain run => simp [tokenAt?] at hxy
      | token i =>
        simp only [tokenAt?, Option.some.injEq] at hxy
        subst hxy
        simp only at hle ⊢
        omega

end Piece
end Gamebook
