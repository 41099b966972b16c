import Gamebook.Decimal.Literal

/-!
# Page ids

A page is addressed by the number of the step at which it is reached and the choice letters on the
way to it. Its written form is the number and the letters, and `parse` accepts exactly the written
forms, letters in either case and zeros in front allowed.
-/

namespace Gamebook

/-- A choice letter. -/
inductive Letter where
  | a | b | c | d | e
deriving DecidableEq, Repr

namespace Letter

/-- The letters in order. -/
def all : List Letter := [a, b, c, d, e]

/-- The lower-case character. -/
def toChar : Letter → Char
  | a => 'a'
  | b => 'b'
  | c => 'c'
  | d => 'd'
  | e => 'e'

/-- The letter that a lower-case character is. -/
def ofChar? (ch : Char) : Option Letter :=
  match ch with
  | 'a' => some a
  | 'b' => some b
  | 'c' => some c
  | 'd' => some d
  | 'e' => some e
  | _ => none

/-- The place in the order of letters. -/
def index : Letter → Nat
  | a => 0
  | b => 1
  | c => 2
  | d => 3
  | e => 4

instance : Ord Letter := ⟨compareOn index⟩

theorem index_injective {x y : Letter} (h : x.index = y.index) : x = y := by
  cases x <;> cases y <;> simp_all [index]

instance : Std.TransOrd Letter := inferInstanceAs (Std.TransCmp (compareOn index))

instance : Std.LawfulEqOrd Letter where
  compare_self {x} := @Std.ReflCmp.compare_self _ (compareOn index) _ x
  eq_of_compare {x y} h := index_injective
    (@Std.LawfulEqCmp.eq_of_compare _ (fun a b : Nat => compare a b) _ x.index y.index h)

@[simp] theorem ofChar?_toChar (l : Letter) : ofChar? l.toChar = some l := by cases l <;> rfl

theorem toChar_of_ofChar? {ch : Char} {l : Letter} (h : ofChar? ch = some l) : l.toChar = ch := by
  unfold ofChar? at h
  split at h <;> simp_all <;> subst h <;> rfl

end Letter

/-- The greatest page number. -/
def maxPageNumber : Nat := 18446744073709551615

/-- The address of a page. -/
structure PageId where
  number : Nat
  path : List Letter
  one_le : 1 ≤ number := by decide
  le_max : number ≤ maxPageNumber := by decide
deriving DecidableEq

namespace PageId

/-- The first page. -/
def root : PageId := { number := 1, path := [] }

instance : Inhabited PageId := ⟨root⟩

/-- Why a text or a pair of parts is no page id. -/
inductive Invalid where
  | notAnId (raw : String)
  | outOfRange (digits : String)
  | zero
  | letter (ch : Char)
deriving DecidableEq

/-- The id of a number and letters, if both are in range. -/
def ofParts (number : Nat) (path : Text) : Except Invalid PageId :=
  if h0 : number = 0 then .error .zero
  else
    match path.find? fun ch => (Letter.ofChar? ch.toLower).isNone with
    | some ch => .error (.letter ch.toLower)
    | none =>
      if h : number ≤ maxPageNumber then
        .ok ⟨number, path.filterMap fun ch => Letter.ofChar? ch.toLower, Nat.pos_of_ne_zero h0, h⟩
      else .error (.outOfRange (String.ofList (Decimal.digits number)))

/-- Reads a page id: digits, then letters a to e in either case. -/
def parse (raw : String) : Except Invalid PageId :=
  let (ds, letters) := Decimal.splitDigits raw.toList
  if ds = [] ∨ ¬letters.all fun ch => (Letter.ofChar? ch.toLower).isSome then
    .error (.notAnId raw)
  else if maxPageNumber < Decimal.ofDigits ds then .error (.outOfRange (String.ofList ds))
  else ofParts (Decimal.ofDigits ds) letters

/-- The page id that a text is, if it is one. -/
def parse? (raw : String) : Option PageId := (parse raw).toOption

/-- The letters as characters. -/
def pathText (p : PageId) : Text := p.path.map Letter.toChar

/-- The written form. -/
def toText (p : PageId) : Text := Decimal.digits p.number ++ p.pathText

instance : ToString PageId := ⟨fun p => String.ofList p.toText⟩

/-- Whether this is the first page. -/
def isRoot (p : PageId) : Bool := p.number == 1 && p.path.isEmpty

/-- Numbers come before letters in the order of ids. -/
instance : Ord PageId := ⟨compareLex (compareOn number) (compareOn path)⟩

instance : Std.TransOrd PageId :=
  inferInstanceAs (Std.TransCmp (compareLex (compareOn number) (compareOn path)))

theorem eq_of_number_path {p q : PageId} (h1 : p.number = q.number) (h2 : p.path = q.path) :
    p = q := by
  cases p; cases q; simp_all

instance : Std.LawfulEqOrd PageId where
  compare_self {p} :=
    @Std.ReflCmp.compare_self _ (compareLex (compareOn number) (compareOn path)) _ p
  eq_of_compare {p q} h := by
    have h : (compare p.number q.number).then (compare p.path q.path) = .eq := h
    rw [Ordering.then_eq_eq] at h
    exact eq_of_number_path (Std.LawfulEqCmp.eq_of_compare h.1) (Std.LawfulEqCmp.eq_of_compare h.2)

end PageId
end Gamebook
