import Mathlib.Data.List.Forall2
import Gamebook.Proofs.Html.Layout

/-!
# Spelled tags

A start tag spells its attributes one after the other, each by its name and a written form of its
value.
-/

namespace Gamebook.Html

open Text

/-! ## Attributes -/

/-- The attributes that some element for stories may have. -/
def storyNames : List String :=
  AllowList.story.attributes ++ AllowList.story.tags.flatMap AllowList.ownAttributes

/-- An attribute in the text of a tag. -/
def spell (name : String) (w : Text) : Text := ' ' :: name.toList ++ '=' :: '"' :: w ++ ['"']

/-- The attributes of a tag and its end. -/
def spellRest : List (String × Text) → Text
  | [] => ['>']
  | (name, w) :: as => spell name w ++ spellRest as

theorem head_spellRest (as : List (String × Text)) :
    ∃ c r, spellRest as = c :: r ∧ (c = ' ' ∨ c = '>') := by
  cases as with
  | nil => exact ⟨'>', [], rfl, .inr rfl⟩
  | cons a as => exact ⟨' ', _, rfl, .inl rfl⟩

/-- The attributes of an element as its tag spells them. -/
def spellings (as : List Attribute) : List (String × Text) :=
  as.map fun a => (a.name, escape true a.value.toList)

theorem spellings_cons (a : Attribute) (as : List Attribute) :
    spellings (a :: as) = (a.name, escape true a.value.toList) :: spellings as := rfl

theorem names_spellings (as : List Attribute) : (spellings as).map (·.1) = as.map (·.name) := by
  rw [spellings, List.map_map]
  rfl

/-- What is required of the attributes of a tag: their names are those of stories, each at most once. -/
structure Spelled (as : List Attribute) : Prop where
  names : ∀ a ∈ as, a.name ∈ storyNames
  distinct : (as.map (·.name)).Nodup

theorem Spelled.tail {a : Attribute} {as : List Attribute} (h : Spelled (a :: as)) : Spelled as :=
  ⟨fun b hb => h.names b (List.mem_cons_of_mem _ hb), (List.nodup_cons.1 h.distinct).2⟩

theorem Spelled.not_mem {a : Attribute} {as : List Attribute} (h : Spelled (a :: as)) :
    a.name ∉ as.map (·.name) :=
  (List.nodup_cons.1 h.distinct).1

/-! ## Tags -/

/-- A start tag. -/
def openTag (name : String) (as : List (String × Text)) : Text := '<' :: name.toList ++ spellRest as

theorem writeAttribute_eq {a : Attribute} (h : a.group = "") :
    writeAttribute a = spell a.name (escape true a.value.toList) := by
  rw [writeAttribute, if_pos h]
  rfl

theorem spellRest_append (as bs : List (String × Text)) :
    spellRest (as ++ bs) = (as.flatMap fun a => spell a.1 a.2) ++ spellRest bs := by
  induction as with
  | nil => rfl
  | cons a as ih => rw [List.cons_append, spellRest, ih, List.flatMap_cons, List.append_assoc]

theorem spellRest_concat (as : List (String × Text)) :
    spellRest as = (as.flatMap fun a => spell a.1 a.2) ++ ['>'] := by
  have h := spellRest_append as []
  rwa [List.append_nil] at h

theorem length_le_spells (as : List (String × Text)) :
    as.length ≤ (as.flatMap fun a => spell a.1 a.2).length := by
  induction as with
  | nil => exact Nat.le_refl _
  | cons a as ih =>
      have : 0 < (spell a.1 a.2).length := Nat.succ_pos _
      rw [List.flatMap_cons, List.length_append, List.length_cons]
      omega

theorem writeStart_eq {e : Element} (h : ∀ a ∈ e.attributes, a.group = "") :
    writeStart e = openTag e.name (spellings e.attributes) := by
  obtain ⟨v, name, as⟩ := e
  have hr : (as.flatMap writeAttribute) ++ ['>'] = spellRest (spellings as) := by
    induction as with
    | nil => rfl
    | cons a as ih =>
        rw [List.flatMap_cons, writeAttribute_eq (h a (List.mem_cons_self ..)), List.append_assoc,
          ih fun b hb => h b (List.mem_cons_of_mem _ hb)]
        rfl
  rw [writeStart, List.append_assoc, hr]
  rfl

theorem openTag_concat (name : String) (as : List (String × Text)) :
    openTag name as = '<' :: name.toList ++ (as.flatMap fun a => spell a.1 a.2) ++ ['>'] := by
  rw [openTag, spellRest_concat, List.append_assoc]

/-! ## Written forms -/

/-- Whether attributes are spelled by names and written values. -/
def Spells (sp : List (String × Text)) (as : List Attribute) : Prop :=
  List.Forall₂ (fun s a => s.1 = a.name ∧ Writes s.2 a.value.toList) sp as

theorem spells_spellings (as : List Attribute) : Spells (spellings as) as := by
  induction as with
  | nil => exact .nil
  | cons a as ih => exact .cons ⟨rfl, writes_escape _⟩ ih

/-- Whether the text of a tag is that of an element, in one of its written forms. -/
def IsStart (e : Element) (t : Text) : Prop :=
  ∃ sp, t = openTag e.name sp ∧ Spells sp e.attributes

theorem spelled_of_sanitized {e : Element} (h : e.Sanitized storyNames) : Spelled e.attributes :=
  ⟨fun a ha => (h.allowed a ha).2, h.distinct⟩

theorem writeStart_of_sanitized {e : Element} (h : e.Sanitized storyNames) :
    writeStart e = openTag e.name (spellings e.attributes) :=
  writeStart_eq fun a ha => (h.allowed a ha).1

theorem isStart_writeStart {e : Element} (h : e.Sanitized storyNames) : IsStart e (writeStart e) :=
  ⟨spellings e.attributes, writeStart_of_sanitized h, spells_spellings _⟩

end Gamebook.Html
