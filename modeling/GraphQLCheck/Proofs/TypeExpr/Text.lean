import GraphQLCheck.Annotation
import Mathlib.Data.List.Basic

/-!
# The text of a type

A type is written with brackets around the lists and a mark behind what is never null. Where no mark
stands on a mark and the name inside holds neither brackets nor marks (`TypeExpr.Proper`), the text
says which type it is (`TypeExpr.text_injective`): whether the outside is marked shows in its last
character, and whether it is a list in its first.

An annotation is a type with a place. The type that it writes down (`Annotation.typeExpr`) has a
mark at every level that is not nullable, and it is all that equivalence looks at
(`Annotation.equivalent_iff`) and all that the text of the annotation shows
(`Annotation.text_typeExpr`). So equivalence is equality of types under another name, and the texts
of annotations tell them apart as far as equivalence does (`Annotation.text_eq_iff`).
-/

namespace GraphQLCheck

/-! ### Texts like names -/

/-- The text is made of the characters of GraphQL names. -/
def NameLike (text : String) : Prop := ∀ c ∈ text.toList, isNameChar c = true

instance (text : String) : Decidable (NameLike text) :=
  decidable_of_iff (text.toList.all isNameChar = true) List.all_eq_true

/-- No other character is in a name. -/
theorem NameLike.not_mem {text : String} (h : NameLike text) {c : Char}
    (hc : isNameChar c = false) : c ∉ text.toList := by
  intro hmem
  rw [h c hmem] at hc
  cases hc

/-- A name begins with one of its characters and goes on with any of them. -/
theorem isName_iff {text : String} : isName text = true ↔
    ∃ c cs, text.toList = c :: cs ∧ isNameStart c = true ∧ ∀ d ∈ cs, isNameChar d = true := by
  rw [isName]
  rcases text.toList with - | ⟨c, cs⟩
  · simp
  · simp

/-- A GraphQL name is made of the characters of names. -/
theorem nameLike_of_isName {text : String} (h : isName text = true) : NameLike text := by
  obtain ⟨c, cs, htext, hc, hcs⟩ := isName_iff.1 h
  intro d hd
  rw [htext] at hd
  rcases List.mem_cons.1 hd with rfl | hd
  · rw [isNameChar, hc, Bool.true_or]
  · exact hcs d hd

namespace TypeExpr

/-- The name inside all lists and marks. -/
def name : TypeExpr → String
  | .named name => name
  | .list inner => inner.name
  | .nonNull inner => inner.name

/-- The type at a level, counted in lists from the outside, with its mark if it has one. -/
def level? : TypeExpr → Nat → Option TypeExpr
  | .named name, 0 => some (.named name)
  | .named _, _ + 1 => none
  | .list inner, 0 => some (.list inner)
  | .list inner, n + 1 => inner.level? n
  | .nonNull inner, 0 => some (.nonNull inner)
  | .nonNull inner, n + 1 => inner.level? (n + 1)

/-- No mark stands directly on a mark, and the name is made of the characters of names. -/
def Proper : TypeExpr → Prop
  | .named name => NameLike name
  | .list inner => inner.Proper
  | .nonNull inner => inner.isMarked = false ∧ inner.Proper

instance decidableProper : (t : TypeExpr) → Decidable t.Proper
  | .named name => inferInstanceAs (Decidable (NameLike name))
  | .list inner => decidableProper inner
  | .nonNull inner =>
    have := decidableProper inner
    inferInstanceAs (Decidable (inner.isMarked = false ∧ inner.Proper))

/-- The name in a proper type is made of the characters of names. -/
theorem Proper.name {t : TypeExpr} (h : t.Proper) : NameLike t.name := by
  induction t with
  | named name => exact h
  | list inner ih => exact ih h
  | nonNull inner ih => exact ih h.2

/-- A type that the grammar can write is proper. -/
theorem Written.proper {t : TypeExpr} (h : t.Written) : t.Proper := by
  induction t with
  | named name => exact nameLike_of_isName h
  | list inner ih => exact ih h
  | nonNull inner ih => exact ⟨h.1, ih h.2⟩

@[simp] theorem toList_text_list (inner : TypeExpr) :
    (list inner).text.toList = '[' :: (inner.text.toList ++ [']']) := by
  simp [text]

@[simp] theorem toList_text_nonNull (inner : TypeExpr) :
    (nonNull inner).text.toList = inner.text.toList ++ ['!'] := by
  simp [text]

/-- The mark shows in the last character. -/
theorem getLast?_text_ne {t : TypeExpr} (ht : t.Proper) (hmark : t.isMarked = false) :
    t.text.toList.getLast? ≠ some '!' := by
  cases t with
  | named name =>
    intro hlast
    exact ht.not_mem (by decide) (List.mem_of_getLast? hlast)
  | list inner =>
    rw [toList_text_list, ← List.cons_append, List.getLast?_concat]
    decide
  | nonNull inner => cases hmark

/-- **The text says which type it is.** -/
theorem text_injective {t u : TypeExpr} (ht : t.Proper) (hu : u.Proper) (h : t.text = u.text) :
    t = u := by
  replace h : t.text.toList = u.text.toList := congrArg String.toList h
  induction t generalizing u with
  | named name =>
    have hname : name.toList = u.text.toList := h
    cases u with
    | named name' => rw [show name = name' from String.toList_inj.1 h]
    | list inner' =>
      refine absurd ?_ (ht.not_mem (c := '[') (by decide))
      rw [hname, toList_text_list]
      exact List.mem_cons_self
    | nonNull inner' =>
      refine absurd ?_ (ht.not_mem (c := '!') (by decide))
      rw [hname, toList_text_nonNull]
      exact List.mem_append_right _ List.mem_cons_self
  | list inner ih =>
    cases u with
    | named name' =>
      have hname : name'.toList = (list inner).text.toList := h.symm
      refine absurd ?_ (hu.not_mem (c := '[') (by decide))
      rw [hname, toList_text_list]
      exact List.mem_cons_self
    | list inner' =>
      rw [toList_text_list, toList_text_list, List.cons.injEq, List.append_left_inj] at h
      rw [ih (u := inner') ht hu h.2]
    | nonNull inner' =>
      refine absurd ?_ (getLast?_text_ne ht rfl)
      rw [h, toList_text_nonNull, List.getLast?_concat]
  | nonNull inner ih =>
    have hlast : u.text.toList.getLast? = some '!' := by
      rw [← h, toList_text_nonNull, List.getLast?_concat]
    cases u with
    | named name' => exact absurd hlast (getLast?_text_ne hu rfl)
    | list inner' => exact absurd hlast (getLast?_text_ne hu rfl)
    | nonNull inner' =>
      rw [toList_text_nonNull, toList_text_nonNull, List.append_left_inj] at h
      rw [ih ht.2 hu.2 h]

end TypeExpr

/-! ### Annotations as types -/

namespace Annotation

/-- The type with a mark, unless it is nullable. -/
def marked (nullable : Bool) (t : TypeExpr) : TypeExpr := if nullable then t else .nonNull t

/-- The type that an annotation writes down. -/
def typeExpr : Annotation → TypeExpr
  | .named nullable ref => marked nullable (.named ref.name)
  | .list nullable _ inner => marked nullable (.list inner.typeExpr)

/-- A mark tells whether it is there, and what it stands behind. -/
theorem marked_inj {nullable nullable' : Bool} {t u : TypeExpr} (ht : t.isMarked = false)
    (hu : u.isMarked = false) :
    marked nullable t = marked nullable' u ↔ nullable = nullable' ∧ t = u := by
  cases nullable <;> cases nullable'
  · simp [marked]
  · have hne : TypeExpr.nonNull t ≠ u := by
      rintro rfl
      cases hu
    simp [marked, hne]
  · have hne : t ≠ TypeExpr.nonNull u := by
      rintro rfl
      cases ht
    simp [marked, hne]
  · simp [marked]

/-- The text of a marked type is that of the type and the mark. -/
theorem text_marked (nullable : Bool) (t : TypeExpr) :
    (marked nullable t).text = t.text ++ mark nullable := by
  cases nullable with
  | false => rfl
  | true => exact String.append_empty.symm

/-- Equivalent annotations write down the same type. -/
theorem equivalent_iff {a b : Annotation} :
    a.equivalent b = true ↔ a.typeExpr = b.typeExpr := by
  induction a generalizing b with
  | named nullable ref =>
    cases b with
    | named nullable' ref' =>
      rw [typeExpr, typeExpr, marked_inj rfl rfl]
      simp [equivalent]
    | list nullable' location' inner' =>
      rw [typeExpr, typeExpr, marked_inj rfl rfl]
      simp [equivalent]
  | list nullable location inner ih =>
    cases b with
    | named nullable' ref' =>
      rw [typeExpr, typeExpr, marked_inj rfl rfl]
      simp [equivalent]
    | list nullable' location' inner' =>
      rw [typeExpr, typeExpr, marked_inj rfl rfl]
      simp [equivalent, ih]

/-- The text of an annotation is that of the type. -/
theorem text_typeExpr (a : Annotation) : a.typeExpr.text = a.text := by
  induction a with
  | named nullable ref => rw [typeExpr, text_marked, TypeExpr.text, text]
  | list nullable location inner ih => rw [typeExpr, text_marked, TypeExpr.text, ih, text]

/-- A proper type that bears no mark stays proper when it gets one. -/
theorem proper_marked {nullable : Bool} {t : TypeExpr} (ht : t.Proper)
    (hmark : t.isMarked = false) : (marked nullable t).Proper := by
  cases nullable with
  | false => exact ⟨hmark, ht⟩
  | true => exact ht

/-- Marks are on levels, so none stands on another. -/
theorem proper_typeExpr {a : Annotation} (h : NameLike a.innermost.name) : a.typeExpr.Proper := by
  induction a with
  | named nullable ref => exact proper_marked h rfl
  | list nullable location inner ih => exact proper_marked (ih h) rfl

/-- Annotations have one text exactly when they are equivalent. -/
theorem text_eq_iff {a b : Annotation} (ha : NameLike a.innermost.name)
    (hb : NameLike b.innermost.name) : a.text = b.text ↔ a.equivalent b = true := by
  rw [equivalent_iff, ← text_typeExpr, ← text_typeExpr]
  exact ⟨TypeExpr.text_injective (proper_typeExpr ha) (proper_typeExpr hb), congrArg TypeExpr.text⟩

/-! ### Types as annotations -/

section OfTypeExpr

variable (location : Location) (nullable : Bool)

/-- Innermost in an annotation is the name, at its own place. -/
theorem innermost_ofMarked (t : TypeExpr) :
    (ofMarked location nullable t).innermost = ⟨t.name, location⟩ := by
  induction t generalizing nullable with
  | named name => rfl
  | list inner ih => exact ih true
  | nonNull inner ih => exact ih false

/-- The flag decides on the outermost level only. -/
theorem levels_ofMarked (t : TypeExpr) (n : Nat) : (ofMarked location nullable t).levels[n]? =
    (t.level? n).map fun u ↦ (n != 0 || nullable) && !u.isMarked := by
  induction t generalizing nullable n with
  | named name => cases n <;> simp [ofMarked, levels, TypeExpr.level?, TypeExpr.isMarked]
  | list inner ih => cases n <;> simp [ofMarked, levels, TypeExpr.level?, TypeExpr.isMarked, ih]
  | nonNull inner ih =>
    rw [ofMarked, ih]
    cases n with
    | zero => cases inner <;> simp [TypeExpr.level?, TypeExpr.isMarked]
    | succ n => simp [TypeExpr.level?]

/-- A type on which the flag puts no second mark is what its annotation writes down. -/
theorem typeExpr_ofMarked {t : TypeExpr} (ht : t.Proper)
    (hmark : nullable = true ∨ t.isMarked = false) :
    (ofMarked location nullable t).typeExpr = marked nullable t := by
  induction t generalizing nullable with
  | named name => rfl
  | list inner ih => rw [ofMarked, typeExpr, ih true ht (Or.inl rfl)]; rfl
  | nonNull inner ih =>
    obtain rfl : nullable = true := hmark.resolve_right Bool.noConfusion
    rw [ofMarked, ih false ht.2 (Or.inr ht.1)]
    rfl

/-- The type of an annotation is the one that it was made from. -/
theorem typeExpr_ofTypeExpr {t : TypeExpr} (ht : t.Proper) :
    (ofTypeExpr location t).typeExpr = t :=
  typeExpr_ofMarked location true ht (Or.inl rfl)

end OfTypeExpr

end Annotation

end GraphQLCheck
