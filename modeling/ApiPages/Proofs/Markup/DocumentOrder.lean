/-
# Elements in document order

The elements of a page are listed in document order, each with what encloses it.  In that list an
element stands behind all elements that enclose it, and right in front of the elements below it
(`placed_of_elementsOf`).

Elements of which none lies below another have no text in common.  So of whatever is counted in
texts, all of them together have no more than the whole (`sum_occurrences_le`).
-/
import ApiPages.Markup.Node
import Mathlib.Algebra.Order.BigOperators.Group.List
import Mathlib.Algebra.Order.Ring.Nat

namespace ApiPages

/-! ## 1. Places -/

/-- What holds of an element `l` that stands between the elements `before` and `behind` in a list of
elements in document order, all of which are enclosed by `enclosing`. -/
structure Located.Placed (enclosing : List Element) (before : List Located) (l : Located)
    (behind : List Located) : Prop where
  enclosed : enclosing <:+ l.enclosing
  /-- The elements below it come next. -/
  descendants : l.descendants <+: behind
  /-- The elements around it have come before. -/
  around : ∀ outer : Located, outer.element :: outer.enclosing <:+ l.enclosing →
    enclosing.length ≤ outer.enclosing.length → outer ∈ before

namespace Located.Placed

variable {enclosing : List Element} {before behind : List Located} {l : Located}

theorem append (h : Placed enclosing before l behind) (front back : List Located) :
    Placed enclosing (front ++ before) l (behind ++ back) where
  enclosed := h.enclosed
  descendants := h.descendants.trans (List.prefix_append behind back)
  around outer houter hlength := List.mem_append_right front (h.around outer houter hlength)

/-- A place below an element is a place in the list that the element heads. -/
theorem below {e : Element} (h : Placed (e :: enclosing) before l behind) :
    Placed enclosing (⟨e, enclosing⟩ :: before) l behind where
  enclosed := (List.suffix_cons e enclosing).trans h.enclosed
  descendants := h.descendants
  around outer houter hlength := by
    rcases Nat.lt_or_ge enclosing.length outer.enclosing.length with hlt | hge
    · exact List.mem_cons_of_mem _ (h.around outer houter hlt)
    · -- both are what encloses `l` from the same level outwards
      have hsame : outer.element :: outer.enclosing = e :: enclosing := by
        have hle : (outer.element :: outer.enclosing).length ≤ (e :: enclosing).length := by
          simpa using hge
        refine (List.suffix_of_suffix_length_le houter h.enclosed hle).eq_of_length ?_
        simp only [List.length_cons]
        omega
      obtain ⟨helement, henclosing⟩ := List.cons.inj hsame
      obtain ⟨_, _⟩ := outer
      obtain rfl := helement
      obtain rfl := henclosing
      exact List.mem_cons_self

end Located.Placed

open Located (Placed)

mutual

/-- The elements of a node are in their places. -/
theorem placed_of_elements (enclosing : List Element) : (node : Node) →
    ∀ before l behind, node.elements enclosing = before ++ l :: behind →
      Placed enclosing before l behind
  | .text _, _, _, _ => fun h => by simp [Node.elements] at h
  | .comment _, _, _, _ => fun h => by simp [Node.elements] at h
  | .element tag attributes children, before, l, behind => fun h => by
    rw [Node.elements] at h
    cases before with
    | nil =>
      obtain ⟨rfl, rfl⟩ := List.cons.inj h
      refine ⟨List.suffix_refl enclosing, List.prefix_refl _, fun outer houter hlength => ?_⟩
      have hle := houter.length_le
      simp only [List.length_cons] at hle
      omega
    | cons first before =>
      obtain ⟨rfl, hbelow⟩ := List.cons.inj h
      exact (placed_of_elementsOf (_ :: enclosing) children before l behind hbelow).below

/-- **The elements of a sequence of nodes are in their places.** -/
theorem placed_of_elementsOf (enclosing : List Element) : (nodes : List Node) →
    ∀ before l behind, Node.elementsOf enclosing nodes = before ++ l :: behind →
      Placed enclosing before l behind
  | [], _, _, _ => fun h => by simp [Node.elementsOf] at h
  | node :: rest, before, l, behind => fun h => by
    rw [Node.elementsOf] at h
    rcases List.append_eq_append_iff.mp h with ⟨front, rfl, hrest⟩ | ⟨back, hnode, hback⟩
    · have hplaced := placed_of_elementsOf enclosing rest front l behind hrest
      simpa using hplaced.append (node.elements enclosing) []
    · cases back with
      | nil =>
        have hplaced := placed_of_elementsOf enclosing rest [] l behind hback.symm
        simpa [hnode] using hplaced.append before []
      | cons first back =>
        obtain ⟨rfl, rfl⟩ := List.cons.inj hback
        have hplaced := placed_of_elements enclosing node before l back hnode
        simpa using hplaced.append [] (Node.elementsOf enclosing rest)

end

namespace Located

variable {l inner outer : Located}

theorem placed_of_descendants {before behind : List Located}
    (h : outer.descendants = before ++ l :: behind) :
    Placed (outer.element :: outer.enclosing) before l behind :=
  placed_of_elementsOf _ _ before l behind h

/-- An element below another one is enclosed by it. -/
theorem enclosed_of_mem_descendants (h : inner ∈ outer.descendants) :
    outer.element :: outer.enclosing <:+ inner.enclosing := by
  obtain ⟨before, behind, hsplit⟩ := List.append_of_mem h
  exact (placed_of_descendants hsplit).enclosed

/-- No element lies below itself. -/
theorem not_mem_descendants (l : Located) : l ∉ l.descendants := by
  intro h
  have hle := (enclosed_of_mem_descendants h).length_le
  simp only [List.length_cons] at hle
  omega

end Located

/-! ## 2. Text of elements that lie apart -/

/-- How often a character occurs in a text. -/
def Text.occurrences (c : Char) (s : String) : Nat := s.toList.count c

namespace Text

@[simp] theorem occurrences_empty (c : Char) : occurrences c "" = 0 := rfl

@[simp] theorem occurrences_append (c : Char) (s t : String) :
    occurrences c (s ++ t) = occurrences c s + occurrences c t := by
  simp [occurrences]

end Text

open Text (occurrences)

/-- Elements of which none lies below another. -/
def Located.Apart (ls : List Located) : Prop :=
  ∀ outer ∈ ls, ∀ inner ∈ ls, inner ∉ outer.descendants

theorem Located.Apart.of_subset {ls ms : List Located} (h : Apart ls) (hms : ms ⊆ ls) : Apart ms :=
  fun outer houter inner hinner => h outer (hms houter) inner (hms hinner)

open scoped List

mutual

theorem sum_occurrences_le_of_elements (c : Char) (enclosing : List Element) : (node : Node) →
    ∀ ls : List Located, ls <+ node.elements enclosing → Located.Apart ls →
      (ls.map fun l => occurrences c l.element.text).sum ≤ occurrences c node.textContent
  | .text _, _ => fun h _ => by simp [List.sublist_nil.mp h]
  | .comment _, _ => fun h _ => by simp [List.sublist_nil.mp h]
  | .element tag attributes children, ls => fun h hapart => by
    rw [Node.elements] at h
    rcases List.sublist_cons_iff.mp h with hbelow | ⟨inside, rfl, hinside⟩
    · exact sum_occurrences_le c _ children ls hbelow hapart
    · cases inside with
      | nil => simp [Element.text, Node.textContent]
      | cons inner inside =>
        -- the element itself is among them, so nothing below it can be
        have hinner := hinside.subset (List.mem_cons_self (a := inner))
        exact absurd hinner (hapart _ List.mem_cons_self inner (by simp))

/-- **Elements that lie apart have no more of a character than the whole text.** -/
theorem sum_occurrences_le (c : Char) (enclosing : List Element) : (nodes : List Node) →
    ∀ ls : List Located, ls <+ Node.elementsOf enclosing nodes → Located.Apart ls →
      (ls.map fun l => occurrences c l.element.text).sum ≤ occurrences c (Node.textOf nodes)
  | [], _ => fun h _ => by simp [List.sublist_nil.mp h]
  | node :: rest, _ => fun h hapart => by
    rw [Node.elementsOf] at h
    obtain ⟨front, back, rfl, hfront, hback⟩ := List.sublist_append_iff.mp h
    have hnode := sum_occurrences_le_of_elements c enclosing node front hfront
      (hapart.of_subset (List.subset_append_left front back))
    have hrest := sum_occurrences_le c enclosing rest back hback
      (hapart.of_subset (List.subset_append_right front back))
    rw [List.map_append, List.sum_append, Node.textOf, Text.occurrences_append]
    omega

end

end ApiPages
