/-
# The declaration that a header makes

Adding interfaces one by one keeps the first of each (`joined`), and touches nothing else
(`foldl_addInterface`).  So the declaration of a header can be written down at once
(`toDeclaration_eq_ok_iff`): where its supertypes go depends only on the kind.
-/
import ApiPages.Header.Basic

namespace ApiPages

/-! ## 1. Interfaces -/

/-- The types of a list, and behind them those of another that are new, each once. -/
def joined (interfaces : List TypeName) : List TypeName → List TypeName
  | [] => interfaces
  | t :: rest => joined (if t ∈ interfaces then interfaces else interfaces ++ [t]) rest

variable {is ts us : List TypeName} {t : TypeName}

theorem mem_joined : t ∈ joined is ts ↔ t ∈ is ∨ t ∈ ts := by
  induction ts generalizing is with
  | nil => simp [joined]
  | cons u ts ih =>
    rw [joined, ih]
    split
    · rename_i hu
      constructor
      · rintro (h | h)
        · exact Or.inl h
        · exact Or.inr (List.mem_cons_of_mem u h)
      · rintro (h | h)
        · exact Or.inl h
        · rcases List.mem_cons.mp h with rfl | h
          · exact Or.inl hu
          · exact Or.inr h
    · simp only [List.mem_append, List.mem_cons, List.not_mem_nil, or_false, or_assoc]

theorem nodup_joined (h : is.Nodup) : (joined is ts).Nodup := by
  induction ts generalizing is with
  | nil => exact h
  | cons t ts ih =>
    rw [joined]
    split
    · exact ih h
    · rename_i ht
      refine ih (List.nodup_append.mpr ⟨h, by simp, fun a ha b hb heq => ?_⟩)
      obtain rfl := List.mem_singleton.mp hb
      exact ht (heq ▸ ha)

theorem joined_append : joined is (ts ++ us) = joined (joined is ts) us := by
  induction ts generalizing is with
  | nil => rfl
  | cons t ts ih => exact ih

/-- Adding interfaces changes nothing else. -/
theorem foldl_addInterface (d : ClassDeclaration) (ts : List TypeName) :
    ts.foldl .addInterface d = { d with interfaces := joined d.interfaces ts } := by
  induction ts generalizing d with
  | nil => cases d; rfl
  | cons t ts ih =>
    rw [List.foldl_cons, ih, joined]
    unfold ClassDeclaration.addInterface
    split <;> rfl

/-! ## 2. Declarations -/

namespace ClassHeader

/-- The superclass: the last type that a class extends. -/
def superclass? (h : ClassHeader) : ClassKind → Option TypeName
  | .classType => h.extended.getLast?
  | .interfaceType | .annotationType => none

/-- The types that become interfaces, in order. -/
def interfaces (h : ClassHeader) : ClassKind → List TypeName
  | .classType => h.implemented
  | .interfaceType | .annotationType => h.extended ++ h.implemented

/-- The modifiers; an annotation is not abstract. -/
def declaredModifiers (h : ClassHeader) : ClassKind → Modifiers
  | .annotationType => h.modifiers.erase .abstract
  | .classType | .interfaceType => h.modifiers

/-- **The declaration of a header**, written down at once. -/
theorem toDeclaration_eq_ok_iff {h : ClassHeader} {name : String} {d : ClassDeclaration} :
    h.toDeclaration name = .ok d ↔ ∃ kind, h.kind = some kind ∧ d = {
      name, kind
      modifiers := h.declaredModifiers kind
      superclass := h.superclass? kind
      interfaces := joined [] (h.interfaces kind)
      fields := [], methods := [], nested := [] } := by
  cases hkind : h.kind with
  | none => simp [toDeclaration, hkind]
  | some kind =>
    simp only [toDeclaration, hkind, Except.ok.injEq, Option.some.injEq, exists_eq_left',
      foldl_addInterface]
    cases kind <;>
      simp [ClassDeclaration.empty, declaredModifiers, superclass?, interfaces, joined_append,
        eq_comm]

end ClassHeader

end ApiPages
