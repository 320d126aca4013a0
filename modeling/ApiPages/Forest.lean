/-
# Forests of declarations

The pages of a library are read one by one and brought together at the end: each declaration is
nested in the one that encloses it, if that one is there, and is a root otherwise.

A collection keeps its declarations in the order of their names.  To build the forest, every root
is taken out of the collection together with the trees of the declarations in it (`nest`,
`nestAll`).  What is left is handed on from each tree to the next, so that a declaration that is
already in a tree cannot be taken again; the places of the declarations (`parent?`) are those in
the collection as it was before.
-/
import ApiPages.Declaration.Basic

namespace ApiPages

/-- Declarations with different names, in the order of their names. -/
structure Collection where
  entries : List ClassDeclaration
  sorted : entries.Pairwise (·.name < ·.name)
  deriving Repr

namespace Collection

/-! ## 1. Adding and taking out -/

/-- A collection without declarations. -/
def empty : Collection := ⟨[], .nil⟩

instance : Inhabited Collection := ⟨empty⟩

/-- Puts a declaration into a list in the order of names; it takes the place of one with its name.
-/
def insertEntry (d : ClassDeclaration) : List ClassDeclaration → List ClassDeclaration
  | [] => [d]
  | e :: rest =>
    if d.name < e.name then d :: e :: rest
    else if d.name = e.name then d :: rest
    else e :: insertEntry d rest

theorem mem_of_mem_insertEntry {d x : ClassDeclaration} {es : List ClassDeclaration}
    (h : x ∈ insertEntry d es) : x = d ∨ x ∈ es := by
  induction es with
  | nil => simpa [insertEntry] using h
  | cons e rest ih =>
    simp only [insertEntry] at h
    split at h
    · simpa using h
    · split at h <;> grind

theorem sorted_insertEntry {d : ClassDeclaration} {es : List ClassDeclaration}
    (h : es.Pairwise (·.name < ·.name)) : (insertEntry d es).Pairwise (·.name < ·.name) := by
  induction es with
  | nil => simp [insertEntry]
  | cons e rest ih =>
    obtain ⟨hfirst, hrest⟩ := List.pairwise_cons.mp h
    simp only [insertEntry]
    split
    · rename_i hlt
      refine List.pairwise_cons.mpr ⟨fun x hx => ?_, h⟩
      rcases List.mem_cons.mp hx with rfl | hx
      · exact hlt
      · exact String.lt_trans hlt (hfirst x hx)
    · rename_i hge
      split
      · rename_i heq
        exact List.pairwise_cons.mpr ⟨fun x hx => heq ▸ hfirst x hx, hrest⟩
      · rename_i hne
        have hgt : e.name < d.name :=
          String.not_le.mp fun hle => hne (String.le_antisymm hle (String.not_lt.mp hge))
        refine List.pairwise_cons.mpr ⟨fun x hx => ?_, ih hrest⟩
        rcases mem_of_mem_insertEntry hx with rfl | hx
        · exact hgt
        · exact hfirst x hx

/-- **Adds a declaration**; of several with the same name the last one counts. -/
def insert (c : Collection) (d : ClassDeclaration) : Collection :=
  ⟨insertEntry d c.entries, sorted_insertEntry c.sorted⟩

/-- The collection of the declarations of a list. -/
def ofList (ds : List ClassDeclaration) : Collection := ds.foldl insert empty

/-- The number of declarations. -/
def size (c : Collection) : Nat := c.entries.length

/-- Whether there are no declarations. -/
def isEmpty (c : Collection) : Bool := c.entries.isEmpty

/-- The declaration with a given name. -/
def get? (c : Collection) (name : String) : Option ClassDeclaration :=
  c.entries.find? (·.name == name)

/-- Whether there is a declaration with a given name. -/
def contains (c : Collection) (name : String) : Bool := (c.get? name).isSome

/-- Takes the declaration with a given name out. -/
def erase (c : Collection) (name : String) : Collection :=
  ⟨c.entries.filter (·.name != name), c.sorted.filter _⟩

theorem size_erase_lt {c : Collection} {name : String} {d : ClassDeclaration}
    (h : c.get? name = some d) : (c.erase name).size < c.size := by
  have hmem : d ∈ c.entries := List.mem_of_find?_eq_some h
  have hname := List.find?_some h
  exact List.length_filter_lt_length_iff_exists.mpr ⟨d, hmem, by simpa using hname⟩

/-! ## 2. The places of the declarations -/

/-- The name of the declaration of the collection in which a declaration is to be nested. -/
def parent? (c : Collection) (d : ClassDeclaration) : Option String :=
  d.enclosing?.filter c.contains

/-- The names of the declarations that are nested in no other one. -/
def rootNames (c : Collection) : List String :=
  (c.entries.filter fun d => c.parent? d == none).map (·.name)

/-- The names of the declarations that are nested in a given one. -/
def childNames (c : Collection) (name : String) : List String :=
  (c.entries.filter fun d => c.parent? d == some name).map (·.name)

/-! ## 3. Trees and forests -/

/-- Something that was made of declarations taken out of a collection, and what is left of it. -/
structure Taken (α : Type) (c : Collection) where
  value : α
  rest : Collection
  size_le : rest.size ≤ c.size

mutual

/-- Takes the declaration with a given name out of `left`, and with it the trees of the
declarations that `all` nests in it. -/
def nest (all left : Collection) (name : String) : Taken (Option ClassDeclaration) left :=
  match h : left.get? name with
  | none => ⟨none, left, Nat.le_refl _⟩
  | some d =>
    have hlt := size_erase_lt h
    let inner := nestAll all (left.erase name) (all.childNames name)
    ⟨some { d with nested := d.nested ++ inner.value }, inner.rest,
      Nat.le_trans inner.size_le (Nat.le_of_lt hlt)⟩
termination_by (left.size, 0)

/-- Takes the trees of several declarations out of `left`, one after the other. -/
def nestAll (all left : Collection) (names : List String) : Taken (List ClassDeclaration) left :=
  match names with
  | [] => ⟨[], left, Nat.le_refl _⟩
  | name :: names =>
    let first := nest all left name
    have hle := first.size_le
    let others := nestAll all first.rest names
    ⟨first.value.toList ++ others.value, others.rest, Nat.le_trans others.size_le hle⟩
termination_by (left.size, names.length + 1)
decreasing_by
  · exact Prod.Lex.right _ (by simp)
  · rcases Nat.lt_or_eq_of_le hle with hlt | heq
    · exact Prod.Lex.left _ _ hlt
    · rw [heq]
      exact Prod.Lex.right _ (by simp)

end

/-- **The forest of a collection**: its roots in the order of their names, with all other
declarations nested in them. -/
def forest (c : Collection) : List ClassDeclaration := (nestAll c c c.rootNames).value

end Collection

end ApiPages
