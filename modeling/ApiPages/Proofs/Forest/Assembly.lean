/-
# The forest holds every declaration once

Building the forest takes the trees of the roots out of the collection, one after the
other.  `Gathered` says what a part of this work gives and leaves: the trees of the given names
hold the declarations within these names, each once and complete, and these declarations are what
the rest has no longer.

The invariant is about what is still there: whatever is within the names that are to be gathered
is found in the collection that is left just as in the whole one.  It holds for the roots at the
start.  Taking the declaration of a name out keeps it for the children, for no declaration is
within one of its children, and gathering one tree keeps it for the others, for they are apart.
-/
import ApiPages.Proofs.Forest.Collection

namespace ApiPages

namespace ClassDeclaration

/-! ## 1. The nodes of a forest -/

mutual

/-- The nodes of a tree of declarations: the declaration and all that are nested in it at some
depth. -/
def nodes : ClassDeclaration → List ClassDeclaration
  | d@⟨_, _, _, _, _, _, _, nested⟩ => d :: nodesAll nested

/-- The nodes of a forest. -/
def nodesAll : List ClassDeclaration → List ClassDeclaration
  | [] => []
  | d :: rest => d.nodes ++ nodesAll rest

end

theorem nodes_eq (d : ClassDeclaration) : d.nodes = d :: nodesAll d.nested := by
  cases d
  rw [nodes]

theorem nodesAll_append (ts us : List ClassDeclaration) :
    nodesAll (ts ++ us) = nodesAll ts ++ nodesAll us := by
  induction ts with
  | nil => simp [nodesAll]
  | cons t ts ih => simp [nodesAll, ih]

theorem nodesAll_singleton (d : ClassDeclaration) : nodesAll [d] = d :: nodesAll d.nested := by
  simp [nodesAll, nodes_eq]

mutual

/-- Counting a tree counts its nodes. -/
theorem length_nodes (d : ClassDeclaration) : d.nodes.length = d.count := by
  cases d with
  | mk name modifiers kind superclass interfaces fields methods nested =>
    simp [nodes, count, length_nodesAll nested, Nat.add_comm]

theorem length_nodesAll (ds : List ClassDeclaration) : (nodesAll ds).length = countAll ds := by
  cases ds with
  | nil => rfl
  | cons d rest => simp [nodesAll, countAll, length_nodes d, length_nodesAll rest]

end

/-- A declaration in which nothing is nested is what is left of its tree without the nested ones. -/
theorem eq_of_nested_eq_nil {d : ClassDeclaration} (h : d.nested = []) :
    { d with nested := [] } = d := by
  cases d
  cases h
  rfl

end ClassDeclaration

namespace Collection

open ClassDeclaration

variable {all left mid rest c : Collection} {d : ClassDeclaration} {ts us : List ClassDeclaration}
  {name : String} {as bs : List String}

/-! ## 2. What gathering gives and leaves -/

/-- A node is the declaration of its name, with a tree for every declaration that has its place in
it. -/
structure Complete (all : Collection) (e : ClassDeclaration) : Prop where
  found : all.get? e.name = some { e with nested := [] }
  nested_names : e.nested.map (·.name) = all.childNames e.name

/-- The trees `ts` of the declarations `names` have been taken out of `left`, and `rest` is left. -/
structure Gathered (all left rest : Collection) (names : List String) (ts : List ClassDeclaration) :
    Prop where
  names_eq : ts.map (·.name) = names
  complete : ∀ e ∈ nodesAll ts, all.Complete e
  nodup : ((nodesAll ts).map (·.name)).Nodup
  mem_iff : ∀ n, n ∈ (nodesAll ts).map (·.name) ↔ ∃ a ∈ names, all.Within n a
  gone : ∀ n, ∀ a ∈ names, all.Within n a → rest.get? n = none
  kept : ∀ n, (∀ a ∈ names, ¬ all.Within n a) → rest.get? n = left.get? n

theorem Gathered.nil : Gathered all left left [] [] where
  names_eq := rfl
  complete := by simp [nodesAll]
  nodup := by simp [nodesAll]
  mem_iff := by simp [nodesAll]
  gone := by simp
  kept _ _ := rfl

/-- Gathering trees and then others that are apart from them. -/
theorem Gathered.append (h₁ : Gathered all left mid as ts) (h₂ : Gathered all mid rest bs us)
    (hapart : ∀ a ∈ as, ∀ b ∈ bs, ∀ n, all.Within n a → ¬ all.Within n b) :
    Gathered all left rest (as ++ bs) (ts ++ us) where
  names_eq := by rw [List.map_append, h₁.names_eq, h₂.names_eq]
  complete := by
    intro e he
    rw [nodesAll_append, List.mem_append] at he
    exact he.elim (h₁.complete e) (h₂.complete e)
  nodup := by
    rw [nodesAll_append, List.map_append]
    refine List.nodup_append.mpr ⟨h₁.nodup, h₂.nodup, fun m hm n hn heq => ?_⟩
    obtain ⟨a, ha, hwithin⟩ := (h₁.mem_iff m).mp hm
    obtain ⟨b, hb, hwithin'⟩ := (h₂.mem_iff n).mp hn
    exact hapart a ha b hb m hwithin (heq ▸ hwithin')
  mem_iff n := by
    rw [nodesAll_append, List.map_append, List.mem_append, h₁.mem_iff, h₂.mem_iff]
    simp only [List.mem_append, or_and_right, exists_or]
  gone n a ha hwithin := by
    rcases List.mem_append.mp ha with ha | ha
    · rw [h₂.kept n fun b hb => hapart a ha b hb n hwithin]
      exact h₁.gone n a ha hwithin
    · exact h₂.gone n a ha hwithin
  kept n hn := by
    rw [h₂.kept n fun b hb => hn b (List.mem_append_right _ hb)]
    exact h₁.kept n fun a ha => hn a (List.mem_append_left _ ha)

/-- Taking a declaration out, and then the trees of its children, gathers its tree. -/
theorem Gathered.node (hd : all.get? name = some d) (hbare : d.nested = [])
    (h : Gathered all (left.erase name) rest (all.childNames name) ts) :
    Gathered all left rest [name] [{ d with nested := ts }] where
  names_eq := by simp [name_of_get? hd]
  complete := by
    intro e he
    rw [nodesAll_singleton, List.mem_cons] at he
    rcases he with rfl | he
    · obtain rfl := name_of_get? hd
      exact ⟨hd.trans (congrArg some (eq_of_nested_eq_nil hbare).symm), h.names_eq⟩
    · exact h.complete e he
  nodup := by
    rw [nodesAll_singleton, List.map_cons, List.nodup_cons]
    refine ⟨fun hmem => ?_, h.nodup⟩
    obtain ⟨m, hm, hwithin⟩ := (h.mem_iff _).mp hmem
    exact (mem_childNames.mp hm).not_within (name_of_get? hd ▸ hwithin)
  mem_iff n := by
    rw [nodesAll_singleton, List.map_cons, List.mem_cons, h.mem_iff]
    simp [name_of_get? hd, within_iff (a := name)]
  gone n a ha hwithin := by
    obtain rfl := List.mem_singleton.mp ha
    rcases within_iff.mp hwithin with rfl | ⟨m, hm, hwithin⟩
    · -- the declaration itself is not within its children, so it is still missing after them
      rw [h.kept n fun m hm => (mem_childNames.mp hm).not_within, get?_erase, if_pos rfl]
    · exact h.gone n m hm hwithin
  kept n hn := by
    have hname : ¬ all.Within n name := hn name (List.mem_singleton_self _)
    have hne : n ≠ name := fun heq => hname (within_iff.mpr (.inl heq))
    rw [h.kept n fun m hm hwithin => hname (within_iff.mpr (.inr ⟨m, hm, hwithin⟩)), get?_erase,
      if_neg hne]

/-! ## 3. Gathering the forest -/

/-- Everything within the names is still to be found. -/
def Available (all left : Collection) (names : List String) : Prop :=
  ∀ n, ∀ a ∈ names, all.Within n a → left.get? n = all.get? n

theorem Available.mono (h : Available all left bs) (hsubset : as ⊆ bs) : Available all left as :=
  fun n a ha => h n a (hsubset ha)

/-- Taking a declaration out leaves all that is within its children. -/
theorem Available.childNames (h : Available all left [name]) :
    Available all (left.erase name) (all.childNames name) := by
  intro n m hm hwithin
  have hne : n ≠ name := fun heq => (mem_childNames.mp hm).not_within (heq ▸ hwithin)
  rw [get?_erase, if_neg hne]
  exact h n name (List.mem_singleton_self _) (within_iff.mpr (.inr ⟨m, hm, hwithin⟩))

/-- Gathering some trees leaves all that is within other names. -/
theorem Available.of_gathered (h : Available all left bs) (hgathered : Gathered all left rest as ts)
    (hapart : ∀ a ∈ as, ∀ b ∈ bs, ∀ n, all.Within n a → ¬ all.Within n b) :
    Available all rest bs := by
  intro n b hb hwithin
  rw [hgathered.kept n fun a ha hwithin' => hapart a ha b hb n hwithin' hwithin]
  exact h n b hb hwithin

/-- A declaration that is found is taken with the trees of its children. -/
theorem nest_of_get? (all : Collection) (hd : left.get? name = some d) :
    (all.nest left name).value = some { d with
      nested := d.nested ++ (all.nestAll (left.erase name) (all.childNames name)).value } ∧
    (all.nest left name).rest = (all.nestAll (left.erase name) (all.childNames name)).rest := by
  rw [nest]
  split
  · rename_i hnone
    rw [hd] at hnone
    cases hnone
  · rename_i d' hd'
    obtain rfl : d = d' := Option.some.inj (hd.symm.trans hd')
    exact ⟨rfl, rfl⟩

/-- **No lookup misses**: as long as everything within a name is available, its tree is gathered. -/
theorem gathered_nest (hbare : ∀ n d, all.get? n = some d → d.nested = []) :
    (∀ left name, all.contains name = true → Available all left [name] →
      Gathered all left (all.nest left name).rest [name] (all.nest left name).value.toList) ∧
    (∀ left names, (∀ a ∈ names, all.contains a = true) → all.Apart names →
      Available all left names →
      Gathered all left (all.nestAll left names).rest names (all.nestAll left names).value) := by
  have found (left : Collection) (name : String) (h : Available all left [name]) :
      left.get? name = all.get? name :=
    h name name (List.mem_singleton_self _) Relation.ReflTransGen.refl
  refine nest.mutual_induct all _ _ ?missing ?taken ?done ?next
  case missing =>
    intro left name hnone hin havailable
    rw [contains, ← found left name havailable, hnone] at hin
    cases hin
  case taken =>
    intro left name d hd _ ih hin havailable
    have hd' : all.get? name = some d := found left name havailable ▸ hd
    have hchildren := ih (fun m hm => (mem_childNames.mp hm).inner) (apart_childNames name)
      havailable.childNames
    obtain ⟨hvalue, hrest⟩ := nest_of_get? all hd
    rw [hvalue, hrest, hbare name d hd', List.nil_append]
    exact .node hd' (hbare name d hd') hchildren
  case done =>
    intro left _ _ _
    rw [nestAll]
    exact .nil
  case next =>
    intro left name names first _ ihfirst _ ihothers hin hapart havailable
    obtain ⟨hhead, htail⟩ := List.pairwise_cons.mp hapart
    have hdisjoint : ∀ a ∈ [name], ∀ b ∈ names, ∀ n, all.Within n a → ¬ all.Within n b := by
      intro a ha b hb n
      obtain rfl := List.mem_singleton.mp ha
      exact hhead b hb n
    have hfirst := ihfirst (hin name List.mem_cons_self)
      (havailable.mono (List.cons_subset_cons _ (List.nil_subset _)))
    have hothers := ihothers (fun a ha => hin a (List.mem_cons_of_mem _ ha)) htail
      ((havailable.mono (List.subset_cons_self _ _)).of_gathered hfirst hdisjoint)
    rw [nestAll]
    exact hfirst.append hothers hdisjoint

/-- The forest gathers the trees of the roots. -/
theorem gathered_forest (hbare : ∀ n d, c.get? n = some d → d.nested = []) :
    Gathered c c (c.nestAll c c.rootNames).rest c.rootNames c.forest :=
  (gathered_nest hbare).2 c c.rootNames (fun _ hr => (mem_rootNames.mp hr).1) apart_rootNames
    fun _ _ _ _ => rfl

/-! ## 4. The forest of a sequence of declarations -/

/-- The forest has a node for each name of the sequence, in its place. -/
structure Places (ds forest : List ClassDeclaration) : Prop where
  /-- No name has two nodes, in one tree or in two. -/
  nodup : ((nodesAll forest).map (·.name)).Nodup
  /-- The names are those of the sequence. -/
  mem_iff : ∀ n, n ∈ (nodesAll forest).map (·.name) ↔ n ∈ ds.map (·.name)
  /-- But for what is nested in it, a node is the last declaration of its name. -/
  last : ∀ e ∈ nodesAll forest,
    (ds.filter (·.name = e.name)).getLast? = some { e with nested := [] }
  /-- The children of a node are the declarations that it encloses directly. -/
  child_iff : ∀ n p, (∃ e ∈ nodesAll forest, e.name = p ∧ n ∈ e.nested.map (·.name)) ↔
    n ∈ ds.map (·.name) ∧ p ∈ ds.map (·.name) ∧ QualifiedName.enclosing? n = some p
  /-- The roots are the declarations that have no enclosing one in the sequence. -/
  root_iff : ∀ n, n ∈ forest.map (·.name) ↔
    n ∈ ds.map (·.name) ∧ ∀ p, QualifiedName.enclosing? n = some p → p ∉ ds.map (·.name)

theorem nested_of_ofList {ds : List ClassDeclaration} (hbare : ∀ d ∈ ds, d.nested = []) {n : String}
    (h : (ofList ds).get? n = some d) : d.nested = [] := by
  rw [get?_ofList] at h
  exact hbare d (List.mem_filter.mp (List.mem_of_getLast? h)).1

theorem inside_ofList {ds : List ClassDeclaration} {n p : String} :
    (ofList ds).Inside n p ↔
      n ∈ ds.map (·.name) ∧ p ∈ ds.map (·.name) ∧ QualifiedName.enclosing? n = some p :=
  ⟨fun h => ⟨contains_ofList.mp h.inner, contains_ofList.mp h.outer, h.enclosing⟩,
    fun ⟨hn, hp, h⟩ => ⟨contains_ofList.mpr hn, contains_ofList.mpr hp, h⟩⟩

theorem places_of_gathered {ds : List ClassDeclaration}
    (h : Gathered (ofList ds) left rest (ofList ds).rootNames ts) : Places ds ts := by
  have hmem : ∀ n, n ∈ (nodesAll ts).map (·.name) ↔ n ∈ ds.map (·.name) := by
    intro n
    rw [h.mem_iff, ← contains_ofList]
    refine ⟨?_, exists_root⟩
    rintro ⟨r, hr, hwithin⟩
    exact hwithin.contains (mem_rootNames.mp hr).1
  refine ⟨h.nodup, hmem, fun e he => ?_, fun n p => ?_, fun n => ?_⟩
  · rw [← get?_ofList]
    exact (h.complete e he).found
  · rw [← inside_ofList]
    constructor
    · rintro ⟨e, he, rfl, hn⟩
      rw [(h.complete e he).nested_names] at hn
      exact mem_childNames.mp hn
    · intro hinside
      obtain ⟨e, he, rfl⟩ := List.mem_map.mp ((hmem p).mpr (contains_ofList.mp hinside.outer))
      refine ⟨e, he, rfl, ?_⟩
      rw [(h.complete e he).nested_names]
      exact mem_childNames.mpr hinside
  · rw [h.names_eq, mem_rootNames, contains_ofList]
    refine and_congr_right fun hn => forall_congr' fun p => ?_
    rw [inside_ofList]
    tauto

/-- **The forest of a sequence of declarations** has exactly one node for each name, which is the
last declaration of the name and has its place where the name says.  Every lookup on the way finds
its declaration: the roots, and the children of each node, are all those that were looked up, and
in the end nothing is left. -/
theorem places_forest (ds : List ClassDeclaration) (hbare : ∀ d ∈ ds, d.nested = []) :
    let c := ofList ds
    Places ds c.forest ∧
      c.forest.map (·.name) = c.rootNames ∧
      (∀ e ∈ nodesAll c.forest, e.nested.map (·.name) = c.childNames e.name) ∧
      (c.nestAll c c.rootNames).rest.isEmpty = true := by
  have h := gathered_forest (c := ofList ds) fun _ _ => nested_of_ofList hbare
  refine ⟨places_of_gathered h, h.names_eq, fun e he => (h.complete e he).nested_names, ?_⟩
  refine isEmpty_of_get? fun n => ?_
  by_cases hn : (ofList ds).contains n = true
  · obtain ⟨r, hr, hwithin⟩ := exists_root hn
    exact h.gone n r hr hwithin
  · rw [h.kept n fun r hr hwithin => hn (hwithin.contains (mem_rootNames.mp hr).1)]
    simpa [contains] using hn

/-- A class that is inserted twice, a class in it, and one whose enclosing class is missing: the
last one is a root, although a class further out is there. -/
theorem places_forest_of_missing_outer :
    let ds : List ClassDeclaration := [.empty "a.A.B.C" .classType, .empty "a.A" .interfaceType,
      .empty "a.A.D" .classType, .empty "a.A" .classType]
    (∀ d ∈ ds, d.nested = []) ∧ Places ds (ofList ds).forest ∧
      (ofList ds).forest.map (·.name) = ["a.A", "a.A.B.C"] := by
  intro ds
  have hbare : ∀ d ∈ ds, d.nested = [] := by simp [ds, ClassDeclaration.empty]
  have hroots : (ofList ds).rootNames = ["a.A", "a.A.B.C"] := by decide +kernel
  obtain ⟨hplaces, hnames, -⟩ := places_forest ds hbare
  exact ⟨hbare, hplaces, hnames.trans hroots⟩

end Collection

end ApiPages
