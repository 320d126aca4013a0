/-
# The forest is in order

A collection is determined by what is found under each name (`ext_get?`), for its entries are in
the order of their names.  So sequences of declarations with the same last declaration of each name
give the same collection, and the same forest.

The roots of the forest and the declarations nested in a node come in the order in which the
collection has them, which is also the order of the bytes of their names (`Ascending`).  Hence the
roots themselves, with all that is nested in them, are the entries of a collection
(`entries_ofList`).  None of them has its place in another one, so nothing is moved when the forest
of that collection is built (`forest_of_flat`).
-/
import ApiPages.Proofs.Forest.Assembly
import ApiPages.Proofs.Text.ByteOrder
import Mathlib.Data.List.Nodup
import Mathlib.Data.String.Basic

namespace ApiPages.Collection

open ClassDeclaration

variable {c c' all left : Collection} {d : ClassDeclaration} {ds : List ClassDeclaration}
  {n name : String}

/-! ## 1. A collection is what is found in it -/

/-- The entries are the declarations that are found under their names. -/
theorem mem_entries_iff : d ∈ c.entries ↔ c.get? d.name = some d := by
  constructor
  · intro hd
    have hcontains : c.contains d.name = true := contains_iff.mpr (List.mem_map_of_mem hd)
    obtain ⟨e, he⟩ := Option.isSome_iff_exists.mp hcontains
    have hentry : e ∈ c.entries := List.mem_of_find?_eq_some he
    rw [he, List.inj_on_of_nodup_map nodup_names hentry hd (name_of_get? he)]
  · exact List.mem_of_find?_eq_some

theorem nodup_entries (c : Collection) : c.entries.Nodup := nodup_names.of_map

/-- **Two collections in which the same is found are equal.** -/
theorem ext_get? (h : ∀ n, c.get? n = c'.get? n) : c = c' := by
  obtain ⟨es, hes⟩ := c
  obtain ⟨es', hes'⟩ := c'
  have hmem : ∀ d, d ∈ es ↔ d ∈ es' := by
    intro d
    have hd := mem_entries_iff (c := ⟨es, hes⟩) (d := d)
    rw [h d.name] at hd
    exact hd.trans mem_entries_iff.symm
  have hperm : es.Perm es' :=
    (List.perm_ext_iff_of_nodup (nodup_entries ⟨es, hes⟩) (nodup_entries ⟨es', hes'⟩)).mpr hmem
  have heq : es = es' := hperm.eq_of_pairwise
    (fun d e _ _ hde hed => absurd (String.lt_trans hde hed) (String.lt_irrefl _)) hes hes'
  subst heq
  rfl

/-- **Sequences with the same last declaration of each name give the same collection.** -/
theorem ofList_eq_of_last {ds' : List ClassDeclaration}
    (h : ∀ n, (ds'.filter (·.name = n)).getLast? = (ds.filter (·.name = n)).getLast?) :
    ofList ds' = ofList ds := by
  refine ext_get? fun n => ?_
  rw [get?_ofList, get?_ofList, h n]

/-! ## 2. Names in order -/

/-- Declarations of which each one has a name with smaller bytes than those after it. -/
def Ascending (ds : List ClassDeclaration) : Prop :=
  ds.Pairwise fun d e => Text.Utf8.encode d.name.toList < Text.Utf8.encode e.name.toList

theorem ascending_of_sorted (h : (ds.map (·.name)).Pairwise (· < ·)) : Ascending ds := by
  rw [List.pairwise_map] at h
  exact h.imp fun {d e} hlt => Text.Utf8.encode_lt_encode (String.lt_iff_toList_lt.mp hlt)

theorem sorted_names : (c.entries.map (·.name)).Pairwise (· < ·) := by
  rw [List.pairwise_map]
  exact c.sorted

theorem sorted_rootNames : c.rootNames.Pairwise (· < ·) :=
  sorted_names.sublist (List.filter_sublist.map _)

theorem sorted_childNames : (c.childNames name).Pairwise (· < ·) :=
  sorted_names.sublist (List.filter_sublist.map _)

/-- A declaration whose name comes last is put at the end. -/
theorem insertEntry_of_last {es : List ClassDeclaration} (h : ∀ e ∈ es, e.name < d.name) :
    insertEntry d es = es ++ [d] := by
  induction es with
  | nil => rfl
  | cons e rest ih =>
    have hlt := h e List.mem_cons_self
    have hrest := ih fun e he => h e (List.mem_cons_of_mem _ he)
    have hge : ¬ d.name < e.name := fun hgt => String.lt_irrefl _ (String.lt_trans hlt hgt)
    rw [insertEntry, if_neg hge, if_neg (String.ne_of_lt hlt).symm, hrest]
    rfl

/-- **Declarations in the order of their names are the entries of their collection.** -/
theorem entries_ofList (h : (ds.map (·.name)).Pairwise (· < ·)) : (ofList ds).entries = ds := by
  induction ds using List.reverseRecOn with
  | nil => rfl
  | append_singleton ds d ih =>
    rw [List.map_append, List.pairwise_append] at h
    obtain ⟨hds, -, hlast⟩ := h
    have hfold : ofList (ds ++ [d]) = (ofList ds).insert d := by simp [ofList]
    have hentries : ((ofList ds).insert d).entries = insertEntry d (ofList ds).entries := rfl
    rw [hfold, hentries, ih hds]
    refine insertEntry_of_last fun e he => ?_
    exact hlast e.name (List.mem_map_of_mem he) d.name (by simp)

/-! ## 3. Collections without places -/

/-- Where no declaration has its place in another one, a tree is the declaration alone, and no other
one is taken out. -/
theorem nest_of_flat (hflat : ∀ p, all.childNames p = []) (left : Collection) (name : String) :
    (all.nest left name).value = left.get? name ∧
      ∀ n, n ≠ name → (all.nest left name).rest.get? n = left.get? n := by
  cases hd : left.get? name with
  | none =>
    rw [nest]
    split
    · exact ⟨rfl, fun _ _ => rfl⟩
    · rename_i d hsome
      rw [hd] at hsome
      cases hsome
  | some d =>
    obtain ⟨hvalue, hrest⟩ := nest_of_get? all hd
    rw [hflat name, nestAll] at hvalue hrest
    constructor
    · rw [hvalue, List.append_nil]
      cases d
      rfl
    · intro n hn
      rw [hrest, get?_erase, if_neg hn]

/-- The trees of such declarations are the declarations. -/
theorem nestAll_of_flat (hflat : ∀ p, all.childNames p = []) (left : Collection)
    {names : List String} (hnames : names.Nodup) :
    (all.nestAll left names).value = names.filterMap left.get? := by
  induction names generalizing left with
  | nil => rw [nestAll, List.filterMap_nil]
  | cons name names ih =>
    obtain ⟨hnew, hnames⟩ := List.nodup_cons.mp hnames
    obtain ⟨hvalue, hrest⟩ := nest_of_flat hflat left name
    have hcons : (all.nestAll left (name :: names)).value = (all.nest left name).value.toList ++
        (all.nestAll (all.nest left name).rest names).value := by rw [nestAll]
    have hothers : names.filterMap (all.nest left name).rest.get? = names.filterMap left.get? := by
      refine List.filterMap_congr fun n hn => hrest n ?_
      rintro rfl
      exact hnew hn
    rw [hcons, hvalue, ih _ hnames, hothers]
    cases hd : left.get? name <;> simp [hd]

/-- The declarations that are found under the names of the entries are the entries. -/
theorem filterMap_get? (c : Collection) :
    (c.entries.map (·.name)).filterMap c.get? = c.entries := by
  rw [List.filterMap_map]
  have hfound : ∀ d ∈ c.entries, (c.get? ∘ (·.name)) d = some d := fun d hd => mem_entries_iff.mp hd
  rw [List.filterMap_congr hfound, List.filterMap_some]

/-- **A collection without places is its own forest.** -/
theorem forest_of_flat (hflat : ∀ n p, ¬ c.Inside n p) : c.forest = c.entries := by
  have hchildren : ∀ p, c.childNames p = [] := by
    intro p
    rw [List.eq_nil_iff_forall_not_mem]
    intro n hn
    exact hflat n p (mem_childNames.mp hn)
  have hroots : c.rootNames = c.entries.map (·.name) := by
    rw [rootNames, List.filter_eq_self.mpr]
    intro d hd
    rw [beq_iff_eq, Option.eq_none_iff_forall_ne_some]
    intro p hp
    obtain ⟨henclosing, houter⟩ := parent?_eq_some_iff.mp hp
    exact hflat d.name p ⟨contains_iff.mpr (List.mem_map_of_mem hd), houter, henclosing⟩
  rw [forest, hroots, nestAll_of_flat hchildren c nodup_names, filterMap_get?]

/-- No root has its place in another root. -/
theorem not_inside_of_roots (h : ds.map (·.name) = c.rootNames) (n p : String) :
    ¬ (ofList ds).Inside n p := by
  intro hinside
  obtain ⟨hn, hp, henclosing⟩ := inside_ofList.mp hinside
  rw [h, mem_rootNames] at hn hp
  exact hn.2 p ⟨hn.1, hp.1, henclosing⟩

/-! ## 4. The forest of a sequence of declarations -/

/-- **The forest of a sequence of declarations is determined by the last declaration of each
name.**  It is in the order of names at every depth, and gathering its roots again changes
nothing. -/
theorem forest_canonical (ds : List ClassDeclaration) (hbare : ∀ d ∈ ds, d.nested = []) :
    (∀ ds', (∀ n, (ds'.filter (·.name = n)).getLast? = (ds.filter (·.name = n)).getLast?) →
      (ofList ds').forest = (ofList ds).forest) ∧
    Ascending (ofList ds).forest ∧
    (∀ e ∈ nodesAll (ofList ds).forest, Ascending e.nested) ∧
    (ofList (ofList ds).forest).forest = (ofList ds).forest := by
  have h := gathered_forest (c := ofList ds) fun _ _ => nested_of_ofList hbare
  have hsorted : ((ofList ds).forest.map (·.name)).Pairwise (· < ·) := by
    rw [h.names_eq]
    exact sorted_rootNames
  refine ⟨?same, ascending_of_sorted hsorted, ?nested, ?again⟩
  case same =>
    intro ds' hlast
    rw [ofList_eq_of_last hlast]
  case nested =>
    intro e he
    refine ascending_of_sorted ?_
    rw [(h.complete e he).nested_names]
    exact sorted_childNames
  case again =>
    rw [forest_of_flat (not_inside_of_roots h.names_eq), entries_ofList hsorted]

/-- A class, a class in it and one in that one, in two orders, once with the outer class inserted
twice. -/
theorem forest_canonical_of_two_orders :
    let outer : ClassDeclaration := .empty "a.A" .classType
    let inner : ClassDeclaration := .empty "a.A.B" .interfaceType
    let innermost : ClassDeclaration := .empty "a.A.B.C" .annotationType
    let ds := [outer, inner, innermost]
    let ds' := [innermost, .empty "a.A" .interfaceType, inner, outer]
    (∀ d ∈ ds, d.nested = []) ∧
      (∀ n, (ds'.filter (·.name = n)).getLast? = (ds.filter (·.name = n)).getLast?) ∧
      (ofList ds').forest = (ofList ds).forest ∧
      (ofList (ofList ds).forest).forest = (ofList ds).forest := by
  intro outer inner innermost ds ds'
  have hbare : ∀ d ∈ ds, d.nested = [] := by
    simp [ds, outer, inner, innermost, ClassDeclaration.empty]
  have hlast : ∀ n, (ds'.filter (·.name = n)).getLast? = (ds.filter (·.name = n)).getLast? := by
    intro n
    by_cases houter : "a.A" = n
    · subst houter
      rfl
    · by_cases hinner : "a.A.B" = n
      · subst hinner
        rfl
      · by_cases hinnermost : "a.A.B.C" = n
        · subst hinnermost
          rfl
        · simp [ds, ds', outer, inner, innermost, ClassDeclaration.empty, houter, hinner,
            hinnermost]
  obtain ⟨hsame, -, -, hagain⟩ := forest_canonical ds hbare
  exact ⟨hbare, hlast, hsame ds' hlast, hagain⟩

end ApiPages.Collection
