/-
# What a collection holds, and where

A collection is determined by what is found under each name: adding a declaration changes what is
found under its name (`get?_insert`), taking one out leaves nothing there (`get?_erase`), and
after a list of declarations has been added the last one of each name is found (`get?_ofList`).

The places are a relation between names (`Inside`).  It leads from a name to one shorter name at
most, so the names above a given one form a chain, and two names with the same place have nothing
below them in common (`not_within_both`).  That is why the trees of different roots, and those of
the children of a declaration, are apart.
-/
import Mathlib.Data.List.Induction
import Mathlib.Logic.Relation
import ApiPages.Forest
import ApiPages.Proofs.Declaration.QualifiedName

namespace ApiPages.Collection

variable {c : Collection} {d : ClassDeclaration} {ds : List ClassDeclaration} {name n : String}

/-! ## 1. What is found under a name -/

theorem name_of_get? (h : c.get? name = some d) : d.name = name := by
  simpa using List.find?_some h

theorem find?_insertEntry (es : List ClassDeclaration) :
    (insertEntry d es).find? (·.name == n) =
      if d.name = n then some d else es.find? (·.name == n) := by
  induction es with
  | nil => by_cases hd : d.name = n <;> simp [insertEntry, hd]
  | cons e rest ih =>
    simp only [insertEntry]
    split
    · by_cases hd : d.name = n <;> simp [List.find?_cons, hd]
    · split
      · rename_i heq
        by_cases hd : d.name = n
        · simp [hd]
        · simp [hd, ← heq]
      · rename_i hne
        by_cases he : e.name = n
        · have hd : d.name ≠ n := fun h => hne (h.trans he.symm)
          simp [he, hd]
        · simp [he, ih]

theorem get?_insert : (c.insert d).get? n = if d.name = n then some d else c.get? n :=
  find?_insertEntry c.entries

theorem get?_erase : (c.erase name).get? n = if n = name then none else c.get? n := by
  rw [get?, erase, List.find?_filter]
  split
  · rename_i hn
    simp [List.find?_eq_none, hn]
  · rename_i hn
    rw [get?]
    congr 1
    funext d
    by_cases hd : d.name = n <;> simp [hd, hn]

/-- **The last declaration of a name is the one that is found.** -/
theorem get?_ofList : (ofList ds).get? n = (ds.filter (·.name = n)).getLast? := by
  induction ds using List.reverseRecOn with
  | nil => rfl
  | append_singleton ds d ih =>
    have hfold : ofList (ds ++ [d]) = (ofList ds).insert d := by simp [ofList]
    rw [hfold, get?_insert, ih, List.filter_append]
    by_cases hd : d.name = n <;> simp [hd]

theorem contains_iff : c.contains n = true ↔ n ∈ c.entries.map (·.name) := by
  simp [contains, get?, List.find?_isSome]

theorem contains_ofList : (ofList ds).contains n = true ↔ n ∈ ds.map (·.name) := by
  simp [contains, get?_ofList]

/-- A collection in which nothing is found is empty. -/
theorem isEmpty_of_get? (h : ∀ n, c.get? n = none) : c.isEmpty = true := by
  rw [isEmpty, List.isEmpty_iff, List.eq_nil_iff_forall_not_mem]
  intro d hd
  have hfound : c.contains d.name = true := contains_iff.mpr (List.mem_map_of_mem hd)
  simp [contains, h d.name] at hfound

theorem nodup_names : (c.entries.map (·.name)).Nodup := by
  rw [List.Nodup, List.pairwise_map]
  exact c.sorted.imp fun {_ _} hlt => String.ne_of_lt hlt

/-! ## 2. Places -/

/-- The declaration named `n` has its place in the one named `p`. -/
structure Inside (c : Collection) (n p : String) : Prop where
  inner : c.contains n = true
  outer : c.contains p = true
  enclosing : QualifiedName.enclosing? n = some p

/-- The declaration named `n` is the one named `a`, or has its place in it at some depth. -/
def Within (c : Collection) (n a : String) : Prop := Relation.ReflTransGen c.Inside n a

variable {a b p : String}

theorem parent?_eq_some_iff :
    c.parent? d = some p ↔ QualifiedName.enclosing? d.name = some p ∧ c.contains p = true := by
  simp [parent?, ClassDeclaration.enclosing?, Option.filter_eq_some_iff]

theorem mem_childNames : n ∈ c.childNames p ↔ c.Inside n p := by
  simp only [childNames, List.mem_map, List.mem_filter, beq_iff_eq, parent?_eq_some_iff]
  constructor
  · rintro ⟨d, ⟨hd, henclosing, hp⟩, rfl⟩
    exact ⟨contains_iff.mpr (List.mem_map_of_mem hd), hp, henclosing⟩
  · rintro ⟨hn, hp, henclosing⟩
    obtain ⟨d, hd, rfl⟩ := List.mem_map.mp (contains_iff.mp hn)
    exact ⟨d, ⟨hd, henclosing, hp⟩, rfl⟩

theorem mem_rootNames : n ∈ c.rootNames ↔ c.contains n = true ∧ ∀ p, ¬ c.Inside n p := by
  simp only [rootNames, List.mem_map, List.mem_filter, beq_iff_eq,
    Option.eq_none_iff_forall_ne_some, ne_eq, parent?_eq_some_iff]
  constructor
  · rintro ⟨d, ⟨hd, hroot⟩, rfl⟩
    exact ⟨contains_iff.mpr (List.mem_map_of_mem hd),
      fun p hinside => hroot p ⟨hinside.enclosing, hinside.outer⟩⟩
  · rintro ⟨hn, hroot⟩
    obtain ⟨d, hd, rfl⟩ := List.mem_map.mp (contains_iff.mp hn)
    exact ⟨d, ⟨hd, fun p ⟨henclosing, hp⟩ => hroot p ⟨hn, hp, henclosing⟩⟩, rfl⟩

theorem Inside.unique {q : String} (hp : c.Inside n p) (hq : c.Inside n q) : p = q :=
  Option.some.inj (hp.enclosing.symm.trans hq.enclosing)

theorem Inside.length_lt (h : c.Inside n p) : p.length < n.length :=
  QualifiedName.length_lt_of_enclosing? h.enclosing

theorem Within.length_le (h : c.Within n a) : a.length ≤ n.length := by
  induction h with
  | refl => exact Nat.le_refl _
  | tail _ hinside ih => exact Nat.le_trans (Nat.le_of_lt hinside.length_lt) ih

/-- **No declaration has its place in itself**, at any depth. -/
theorem Inside.not_within (h : c.Inside n p) : ¬ c.Within p n :=
  fun hwithin => absurd hwithin.length_le (Nat.not_le.mpr h.length_lt)

theorem within_iff : c.Within n a ↔ n = a ∨ ∃ m ∈ c.childNames a, c.Within n m := by
  simp only [Within, Relation.ReflTransGen.cases_tail_iff c.Inside n a, mem_childNames, eq_comm,
    and_comm]

/-- The names above a given one form a chain. -/
theorem Within.total (ha : c.Within n a) (hb : c.Within n b) : c.Within a b ∨ c.Within b a :=
  Relation.ReflTransGen.total_of_right_unique (fun _ _ _ => Inside.unique) ha hb

/-- A name with the place of another one is not below it: the other one would be below itself. -/
theorem not_within_of_ne (hne : a ≠ b) (hplace : ∀ p, c.Inside a p → c.Inside b p) :
    ¬ c.Within a b := by
  intro hab
  rcases Relation.ReflTransGen.cases_head hab with heq | ⟨p, hap, hpb⟩
  · exact hne heq
  · exact (hplace p hap).not_within hpb

/-- **Two names with the same place have nothing below them in common.** -/
theorem not_within_both (hne : a ≠ b) (hsame : ∀ p, c.Inside a p ↔ c.Inside b p)
    (ha : c.Within n a) : ¬ c.Within n b := by
  intro hb
  rcases ha.total hb with hab | hba
  · exact not_within_of_ne hne (fun p => (hsame p).mp) hab
  · exact not_within_of_ne hne.symm (fun p => (hsame p).mpr) hba

/-- Nothing is in the trees of two of the names. -/
def Apart (c : Collection) (names : List String) : Prop :=
  names.Pairwise fun a b => ∀ n, c.Within n a → ¬ c.Within n b

/-- Names that all have the same place are apart. -/
theorem apart_of_same_place {names : List String} (hnames : names.Sublist (c.entries.map (·.name)))
    (hsame : ∀ a ∈ names, ∀ b ∈ names, ∀ p, c.Inside a p ↔ c.Inside b p) : c.Apart names :=
  (nodup_names.sublist hnames).imp_of_mem fun ha hb hne _ =>
    not_within_both hne (hsame _ ha _ hb)

theorem apart_childNames (p : String) : c.Apart (c.childNames p) := by
  refine apart_of_same_place (List.filter_sublist.map _) fun a ha b hb q => ?_
  rw [mem_childNames] at ha hb
  exact ⟨fun h => ha.unique h ▸ hb, fun h => hb.unique h ▸ ha⟩

theorem apart_rootNames : c.Apart c.rootNames := by
  refine apart_of_same_place (List.filter_sublist.map _) fun a ha b hb q => ?_
  rw [mem_rootNames] at ha hb
  exact iff_of_false (ha.2 q) (hb.2 q)

/-- **Every declaration is in the tree of a root.** -/
theorem exists_root (hn : c.contains n = true) : ∃ r ∈ c.rootNames, c.Within n r := by
  induction hlen : n.length using Nat.strongRecOn generalizing n with
  | ind k ih =>
    by_cases hroot : ∃ p, c.Inside n p
    · obtain ⟨p, hp⟩ := hroot
      obtain ⟨r, hr, hwithin⟩ := ih p.length (hlen ▸ hp.length_lt) hp.outer rfl
      exact ⟨r, hr, Relation.ReflTransGen.head hp hwithin⟩
    · exact ⟨n, mem_rootNames.mpr ⟨hn, not_exists.mp hroot⟩, Relation.ReflTransGen.refl⟩

theorem Within.contains (h : c.Within n a) (ha : c.contains a = true) : c.contains n = true := by
  rcases Relation.ReflTransGen.cases_head h with rfl | ⟨p, hinside, -⟩
  · exact ha
  · exact hinside.inner

end ApiPages.Collection
