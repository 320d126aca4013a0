/-
# Every page of an index is accounted for

With failures kept, a run over an index never ends early: what it has after some references is the
collection of the declarations that were read and the list of the failures, both in index
order (`foldlM_advance`).  So each reference of the index is in the result: as a failure, or in the
forest, unless a later one of its name was read as well (`Accounts`).
-/
import Mathlib.Data.List.Dedup
import ApiPages.Library
import ApiPages.Proofs.Forest.Assembly
import ApiPages.Proofs.Page

namespace ApiPages

/-! ## 1. The page of a reference -/

/-- The page that a failure of a reference is reported against. -/
def ClassReference.page (r : ClassReference) : String :=
  match r.qualifiedName with
  | .ok name => name
  | .error _ => r.name

/-- **Where a link has a name, it has a path.** -/
theorem ClassReference.isSome_path? {r : ClassReference} {name : String}
    (h : r.qualifiedName = .ok name) : (Link.path? r.link).isSome = true := by
  cases hpath : Link.path? r.link with
  | some path => rfl
  | none => simp [qualifiedName, Link.resolve, hpath] at h

/-- A declaration has the name of its page, and nothing is nested in it. -/
theorem ClassDeclaration.bare_of_ofPage {layout : Layout} {limit : Option Nat} {name : String}
    {page : Element} {d : ClassDeclaration} (h : ofPage layout limit name page = .ok d) :
    d.name = name ∧ d.nested = [] := by
  obtain ⟨header, kind, members, -, -, rfl⟩ := exists_of_ofPage h
  exact ⟨rfl, rfl⟩

theorem ClassDeclaration.inPage_of_ofPage {layout : Layout} {limit : Option Nat} {name : String}
    {page : Element} {f : Failure} (h : ofPage layout limit name page = .error f) :
    ∃ cause, f = .inPage name cause := by
  unfold ofPage at h
  cases hread : read layout limit name page with
  | ok d =>
    rw [hread] at h
    cases h
  | error cause =>
    rw [hread] at h
    exact ⟨cause, (Except.error.inj h).symm⟩

namespace Library

variable {source : PageSource} {layout : Layout} {limit : Option Nat} {r : ClassReference}
  {d : ClassDeclaration} {f : Failure}

/-- The reading of a reference that has a name is that of the page there. -/
theorem readClass_of_qualifiedName (source : PageSource) (layout : Layout) (limit : Option Nat)
    {name : String} (hname : r.qualifiedName = .ok name) :
    ∃ path, Link.path? r.link = some path ∧
      readClass source layout limit r = (source path).mapError (.inPage name) >>= fun page =>
        ClassDeclaration.ofPage layout limit name (Element.ofPage page) := by
  obtain ⟨path, hpath⟩ := Option.isSome_iff_exists.mp (ClassReference.isSome_path? hname)
  refine ⟨path, hpath, ?_⟩
  simp only [readClass, hname, hpath]
  rfl

theorem bare_of_readClass (h : readClass source layout limit r = .ok d) :
    r.qualifiedName = .ok d.name ∧ d.nested = [] := by
  obtain ⟨name, hname, -⟩ := ok_of_bind h
  have hname := ok_of_mapError hname
  obtain ⟨path, -, hread⟩ := readClass_of_qualifiedName source layout limit hname
  obtain ⟨page, -, hpage⟩ := ok_of_bind (hread.symm.trans h)
  obtain ⟨rfl, hnested⟩ := ClassDeclaration.bare_of_ofPage hpage
  exact ⟨hname, hnested⟩

/-- **Every failure is reported against the page of its reference.** -/
theorem inPage_of_readClass (h : readClass source layout limit r = .error f) :
    ∃ cause, f = .inPage r.page cause := by
  cases hname : r.qualifiedName with
  | error cause =>
    simp only [readClass, hname] at h
    exact ⟨cause, by simpa [ClassReference.page, hname] using (Except.error.inj h).symm⟩
  | ok name =>
    have hpage : r.page = name := by simp [ClassReference.page, hname]
    obtain ⟨path, -, hread⟩ := readClass_of_qualifiedName source layout limit hname
    rw [hread] at h
    rw [hpage]
    cases hsource : source path with
    | error cause =>
      rw [hsource] at h
      exact ⟨cause, (Except.error.inj h).symm⟩
    | ok text =>
      rw [hsource] at h
      exact ClassDeclaration.inPage_of_ofPage h

/-! ## 2. The run over an index -/

/-- The failure of a reading, if it fails. -/
def failure? {α : Type} : Except Failure α → Option Failure
  | .ok _ => none
  | .error failure => some failure

variable {read : ClassReference → Except Failure ClassDeclaration}

/-- The declarations that are read, in index order. -/
def declared (read : ClassReference → Except Failure ClassDeclaration)
    (references : List ClassReference) : List ClassDeclaration :=
  references.filterMap fun r => (read r).toOption

/-- The failures, in index order. -/
def failed (read : ClassReference → Except Failure ClassDeclaration)
    (references : List ClassReference) : List Failure :=
  references.filterMap fun r => failure? (read r)

theorem mem_declared {references : List ClassReference} :
    d ∈ declared read references ↔ ∃ r ∈ references, read r = .ok d := by
  simp [declared, List.mem_filterMap, toOption_eq_some_iff]

/-- **What a run has after some references**: the declarations that were read are in the collection,
and the failures are behind those that there were. -/
theorem foldlM_advance (read : ClassReference → Except Failure ClassDeclaration)
    (references : List ClassReference) (p : Progress) :
    references.foldlM (fun p r => advance false p (read r)) p = .ok {
      collection := (declared read references).foldl .insert p.collection
      failures := p.failures ++ failed read references } := by
  induction references generalizing p with
  | nil => simp [declared, failed, pure, Except.pure]
  | cons r rest ih =>
    rw [List.foldlM_cons]
    cases hread : read r with
    | ok d =>
      have hstep : advance false p (.ok d) =
          .ok { p with collection := p.collection.insert d } := rfl
      rw [hstep]
      exact (ih _).trans (by simp [declared, failed, hread, failure?, Except.toOption])
    | error f =>
      have hstep : advance false p (.error f) =
          .ok { p with failures := p.failures ++ [f] } := rfl
      rw [hstep]
      exact (ih _).trans (by simp [declared, failed, hread, failure?, Except.toOption])

/-- The last declaration of a name comes from the last reference from which one was read. -/
theorem exists_of_getLast?_declared {references : List ClassReference} {n : String}
    (h : ((declared read references).filter (·.name = n)).getLast? = some d) :
    ∃ before r after, references = before ++ r :: after ∧ read r = .ok d ∧
      ∀ r' ∈ after, ∀ d', read r' = .ok d' → d'.name ≠ n := by
  rw [declared, List.filter_filterMap, List.getLast?_filterMap, List.findSome?_eq_some_iff] at h
  obtain ⟨after, r, before, hsplit, hr, hafter⟩ := h
  refine ⟨before.reverse, r, after.reverse, ?_, ?_, ?_⟩
  · rw [← List.reverse_reverse references, hsplit]
    simp
  · exact toOption_eq_some_iff.mp (Option.filter_eq_some_iff.mp hr).1
  · intro r' hr' d' hread hname
    have hnone := hafter r' (List.mem_reverse.mp hr')
    simp [hread, hname, Except.toOption] at hnone

/-! ## 3. The account -/

/-- The names of the references from which a declaration was read, in index order. -/
def names (read : ClassReference → Except Failure ClassDeclaration)
    (references : List ClassReference) : List String :=
  (references.filter fun r => (read r).toOption.isSome).filterMap (·.qualifiedName.toOption)

/-- **What becomes of the references of an index.** -/
structure Accounts (read : ClassReference → Except Failure ClassDeclaration)
    (references : List ClassReference) (result : Reconstruction) : Prop where
  /-- The failures are those of the references that fail, in index order. -/
  failures_eq : result.failures = failed read references
  /-- A failure is reported against the page of its reference. -/
  inPage : ∀ r ∈ references, ∀ f, read r = .error f → ∃ cause, f = .inPage r.page cause
  /-- The forest has each name once, at whatever depth. -/
  nodup : ((ClassDeclaration.nodesAll result.declarations).map (·.name)).Nodup
  /-- The names are those of the references from which a declaration was read. -/
  mem_iff : ∀ n, n ∈ (ClassDeclaration.nodesAll result.declarations).map (·.name) ↔
    n ∈ names read references
  /-- But for what is nested in it, a node is what was read from the last of the references with
  its name; the references of this name behind that one fail. -/
  last : ∀ e ∈ ClassDeclaration.nodesAll result.declarations,
    ∃ before r after, references = before ++ r :: after ∧ r.qualifiedName = .ok e.name ∧
      read r = .ok { e with nested := [] } ∧
      ∀ r' ∈ after, r'.qualifiedName = .ok e.name → ∃ f, read r' = .error f
  count_eq : result.count = (names read references).dedup.length

/-- What is needed of the reading of a page. -/
structure Named (read : ClassReference → Except Failure ClassDeclaration) : Prop where
  bare : ∀ r d, read r = .ok d → r.qualifiedName = .ok d.name ∧ d.nested = []
  inPage : ∀ r f, read r = .error f → ∃ cause, f = .inPage r.page cause

theorem Named.readClass (source : PageSource) (layout : Layout) (limit : Option Nat) :
    Named (readClass source layout limit) where
  bare _ _ := bare_of_readClass
  inPage _ _ := inPage_of_readClass

/-- The names of the references are those of the declarations. -/
theorem Named.names_eq (h : Named read) (references : List ClassReference) :
    names read references = (declared read references).map (·.name) := by
  induction references with
  | nil => rfl
  | cons r rest ih =>
    cases hread : read r with
    | ok d =>
      have hname := (h.bare r d hread).1
      simpa [names, declared, hread, hname, Except.toOption] using ih
    | error f => simpa [names, declared, hread, Except.toOption] using ih

theorem Named.accounts (h : Named read) (layout : Layout) (references : List ClassReference) :
    Accounts read references {
      layout
      declarations := (Collection.ofList (declared read references)).forest
      failures := failed read references } := by
  have hbare : ∀ d ∈ declared read references, d.nested = [] := fun d hd =>
    have ⟨r, _, hread⟩ := mem_declared.mp hd
    (h.bare r d hread).2
  have hplaces := Collection.places_of_gathered
    (Collection.gathered_forest fun _ _ => Collection.nested_of_ofList hbare)
  have hmem : ∀ n, n ∈ (ClassDeclaration.nodesAll
      (Collection.ofList (declared read references)).forest).map (·.name) ↔
        n ∈ names read references := by
    intro n
    rw [hplaces.mem_iff, h.names_eq]
  refine {
    failures_eq := rfl
    inPage := fun r _ f hf => h.inPage r f hf
    nodup := hplaces.nodup
    mem_iff := hmem
    last := ?last
    count_eq := ?count }
  case last =>
    intro e he
    obtain ⟨before, r, after, hsplit, hread, hafter⟩ :=
      exists_of_getLast?_declared (hplaces.last e he)
    refine ⟨before, r, after, hsplit, (h.bare r _ hread).1, hread, fun r' hr' hname => ?_⟩
    cases hread' : read r' with
    | error f => exact ⟨f, rfl⟩
    | ok d =>
      -- a declaration behind the last one would have the same name
      have hsame := Except.ok.inj ((h.bare r' d hread').1.symm.trans hname)
      exact absurd hsame (hafter r' hr' d hread')
  case count =>
    have hperm := (List.perm_ext_iff_of_nodup hplaces.nodup (List.nodup_dedup _)).mpr
      fun n => (hmem n).trans List.mem_dedup.symm
    rw [Reconstruction.count, ← ClassDeclaration.length_nodesAll, ← List.length_map,
      hperm.length_eq]

/-- **Every reference of an index is accounted for, and failures stay where they are.**  With
failures kept, an index that is read gives a result, and no reference with a name is without a
path. -/
theorem accounts_of_index (options : Options) (source : PageSource) (library : String)
    {layout : Layout} {index : String} {references : List ClassReference}
    (hkeep : options.failFast = false)
    (hindex : findIndex source library (candidates options.layout) = .ok (layout, index))
    (hreferences : ClassIndex.ofPage (Element.ofPage index) = .ok references) :
    (∃ result, reconstruct options source library = .ok result ∧ result.layout = layout ∧
      Accounts (readClass source layout options.limit) references result) ∧
    ∀ (r : ClassReference) (name : String), r.qualifiedName = .ok name →
      (Link.path? r.link).isSome = true := by
  refine ⟨⟨_, ?_, rfl, (Named.readClass source layout options.limit).accounts layout references⟩,
    fun _ _ => ClassReference.isSome_path?⟩
  have hfold := foldlM_advance (readClass source layout options.limit) references {}
  simp only [reconstruct, hindex, hreferences, hkeep, bind, Except.bind] at hfold ⊢
  rw [hfold]
  rfl

/-- An index with a link that leads to a class, one that leads nowhere, and one that leads to the
same class by a path that is not there: the class is in the forest, and the two others have
failed. -/
theorem accounts_of_index_with_failures :
    let index := "<table><tr><td class=jd-linkcol><a href=/reference/a/B>B</a><a href=x>C</a>" ++
      "<a href=/reference/a/B.html>D</a></table>"
    let page := "<code class=api-signature>public\n\n\n\nclass</code><div id=jd-content></div>"
    let gone : Failure := .unreadable "" ⟨"", true⟩
    let source : PageSource := fun path =>
      if path = "/reference/a/classes.html" then .ok index
      else if path = "/reference/a/B" then .ok page else .error gone
    let options : Options := {}
    let references : List ClassReference :=
      [⟨"B", "/reference/a/B"⟩, ⟨"C", "x"⟩, ⟨"D", "/reference/a/B.html"⟩]
    options.failFast = false ∧
      findIndex source "a" (candidates options.layout) = .ok (.android, index) ∧
      ClassIndex.ofPage (Element.ofPage index) = .ok references ∧
      ∃ result, reconstruct options source "a" = .ok result ∧ result.layout = .android ∧
        Accounts (readClass source .android none) references result ∧ result.count = 1 ∧
        result.failures = [.inPage "C" (.malformedReference "x"), .inPage "a.B" gone] := by
  intro index page gone source options references
  have hindex : findIndex source "a" (candidates options.layout) = .ok (.android, index) := by
    decide +kernel
  have hreferences : ClassIndex.ofPage (Element.ofPage index) = .ok references := by
    decide +kernel
  obtain ⟨⟨result, hresult, hlayout, haccounts⟩, -⟩ :=
    accounts_of_index options source "a" rfl hindex hreferences
  have hnames : names (readClass source .android none) references = ["a.B"] := by decide +kernel
  have hfailed : failed (readClass source .android none) references =
      [.inPage "C" (.malformedReference "x"), .inPage "a.B" gone] := by decide +kernel
  refine ⟨rfl, hindex, hreferences, result, hresult, hlayout, haccounts, ?_, ?_⟩
  · rw [haccounts.count_eq, hnames]
    rfl
  · rw [haccounts.failures_eq, hfailed]

end Library

end ApiPages
