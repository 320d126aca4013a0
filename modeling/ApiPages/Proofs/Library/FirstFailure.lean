/-
# The first failure of a run

A run that ends at its first failure and a run that keeps failures go through the same references
in the same order, so they differ in nothing before the first failure.  What the first kind of run
returns can be told from the result of the second kind (`Reconstruction.strict`): the result
itself, if no page failed, and else its first failure (`reconstruct_failFast`).

The first failure is that of the first reference that fails, which is determined by the references
up to this one (`FirstFailure`).  So neither the rest of the index nor the pages that it leads to
have any part in it (`FirstFailure.reconstruct_eq`).
-/
import ApiPages.Proofs.Library

namespace ApiPages.Library

/-! ## 1. The first reference that fails -/

variable {read read' : ClassReference → Except Failure ClassDeclaration}
  {before after references : List ClassReference} {r : ClassReference} {d : ClassDeclaration}
  {failure : Failure}

theorem failed_cons_of_ok (hread : read r = .ok d) (references : List ClassReference) :
    failed read (r :: references) = failed read references := by
  rw [failed, List.filterMap_cons, hread]
  rfl

theorem failed_cons_of_error (hread : read r = .error failure)
    (references : List ClassReference) :
    failed read (r :: references) = failure :: failed read references := by
  rw [failed, List.filterMap_cons, hread]
  rfl

theorem declared_cons_of_ok (hread : read r = .ok d) (references : List ClassReference) :
    declared read (r :: references) = d :: declared read references := by
  rw [declared, List.filterMap_cons, hread]
  rfl

/-- The reference `r` fails, and it is the first one that does: declarations are read from all
references before it. -/
structure FirstFailure (read : ClassReference → Except Failure ClassDeclaration)
    (before : List ClassReference) (r : ClassReference) (failure : Failure) : Prop where
  read_before : ∀ r' ∈ before, ∃ d, read r' = .ok d
  fails : read r = .error failure

/-- Only the references up to the first one that fails matter. -/
theorem FirstFailure.congr (h : FirstFailure read before r failure)
    (hread : ∀ r' ∈ before ++ [r], read' r' = read r') : FirstFailure read' before r failure where
  read_before := by
    intro r' hr'
    rw [hread r' (List.mem_append_left _ hr')]
    exact h.read_before r' hr'
  fails := by
    rw [hread r (List.mem_append_right _ (List.mem_singleton_self r))]
    exact h.fails

/-- No failure comes from references from which declarations are read. -/
theorem failed_append_of_read (h : ∀ r' ∈ before, ∃ d, read r' = .ok d)
    (references : List ClassReference) :
    failed read (before ++ references) = failed read references := by
  induction before with
  | nil => rfl
  | cons r before ih =>
    obtain ⟨d, hd⟩ := h r List.mem_cons_self
    rw [List.cons_append, failed_cons_of_ok hd]
    exact ih fun r' hr' => h r' (List.mem_cons_of_mem r hr')

/-- **The first failure heads the failures**, whatever references come after it. -/
theorem FirstFailure.failed_eq (h : FirstFailure read before r failure)
    (after : List ClassReference) :
    failed read (before ++ r :: after) = failure :: failed read after := by
  rw [failed_append_of_read h.read_before, failed_cons_of_error h.fails]

/-- Where there are failures, there is a first one. -/
theorem exists_firstFailure {rest : List Failure} (h : failed read references = failure :: rest) :
    ∃ before r after, references = before ++ r :: after ∧ FirstFailure read before r failure := by
  induction references with
  | nil => cases h
  | cons r references ih =>
    cases hread : read r with
    | error f =>
      rw [failed_cons_of_error hread] at h
      obtain ⟨rfl, -⟩ := List.cons.inj h
      exact ⟨[], r, references, rfl, by simp, hread⟩
    | ok d =>
      rw [failed_cons_of_ok hread] at h
      obtain ⟨before, r', after, rfl, hfirst⟩ := ih h
      refine ⟨r :: before, r', after, rfl, ?_, hfirst.fails⟩
      intro r'' hr''
      rcases List.mem_cons.mp hr'' with rfl | hr''
      · exact ⟨d, hread⟩
      · exact hfirst.read_before r'' hr''

/-! ## 2. The run over an index -/

/-- **What a run that ends at its first failure has after some references**: what a run that keeps
failures has if there are none, and else the first failure. -/
theorem foldlM_advance_failFast (read : ClassReference → Except Failure ClassDeclaration)
    (references : List ClassReference) (p : Progress) :
    references.foldlM (fun p r => advance true p (read r)) p =
      match failed read references with
      | [] => .ok { p with collection := (declared read references).foldl .insert p.collection }
      | failure :: _ => .error failure := by
  induction references generalizing p with
  | nil => rfl
  | cons r references ih =>
    rw [List.foldlM_cons]
    cases hread : read r with
    | error f =>
      rw [failed_cons_of_error hread]
      rfl
    | ok d =>
      have hstep : advance true p (.ok d) =
          .ok { p with collection := p.collection.insert d } := rfl
      rw [failed_cons_of_ok hread, declared_cons_of_ok hread, hstep]
      exact ih { p with collection := p.collection.insert d }

/-! ## 3. The two kinds of runs -/

/-- What a run that ends at its first failure returns where a run that keeps failures has this
result. -/
def Reconstruction.strict (result : Reconstruction) : Except Failure Reconstruction :=
  match result.failures with
  | [] => .ok result
  | failure :: _ => .error failure

variable {options : Options} {source : PageSource} {library index : String} {layout : Layout}

/-- What a run makes of an index with the given references. -/
theorem reconstruct_of_index (options : Options)
    (hindex : findIndex source library (candidates options.layout) = .ok (layout, index))
    (hreferences : ClassIndex.ofPage (Element.ofPage index) = .ok references) :
    reconstruct options source library =
      (references.foldlM (fun progress r =>
        advance options.failFast progress (readClass source layout options.limit r)) {}).map
          fun progress => ⟨layout, progress.collection.forest, progress.failures⟩ := by
  simp only [reconstruct, hindex, bind, Except.bind, hreferences]
  rfl

/-- **A run that ends at its first failure** returns what a run that keeps failures tells. -/
theorem reconstruct_failFast (options : Options) (source : PageSource) (library : String) :
    reconstruct { options with failFast := true } source library =
      reconstruct { options with failFast := false } source library >>=
        Reconstruction.strict := by
  cases hindex : findIndex source library (candidates options.layout) with
  | error e =>
    simp only [reconstruct, hindex]
    rfl
  | ok found =>
    obtain ⟨layout, index⟩ := found
    cases hreferences : ClassIndex.ofPage (Element.ofPage index) with
    | error e =>
      simp only [reconstruct, hindex, bind, Except.bind, hreferences]
    | ok references =>
      rw [reconstruct_of_index { options with failFast := true } hindex hreferences,
        reconstruct_of_index { options with failFast := false } hindex hreferences,
        foldlM_advance, foldlM_advance_failFast]
      cases hfailed : failed (readClass source layout options.limit) references with
      | nil => simp [Reconstruction.strict, Except.map, bind, Except.bind]
      | cons failure rest => simp [Reconstruction.strict, Except.map, bind, Except.bind]

/-- The failures of a run that keeps them are those of the references of its index. -/
theorem exists_index_of_reconstruct {result : Reconstruction}
    (h : reconstruct { options with failFast := false } source library = .ok result) :
    ∃ index references,
      findIndex source library (candidates options.layout) = .ok (result.layout, index) ∧
      ClassIndex.ofPage (Element.ofPage index) = .ok references ∧
      result.failures = failed (readClass source result.layout options.limit) references := by
  obtain ⟨⟨layout, index⟩, hindex, hrest⟩ := ok_of_bind h
  obtain ⟨references, hreferences, -⟩ := ok_of_bind hrest
  rw [reconstruct_of_index { options with failFast := false } hindex hreferences,
    foldlM_advance] at h
  obtain rfl := Except.ok.inj h
  exact ⟨index, references, hindex, hreferences, rfl⟩

/-- **The first failure ends the run**, whatever comes after it in the index. -/
theorem FirstFailure.reconstruct_eq
    (h : FirstFailure (readClass source layout options.limit) before r failure)
    (hindex : findIndex source library (candidates options.layout) = .ok (layout, index))
    (hreferences : ClassIndex.ofPage (Element.ofPage index) = .ok (before ++ r :: after)) :
    reconstruct { options with failFast := true } source library = .error failure := by
  rw [reconstruct_of_index { options with failFast := true } hindex hreferences,
    foldlM_advance_failFast, h.failed_eq after]
  rfl

/-- **Ending at the first failure agrees with keeping failures.**  A run that keeps failures and
fails all the same, fails alike; one without failures has the same result; and otherwise its first
failure ends the run.  This is the failure of the first reference that fails, and it ends every run
in which the references up to this one are the same and are read alike. -/
theorem failFast_agrees (options : Options) (source : PageSource) (library : String) :
    let keeping := reconstruct { options with failFast := false } source library
    let ending := reconstruct { options with failFast := true } source library
    (∀ e, keeping = .error e → ending = .error e) ∧
    (∀ result, keeping = .ok result → result.failures = [] → ending = .ok result) ∧
    (∀ result e rest, keeping = .ok result → result.failures = e :: rest →
      ending = .error e ∧
      ∃ index before r after,
        findIndex source library (candidates options.layout) = .ok (result.layout, index) ∧
        ClassIndex.ofPage (Element.ofPage index) = .ok (before ++ r :: after) ∧
        FirstFailure (readClass source result.layout options.limit) before r e ∧
        ∀ source' index' after',
          findIndex source' library (candidates options.layout) = .ok (result.layout, index') →
          ClassIndex.ofPage (Element.ofPage index') = .ok (before ++ r :: after') →
          (∀ r' ∈ before ++ [r], readClass source' result.layout options.limit r' =
            readClass source result.layout options.limit r') →
          reconstruct { options with failFast := true } source' library = .error e) := by
  intro keeping ending
  have hending : ending = keeping >>= Reconstruction.strict :=
    reconstruct_failFast options source library
  refine ⟨?failing, ?whole, ?partly⟩
  case failing =>
    intro e he
    rw [hending, he]
    rfl
  case whole =>
    intro result hresult hfailures
    rw [hending, hresult]
    show result.strict = .ok result
    rw [Reconstruction.strict, hfailures]
  case partly =>
    intro result e rest hresult hfailures
    constructor
    · rw [hending, hresult]
      show result.strict = .error e
      rw [Reconstruction.strict, hfailures]
    · obtain ⟨index, references, hindex, hreferences, hfailed⟩ :=
        exists_index_of_reconstruct hresult
      obtain ⟨before, r, after, rfl, hfirst⟩ := exists_firstFailure (hfailed.symm.trans hfailures)
      refine ⟨index, before, r, after, hindex, hreferences, hfirst, ?_⟩
      intro source' index' after' hindex' hreferences' hread
      exact (hfirst.congr hread).reconstruct_eq hindex' hreferences'

/-- An index with a class, a class of which the page is not there, and a link that leads nowhere:
the second reference ends the run, although the third fails as well. -/
theorem failFast_agrees_two_failures :
    let index := "<table><tr><td class=jd-linkcol><a href=/reference/a/B>B</a>" ++
      "<a href=/reference/a/C>C</a><a href=x>D</a></table>"
    let page := "<code class=api-signature>public\n\n\n\nclass</code><div id=jd-content></div>"
    let gone : Failure := .unreadable "" ⟨"", true⟩
    let source : PageSource := fun path =>
      if path = "/reference/a/classes.html" then .ok index
      else if path = "/reference/a/B" then .ok page else .error gone
    ∃ result, reconstruct { failFast := false } source "a" = .ok result ∧
      result.failures = [.inPage "a.C" gone, .inPage "D" (.malformedReference "x")] ∧
      reconstruct { failFast := true } source "a" = .error (.inPage "a.C" gone) := by
  intro index page gone source
  have hfailures : (reconstruct { failFast := false } source "a").toOption.map (·.failures) =
      some [.inPage "a.C" gone, .inPage "D" (.malformedReference "x")] := by decide +kernel
  obtain ⟨result, hresult, hfailures⟩ := Option.map_eq_some_iff.mp hfailures
  have hresult := toOption_eq_some_iff.mp hresult
  obtain ⟨-, -, hpartly⟩ := failFast_agrees {} source "a"
  exact ⟨result, hresult, hfailures, (hpartly result _ _ hresult hfailures).1⟩

end ApiPages.Library
