/-
# A layout that is found is as good as one that is given

A run without a layout looks for the index page of each layout in turn, and passes over those that
are not there (`findIndex_append`).  So the search ends in one of three ways: at an index page, at a
page that cannot be had for another reason, or, if no page is there, with nothing
(`findIndex_eq_ok_iff`, `findIndex_eq_error_iff`).

The layout given to a run is used for this search only.  Hence a run that has found an index page
goes on exactly like a run to which its layout was given (`Detects`).  And since whatever fails
later is said of a page or of an anchor of the index (`cases_of_reconstruct`), that there is no
index is said only by the search, or by the source itself.
-/
import ApiPages.Proofs.Library.FirstFailure

namespace ApiPages.Library

variable {source : PageSource} {library : String} {layout : Layout} {layouts before : List Layout}
  {index : String} {failure : Failure} {options : Options}

/-! ## 1. The search -/

/-- The index page of a layout is reported not to be there. -/
def NoIndex (source : PageSource) (library : String) (layout : Layout) : Prop :=
  ∃ failure, source (indexPath library layout) = .error failure ∧ failure.isNotFound = true

/-- **Pages that are not there are passed over.** -/
theorem findIndex_append (h : ∀ l ∈ before, NoIndex source library l) (layouts : List Layout) :
    findIndex source library (before ++ layouts) = findIndex source library layouts := by
  induction before with
  | nil => rfl
  | cons l before ih =>
    obtain ⟨⟨failure, hread, hmissing⟩, hbefore⟩ := List.forall_mem_cons.mp h
    rw [List.cons_append, findIndex, hread]
    simpa [hmissing] using ih hbefore

theorem findIndex_of_noIndex (h : ∀ l ∈ layouts, NoIndex source library l) :
    findIndex source library layouts = .error (.missingIndex library) := by
  have happend := findIndex_append h []
  rwa [List.append_nil] at happend

/-- A page that is not passed over ends the search, whether it can be had or not. -/
theorem findIndex_of_not_noIndex (h : ¬ NoIndex source library layout) (layouts : List Layout) :
    findIndex source library (layout :: layouts) =
      (source (indexPath library layout)).map fun index => (layout, index) := by
  rw [findIndex]
  cases hread : source (indexPath library layout) with
  | ok index => rfl
  | error failure =>
    have hother : failure.isNotFound = false :=
      Bool.eq_false_iff.mpr fun hmissing => h ⟨failure, hread, hmissing⟩
    simp [hother, Except.map]

/-- Either all layouts are passed over, or there is a first one that is not. -/
theorem exists_split (source : PageSource) (library : String) (layouts : List Layout) :
    (∀ l ∈ layouts, NoIndex source library l) ∨ ∃ before layout behind,
      layouts = before ++ layout :: behind ∧ (∀ l ∈ before, NoIndex source library l) ∧
      ¬ NoIndex source library layout := by
  induction layouts with
  | nil => exact Or.inl (by simp)
  | cons l rest ih =>
    by_cases hl : NoIndex source library l
    · rcases ih with hrest | ⟨before, layout, behind, rfl, hbefore, hlayout⟩
      · exact Or.inl (List.forall_mem_cons.mpr ⟨hl, hrest⟩)
      · exact Or.inr ⟨l :: before, layout, behind, rfl, List.forall_mem_cons.mpr ⟨hl, hbefore⟩,
          hlayout⟩
    · exact Or.inr ⟨[], l, rest, rfl, by simp, hl⟩

/-- **An index is found in the first layout that is not passed over.** -/
theorem findIndex_eq_ok_iff :
    findIndex source library layouts = .ok (layout, index) ↔ ∃ before behind,
      layouts = before ++ layout :: behind ∧ (∀ l ∈ before, NoIndex source library l) ∧
      source (indexPath library layout) = .ok index := by
  constructor
  · intro h
    rcases exists_split source library layouts with hnone | ⟨before, l, behind, rfl, hbefore, hl⟩
    · rw [findIndex_of_noIndex hnone] at h
      cases h
    · rw [findIndex_append hbefore, findIndex_of_not_noIndex hl] at h
      cases hread : source (indexPath library l) with
      | error failure =>
        rw [hread] at h
        cases h
      | ok page =>
        rw [hread] at h
        obtain ⟨rfl, rfl⟩ := Prod.mk.inj (Except.ok.inj h)
        exact ⟨before, behind, rfl, hbefore, hread⟩
  · rintro ⟨before, behind, rfl, hbefore, hread⟩
    have hthere : ¬ NoIndex source library layout := by
      rintro ⟨failure, hfailure, -⟩
      cases hread.symm.trans hfailure
    rw [findIndex_append hbefore, findIndex_of_not_noIndex hthere, hread]
    rfl

/-- The search ends at the index page of `layout`, which cannot be had; those before it are not
there. -/
structure Refused (source : PageSource) (library : String) (before : List Layout)
    (layout : Layout) (failure : Failure) : Prop where
  passed : ∀ l ∈ before, NoIndex source library l
  read : source (indexPath library layout) = .error failure
  other : failure.isNotFound = false

theorem Refused.not_noIndex (h : Refused source library before layout failure) :
    ¬ NoIndex source library layout := by
  rintro ⟨cause, hcause, hmissing⟩
  obtain rfl := Except.error.inj (h.read.symm.trans hcause)
  simp [h.other] at hmissing

theorem Refused.findIndex_eq (h : Refused source library before layout failure)
    (behind : List Layout) :
    findIndex source library (before ++ layout :: behind) = .error failure := by
  rw [findIndex_append h.passed, findIndex_of_not_noIndex h.not_noIndex, h.read]
  rfl

/-- **A search that fails** has found no page, or one that cannot be had. -/
theorem findIndex_eq_error_iff :
    findIndex source library layouts = .error failure ↔
      (failure = .missingIndex library ∧ ∀ l ∈ layouts, NoIndex source library l) ∨
      ∃ before layout behind, layouts = before ++ layout :: behind ∧
        Refused source library before layout failure := by
  constructor
  · intro h
    rcases exists_split source library layouts with hnone | ⟨before, l, behind, rfl, hbefore, hl⟩
    · rw [findIndex_of_noIndex hnone] at h
      exact Or.inl ⟨(Except.error.inj h).symm, hnone⟩
    · rw [findIndex_append hbefore, findIndex_of_not_noIndex hl] at h
      cases hread : source (indexPath library l) with
      | ok page =>
        rw [hread] at h
        cases h
      | error cause =>
        rw [hread] at h
        obtain rfl := Except.error.inj h
        have hother : cause.isNotFound = false :=
          Bool.eq_false_iff.mpr fun hmissing => hl ⟨cause, hread, hmissing⟩
        exact Or.inr ⟨before, l, behind, rfl, hbefore, hread, hother⟩
  · rintro (⟨rfl, hnone⟩ | ⟨before, layout, behind, rfl, hrefused⟩)
    · exact findIndex_of_noIndex hnone
    · exact hrefused.findIndex_eq behind

/-! ## 2. Runs -/

/-- The layout of a run is used for the search only. -/
theorem reconstruct_congr {layout layout' : Option Layout}
    (h : findIndex source library (candidates layout) =
      findIndex source library (candidates layout')) :
    reconstruct { options with layout } source library =
      reconstruct { options with layout := layout' } source library := by
  unfold reconstruct
  rw [h]

theorem reconstruct_of_findIndex
    (h : findIndex source library (candidates options.layout) = .error failure) :
    reconstruct options source library = .error failure := by
  unfold reconstruct
  rw [h]
  rfl

/-- The failure of a run is that of its first reference that fails. -/
theorem inPage_of_foldlM {failFast : Bool} {references : List ClassReference} {limit : Option Nat}
    (h : references.foldlM (fun p r => advance failFast p (readClass source layout limit r)) {} =
      .error failure) : ∃ page cause, failure = .inPage page cause := by
  cases failFast with
  | false =>
    rw [foldlM_advance] at h
    cases h
  | true =>
    rw [foldlM_advance_failFast] at h
    cases hfailed : failed (readClass source layout limit) references with
    | nil =>
      rw [hfailed] at h
      cases h
    | cons first rest =>
      rw [hfailed] at h
      obtain rfl := Except.error.inj h
      obtain ⟨before, r, after, -, hfirst⟩ := exists_firstFailure hfailed
      exact ⟨r.page, inPage_of_readClass hfirst.fails⟩

/-- The failure of an index that is read is that of an anchor without a link. -/
theorem missingAttribute_of_index {page : Element} (h : ClassIndex.ofPage page = .error failure) :
    ∃ element name, failure = .missingAttribute element name := by
  obtain ⟨-, l, -, -, -, hread⟩ := mapM_eq_error_iff.mp h
  unfold Element.classReference at hread
  split at hread
  · cases hread
  · exact ⟨_, _, (Except.error.inj hread).symm⟩

/-- **A run fails** in its search, in an anchor of the index, or in a page. -/
theorem cases_of_reconstruct (h : reconstruct options source library = .error failure) :
    findIndex source library (candidates options.layout) = .error failure ∨
      (∃ element name, failure = .missingAttribute element name) ∨
      ∃ page cause, failure = .inPage page cause := by
  rcases bind_eq_error_iff.mp h with hindex | ⟨⟨layout, index⟩, hindex, hrest⟩
  · exact Or.inl hindex
  · rcases bind_eq_error_iff.mp hrest with hreferences | ⟨references, -, hrest⟩
    · exact Or.inr (Or.inl (missingAttribute_of_index hreferences))
    · rcases bind_eq_error_iff.mp hrest with hpages | ⟨progress, -, hreturn⟩
      · exact Or.inr (Or.inr (inPage_of_foldlM hpages))
      · cases hreturn

/-! ## 3. The layout that is found -/

theorem mem_all_layouts (layout : Layout) : layout ∈ Layout.all := by cases layout <;> decide

/-- That a run says that there is no index. -/
theorem reconstruct_eq_missingIndex_iff {missing : String} :
    reconstruct { options with layout := none } source library = .error (.missingIndex missing) ↔
      (missing = library ∧ ∀ layout, NoIndex source library layout) ∨
      ∃ before layout behind, Layout.all = before ++ layout :: behind ∧
        Refused source library before layout (.missingIndex missing) := by
  have hsearch : reconstruct { options with layout := none } source library =
      .error (.missingIndex missing) ↔
        findIndex source library Layout.all = .error (.missingIndex missing) := by
    refine ⟨fun h => ?_, fun h => reconstruct_of_findIndex h⟩
    rcases cases_of_reconstruct h with hindex | ⟨_, _, hother⟩ | ⟨_, _, hother⟩
    · exact hindex
    · cases hother
    · cases hother
  rw [hsearch, findIndex_eq_error_iff, Failure.missingIndex.injEq]
  refine or_congr_left (and_congr_right fun _ => ?_)
  exact ⟨fun h layout => h layout (mem_all_layouts layout), fun h layout _ => h layout⟩

/-- **Finding the layout is as good as being given it.** -/
structure Detects (options : Options) (source : PageSource) (library : String) : Prop where
  /-- A run that finds an index page goes on like the run to which the layout of this page is
  given: that reads the same index, and has the same result or fails in the same way. -/
  given : ∀ layout index, findIndex source library (candidates none) = .ok (layout, index) →
    findIndex source library (candidates (some layout)) = .ok (layout, index) ∧
    pagePaths { options with layout := some layout } source library =
      pagePaths { options with layout := none } source library ∧
    reconstruct { options with layout := some layout } source library =
      reconstruct { options with layout := none } source library
  /-- It says that there is no index if both index pages are reported not to be there, or if this is
  what the source answers where it should give a page; -/
  missing_iff : ∀ missing,
    reconstruct { options with layout := none } source library = .error (.missingIndex missing) ↔
      (missing = library ∧ ∀ layout, NoIndex source library layout) ∨
      ∃ before layout behind, Layout.all = before ++ layout :: behind ∧
        Refused source library before layout (.missingIndex missing)
  /-- so it says this of its own, and not after the source, exactly if both are reported so. -/
  missing_iff_noIndex :
    (∃ missing,
      reconstruct { options with layout := none } source library = .error (.missingIndex missing) ∧
      ∀ layout, source (indexPath library layout) ≠ .error (.missingIndex missing)) ↔
    ∀ layout, NoIndex source library layout
  /-- An index page that cannot be had for another reason ends the run with this reason; no page has
  been asked for, and whatever the pages are, and however they were to be read, it is the same. -/
  refused : ∀ before layout behind failure, Layout.all = before ++ layout :: behind →
    Refused source library before layout failure →
    reconstruct { options with layout := none } source library = .error failure ∧
    pagePaths { options with layout := none } source library = [] ∧
    ∀ (options' : Options) (source' : PageSource),
      (∀ l ∈ before ++ [layout],
        source' (indexPath library l) = source (indexPath library l)) →
      reconstruct { options' with layout := none } source' library = .error failure

/-- **A source can say that there is no index**, as the search does.  The run says it then too,
although no index page is reported not to be there. -/
theorem missingIndex_of_source :
    let source : PageSource := fun _ => .error (.missingIndex "lib")
    reconstruct {} source "lib" = .error (.missingIndex "lib") ∧
      ∀ layout, ¬ NoIndex source "lib" layout := by
  intro source
  have hrefused (layout : Layout) : Refused source "lib" [] layout (.missingIndex "lib") :=
    ⟨List.forall_mem_nil _, rfl, rfl⟩
  exact ⟨reconstruct_of_findIndex ((hrefused .android).findIndex_eq [.google]),
    fun layout => (hrefused layout).not_noIndex⟩

/-- Only the index pages up to the one that cannot be had are looked at. -/
theorem Refused.congr (h : Refused source library before layout failure) {source' : PageSource}
    (hsame : ∀ l ∈ before ++ [layout],
      source' (indexPath library l) = source (indexPath library l)) :
    Refused source' library before layout failure where
  passed := by
    intro l hl
    obtain ⟨cause, hcause, hmissing⟩ := h.passed l hl
    exact ⟨cause, (hsame l (List.mem_append_left [layout] hl)).trans hcause, hmissing⟩
  read := (hsame layout (by simp)).trans h.read
  other := h.other

/-- **A run finds the layout**, whatever the source and however the pages are to be read. -/
theorem detects_layout (options : Options) (source : PageSource) (library : String) :
    Detects options source library := by
  refine {
    given := ?given
    missing_iff := fun missing => reconstruct_eq_missingIndex_iff
    missing_iff_noIndex := ?noIndex
    refused := ?refused }
  case given =>
    intro layout index hfound
    obtain ⟨before, behind, -, -, hread⟩ := findIndex_eq_ok_iff.mp hfound
    have hgiven : findIndex source library (candidates (some layout)) = .ok (layout, index) :=
      findIndex_eq_ok_iff.mpr ⟨[], [], rfl, by simp, hread⟩
    have hsame := hgiven.trans hfound.symm
    refine ⟨hgiven, ?_, reconstruct_congr hsame⟩
    simp only [pagePaths, hsame]
  case noIndex =>
    constructor
    · rintro ⟨missing, h, hsource⟩
      rcases reconstruct_eq_missingIndex_iff.mp h with
        ⟨-, hnone⟩ | ⟨before, layout, behind, -, hrefused⟩
      · exact hnone
      · exact absurd hrefused.read (hsource layout)
    · intro hnone
      refine ⟨library, reconstruct_eq_missingIndex_iff.mpr (Or.inl ⟨rfl, hnone⟩), ?_⟩
      -- what the source says is that a page is not there, which is another failure
      intro layout hanswer
      obtain ⟨failure, hfailure, hmissing⟩ := hnone layout
      obtain rfl := Except.error.inj (hanswer.symm.trans hfailure)
      cases hmissing
  case refused =>
    intro before layout behind failure hall hrefused
    have hsearch : findIndex source library (candidates none) = .error failure := by
      rw [candidates, hall]
      exact hrefused.findIndex_eq behind
    refine ⟨reconstruct_of_findIndex hsearch, ?_, fun options' source' hsame => ?_⟩
    · simp only [pagePaths, hsearch]
    · have hsearch' : findIndex source' library (candidates none) = .error failure := by
        rw [candidates, hall]
        exact (hrefused.congr hsame).findIndex_eq behind
      exact reconstruct_of_findIndex hsearch'

/-- A library of which only the index page of the second layout is there is read as if this layout
had been given.  If the index page of the first layout is there but cannot be had, this is the
failure, although the other one can. -/
theorem detects_layout_second :
    let gone : Failure := .unreadable "" ⟨"", true⟩
    let denied : Failure := .unreadable "" ⟨"", false⟩
    let index := "<table><tr><td class=jd-linkcol><a href=/reference/a/B>B</a></table>"
    let answers (first : Failure) : PageSource := fun path =>
      if path = "/reference/a/classes.html" then .error first
      else if path = "/reference/a/package-summary.html" then .ok index else .error gone
    (∃ result, reconstruct { layout := some .google } (answers gone) "a" = .ok result ∧
      reconstruct {} (answers gone) "a" = .ok result ∧ result.layout = .google ∧
      result.failures = [.inPage "a.B" gone]) ∧
    reconstruct {} (answers denied) "a" = .error denied := by
  intro gone denied index answers
  constructor
  · have hindex : findIndex (answers gone) "a" (candidates none) = .ok (.google, index) := by
      decide +kernel
    obtain ⟨-, -, hsame⟩ := (detects_layout {} (answers gone) "a").given .google index hindex
    have hresult : (reconstruct { layout := some .google } (answers gone) "a").toOption.map
        (fun result => (result.layout, result.failures)) =
          some (.google, [.inPage "a.B" gone]) := by decide +kernel
    obtain ⟨result, hresult, hfields⟩ := Option.map_eq_some_iff.mp hresult
    have hresult := toOption_eq_some_iff.mp hresult
    obtain ⟨hlayout, hfailures⟩ := Prod.mk.inj hfields
    exact ⟨result, hresult, hsame.symm.trans hresult, hlayout, hfailures⟩
  · have hrefused : Refused (answers denied) "a" [] .android denied :=
      ⟨by simp, by decide +kernel, rfl⟩
    exact ((detects_layout {} (answers denied) "a").refused [] .android [.google] denied rfl
      hrefused).1

end ApiPages.Library
