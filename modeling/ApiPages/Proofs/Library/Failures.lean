/-
# What the failures of a run say

A run reports the failure of a page under the category of what has gone wrong.  Where the pages
come from files, a page that cannot be read fails with what the system says, and whatever fails
later, in the text of a page, fails plainly.  So the category tells the two apart
(`category_of_readClass`), and a link that leads nowhere is told from both.
-/
import ApiPages.Proofs.Library.FirstFailure
import ApiPages.Proofs.Page.Failures

namespace ApiPages

namespace Library

/-- All that can go wrong with the source is that a page cannot be read. -/
def ReadsFiles (source : PageSource) : Prop :=
  ∀ path f, source path = .error f → ∃ shown fault, f = .unreadable shown fault

/-- The page of a reference cannot be read: the link has a name and a path, but there is no page for
it to be had. -/
def CannotRead (source : PageSource) (r : ClassReference) : Prop :=
  ∃ name path f, r.qualifiedName = .ok name ∧ Link.path? r.link = some path ∧
    source path = .error f

variable {source : PageSource} {layout : Layout} {limit : Option Nat} {r : ClassReference}
  {f cause : Failure}

/-- A link that has no name is malformed. -/
theorem category_of_qualifiedName (h : r.qualifiedName = .error cause) :
    cause.category = .resolution := by
  unfold ClassReference.qualifiedName Link.resolve at h
  split at h
  · cases h
  · obtain rfl := Except.error.inj h
    rfl

/-- A page that is there is read as the page of its name. -/
theorem readClass_of_page {name path text : String} (hname : r.qualifiedName = .ok name)
    (hpath : Link.path? r.link = some path) (hpage : source path = .ok text) :
    readClass source layout limit r =
      ClassDeclaration.ofPage layout limit name (Element.ofPage text) := by
  obtain ⟨path', hpath', hread⟩ := readClass_of_qualifiedName source layout limit hname
  obtain rfl := Option.some.inj (hpath'.symm.trans hpath)
  rw [hread, hpage]
  rfl

/-- **What the category of a failure tells about its reference.** -/
theorem category_of_readClass (hsource : ReadsFiles source)
    (h : readClass source layout limit r = .error f) :
    (f.category = .io ↔ CannotRead source r) ∧
      ((∃ cause, r.qualifiedName = .error cause) → f.category = .resolution) := by
  cases hname : r.qualifiedName with
  | error cause =>
    have hcategory : cause.category = .resolution := category_of_qualifiedName hname
    have hf : f = .inPage r.name cause := by
      simp only [readClass, hname] at h
      exact (Except.error.inj h).symm
    subst hf
    refine ⟨⟨fun hio => ?_, ?_⟩, fun _ => hcategory⟩
    · cases hcategory.symm.trans hio
    · rintro ⟨name, path, e, hok, -⟩
      cases hname.symm.trans hok
  | ok name =>
    obtain ⟨path, hpath, hread⟩ := readClass_of_qualifiedName source layout limit hname
    have hlinked : ¬ ∃ cause, (Except.ok name : Except Failure String) = .error cause := by simp
    refine ⟨?_, fun hmalformed => absurd hmalformed hlinked⟩
    cases hpage : source path with
    | error e =>
      obtain ⟨shown, fault, rfl⟩ := hsource path e hpage
      rw [hread, hpage] at h
      obtain rfl := Except.error.inj h
      exact iff_of_true rfl ⟨name, path, _, hname, hpath, hpage⟩
    | ok text =>
      have hform := Failure.ofPage_of_error ((readClass_of_page hname hpath hpage).symm.trans h)
      refine iff_of_false ?_ ?_
      · rw [hform.category_eq]
        exact Failure.category_ne_io_of_isPlain hform.plain
      · rintro ⟨name', path', e, -, hpath', he⟩
        obtain rfl := Option.some.inj (hpath.symm.trans hpath')
        cases hpage.symm.trans he

theorem failure?_eq_some_iff {α : Type} {x : Except Failure α} :
    failure? x = some f ↔ x = .error f := by
  cases x <;> simp [failure?]

variable {options : Options} {library : String} {result : Reconstruction}

/-- The failures of a run are those of the references of its index, also if the first one was to end
it. -/
theorem exists_references_of_reconstruct (h : reconstruct options source library = .ok result) :
    ∃ index references,
      findIndex source library (candidates options.layout) = .ok (result.layout, index) ∧
      ClassIndex.ofPage (Element.ofPage index) = .ok references ∧
      result.failures = failed (readClass source result.layout options.limit) references := by
  have hkept : reconstruct { options with failFast := false } source library = .ok result := by
    cases hfast : options.failFast with
    | false =>
      have hsame : { options with failFast := false } = options := by rw [← hfast]
      rw [hsame]
      exact h
    | true =>
      have hsame : { options with failFast := true } = options := by rw [← hfast]
      have hboth := reconstruct_failFast options source library
      rw [hsame, h] at hboth
      obtain ⟨kept, hkept, hstrict⟩ := ok_of_bind hboth.symm
      -- a run that ends at its first failure has a result only where there is none
      unfold Reconstruction.strict at hstrict
      split at hstrict
      · obtain rfl := Except.ok.inj hstrict
        exact hkept
      · cases hstrict
  exact exists_index_of_reconstruct hkept

/-- **The failures of pages have one form**, and their categories tell what has gone wrong.

The failure of a page is reported against its name; inside is a plain failure, or a plain failure in
a signature, the latter exactly if it has arisen in the signature of a member; none is ever about
files, and the category is that of the plain failure.

So if all that can go wrong with the source is that a page cannot be read, then among the failures
that a run reports, those of the category `io` are those of the pages that could not be read, and
every link that leads nowhere is reported under `resolution`. -/
theorem failures_formed :
    (∀ (layout : Layout) (limit : Option Nat) (name : String) (page : Element) (f : Failure),
      ClassDeclaration.ofPage layout limit name page = .error f →
      f.OfPage layout limit name page) ∧
    ∀ (options : Options) (source : PageSource) (library : String) (result : Reconstruction),
      ReadsFiles source → reconstruct options source library = .ok result →
      ∃ index references,
        findIndex source library (candidates options.layout) = .ok (result.layout, index) ∧
        ClassIndex.ofPage (Element.ofPage index) = .ok references ∧
        result.failures = failed (readClass source result.layout options.limit) references ∧
        ∀ r ∈ references, ∀ f, readClass source result.layout options.limit r = .error f →
          (f.category = .io ↔ CannotRead source r) ∧
          ((∃ cause, r.qualifiedName = .error cause) → f.category = .resolution) := by
  constructor
  · intro layout limit name page f h
    exact Failure.ofPage_of_error h
  · intro options source library result hsource hresult
    obtain ⟨index, references, hindex, hreferences, hfailures⟩ :=
      exists_references_of_reconstruct hresult
    refine ⟨index, references, hindex, hreferences, hfailures, ?_⟩
    intro r _ f hf
    exact category_of_readClass hsource hf

/-- An index with a page that is not there, a link that leads nowhere, and a page with a signature
that never gets to a name. -/
theorem failures_formed_three :
    let index := "<table><tr><td class=jd-linkcol><a href=/reference/a/B>B</a>" ++
      "<a href=x>C</a><a href=/reference/a/D>D</a></table>"
    let text := "<code class=api-signature>public\n\n\n\nclass</code><div id=jd-content>" ++
      "<!-- Fields --><div><pre class=api-signature>public int</pre></div></div>"
    let gone : Failure := .unreadable "" ⟨"", true⟩
    let source : PageSource := fun path =>
      if path = "/reference/a/classes.html" then .ok index
      else if path = "/reference/a/D" then .ok text else .error gone
    let ended : Failure := .inPage "a.D" (.inFragment "public int" (.incomplete .returnType))
    ClassDeclaration.ofPage .android none "a.D" (Element.ofPage text) = .error ended ∧
      ended.OfPage .android none "a.D" (Element.ofPage text) ∧
      ReadsFiles source ∧
      ∃ result, reconstruct {} source "a" = .ok result ∧
        result.failures = [.inPage "a.B" gone, .inPage "C" (.malformedReference "x"), ended] ∧
        CannotRead source ⟨"B", "/reference/a/B"⟩ ∧
        ¬ CannotRead source ⟨"D", "/reference/a/D"⟩ := by
  intro index text gone source ended
  have hended : ClassDeclaration.ofPage .android none "a.D" (Element.ofPage text) =
      .error ended := failure?_eq_some_iff.mp (by decide +kernel)
  have hsource : ReadsFiles source := by
    intro path f hf
    simp only [source] at hf
    split at hf
    · cases hf
    · split at hf
      · cases hf
      · exact ⟨_, _, (Except.error.inj hf).symm⟩
  let references : List ClassReference :=
    [⟨"B", "/reference/a/B"⟩, ⟨"C", "x"⟩, ⟨"D", "/reference/a/D"⟩]
  have hindex : findIndex source "a" (candidates none) = .ok (.android, index) := by
    decide +kernel
  have hreferences : ClassIndex.ofPage (Element.ofPage index) = .ok references := by
    decide +kernel
  have hB : readClass source .android none ⟨"B", "/reference/a/B"⟩ =
      .error (.inPage "a.B" gone) := failure?_eq_some_iff.mp (by decide +kernel)
  have hC : readClass source .android none ⟨"C", "x"⟩ =
      .error (.inPage "C" (.malformedReference "x")) := failure?_eq_some_iff.mp (by decide +kernel)
  have hD : readClass source .android none ⟨"D", "/reference/a/D"⟩ = .error ended := by
    have hname : ClassReference.qualifiedName ⟨"D", "/reference/a/D"⟩ = .ok "a.D" := by
      decide +kernel
    have hpath : Link.path? "/reference/a/D" = some "/reference/a/D" := by decide +kernel
    have hpage : source "/reference/a/D" = .ok text := by simp [source]
    rw [readClass_of_page hname hpath hpage]
    exact hended
  have hfailed : failed (readClass source .android none) references =
      [.inPage "a.B" gone, .inPage "C" (.malformedReference "x"), ended] := by
    rw [failed_cons_of_error hB, failed_cons_of_error hC, failed_cons_of_error hD]
    rfl
  obtain ⟨result, hresult, hfailures⟩ : ∃ result, reconstruct {} source "a" = .ok result ∧
      result.failures = [.inPage "a.B" gone, .inPage "C" (.malformedReference "x"), ended] := by
    rw [reconstruct_of_index {} hindex hreferences, foldlM_advance, Except.map]
    refine ⟨_, rfl, ?_⟩
    rw [List.nil_append, hfailed]
  obtain ⟨index', references', hindex', hreferences', -, htold⟩ :=
    failures_formed.2 {} source "a" result hsource hresult
  obtain ⟨hlayout, rfl⟩ := Prod.mk.inj (Except.ok.inj (hindex'.symm.trans hindex))
  obtain rfl := Except.ok.inj (hreferences'.symm.trans hreferences)
  rw [hlayout] at htold
  refine ⟨hended, failures_formed.1 _ _ _ _ _ hended, hsource, result, hresult, hfailures, ?_, ?_⟩
  · exact (htold _ (by simp [references]) _ hB).1.mp rfl
  · exact fun hcannot => absurd ((htold _ (by simp [references]) _ hD).1.mpr hcannot) (by decide)

end Library

end ApiPages
