/-
# What can go wrong with a page

The failure of a page has one of two forms.  If it arises in the signature of a member, it is a
plain failure inside that signature inside the page; otherwise it is a plain failure inside the
page.  So the wrappers never stand twice, nothing is without them, and none of it is ever about
files (`Failure.OfPage`).

A page is read in order: header, declaration, then block after block.  The first part that fails
makes the failure of the page, so it arises in a signature exactly if everything in front of this
signature is read (`ClassDeclaration.FailsInSignature`).
-/
import ApiPages.Proofs.Member.Blocks

namespace ApiPages

/-! ## 1. Failures in signatures -/

/-- A block fails in its signature: `fragment` is the text of it, `cause` what is wrong. -/
def Member.Block.FailsInSignature (limit : Option Nat) (b : Member.Block) (fragment : String)
    (cause : Failure) : Prop :=
  ∃ kind e, b.signature? = some (kind, .ok e) ∧ e.element.line = fragment ∧
    Signature.ofFragments kind limit e.element.fragments = .error cause

namespace Member.Block

variable {limit : Option Nat} {b : Member.Block} {fragment : String} {f cause : Failure}

theorem signature_ofElement_eq_error_iff {kind : MemberKind} {e : Element} :
    Signature.ofElement kind limit e = .error f ↔
      ∃ cause, f = .inFragment e.line cause ∧
        Signature.ofFragments kind limit e.fragments = .error cause := by
  unfold Signature.ofElement
  cases Signature.ofFragments kind limit e.fragments with
  | ok s => simp [Except.mapError]
  | error cause => simp [Except.mapError, eq_comm]

/-- **A block fails plainly or in its signature**, and there plainly as well. -/
theorem cases_of_read (h : b.read limit = .error f) :
    f.isPlain = true ∨
      ∃ fragment cause, f = .inFragment fragment cause ∧ cause.isPlain = true ∧
        b.FailsInSignature limit fragment cause := by
  by_cases hsignature : ∃ kind e, b.signature? = some (kind, .ok e)
  · obtain ⟨kind, e, he⟩ := hsignature
    obtain ⟨cause, rfl, hcause⟩ :=
      signature_ofElement_eq_error_iff.mp ((read_eq_error_iff he).mp h)
    have hplain : cause.isPlain = true := Signature.failsPlainly_ofFragments _ _ _ cause hcause
    exact .inr ⟨e.element.line, cause, rfl, hplain, kind, e, he, rfl, hcause⟩
  · have hnone : ∀ kind e, b.signature? ≠ some (kind, .ok e) := by
      intro kind e he
      exact hsignature ⟨kind, e, he⟩
    exact .inl (failsPlainly_read hnone f h)

theorem read_eq_inFragment_iff :
    b.read limit = .error (.inFragment fragment cause) ↔
      b.FailsInSignature limit fragment cause := by
  constructor
  · intro h
    rcases cases_of_read h with hplain | ⟨fragment', cause', heq, -, hfails⟩
    · cases hplain
    · obtain ⟨rfl, rfl⟩ := Failure.inFragment.inj heq
      exact hfails
  · rintro ⟨kind, e, he, rfl, hcause⟩
    exact (read_eq_error_iff he).mpr (signature_ofElement_eq_error_iff.mpr ⟨cause, rfl, hcause⟩)

end Member.Block

/-! ## 2. Failures of pages -/

namespace ClassDeclaration

/-- A page fails in the signature of a member: the header has been read and makes a declaration, the
blocks in front of the member have been read, and its own block fails in its signature. -/
structure FailsInSignature (layout : Layout) (limit : Option Nat) (name : String) (page : Element)
    (fragment : String) (cause : Failure) : Prop where
  header : ∃ header declaration, ClassHeader.ofPage layout limit page = .ok header ∧
    header.toDeclaration name = .ok declaration
  block : ∃ before b behind, Member.blocks layout page = .ok (before ++ b :: behind) ∧
    (∀ b' ∈ before, ∃ m, b'.read limit = .ok m) ∧ b.FailsInSignature limit fragment cause

variable {layout : Layout} {limit : Option Nat} {name : String} {page : Element}
  {f cause : Failure} {fragment : String}

/-- **The first part that fails makes the failure of a page.** -/
theorem read_eq_error_iff :
    read layout limit name page = .error f ↔
      ClassHeader.ofPage layout limit page = .error f ∨
      ∃ header, ClassHeader.ofPage layout limit page = .ok header ∧
        (header.toDeclaration name = .error f ∨
        ∃ declaration, header.toDeclaration name = .ok declaration ∧
          (Member.blocks layout page = .error f ∨
          ∃ blocks, Member.blocks layout page = .ok blocks ∧
            blocks.mapM (Member.Block.read limit) = .error f)) := by
  unfold read
  rw [Member.ofPage_eq]
  simp only [bind_eq_error_iff, pure, Except.pure, reduceCtorEq, and_false, exists_false, or_false]

/-- **A page fails plainly or in a signature**, and there plainly as well. -/
theorem cases_of_read (h : read layout limit name page = .error f) :
    f.isPlain = true ∨
      ∃ fragment cause, f = .inFragment fragment cause ∧ cause.isPlain = true ∧
        FailsInSignature layout limit name page fragment cause := by
  rcases read_eq_error_iff.mp h with hheader | ⟨header, hheader, h⟩
  · exact .inl (ClassHeader.failsPlainly_ofPage layout limit page f hheader)
  · rcases h with hdeclaration | ⟨declaration, hdeclaration, h⟩
    · exact .inl (header.failsPlainly_toDeclaration name f hdeclaration)
    · rcases h with hblocks | ⟨blocks, hblocks, h⟩
      · exact .inl (Member.failsPlainly_blocks layout page f hblocks)
      · obtain ⟨before, b, behind, rfl, hbefore, hb⟩ := mapM_eq_error_iff.mp h
        rcases Member.Block.cases_of_read hb with hplain | ⟨fragment, cause, rfl, hplain, hfails⟩
        · exact .inl hplain
        · exact .inr ⟨fragment, cause, rfl, hplain, ⟨header, declaration, hheader, hdeclaration⟩,
            before, b, behind, hblocks, hbefore, hfails⟩

/-- **A failure is in a signature exactly if it arises there.** -/
theorem read_eq_inFragment_iff :
    read layout limit name page = .error (.inFragment fragment cause) ↔
      FailsInSignature layout limit name page fragment cause := by
  constructor
  · intro h
    rcases cases_of_read h with hplain | ⟨fragment', cause', heq, -, hfails⟩
    · cases hplain
    · obtain ⟨rfl, rfl⟩ := Failure.inFragment.inj heq
      exact hfails
  · rintro ⟨⟨header, declaration, hheader, hdeclaration⟩, before, b, behind, hblocks, hbefore, hb⟩
    have hmembers : (before ++ b :: behind).mapM (Member.Block.read limit) =
        .error (.inFragment fragment cause) :=
      mapM_eq_error_iff.mpr
        ⟨before, b, behind, rfl, hbefore, Member.Block.read_eq_inFragment_iff.mpr hb⟩
    exact read_eq_error_iff.mpr (.inr ⟨header, hheader, .inr ⟨declaration, hdeclaration,
      .inr ⟨before ++ b :: behind, hblocks, hmembers⟩⟩⟩)

theorem ofPage_eq_error_iff :
    ofPage layout limit name page = .error f ↔
      ∃ source, f = .inPage name source ∧ read layout limit name page = .error source := by
  unfold ofPage
  cases read layout limit name page with
  | ok d => simp [Except.mapError]
  | error source => simp [Except.mapError, eq_comm]

end ClassDeclaration

/-- **The form of the failure of a page.** -/
structure Failure.OfPage (layout : Layout) (limit : Option Nat) (name : String) (page : Element)
    (f : Failure) : Prop where
  /-- It is reported against the page; inside is a plain failure, or a plain one in a signature. -/
  form : (∃ cause, f = .inPage name cause ∧ cause.isPlain = true) ∨
    ∃ fragment cause, f = .inPage name (.inFragment fragment cause) ∧ cause.isPlain = true
  /-- It is in a signature exactly if it arises in the signature of a member. -/
  inSignature_iff : ∀ fragment cause, f = .inPage name (.inFragment fragment cause) ↔
    ClassDeclaration.FailsInSignature layout limit name page fragment cause
  /-- The plain failure is the cause. -/
  plain : f.cause.isPlain = true
  category_eq : f.category = f.cause.category
  isNotFound_eq : f.isNotFound = false

theorem Failure.ofPage_of_error {layout : Layout} {limit : Option Nat} {name : String}
    {page : Element} {f : Failure} (h : ClassDeclaration.ofPage layout limit name page = .error f) :
    f.OfPage layout limit name page := by
  obtain ⟨source, rfl, hread⟩ := ClassDeclaration.ofPage_eq_error_iff.mp h
  have hiff : ∀ fragment cause,
      Failure.inPage name source = .inPage name (.inFragment fragment cause) ↔
        ClassDeclaration.FailsInSignature layout limit name page fragment cause := by
    intro fragment cause
    rw [← ClassDeclaration.read_eq_inFragment_iff, hread]
    simp
  rcases ClassDeclaration.cases_of_read hread with hplain | ⟨fragment, cause, rfl, hplain, -⟩
  · have hcause : (Failure.inPage name source).cause = source := Failure.cause_of_isPlain hplain
    exact {
      form := .inl ⟨source, rfl, hplain⟩
      inSignature_iff := hiff
      plain := hcause.symm ▸ hplain
      category_eq := by rw [hcause]; rfl
      isNotFound_eq := rfl }
  · have hcause : (Failure.inPage name (.inFragment fragment cause)).cause = cause :=
      Failure.cause_of_isPlain hplain
    exact {
      form := .inr ⟨fragment, cause, rfl, hplain⟩
      inSignature_iff := hiff
      plain := hcause.symm ▸ hplain
      category_eq := by rw [hcause]; rfl
      isNotFound_eq := rfl }

end ApiPages
