/-
# The blocks of a page

In both layouts the members of a page stand in blocks, one each, and are read block by block in one
order (`ofPage_eq`).  So there is one place for everything that is true of members whatever the
layout: the block.

A block shows its member in a signature, except for constants, which are shown by their parts
(`Block.signature?`).  Where a signature is found, all that can go wrong with the block is that
signature (`Block.read_eq_error_iff`); without one, the failure is plain
(`Block.failsPlainly_read`).
-/
import ApiPages.Page
import ApiPages.Proofs.Failure
import ApiPages.Proofs.Member.WellFormed

namespace ApiPages

namespace Member

/-! ## 1. Blocks -/

/-- A block that declares a member. -/
inductive Block where
  | android (label : Android.Section) (block : Located)
  | googleConstant (block : Located)
  | googleMethod (block : Located)

namespace Block

/-- **The member that a block declares.** -/
def read (limit : Option Nat) : Block → Except Failure Member
  | android label block => Android.ofBlock limit label block
  | googleConstant block => return .field (← Google.constant block)
  | googleMethod block => return .method (← Google.method limit block)

/-- The kind of member whose signature a block shows, and the element that has the signature.
Constants have none. -/
def signature? : Block → Option (MemberKind × Except Failure Located)
  | android .constants _ => none
  | android .fields block => some (.field, block.selectSingle Android.signature)
  | android .constructors block => some (.constructor, block.selectSingle Android.signature)
  | android .methods block => some (.method, block.selectSingle Android.signature)
  | googleConstant _ => none
  | googleMethod block => some (.method, block.selectSingle { subject := Google.title })

variable {limit : Option Nat} {b : Block} {kind : MemberKind} {e : Located} {f : Failure}

/-- **Where a signature is found, the block fails as the signature does.** -/
theorem read_eq_error_iff (h : b.signature? = some (kind, .ok e)) :
    b.read limit = .error f ↔ Signature.ofElement kind limit e.element = .error f := by
  have hfound {select : Except Failure Located} {kind' : MemberKind}
      (h : some (kind', select) = some (kind, .ok e)) : kind' = kind ∧ select = .ok e :=
    Prod.mk.inj (Option.some.inj h)
  cases b with
  | android label block =>
    cases label with
    | constants => cases h
    | fields =>
      obtain ⟨rfl, hselect⟩ := hfound h
      simp only [read, Android.ofBlock, hselect]
      exact map_eq_error_iff.trans Field.ofElement_eq_error_iff
    | constructors =>
      obtain ⟨rfl, hselect⟩ := hfound h
      simp only [read, Android.ofBlock, hselect]
      exact map_eq_error_iff.trans map_eq_error_iff
    | methods =>
      obtain ⟨rfl, hselect⟩ := hfound h
      simp only [read, Android.ofBlock, hselect]
      exact map_eq_error_iff.trans map_eq_error_iff
  | googleConstant block => cases h
  | googleMethod block =>
    obtain ⟨rfl, hselect⟩ := hfound h
    simp only [read, Google.method, hselect]
    exact map_eq_error_iff.trans map_eq_error_iff

/-- **Where no signature is found, the block fails plainly**: a constant does not have any, and of
a member with none or more than one it is said how many there are. -/
theorem failsPlainly_read (h : ∀ kind e, b.signature? ≠ some (kind, .ok e)) :
    FailsPlainly (b.read limit) := by
  have hselect {block : Located} {s : Selector} {g : Located → Except Failure Member}
      (h : ∀ e, block.selectSingle s ≠ .ok e) : FailsPlainly (block.selectSingle s >>= g) := by
    cases hfound : block.selectSingle s with
    | ok e => exact absurd hfound (h e)
    | error f => exact .error (block.failsPlainly_selectSingle s f hfound)
  cases b with
  | android label block =>
    cases label with
    | constants =>
      refine FailsPlainly.bind_return ?_
      exact (block.failsPlainly_selectSingle _).bind fun _ =>
        Constant.failsPlainly_ofLines _ _ _
    | fields => exact hselect fun e he => h .field e (by rw [signature?, he])
    | constructors => exact hselect fun e he => h .constructor e (by rw [signature?, he])
    | methods => exact hselect fun e he => h .method e (by rw [signature?, he])
  | googleConstant block =>
    refine FailsPlainly.bind_return ?_
    refine (block.failsPlainly_selectSingle _).bind fun declared => ?_
    refine (block.failsPlainly_selectSingle _).bind fun name => ?_
    refine (block.failsPlainly_selectSingle _).bind fun value => ?_
    exact (Constant.failsPlainly_typeOfWord _).bind_return
  | googleMethod block =>
    have hmethod : FailsPlainly (Google.method limit block) := by
      unfold Google.method
      cases hfound : block.selectSingle { subject := Google.title } with
      | ok e => exact absurd (by rw [signature?, hfound]) (h .method e)
      | error f => exact .error (block.failsPlainly_selectSingle _ f hfound)
    exact hmethod.bind_return

end Block

/-! ## 2. Pages -/

/-- **The blocks of a page**, in the order in which they are read. -/
def blocks (layout : Layout) (page : Element) : Except Failure (List Block) :=
  let root := Located.root page
  match layout with
  | .android => do
    let found ← root.selectSingle Android.content
    return (Android.labelled none found.element.children).map fun (label, block) =>
      .android label (found.childElement block)
  | .google => .ok <|
    (root.select (Google.details "constants")).map .googleConstant ++
      (root.select (Google.details "public-methods")).map .googleMethod

theorem failsPlainly_blocks (layout : Layout) (page : Element) :
    FailsPlainly (blocks layout page) := by
  cases layout with
  | android => exact ((Located.root page).failsPlainly_selectSingle _).bind_return
  | google => exact .ok _

/-- **The members of a page are those of its blocks.** -/
theorem ofPage_eq (layout : Layout) (limit : Option Nat) (page : Element) :
    Members.ofPage layout limit page = (do
      let blocks ← blocks layout page
      return Members.ofList (← blocks.mapM (Block.read limit))) := by
  cases layout with
  | android =>
    change Android.ofPage limit page = _
    rw [Android.ofPage, blocks]
    cases (Located.root page).selectSingle Android.content with
    | error f => rfl
    | ok found =>
      simp only [bind, Except.bind, pure, Except.pure, List.mapM_map]
      rfl
  | google =>
    change Google.ofPage limit page = _
    have hconstants (bs : List Located) : (bs.map Block.googleConstant).mapM (Block.read limit) =
        (do return (← bs.mapM Google.constant).map Member.field) := by
      rw [List.mapM_map]
      exact mapM_return Google.constant Member.field bs
    have hmethods (bs : List Located) : (bs.map Block.googleMethod).mapM (Block.read limit) =
        (do return (← bs.mapM (Google.method limit)).map Member.method) := by
      rw [List.mapM_map]
      exact mapM_return (Google.method limit) Member.method bs
    simp only [Google.ofPage, blocks, bind, Except.bind, List.mapM_append, hconstants, hmethods]
    cases ((Located.root page).select (Google.details "constants")).mapM Google.constant with
    | error f => rfl
    | ok fields =>
      cases ((Located.root page).select (Google.details "public-methods")).mapM
        (Google.method limit) with
      | error f => rfl
      | ok methods =>
        simp [pure, Except.pure, Members.ofList, List.filterMap_append, List.filterMap_map]

end Member

end ApiPages
