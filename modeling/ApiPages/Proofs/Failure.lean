/-
# Failures of single steps

Everything that reads a part of a page can fail, and when it does, the failure is plain: it says
what is wrong with that part, not on which page or in which signature, and it never speaks of
files (`Failure.isPlain`).  Where the part stands is added by whoever reads the whole.

A step is built of smaller ones by going on with a result, by folding and by reading member by
member, and each of these only passes failures on.  So that a step fails plainly follows the
definition of the step (`FailsPlainly`).
-/
import ApiPages.Header.Page
import ApiPages.Member.Constant
import ApiPages.Proofs.Outcome
import ApiPages.Signature.Reader

namespace ApiPages

/-! ## 1. Plain failures -/

namespace Failure

/-- Whether a failure says what is wrong with a text, and no more: not where the text stands, and
not that a file is missing or unreadable. -/
def isPlain : Failure → Bool
  | inFragment .. | inPage .. | missingIndex _ | unreadable .. => false
  | _ => true

variable {f : Failure}

theorem cause_of_isPlain (h : f.isPlain = true) : f.cause = f := by
  cases f <;> first | rfl | cases h

/-- A plain failure is about the text, not about files. -/
theorem category_ne_io_of_isPlain (h : f.isPlain = true) : f.category ≠ .io := by
  revert h
  cases f <;> simp [isPlain, category]

end Failure

/-- If it fails, then plainly. -/
def FailsPlainly {α : Type} (x : Except Failure α) : Prop :=
  ∀ f, x = .error f → f.isPlain = true

namespace FailsPlainly

variable {α β σ : Type} {x : Except Failure α}

theorem ok (a : α) : FailsPlainly (.ok a) := nofun

theorem error {f : Failure} (h : f.isPlain = true) :
    FailsPlainly (.error f : Except Failure α) := by
  rintro f' ⟨⟩
  exact h

/-- What goes on with a result fails as the first part does, or as the second. -/
theorem bind {g : α → Except Failure β} (hx : FailsPlainly x) (hg : ∀ a, FailsPlainly (g a)) :
    FailsPlainly (x >>= g) := by
  cases x with
  | error f => exact error (hx f rfl)
  | ok a => exact hg a

theorem map {g : α → β} (hx : FailsPlainly x) : FailsPlainly (x.map g) := by
  cases x with
  | error f => exact error (hx f rfl)
  | ok a => exact ok (g a)

/-- A result that is only passed on. -/
theorem bind_return {g : α → β} (hx : FailsPlainly x) :
    FailsPlainly (do return g (← x) : Except Failure β) := hx.bind fun a => ok (g a)

theorem ite {p : Prop} [Decidable p] {y : Except Failure α} (hx : FailsPlainly x)
    (hy : FailsPlainly y) : FailsPlainly (if p then x else y) := by
  split
  · exact hx
  · exact hy

theorem foldlM {step : σ → α → Except Failure σ} (hstep : ∀ s a, FailsPlainly (step s a))
    (as : List α) (s : σ) : FailsPlainly (as.foldlM step s) := by
  induction as generalizing s with
  | nil => exact ok s
  | cons a as ih =>
    rw [List.foldlM_cons]
    exact (hstep s a).bind ih

end FailsPlainly

/-! ## 2. Elements and links -/

theorem Located.failsPlainly_selectSingle (l : Located) (s : Selector) :
    FailsPlainly (l.selectSingle s) := by
  unfold Located.selectSingle
  split
  · exact .ok _
  · exact .error rfl

theorem Element.failsPlainly_classReference (e : Element) : FailsPlainly e.classReference := by
  unfold Element.classReference
  split
  · exact .ok _
  · exact .error rfl

theorem ClassReference.failsPlainly_qualifiedName (r : ClassReference) :
    FailsPlainly r.qualifiedName := by
  unfold ClassReference.qualifiedName Link.resolve
  split
  · exact .ok _
  · exact .error rfl

theorem ClassReference.failsPlainly_typeName (r : ClassReference) : FailsPlainly r.typeName := by
  unfold ClassReference.typeName
  split
  · exact .ok _
  · exact .error rfl
  · next f _ hf => exact .error (r.failsPlainly_qualifiedName f hf)

/-! ## 3. Types under construction -/

namespace TypeFrame

theorem failsPlainly_setName (f : TypeFrame) (name : String) : FailsPlainly (f.setName name) := by
  unfold setName
  split
  · exact .error rfl
  · exact .ok _

theorem failsPlainly_appendSuffix (f : TypeFrame) (suffix : String) :
    FailsPlainly (f.appendSuffix suffix) := by
  unfold appendSuffix
  split
  · exact .ok _
  · exact .error rfl

theorem failsPlainly_openList (f : TypeFrame) : FailsPlainly f.openList :=
  .ite (.error rfl) (.ok _)

theorem failsPlainly_pushArgument (f : TypeFrame) (t : TypeName) :
    FailsPlainly (f.pushArgument t) := .ite (.ok _) (.error rfl)

theorem failsPlainly_closeList (f : TypeFrame) : FailsPlainly f.closeList :=
  .ite (.ok _) (.error rfl)

theorem failsPlainly_toType (f : TypeFrame) : FailsPlainly f.toType := by
  unfold toType
  split
  · exact .ok _
  · exact .error rfl

end TypeFrame

namespace TypeStack

theorem failsPlainly_onCurrent (s : TypeStack) {change : TypeFrame → Except Failure TypeFrame}
    (h : ∀ f, FailsPlainly (change f)) : FailsPlainly (s.onCurrent change).toExcept := by
  unfold onCurrent
  split
  · exact .ok _
  · next f hf => exact .error (h _ f hf)

theorem failsPlainly_handDown (s : TypeStack)
    {change : TypeName → TypeFrame → Except Failure TypeFrame}
    (h : ∀ t f, FailsPlainly (change t f)) : FailsPlainly (s.handDown change).toExcept := by
  unfold handDown
  split
  · exact .error rfl
  · next frame below _ =>
    cases htype : frame.toType with
    | ok t => exact failsPlainly_onCurrent _ (h t)
    | error f => exact .error (frame.failsPlainly_toType f htype)

theorem failsPlainly_openList (s : TypeStack) : FailsPlainly s.openList.toExcept := by
  unfold openList
  split
  · exact .error rfl
  · split
    · exact .error rfl
    · split
      · exact .ok _
      · next f hf => exact .error (s.current.failsPlainly_openList f hf)

theorem failsPlainly_nextArgument (s : TypeStack) : FailsPlainly s.nextArgument.toExcept := by
  have hpush := s.failsPlainly_handDown fun t f => f.failsPlainly_pushArgument t
  unfold nextArgument
  split
  · exact .ok _
  · next f rest hf =>
    rw [hf] at hpush
    exact hpush

/-- **A step of a type fails plainly.** -/
theorem failsPlainly_step (s : TypeStack) (t : TypeStep) : FailsPlainly (s.step t).toExcept := by
  cases t with
  | setName name => exact s.failsPlainly_onCurrent fun f => f.failsPlainly_setName name
  | appendSuffix suffix =>
    exact s.failsPlainly_onCurrent fun f => f.failsPlainly_appendSuffix suffix
  | openList => exact s.failsPlainly_openList
  | nextArgument => exact s.failsPlainly_nextArgument
  | closeList =>
    exact s.failsPlainly_handDown fun t f =>
      (f.failsPlainly_pushArgument t).bind TypeFrame.failsPlainly_closeList

theorem failsPlainly_toType (s : TypeStack) : FailsPlainly s.toType :=
  .ite (.error rfl) s.root.failsPlainly_toType

end TypeStack

/-! ## 4. Signatures -/

namespace Signature

namespace Reader

theorem failsPlainly_typeStep (r : Reader) (token : String) (step : TypeStep) :
    FailsPlainly (r.typeStep token step) := by
  have hstep (s : TypeStack) (next : TypeStack → State) :
      FailsPlainly (((s.step step).toExcept.map next).map r.goto) :=
    (s.failsPlainly_step step).map.map
  unfold typeStep
  cases hstate : r.state with
  | modifiers => exact .error rfl
  | name => exact .error rfl
  | complete => exact .error rfl
  | annotated s => exact hstep s .annotated
  | returnType s => exact hstep s .returnType
  | parameter s word => exact hstep s (.parameter · word)
  | throwsClause s => exact hstep s .throwsClause

theorem failsPlainly_pushParameter (r : Reader) (type : TypeStack) (name : Option String) :
    FailsPlainly (r.pushParameter type name) := by
  cases name with
  | none => exact .error rfl
  | some name => exact type.failsPlainly_toType.bind_return

theorem failsPlainly_pushException (r : Reader) (type : TypeStack) :
    FailsPlainly (r.pushException type) := type.failsPlainly_toType.bind_return

theorem failsPlainly_plainWord (r : Reader) (text : String) : FailsPlainly (r.plainWord text) := by
  have hname (s : TypeStack) (next : TypeStack → State) :
      FailsPlainly (do return r.goto (next (← (s.setName text).toExcept))) :=
    (s.failsPlainly_step (.setName text)).bind_return
  have hsuffix (s : TypeStack) (next : TypeStack → State) :
      FailsPlainly (do return r.goto (next (← (s.appendSuffix text).toExcept))) :=
    (s.failsPlainly_step (.appendSuffix text)).bind_return
  unfold plainWord
  split
  · exact hname _ _
  · refine .ite (hname _ _) (.ite (hsuffix _ _) (.ite (.error rfl) ?_))
    exact (TypeStack.failsPlainly_toType _).bind_return
  · exact .ite (.error rfl) (.ok _)
  · exact .ite (hname _ _) (.ite (hsuffix _ _) (.ite (.error rfl) (.ok _)))
  · exact .ite (.ok _) (.error rfl)
  · exact hname _ _
  · exact .error rfl

theorem failsPlainly_word (r : Reader) (text : String) : FailsPlainly (r.word text) := by
  unfold word
  split
  · exact .ok _
  · exact r.leaveModifiers.failsPlainly_plainWord text

theorem failsPlainly_anchor (r : Reader) (e : Element) : FailsPlainly (r.anchor e) := by
  refine e.failsPlainly_classReference.bind fun reference => ?_
  exact reference.failsPlainly_typeName.bind fun type => failsPlainly_typeStep _ _ _

theorem failsPlainly_lineBreak (r : Reader) : FailsPlainly r.lineBreak := by
  unfold lineBreak
  split
  · exact (TypeStack.failsPlainly_toType _).bind_return
  · exact .error rfl

theorem failsPlainly_comma (r : Reader) : FailsPlainly r.comma := by
  have hnext (s : TypeStack) (next : TypeStack → State) :
      FailsPlainly (do return r.goto (next (← s.nextArgument.toExcept))) :=
    (s.failsPlainly_step .nextArgument).bind_return
  unfold comma
  split
  · exact .ite (hnext _ _) (.error rfl)
  · exact .ite (hnext _ _) (r.failsPlainly_pushParameter _ _).bind_return
  · exact .ite (hnext _ _) (r.failsPlainly_pushException _).bind_return
  · exact .error rfl

theorem failsPlainly_mark (r : Reader) (m : Mark) : FailsPlainly (r.mark m) := by
  cases m with
  | atSign =>
    change FailsPlainly r.atSign
    unfold atSign
    split
    · exact .ok _
    · exact .error rfl
  | openList => exact r.failsPlainly_typeStep _ _
  | closeList => exact r.failsPlainly_typeStep _ _
  | openParameters => exact .ite (.ok _) (.error rfl)
  | comma => exact r.failsPlainly_comma
  | closeParameters =>
    change FailsPlainly r.closeParameters
    unfold closeParameters
    split
    · exact .ite (.error rfl) (.ite (r.failsPlainly_pushParameter _ _).bind_return
        (.ite (.error rfl) (.ok _)))
    · exact .error rfl

/-- **A token fails plainly.** -/
theorem failsPlainly_step (r : Reader) (t : Token) : FailsPlainly (r.step t) := by
  cases t with
  | word text => exact r.failsPlainly_word text
  | mark m => exact r.failsPlainly_mark m
  | anchor e => exact r.failsPlainly_anchor e
  | lineBreak => exact r.failsPlainly_lineBreak

theorem failsPlainly_finish (r : Reader) : FailsPlainly r.finish := by
  unfold finish
  split
  · exact .ok _
  · exact .ite (r.failsPlainly_pushException _).bind_return (.error rfl)
  · exact .ite (.ok _) (.error rfl)
  · exact .error rfl

end Reader

/-- **A sequence of tokens fails plainly.** -/
theorem failsPlainly_ofFragments (kind : MemberKind) (limit : Option Nat)
    (fragments : List Fragment) : FailsPlainly (ofFragments kind limit fragments) :=
  (FailsPlainly.foldlM Reader.failsPlainly_step _ _).bind Reader.failsPlainly_finish

end Signature

/-! ## 5. Headers -/

namespace SupertypeList

theorem failsPlainly_endPending (l : SupertypeList) : FailsPlainly l.endPending := by
  unfold endPending
  split
  · exact .ok _
  · exact (TypeStack.failsPlainly_toType _).bind_return

theorem failsPlainly_commit (l : SupertypeList) : FailsPlainly l.commit :=
  .ite (.ok _) l.failsPlainly_endPending

theorem failsPlainly_typeStep (l : SupertypeList) (type : TypeStack) (step : TypeStep) :
    FailsPlainly (l.typeStep type step) := (type.failsPlainly_step step).bind_return

theorem failsPlainly_name (l : SupertypeList) (name : String) : FailsPlainly (l.name name) := by
  unfold SupertypeList.name
  split
  · exact l.failsPlainly_typeStep _ _
  · exact l.failsPlainly_commit.bind fun l => l.failsPlainly_typeStep _ _

theorem failsPlainly_mark (l : SupertypeList) (m : ClauseMark) : FailsPlainly (m.apply l) := by
  cases m with
  | openList =>
    change FailsPlainly l.openList
    unfold openList
    split
    · exact l.failsPlainly_typeStep _ _
    · exact .error rfl
  | closeList =>
    change FailsPlainly l.closeList
    unfold closeList
    split
    · exact l.failsPlainly_typeStep _ _
    · exact .error rfl
  | comma =>
    change FailsPlainly l.comma
    unfold comma
    split
    · exact l.failsPlainly_typeStep _ _
    · exact l.failsPlainly_commit

end SupertypeList

namespace Supertypes

theorem failsPlainly_onList (s : Supertypes) (token : String)
    {change : SupertypeList → Except Failure SupertypeList} (h : ∀ l, FailsPlainly (change l)) :
    FailsPlainly (s.onList token change) := by
  unfold onList
  split
  · exact (h _).bind_return
  · exact (h _).bind_return
  · exact .error rfl

theorem failsPlainly_commit (s : Supertypes) : FailsPlainly s.commit :=
  s.failsPlainly_onList _ SupertypeList.failsPlainly_commit

theorem failsPlainly_goto (s : Supertypes) (clause : Clause) : FailsPlainly (s.goto clause) := by
  unfold goto
  split
  · exact s.failsPlainly_commit.bind_return
  · exact .ok _

theorem failsPlainly_lexeme (bareNames : Bool) (s : Supertypes) (l : Text.Lexeme ClauseMark) :
    FailsPlainly (lexeme bareNames s l) := by
  cases l with
  | word text =>
    change FailsPlainly (s.word bareNames text)
    unfold word
    split
    · exact s.failsPlainly_goto _
    · exact .ite (s.failsPlainly_onList _ fun l => l.failsPlainly_name text) (.error rfl)
  | mark m => exact s.failsPlainly_onList _ fun l => l.failsPlainly_mark m

theorem failsPlainly_text (s : Supertypes) (bareNames : Bool) (content : String) :
    FailsPlainly (s.text bareNames content) := .foldlM (failsPlainly_lexeme bareNames) _ _

theorem failsPlainly_element (s : Supertypes) (bareNames : Bool) (e : Element) :
    FailsPlainly (s.element bareNames e) := by
  refine .ite ?_ (s.failsPlainly_text _ _)
  refine e.failsPlainly_classReference.bind fun reference => ?_
  refine reference.failsPlainly_typeName.bind fun type => ?_
  exact s.failsPlainly_onList _ fun l => l.failsPlainly_name type.name

theorem failsPlainly_finish (s : Supertypes) (h : ClassHeader) : FailsPlainly (s.finish h) := by
  have hlist (l : SupertypeList) : FailsPlainly l.finish := l.failsPlainly_endPending.bind_return
  exact (hlist s.extended).bind fun _ => (hlist s.implemented).bind_return

end Supertypes

namespace Header

namespace Android

theorem failsPlainly_slot (slots : List String) (index : Nat) (name : Slot) :
    FailsPlainly (slot slots index name) := by
  unfold slot
  split
  · exact .ok _
  · exact .error rfl

theorem failsPlainly_optional (slots : List String) (index : Nat) (name : Slot)
    (modifier : Modifier) (h : ClassHeader) :
    FailsPlainly (optional slots index name modifier h) :=
  (failsPlainly_slot slots index name).bind fun _ => .ite (.ok _) (.ite (.ok _) (.error rfl))

theorem failsPlainly_record (h : ClassHeader) (run : String) : FailsPlainly (record h run) := by
  unfold record
  refine (failsPlainly_slot _ _ _).bind fun access => ?_
  split
  · refine (failsPlainly_optional _ _ _ _ _).bind fun h => ?_
    refine (failsPlainly_optional _ _ _ _ _).bind fun h => ?_
    refine (failsPlainly_optional _ _ _ _ _).bind fun h => ?_
    refine (failsPlainly_slot _ _ _).bind fun kind => ?_
    split
    · exact .ok _
    · exact .error rfl
  · exact .error rfl

theorem failsPlainly_clauseChild (s : Supertypes) (node : Node) :
    FailsPlainly (clauseChild s node) := by
  cases node with
  | text content => exact s.failsPlainly_text _ _
  | comment content => exact .ok _
  | element tag attributes children => exact s.failsPlainly_element _ _

theorem failsPlainly_element (state : ClassHeader × Supertypes) (l : Located) :
    FailsPlainly (element state l) := by
  obtain ⟨h, s⟩ := state
  simp only [element]
  split
  · refine .ite (.ok _) ?_
    split
    · refine (Supertypes.failsPlainly_goto _ _).bind fun s => ?_
      refine (FailsPlainly.foldlM failsPlainly_clauseChild _ _).bind fun s => ?_
      exact s.failsPlainly_commit.bind_return
    · exact (failsPlainly_record _ _).bind_return
  · exact .ok _

end Android

namespace Google.Reader

theorem failsPlainly_keyword (h : ClassHeader) (word : String) : FailsPlainly (keyword h word) := by
  unfold keyword
  split
  · exact .ok _
  · exact .ok _
  · exact .error rfl

theorem failsPlainly_child (r : Google.Reader) (node : Node) : FailsPlainly (r.child node) := by
  cases node with
  | text content =>
    change FailsPlainly (r.text content)
    unfold text
    split
    · exact (FailsPlainly.foldlM failsPlainly_keyword _ _).bind_return
    · exact .ite (.ok _) (.error rfl)
    · exact (r.supertypes.failsPlainly_text _ _).bind_return
  | comment content => exact .ok _
  | element tag attributes children =>
    change FailsPlainly (r.element ⟨tag, attributes, children⟩)
    unfold element
    split
    · exact .ok _
    · exact .ok _
    · exact .ite (.ok _) (r.supertypes.failsPlainly_element _ _).bind_return

end Google.Reader

end Header

/-- **A class header fails plainly.** -/
theorem ClassHeader.failsPlainly_ofPage (layout : Layout) (limit : Option Nat) (page : Element) :
    FailsPlainly (ClassHeader.ofPage layout limit page) := by
  cases layout with
  | android =>
    exact (FailsPlainly.foldlM Header.Android.failsPlainly_element _ _).bind fun state =>
      state.2.failsPlainly_finish state.1
  | google =>
    refine ((Located.root page).failsPlainly_selectSingle Header.Google.block).bind fun found => ?_
    exact (FailsPlainly.foldlM Header.Google.Reader.failsPlainly_child _ _).bind fun r =>
      r.supertypes.failsPlainly_finish r.header

theorem ClassHeader.failsPlainly_toDeclaration (h : ClassHeader) (name : String) :
    FailsPlainly (h.toDeclaration name) := by
  unfold toDeclaration
  split
  · exact .error rfl
  · exact .ok _

/-! ## 6. Constants -/

namespace Constant

theorem failsPlainly_typeOfWord (word : String) : FailsPlainly (typeOfWord word) :=
  .ite (.ok _) (.ite (.ok _) (.ite (.ok _) (.error rfl)))

theorem failsPlainly_ofLines (signatureLine valueLine doc : String) :
    FailsPlainly (ofLines signatureLine valueLine doc) := by
  have hreader (type : String) : FailsPlainly (literalReader type) :=
    .ite (.ok _) (.ite (.ok _) (.error rfl))
  unfold ofLines
  split
  · exact .error rfl
  · refine (hreader _).bind fun reader => ?_
    split
    · exact .error rfl
    · exact (failsPlainly_typeOfWord _).bind_return

end Constant

end ApiPages
