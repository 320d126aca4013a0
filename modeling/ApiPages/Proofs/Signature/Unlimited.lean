/-
# What the limit changes

A reader with a limit is compared with the same reader without one.  The limit is looked at in one
place only, where an argument list is opened.  Every other token has the same outcome in both
(`Reader.step_unlimited`), and an opening bracket has the same outcome or exceeds the limit
(`Reader.openList_unlimited`).  So a signature that is read under a limit either fails with just
that, or is read as if there were none (`ofTokens_unlimited`).

Since the types of an accepted signature are within the limit, and no others are refused, the
limit is an exact filter on the accepted signatures (`ofFragments_limit_iff`).
-/
import ApiPages.Proofs.Signature.Acceptance

namespace ApiPages

/-! ## 1. Types under construction -/

/-- The attempt, with the value that it ends in seen through `f`. -/
def Attempt.map {σ τ : Type} (f : σ → τ) : Attempt σ → Attempt τ
  | done result => done (f result)
  | failed failure rest => failed failure (f rest)

theorem Attempt.toExcept_map {σ τ : Type} (f : σ → τ) (a : Attempt σ) :
    (a.map f).toExcept = a.toExcept.map f := by
  cases a <;> rfl

namespace TypeStack

/-- The stack without its limit. -/
def unlimited (s : TypeStack) : TypeStack := { s with limit := none }

variable (s : TypeStack)

@[simp] theorem current_unlimited : s.unlimited.current = s.current := by
  rw [current, current, unlimited]

@[simp] theorem root_unlimited : s.unlimited.root = s.root := by
  rw [unlimited]

@[simp] theorem inArgument_unlimited : s.unlimited.inArgument = s.inArgument := by
  rw [inArgument, inArgument, unlimited]

@[simp] theorem toType_unlimited : s.unlimited.toType = s.toType := rfl

theorem withCurrent_unlimited (f : TypeFrame) :
    s.unlimited.withCurrent f = (s.withCurrent f).unlimited := by
  obtain ⟨root, inner, limit⟩ := s
  cases inner <;> rfl

theorem onCurrent_unlimited (change : TypeFrame → Except Failure TypeFrame) :
    s.unlimited.onCurrent change = (s.onCurrent change).map unlimited := by
  unfold onCurrent
  rw [current_unlimited]
  split
  · rw [withCurrent_unlimited]
    rfl
  · rfl

theorem handDown_unlimited (change : TypeName → TypeFrame → Except Failure TypeFrame) :
    s.unlimited.handDown change = (s.handDown change).map unlimited := by
  obtain ⟨root, inner, limit⟩ := s
  cases inner with
  | nil => rfl
  | cons f below =>
    simp only [handDown, unlimited]
    cases f.toType with
    | error failure => rfl
    | ok a => exact onCurrent_unlimited ⟨root, below, limit⟩ (change a)

/-- **A step that opens no list does not look at the limit.** -/
theorem step_unlimited {step : TypeStep} (h : step ≠ .openList) :
    s.unlimited.step step = (s.step step).map unlimited := by
  cases step with
  | setName n => exact onCurrent_unlimited s (·.setName n)
  | appendSuffix w => exact onCurrent_unlimited s (·.appendSuffix w)
  | openList => exact absurd rfl h
  | nextArgument =>
    simp only [TypeStack.step, nextArgument, handDown_unlimited]
    cases s.handDown fun argument frame => frame.pushArgument argument <;> rfl
  | closeList =>
    exact handDown_unlimited s fun argument frame => do (← frame.pushArgument argument).closeList

theorem setName_unlimited (n : String) : s.unlimited.setName n = (s.setName n).map unlimited :=
  s.step_unlimited (nofun : TypeStep.setName n ≠ .openList)

theorem appendSuffix_unlimited (w : String) :
    s.unlimited.appendSuffix w = (s.appendSuffix w).map unlimited :=
  s.step_unlimited (nofun : TypeStep.appendSuffix w ≠ .openList)

theorem nextArgument_unlimited : s.unlimited.nextArgument = s.nextArgument.map unlimited :=
  s.step_unlimited (nofun : TypeStep.nextArgument ≠ .openList)

/-- **A list is opened as if there were no limit, or it exceeds the limit.** -/
theorem openList_unlimited :
    (∃ n, s.limit = some n ∧ s.openList = .failed (.depthExceeded n) s) ∨
      s.unlimited.openList = s.openList.map unlimited := by
  cases hlimit : s.exceeded? with
  | some n =>
    have hn : s.limit = some n := (Option.filter_eq_some_iff.mp hlimit).1
    exact Or.inl ⟨n, hn, by rw [openList, hlimit]⟩
  | none =>
    right
    have hfree : s.unlimited.exceeded? = none := rfl
    simp only [openList, hlimit, hfree, current_unlimited]
    cases s.current.name with
    | none => rfl
    | some n =>
      cases s.current.openList with
      | error failure => rfl
      | ok f =>
        simp only [withCurrent_unlimited]
        rfl

end TypeStack

/-! ## 2. The reader -/

namespace Signature

/-- The state with no limit on the type that is being read. -/
def State.unlimited : State → State
  | .modifiers => .modifiers
  | .annotated type => .annotated type.unlimited
  | .returnType type => .returnType type.unlimited
  | .name => .name
  | .parameter type word => .parameter type.unlimited word
  | .complete => .complete
  | .throwsClause type => .throwsClause type.unlimited

@[simp] theorem State.stage_unlimited (s : State) : s.unlimited.stage = s.stage := by
  cases s <;> rfl

theorem State.unlimited_eq_name_iff (s : State) : s.unlimited = .name ↔ s = .name := by
  cases s <;> simp [State.unlimited]

theorem Place.state_unlimited (place : Place) (type : TypeStack) :
    (place.state type).unlimited = place.state type.unlimited := by
  cases place <;> rfl

namespace Reader

/-- The reader without its limit. -/
def unlimited (r : Reader) : Reader := { r with limit := none, state := r.state.unlimited }

variable (r : Reader)

theorem unexpected_unlimited (token : String) :
    r.unlimited.unexpected token = (r.unexpected token).map unlimited := by
  simp [unexpected, unlimited, Except.map]

/-- What is made of a value, where the reader without limit makes the same of it. -/
theorem return_unlimited {α : Type} (x : Except Failure α) {f g : α → Reader}
    (h : ∀ a, g a = (f a).unlimited) :
    (do return g (← x) : Except Failure Reader) =
      (do return f (← x) : Except Failure Reader).map unlimited := by
  cases x with
  | error failure => rfl
  | ok a => exact congrArg Except.ok (h a)

/-- What is made of a value that is itself seen without limit. -/
theorem return_map_unlimited {α β : Type} {u : α → β} (x : Except Failure α) {f : α → Reader}
    {g : β → Reader} (h : ∀ a, g (u a) = (f a).unlimited) :
    (do return g (← x.map u) : Except Failure Reader) =
      (do return f (← x) : Except Failure Reader).map unlimited := by
  cases x with
  | error failure => rfl
  | ok a => exact congrArg Except.ok (h a)

/-- What is made of a type that is one step on. -/
theorem attempt_unlimited (a : Attempt TypeStack) {f g : TypeStack → Reader}
    (h : ∀ type, g type.unlimited = (f type).unlimited) :
    (do return g (← (a.map TypeStack.unlimited).toExcept) : Except Failure Reader) =
      (do return f (← a.toExcept) : Except Failure Reader).map unlimited := by
  rw [Attempt.toExcept_map]
  exact return_map_unlimited a.toExcept h

theorem leaveModifiers_unlimited : r.unlimited.leaveModifiers = r.leaveModifiers.unlimited := by
  obtain ⟨kind, limit, state, read⟩ := r
  cases state <;> cases kind <;> rfl

theorem plainWord_unlimited (w : String) :
    r.unlimited.plainWord w = (r.plainWord w).map unlimited := by
  obtain ⟨kind, limit, state, read⟩ := r
  cases state with
  | modifiers => rfl
  | annotated type =>
    simp only [plainWord, unlimited, State.unlimited, type.setName_unlimited]
    exact attempt_unlimited _ fun _ => rfl
  | returnType type =>
    simp only [plainWord, unlimited, State.unlimited, type.setName_unlimited,
      type.appendSuffix_unlimited, type.current_unlimited, type.inArgument_unlimited,
      type.toType_unlimited]
    split
    · exact attempt_unlimited _ fun _ => rfl
    · split
      · exact attempt_unlimited _ fun _ => rfl
      · split
        · exact unexpected_unlimited ⟨kind, limit, .returnType type, read⟩ w
        · exact return_unlimited type.toType fun _ => rfl
  | name =>
    cases hname : read.name with
    | none => simp [plainWord, unlimited, State.unlimited, hname, Except.map, pure, Except.pure]
    | some n =>
      simp only [plainWord, unlimited, State.unlimited, hname, Option.isSome_some, if_true]
      exact unexpected_unlimited ⟨kind, limit, .name, read⟩ w
  | parameter type name =>
    simp only [plainWord, unlimited, State.unlimited, type.setName_unlimited,
      type.appendSuffix_unlimited, type.current_unlimited, type.inArgument_unlimited]
    split
    · exact attempt_unlimited _ fun _ => rfl
    · split
      · exact attempt_unlimited _ fun _ => rfl
      · split
        · exact unexpected_unlimited ⟨kind, limit, .parameter type name, read⟩ w
        · rfl
  | complete =>
    simp only [plainWord, unlimited, State.unlimited]
    split <;> rfl
  | throwsClause type =>
    simp only [plainWord, unlimited, State.unlimited, type.setName_unlimited]
    exact attempt_unlimited _ fun _ => rfl

theorem word_unlimited (w : String) : r.unlimited.word w = (r.word w).map unlimited := by
  have hplain : r.unlimited.leaveModifiers.plainWord w =
      (r.leaveModifiers.plainWord w).map unlimited := by
    rw [leaveModifiers_unlimited, plainWord_unlimited]
  obtain ⟨kind, limit, state, read⟩ := r
  cases state <;> cases hw : Modifier.ofKeyword? w <;>
    simp only [word, unlimited, State.unlimited, hw] at hplain ⊢ <;> first | exact hplain | rfl

/-- A step of the type has the same outcome without limit if that holds of the type itself. -/
theorem typeStep_unlimited (token : String) {step : TypeStep}
    (h : ∀ (place : Place) (type : TypeStack), r.state = place.state type →
      type.unlimited.step step = (type.step step).map TypeStack.unlimited) :
    r.unlimited.typeStep token step = (r.typeStep token step).map unlimited := by
  rcases r.state.place_or_between with ⟨place, type, hs⟩ | hs
  · have hs' : r.unlimited.state = place.state type.unlimited := by
      rw [unlimited, hs, Place.state_unlimited]
    rw [typeStep_at_place hs, typeStep_at_place hs', h place type hs]
    cases type.step step with
    | done next => simp [Attempt.map, Attempt.toExcept, Except.map, unlimited, goto,
        Place.state_unlimited]
    | failed failure rest => rfl
  · have hs' : r.unlimited.state = .modifiers ∨ r.unlimited.state = .name ∨
        r.unlimited.state = .complete := by
      rcases hs with hs | hs | hs <;> simp [unlimited, hs, State.unlimited]
    rw [typeStep_between hs, typeStep_between hs', unexpected_unlimited]

theorem anchor_unlimited (e : Element) : r.unlimited.anchor e = (r.anchor e).map unlimited := by
  simp only [anchor, leaveModifiers_unlimited]
  cases e.classReference with
  | error failure => rfl
  | ok reference =>
    cases htype : reference.typeName with
    | error failure => simp [htype, bind, Except.bind, Except.map]
    | ok type =>
      simp only [htype, bind, Except.bind]
      exact typeStep_unlimited _ type.name fun _ stack _ => stack.setName_unlimited type.name

theorem lineBreak_unlimited : r.unlimited.lineBreak = r.lineBreak.map unlimited := by
  obtain ⟨kind, limit, state, read⟩ := r
  cases state with
  | annotated type => exact return_unlimited type.toType fun _ => rfl
  | _ => exact unexpected_unlimited ⟨kind, limit, _, read⟩ "<br>"

theorem atSign_unlimited : r.unlimited.atSign = r.atSign.map unlimited := by
  obtain ⟨kind, limit, state, read⟩ := r
  cases state with
  | modifiers => rfl
  | _ => exact unexpected_unlimited ⟨kind, limit, _, read⟩ "@"

theorem openParameters_unlimited : r.unlimited.openParameters = r.openParameters.map unlimited := by
  obtain ⟨kind, limit, state, read⟩ := r
  simp only [openParameters, unlimited, State.unlimited_eq_name_iff]
  split
  · rfl
  · exact unexpected_unlimited ⟨kind, limit, state, read⟩ "("

theorem pushParameter_unlimited (type : TypeStack) (name : Option String) :
    r.unlimited.pushParameter type.unlimited name = (r.pushParameter type name).map unlimited := by
  cases name with
  | none => rfl
  | some w => exact return_unlimited type.toType fun _ => rfl

theorem pushException_unlimited (type : TypeStack) :
    r.unlimited.pushException type.unlimited = (r.pushException type).map unlimited :=
  return_unlimited type.toType fun _ => rfl

theorem comma_unlimited : r.unlimited.comma = r.comma.map unlimited := by
  obtain ⟨kind, limit, state, read⟩ := r
  cases state with
  | returnType type =>
    simp only [comma, unlimited, State.unlimited, type.inArgument_unlimited,
      type.nextArgument_unlimited]
    split
    · exact attempt_unlimited _ fun _ => rfl
    · exact unexpected_unlimited ⟨kind, limit, .returnType type, read⟩ ","
  | parameter type name =>
    have hpush := pushParameter_unlimited ⟨kind, limit, .parameter type name, read⟩ type name
    simp only [comma, unlimited, State.unlimited, type.inArgument_unlimited,
      type.nextArgument_unlimited] at hpush ⊢
    split
    · exact attempt_unlimited _ fun _ => rfl
    · rw [hpush]
      exact return_map_unlimited _ fun _ => rfl
  | throwsClause type =>
    have hpush := pushException_unlimited ⟨kind, limit, .throwsClause type, read⟩ type
    simp only [comma, unlimited, State.unlimited, type.inArgument_unlimited,
      type.nextArgument_unlimited] at hpush ⊢
    split
    · exact attempt_unlimited _ fun _ => rfl
    · rw [hpush]
      exact return_map_unlimited _ fun _ => rfl
  | _ => exact unexpected_unlimited ⟨kind, limit, _, read⟩ ","

theorem closeParameters_unlimited :
    r.unlimited.closeParameters = r.closeParameters.map unlimited := by
  obtain ⟨kind, limit, state, read⟩ := r
  cases state with
  | parameter type name =>
    have hpush := pushParameter_unlimited ⟨kind, limit, .parameter type name, read⟩ type name
    simp only [closeParameters, unlimited, State.unlimited, type.inArgument_unlimited,
      type.root_unlimited] at hpush ⊢
    split
    · exact unexpected_unlimited ⟨kind, limit, .parameter type name, read⟩ ")"
    · split
      · rw [hpush]
        exact return_map_unlimited _ fun _ => rfl
      · split <;> rfl
  | _ => exact unexpected_unlimited ⟨kind, limit, _, read⟩ ")"

/-- **A token that is no opening bracket has the same outcome without limit.** -/
theorem step_unlimited {t : Token} (ht : t ≠ .mark .openList) :
    r.unlimited.step t = (r.step t).map unlimited := by
  cases t with
  | word w => exact word_unlimited r w
  | anchor e => exact anchor_unlimited r e
  | lineBreak => exact lineBreak_unlimited r
  | mark m =>
    cases m with
    | atSign => exact atSign_unlimited r
    | openList => exact absurd rfl ht
    | closeList => exact typeStep_unlimited r ">" fun _ type _ => type.step_unlimited nofun
    | openParameters => exact openParameters_unlimited r
    | comma => exact comma_unlimited r
    | closeParameters => exact closeParameters_unlimited r

/-- **An opening bracket has the same outcome without limit, or it exceeds the limit.** -/
theorem openList_unlimited (hfits : r.Fits) :
    (∃ n, r.limit = some n ∧ r.step (.mark .openList) = .error (.depthExceeded n)) ∨
      r.unlimited.step (.mark .openList) = (r.step (.mark .openList)).map unlimited := by
  by_cases h : ∀ (place : Place) (type : TypeStack), r.state = place.state type →
      type.unlimited.openList = type.openList.map TypeStack.unlimited
  · exact Or.inr (typeStep_unlimited r "<" h)
  · obtain ⟨place, type, hs, hne⟩ : ∃ (place : Place) (type : TypeStack),
        r.state = place.state type ∧
          type.unlimited.openList ≠ type.openList.map TypeStack.unlimited := by
      simpa using h
    obtain ⟨n, hn, hexceeded⟩ := type.openList_unlimited.resolve_right hne
    refine Or.inl ⟨n, (hfits.state place type hs).1.symm.trans hn, ?_⟩
    have hstep : r.step (.mark .openList) =
        ((type.openList).toExcept.map place.state).map r.goto := typeStep_at_place hs "<" .openList
    rw [hstep, hexceeded]
    rfl

/-- **A run has the same outcome without limit, or it exceeds the limit.** -/
theorem run_unlimited {r : Reader} (hfits : r.Fits) (ts : List Token) :
    (∃ n, r.limit = some n ∧ r.run ts = .error (.depthExceeded n)) ∨
      r.unlimited.run ts = (r.run ts).map unlimited := by
  induction ts generalizing r with
  | nil => exact Or.inr rfl
  | cons t ts ih =>
    have hstep : (∃ n, r.limit = some n ∧ r.step t = .error (.depthExceeded n)) ∨
        r.unlimited.step t = (r.step t).map unlimited := by
      by_cases ht : t = .mark .openList
      · exact ht ▸ openList_unlimited r hfits
      · exact Or.inr (step_unlimited r ht)
    rw [run_cons, run_cons]
    rcases hstep with ⟨n, hn, hexceeded⟩ | hsame
    · exact Or.inl ⟨n, hn, by rw [hexceeded]; rfl⟩
    · rw [hsame]
      cases hr : r.step t with
      | error failure => exact Or.inr rfl
      | ok next =>
        rw [← (kind_of_step hr).2]
        exact ih (hfits.step hr)

/-- The end of the signature does not look at the limit. -/
theorem finish_unlimited : r.unlimited.finish = r.finish := by
  obtain ⟨kind, limit, state, read⟩ := r
  cases state with
  | throwsClause type =>
    have hstage := State.stage_unlimited (.throwsClause type)
    simp only [finish, unlimited, State.unlimited, type.root_unlimited] at hstage ⊢
    split
    · cases htype : type.toType <;>
        simp [pushException, htype, bind, Except.bind, pure, Except.pure]
    · rw [hstage]
  | _ => rfl

end Reader

/-! ## 3. Signatures -/

/-- **A signature is read as if there were no limit, or it exceeds the limit.** -/
theorem ofTokens_unlimited (kind : MemberKind) (n : Nat) (ts : List Token) :
    ofTokens kind (some n) ts = .error (.depthExceeded n) ∨
      ofTokens kind (some n) ts = ofTokens kind none ts := by
  have hlimited : ofTokens kind (some n) ts =
      (do (← (Reader.start kind (some n)).run ts).finish) := rfl
  have hfree : ofTokens kind none ts =
      (do (← (Reader.start kind (some n)).unlimited.run ts).finish) := rfl
  rcases Reader.run_unlimited (Reader.Fits.start kind (some n)) ts with
    ⟨m, hm, hexceeded⟩ | hsame
  · obtain rfl : n = m := Option.some.inj hm
    exact Or.inl (by rw [hlimited, hexceeded]; rfl)
  · right
    rw [hlimited, hfree, hsame]
    cases (Reader.start kind (some n)).run ts with
    | error failure => rfl
    | ok r => exact r.finish_unlimited.symm

/-- **The limit is an exact filter**: under it the signatures are accepted that are accepted
without it and have no type that is nested more deeply; any other signature that is accepted
without it exceeds the limit. -/
theorem ofFragments_limit_iff (kind : MemberKind) (n : Nat) (fragments : List Fragment)
    (s : Signature) :
    (ofFragments kind (some n) fragments = .ok s ↔
      ofFragments kind none fragments = .ok s ∧ ∀ t ∈ s.types, t.depth ≤ n) ∧
    (ofFragments kind none fragments = .ok s → (∃ t ∈ s.types, n < t.depth) →
      ofFragments kind (some n) fragments = .error (.depthExceeded n)) := by
  have hwithin : Within (some n) s.types ↔ ∀ t ∈ s.types, t.depth ≤ n := by simp [Within]
  have haccepted : ofFragments kind (some n) fragments = .ok s ↔
      ofFragments kind none fragments = .ok s ∧ ∀ t ∈ s.types, t.depth ≤ n := by
    rw [← hwithin, ofFragments, ofFragments, ofTokens_eq_ok_iff, ofTokens_eq_ok_iff]
    simp [Within]
  refine ⟨haccepted, ?_⟩
  rintro hfree ⟨t, ht, hdeep⟩
  refine (ofTokens_unlimited kind n (Token.ofFragments fragments)).resolve_right fun hsame => ?_
  have hdepth := (haccepted.mp (hsame.trans hfree)).2 t ht
  omega

/-- A return type of two levels is read under a limit of two, and exceeds a limit of one. -/
theorem ofFragments_limit_of_two_levels :
    ∃ s, ofFragments .method none [.text "List<Map<K, V>> f ()"] = .ok s ∧
      (∃ t ∈ s.types, 1 < t.depth) ∧
      ofFragments .method (some 1) [.text "List<Map<K, V>> f ()"] = .error (.depthExceeded 1) ∧
      ofFragments .method (some 2) [.text "List<Map<K, V>> f ()"] = .ok s := by
  let s : Signature := {
    returnType := some ⟨"List", [⟨"Map", [⟨"K", []⟩, ⟨"V", []⟩]⟩]⟩
    name := some "f" }
  have hfree : ofFragments .method none [.text "List<Map<K, V>> f ()"] = .ok s := by
    decide +kernel
  have hdeep : ∃ t ∈ s.types, 1 < t.depth := by decide
  have hwithin : ∀ t ∈ s.types, t.depth ≤ 2 := by decide
  exact ⟨s, hfree, hdeep, (ofFragments_limit_iff .method 1 _ s).2 hfree hdeep,
    (ofFragments_limit_iff .method 2 _ s).1.mpr ⟨hfree, hwithin⟩⟩

end Signature

end ApiPages
