/-
# What one token does to the reader

The reader is at a place where a type is read, or between types.  At a place, a token either is a
step of the type (`Place.TypeToken`), or it ends the type and the reader leaves the place
(`Leaves`); there is no third way (`step_at_place`).  Between types only a few tokens are accepted
(`step_modifiers`, `step_name`, `step_complete`).
-/
import ApiPages.Proofs.Outcome
import ApiPages.Proofs.Signature.Spelling

namespace ApiPages.Signature

/-! ## 1. Steps of a type -/

/-- The step that a token is, when it belongs to the type at the place. -/
inductive Place.TypeToken (place : Place) : Token → TypeStep → Prop
  | name {t : Token} {n : String} (h : t.Names n) : TypeToken place t (.setName n)
  | suffix {w : String} (hplace : place.hasSuffixes = true) (hw : isArraySuffix w = true) :
      TypeToken place (.word w) (.appendSuffix w)
  | openList : TypeToken place (.mark .openList) .openList
  | comma (hplace : place.hasCommas = true) : TypeToken place (.mark .comma) .nextArgument
  | closeList : TypeToken place (.mark .closeList) .closeList

namespace Reader

variable {r r' : Reader} {place : Place} {type : TypeStack}

theorem leaveModifiers_of_place (hs : r.state = place.state type) : r.leaveModifiers = r := by
  cases place <;> simp [leaveModifiers, hs, Place.state]

theorem word_of_place (hs : r.state = place.state type) (w : String) :
    r.word w = r.plainWord w := by
  rw [word, leaveModifiers_of_place hs, hs]
  cases place <;> rfl

theorem typeStep_at_place (hs : r.state = place.state type) (token : String) (step : TypeStep) :
    r.typeStep token step = ((type.step step).toExcept.map place.state).map r.goto := by
  have hstep : r.state.typeStep? step = some ((type.step step).toExcept.map place.state) := by
    rw [hs]
    cases place <;> rfl
  simp only [typeStep, hstep]

/-- A token that is a step of the type is accepted when the step succeeds. -/
theorem typeStep_eq_ok_iff (hs : r.state = place.state type) {token : String} {step : TypeStep} :
    r.typeStep token step = .ok r' ↔
      ∃ next, type.step step = .done next ∧ r' = r.goto (place.state next) := by
  rw [typeStep_at_place hs]
  cases type.step step with
  | done next => simp [Attempt.toExcept, Except.map, eq_comm]
  | failed failure rest => simp [Attempt.toExcept, Except.map]

/-- The steps of a type in terms of the reader's: `f` says where the reader goes. -/
theorem attempt_eq_ok_iff {a : Attempt TypeStack} {f : TypeStack → Reader} :
    (do return f (← a.toExcept) : Except Failure Reader) = .ok r' ↔
      ∃ next, a = .done next ∧ r' = f next := by
  cases a with
  | done next => simp [Attempt.toExcept, bind, Except.bind, pure, Except.pure, eq_comm]
  | failed failure rest => simp [Attempt.toExcept, bind, Except.bind]

/-! ## 2. Leaving a type -/

/-- **How the reader leaves a place**: the tokens that end the type there, and what they make of the
reader. -/
inductive Leaves : Place → TypeStack → Reader → Token → Reader → Prop
  | annotated {r : Reader} {type : TypeStack} {a : TypeName} (ha : type.toType = .ok a) :
      Leaves .annotated type r .lineBreak { r with
        state := .modifiers
        read := { r.read with annotations := r.read.annotations ++ [a] } }
  | returnType {r : Reader} {type : TypeStack} {a : TypeName} {w : String}
      (ha : type.toType = .ok a) (hw : isArraySuffix w = false) :
      Leaves .returnType type r (.word w) { r with
        state := .name
        read := { r.read with returnType := some a, name := some w } }
  | parameterName {r : Reader} {type : TypeStack} {n w : String}
      (hname : type.current.name = some n) (hargument : type.inArgument = false)
      (hw : isArraySuffix w = false) :
      Leaves .parameter type r (.word w) (r.goto (.parameter type (some w)))
  | nextParameter {r : Reader} {type : TypeStack} {a : TypeName} {w : String}
      (ha : type.toType = .ok a) :
      Leaves (.namedParameter w) type r (.mark .comma) { r with
        state := .parameter r.freshType none
        read := { r.read with parameters := r.read.parameters ++ [⟨a, w⟩] } }
  | lastParameter {r : Reader} {type : TypeStack} {a : TypeName} {w : String}
      (ha : type.toType = .ok a) :
      Leaves (.namedParameter w) type r (.mark .closeParameters) { r with
        state := .complete
        read := { r.read with parameters := r.read.parameters ++ [⟨a, w⟩] } }
  | noParameter {r : Reader} {type : TypeStack} (hargument : type.inArgument = false)
      (hname : type.root.name = none) (hnone : r.read.parameters = []) :
      Leaves .parameter type r (.mark .closeParameters) (r.goto .complete)
  | nextException {r : Reader} {type : TypeStack} {a : TypeName} (ha : type.toType = .ok a) :
      Leaves .exception type r (.mark .comma) { r with
        state := .throwsClause r.freshType
        read := { r.read with exceptions := r.read.exceptions ++ [a] } }

/-- A parameter is added when it has a name and its type is complete. -/
theorem pushParameter_eq_ok_iff {name : Option String} :
    r.pushParameter type name = .ok r' ↔ ∃ w a, name = some w ∧ type.toType = .ok a ∧
      r' = { r with read := { r.read with parameters := r.read.parameters ++ [⟨a, w⟩] } } := by
  cases name with
  | none => simp [pushParameter]
  | some w =>
    cases htype : type.toType with
    | error e => simp [pushParameter, htype, bind, Except.bind]
    | ok a => simp [pushParameter, htype, bind, Except.bind, pure, Except.pure, eq_comm]

theorem pushException_eq_ok_iff :
    r.pushException type = .ok r' ↔ ∃ a, type.toType = .ok a ∧
      r' = { r with read := { r.read with exceptions := r.read.exceptions ++ [a] } } := by
  cases htype : type.toType with
  | error e => simp [pushException, htype, bind, Except.bind]
  | ok a => simp [pushException, htype, bind, Except.bind, pure, Except.pure, eq_comm]

/-! ## 3. Words, commas and the other tokens at a place -/

/-- The two ways a token can go at a place. -/
def Outcome (r : Reader) (place : Place) (type : TypeStack) (t : Token) (r' : Reader) : Prop :=
  (∃ step next, place.TypeToken t step ∧ type.step step = .done next ∧
    r' = r.goto (place.state next)) ∨ Leaves place type r t r'

theorem plainWord_at_place (hs : r.state = place.state type) {w : String}
    (h : r.plainWord w = .ok r') : Outcome r place type (.word w) r' := by
  have naming {next : TypeStack} (hnext : type.setName w = .done next)
      (hr : r' = r.goto (place.state next)) : Outcome r place type (.word w) r' :=
    Or.inl ⟨_, next, .name (.word w), hnext, hr⟩
  cases place with
  | annotated =>
    simp only [plainWord, hs, Place.state, attempt_eq_ok_iff] at h
    obtain ⟨next, hnext, hr⟩ := h
    exact naming hnext hr
  | exception =>
    simp only [plainWord, hs, Place.state, attempt_eq_ok_iff] at h
    obtain ⟨next, hnext, hr⟩ := h
    exact naming hnext hr
  | returnType =>
    simp only [plainWord, hs, Place.state] at h
    split at h
    · obtain ⟨next, hnext, hr⟩ := attempt_eq_ok_iff.mp h
      exact naming hnext hr
    · split at h
      · rename_i hw
        obtain ⟨next, hnext, hr⟩ := attempt_eq_ok_iff.mp h
        exact Or.inl ⟨_, next, .suffix rfl hw, hnext, hr⟩
      · rename_i hw
        split at h
        · simp [unexpected] at h
        · obtain ⟨a, ha, hr⟩ := ok_of_bind h
          obtain rfl := Except.ok.inj hr
          exact Or.inr (.returnType ha (by simpa using hw))
  | parameter =>
    simp only [plainWord, hs, Place.state] at h
    split at h
    · obtain ⟨next, hnext, hr⟩ := attempt_eq_ok_iff.mp h
      exact naming hnext hr
    · rename_i hname
      split at h
      · rename_i hw
        obtain ⟨next, hnext, hr⟩ := attempt_eq_ok_iff.mp h
        exact Or.inl ⟨_, next, .suffix rfl (by simpa using hw), hnext, hr⟩
      · rename_i hw
        split at h
        · simp [unexpected] at h
        · rename_i hargument
          obtain rfl := Except.ok.inj h
          obtain ⟨n, hn⟩ := Option.ne_none_iff_exists'.mp (by simpa using hname)
          exact Or.inr (.parameterName hn (by simpa using hargument) (by simpa using hw))
  | namedParameter name =>
    simp only [plainWord, hs, Place.state] at h
    split at h
    · obtain ⟨next, hnext, hr⟩ := attempt_eq_ok_iff.mp h
      exact naming hnext hr
    · simp [unexpected] at h

theorem comma_at_place (hs : r.state = place.state type) (h : r.comma = .ok r') :
    Outcome r place type (.mark .comma) r' := by
  cases place with
  | annotated => simp [comma, hs, Place.state, unexpected] at h
  | returnType =>
    simp only [comma, hs, Place.state] at h
    split at h
    · obtain ⟨next, hnext, hr⟩ := attempt_eq_ok_iff.mp h
      exact Or.inl ⟨_, next, .comma rfl, hnext, hr⟩
    · simp [unexpected] at h
  | parameter =>
    simp only [comma, hs, Place.state] at h
    split at h
    · obtain ⟨next, hnext, hr⟩ := attempt_eq_ok_iff.mp h
      exact Or.inl ⟨_, next, .comma rfl, hnext, hr⟩
    · obtain ⟨pushed, hpushed, -⟩ := ok_of_bind h
      simp [pushParameter] at hpushed
  | namedParameter name =>
    simp only [comma, hs, Place.state] at h
    split at h
    · obtain ⟨next, hnext, hr⟩ := attempt_eq_ok_iff.mp h
      exact Or.inl ⟨_, next, .comma rfl, hnext, hr⟩
    · obtain ⟨pushed, hpushed, hr⟩ := ok_of_bind h
      obtain ⟨w, a, hw, ha, rfl⟩ := pushParameter_eq_ok_iff.mp hpushed
      obtain rfl := Option.some.inj hw
      obtain rfl := Except.ok.inj hr
      exact Or.inr (.nextParameter ha)
  | exception =>
    simp only [comma, hs, Place.state] at h
    split at h
    · obtain ⟨next, hnext, hr⟩ := attempt_eq_ok_iff.mp h
      exact Or.inl ⟨_, next, .comma rfl, hnext, hr⟩
    · obtain ⟨pushed, hpushed, hr⟩ := ok_of_bind h
      obtain ⟨a, ha, rfl⟩ := pushException_eq_ok_iff.mp hpushed
      obtain rfl := Except.ok.inj hr
      exact Or.inr (.nextException ha)

theorem closeParameters_at_place (hs : r.state = place.state type)
    (h : r.closeParameters = .ok r') : Leaves place type r (.mark .closeParameters) r' := by
  cases place with
  | annotated => simp [closeParameters, hs, Place.state, unexpected] at h
  | returnType => simp [closeParameters, hs, Place.state, unexpected] at h
  | exception => simp [closeParameters, hs, Place.state, unexpected] at h
  | parameter =>
    simp only [closeParameters, hs, Place.state] at h
    split at h
    · simp [unexpected] at h
    · rename_i hargument
      simp only [Option.isSome_none, Bool.false_eq_true, if_false] at h
      split at h
      · simp at h
      · rename_i hnone
        obtain rfl := Except.ok.inj h
        simp only [Bool.or_eq_true, not_or] at hnone
        exact .noParameter (by simpa using hargument) (by simpa using hnone.1)
          (by simpa using hnone.2)
  | namedParameter name =>
    simp only [closeParameters, hs, Place.state] at h
    split at h
    · simp [unexpected] at h
    · simp only [Option.isSome_some, if_true] at h
      obtain ⟨pushed, hpushed, hr⟩ := ok_of_bind h
      obtain ⟨w, a, hw, ha, rfl⟩ := pushParameter_eq_ok_iff.mp hpushed
      obtain rfl := Option.some.inj hw
      obtain rfl := Except.ok.inj hr
      exact .lastParameter ha

/-- An anchor names something, and is then a step of the type. -/
theorem anchor_eq_ok {e : Element} (h : r.anchor e = .ok r') :
    ∃ n, Token.Names (.anchor e) n ∧ r.leaveModifiers.typeStep n (.setName n) = .ok r' := by
  obtain ⟨reference, href, h⟩ := ok_of_bind h
  obtain ⟨type, htype, h⟩ := ok_of_bind h
  exact ⟨type.name, .anchor href htype, h⟩

/-- **A token that is accepted at a place belongs to the type there, or ends it.** -/
theorem step_at_place (hs : r.state = place.state type) {t : Token} (h : r.step t = .ok r') :
    Outcome r place type t r' := by
  have stepping {step : TypeStep} {token : String} (ht : place.TypeToken t step)
      (h : r.typeStep token step = .ok r') : Outcome r place type t r' := by
    obtain ⟨next, hnext, hr⟩ := (typeStep_eq_ok_iff hs).mp h
    exact Or.inl ⟨_, next, ht, hnext, hr⟩
  cases t with
  | word w =>
    exact plainWord_at_place hs (word_of_place hs w ▸ h)
  | anchor e =>
    obtain ⟨n, hn, h⟩ := anchor_eq_ok h
    rw [leaveModifiers_of_place hs] at h
    exact stepping (.name hn) h
  | lineBreak =>
    cases place with
    | annotated =>
      simp only [step, lineBreak, hs, Place.state] at h
      obtain ⟨a, ha, hr⟩ := ok_of_bind h
      obtain rfl := Except.ok.inj hr
      exact Or.inr (.annotated ha)
    | _ => simp [step, lineBreak, hs, Place.state, unexpected] at h
  | mark m =>
    cases m with
    | atSign => cases place <;> simp [step, mark, atSign, hs, Place.state, unexpected] at h
    | openList => exact stepping .openList h
    | closeList => exact stepping .closeList h
    | openParameters =>
      cases place <;> simp [step, mark, openParameters, hs, Place.state, unexpected] at h
    | comma => exact comma_at_place hs h
    | closeParameters => exact Or.inr (closeParameters_at_place hs h)

/-! ## 4. The other way round

Whatever belongs to a type, or ends it, is accepted. -/

/-- An anchor names the type that begins behind the modifiers, or that is being read. -/
theorem anchor_eq {e : Element} {n : String} (h : Token.Names (.anchor e) n) :
    r.anchor e = r.leaveModifiers.typeStep n (.setName n) := by
  cases h with
  | anchor href htype => simp [anchor, href, htype, bind, Except.bind]

/-- **A token that belongs to the type is accepted**, if the type takes the step. -/
theorem step_of_typeToken (hs : r.state = place.state type) {t : Token} {step : TypeStep}
    {next : TypeStack} (ht : place.TypeToken t step) (hnext : type.step step = .done next) :
    r.step t = .ok (r.goto (place.state next)) := by
  have hframes := TypeStack.frames_of_step hnext
  have taken {token : String} : r.typeStep token step = .ok (r.goto (place.state next)) :=
    (typeStep_eq_ok_iff hs).mpr ⟨next, hnext, rfl⟩
  rw [type.frames_eq_cons] at hframes
  generalize hcurrent : type.current = g at hframes
  generalize htail : type.frames.tail = below at hframes
  generalize next.frames = frames at hframes
  cases ht with
  | openList => exact taken
  | closeList => exact taken
  | name ht =>
    cases ht with
    | anchor href htype =>
      rw [Reader.step, anchor_eq (.anchor href htype), leaveModifiers_of_place hs]
      exact taken
    | word =>
      cases hframes with
      | setName hname =>
        have hset : type.setName _ = .done next := hnext
        rw [Reader.step, word_of_place hs]
        cases place <;>
          simp [plainWord, hs, Place.state, hcurrent, hname, hset, Attempt.toExcept, bind,
            Except.bind, pure, Except.pure]
  | @suffix w hplace hw =>
    cases hframes with
    | appendSuffix hname =>
      have hset : type.appendSuffix w = .done next := hnext
      rw [Reader.step, word_of_place hs]
      cases place <;>
        simp_all [plainWord, Place.state, Place.hasSuffixes, Attempt.toExcept, bind, Except.bind,
          pure, Except.pure]
  | comma hplace =>
    cases hframes with
    | nextArgument ha hopen =>
      have hargument : type.inArgument = true :=
        type.inArgument_eq_true_iff.mpr (by rw [htail]; simp)
      have hset : type.nextArgument = .done next := hnext
      cases place <;>
        simp_all [Reader.step, mark, comma, Place.state, Place.hasCommas, Attempt.toExcept, bind,
          Except.bind, pure, Except.pure]

/-- A type that is complete has a name, and no list of it is open. -/
theorem finished_of_toType {a : TypeName} (ha : type.toType = .ok a) :
    type.inArgument = false ∧ type.current = .finished a := by
  have hframes := TypeStack.toType_eq_ok_iff.mp ha
  have hargument : type.inArgument = false := by
    cases h : type.inArgument with
    | false => rfl
    | true => exact absurd (by simp [hframes]) (type.inArgument_eq_true_iff.mp h)
  rw [type.inArgument_eq_false_iff.mp hargument] at hframes
  exact ⟨hargument, (List.cons.inj hframes).1⟩

/-- **A token that ends the type is accepted.** -/
theorem step_of_leaves (hs : r.state = place.state type) {t : Token}
    (h : Leaves place type r t r') : r.step t = .ok r' := by
  cases h with
  | annotated ha =>
    simp [Reader.step, lineBreak, hs, Place.state, ha, bind, Except.bind, pure, Except.pure]
  | returnType ha hw =>
    obtain ⟨hargument, hcurrent⟩ := finished_of_toType ha
    rw [Reader.step, word_of_place hs]
    simp [plainWord, hs, Place.state, hcurrent, hw, hargument, ha, bind, Except.bind, pure,
      Except.pure]
  | parameterName hname hargument hw =>
    rw [Reader.step, word_of_place hs]
    simp [plainWord, hs, Place.state, hname, hw, hargument, pure, Except.pure]
  | nextParameter ha =>
    have hargument := (finished_of_toType ha).1
    simp [Reader.step, mark, comma, hs, Place.state, hargument, pushParameter, ha, bind,
      Except.bind, pure, Except.pure, goto, freshType]
  | lastParameter ha =>
    have hargument := (finished_of_toType ha).1
    simp [Reader.step, mark, closeParameters, hs, Place.state, hargument, pushParameter, ha, bind,
      Except.bind, pure, Except.pure, goto]
  | noParameter hargument hname hnone =>
    simp [Reader.step, mark, closeParameters, hs, Place.state, hargument, hname, hnone, pure,
      Except.pure]
  | nextException ha =>
    have hargument := (finished_of_toType ha).1
    simp [Reader.step, mark, comma, hs, Place.state, hargument, pushException, ha, bind,
      Except.bind, pure, Except.pure, goto, freshType]

/-! ## 5. Between types -/

/-- Behind the modifiers of a method or field its type begins. -/
theorem leaveModifiers_of_modifiers (hs : r.state = .modifiers) (hkind : r.kind ≠ .constructor) :
    r.leaveModifiers = r.goto (.returnType r.freshType) := by
  cases hk : r.kind <;> simp_all [leaveModifiers]

/-- Between types there is no use for a token that is a step of a type. -/
theorem typeStep_between (hs : r.state = .modifiers ∨ r.state = .name ∨ r.state = .complete)
    {token : String} {step : TypeStep} : r.typeStep token step = r.unexpected token := by
  rcases hs with hs | hs | hs <;> simp [typeStep, State.typeStep?, hs]

/-- The tokens that may be accepted between types. -/
theorem token_between (hs : r.state = .modifiers ∨ r.state = .name ∨ r.state = .complete)
    {t : Token} (h : r.step t = .ok r') :
    (∃ w, t = .word w ∧ r.word w = .ok r') ∨ (∃ e, t = .anchor e ∧ r.anchor e = .ok r') ∨
    (t = .mark .atSign ∧ r.atSign = .ok r') ∨
    (t = .mark .openParameters ∧ r.openParameters = .ok r') := by
  cases t with
  | word w => exact Or.inl ⟨w, rfl, h⟩
  | anchor e => exact Or.inr (Or.inl ⟨e, rfl, h⟩)
  | lineBreak => rcases hs with hs | hs | hs <;> simp [step, lineBreak, hs, unexpected] at h
  | mark m =>
    cases m with
    | atSign => exact Or.inr (Or.inr (Or.inl ⟨rfl, h⟩))
    | openParameters => exact Or.inr (Or.inr (Or.inr ⟨rfl, h⟩))
    | openList => simp [step, mark, typeStep_between hs, unexpected] at h
    | closeList => simp [step, mark, typeStep_between hs, unexpected] at h
    | comma => rcases hs with hs | hs | hs <;> simp [step, mark, comma, hs, unexpected] at h
    | closeParameters =>
      rcases hs with hs | hs | hs <;> simp [step, mark, closeParameters, hs, unexpected] at h

/-- **Among the modifiers**: a keyword, the beginning of an annotation, the name of a constructor,
or the first token of a type. -/
theorem step_modifiers (hs : r.state = .modifiers) {t : Token} (hstep : r.step t = .ok r') :
    (∃ w m, t = .word w ∧ Modifier.ofKeyword? w = some m ∧
      r' = { r with read := { r.read with modifiers := r.read.modifiers.insert m } }) ∨
    (t = .mark .atSign ∧ r' = r.goto (.annotated r.freshType)) ∨
    (∃ w, r.kind = .constructor ∧ t = .word w ∧ Modifier.ofKeyword? w = none ∧
      r' = { r with state := .name, read := { r.read with name := some w } }) ∨
    (∃ n next, r.kind ≠ .constructor ∧ t.Names n ∧ t.isKeyword = false ∧
      r.freshType.setName n = .done next ∧ r' = r.goto (.returnType next)) := by
  rcases token_between (Or.inl hs) hstep with ⟨w, rfl, h⟩ | ⟨e, rfl, h⟩ | ⟨rfl, h⟩ | ⟨rfl, h⟩
  · cases hw : Modifier.ofKeyword? w with
    | some m =>
      simp only [word, hs, hw] at h
      exact Or.inl ⟨w, m, rfl, hw, by rw [← Except.ok.inj h, hs]⟩
    | none =>
      have hword : r.leaveModifiers.plainWord w = .ok r' := by simpa [word, hs, hw] using h
      by_cases hkind : r.kind = .constructor
      · simp only [leaveModifiers, hs, hkind, plainWord, goto] at hword
        split at hword
        · simp [unexpected] at hword
        · exact Or.inr (Or.inr (Or.inl
            ⟨w, hkind, rfl, hw, by rw [← Except.ok.inj hword, hkind]⟩))
      · rw [leaveModifiers_of_modifiers hs hkind] at hword
        have hset : (do return r.goto (.returnType (← (r.freshType.setName w).toExcept)) :
            Except Failure Reader) = .ok r' := hword
        obtain ⟨next, hnext, hr⟩ := attempt_eq_ok_iff.mp hset
        exact Or.inr (Or.inr (Or.inr
          ⟨w, next, hkind, .word w, by simp [Token.isKeyword, hw], hnext, hr⟩))
  · obtain ⟨n, hn, h⟩ := anchor_eq_ok h
    by_cases hkind : r.kind = .constructor
    · simp [leaveModifiers, hs, hkind, typeStep, State.typeStep?, goto, unexpected] at h
    · have hplace : (r.goto (.returnType r.freshType)).state = Place.returnType.state r.freshType :=
        rfl
      rw [leaveModifiers_of_modifiers hs hkind] at h
      obtain ⟨next, hnext, hr⟩ := (typeStep_eq_ok_iff hplace).mp h
      exact Or.inr (Or.inr (Or.inr ⟨n, next, hkind, hn, rfl, hnext, hr⟩))
  · simp only [atSign, hs] at h
    exact Or.inr (Or.inl ⟨rfl, (Except.ok.inj h).symm⟩)
  · simp [openParameters, hs, unexpected] at h

/-- **Where the name is read**: the name, and behind it only the opening parenthesis, which a field
does not have. -/
theorem step_name (hs : r.state = .name) {t : Token} (hstep : r.step t = .ok r') :
    (∃ w, r.read.name = none ∧ r' = { r with read := { r.read with name := some w } }) ∨
    (t = .mark .openParameters ∧ r.kind ≠ .field ∧ r' = r.goto (.parameter r.freshType none)) := by
  rcases token_between (Or.inr (Or.inl hs)) hstep with
    ⟨w, rfl, h⟩ | ⟨e, rfl, h⟩ | ⟨rfl, h⟩ | ⟨rfl, h⟩
  · have hword : r.plainWord w = .ok r' := by simpa [word, leaveModifiers, hs] using h
    simp only [plainWord, hs] at hword
    split at hword
    · simp [unexpected] at hword
    · rename_i hname
      exact Or.inl ⟨w, by simpa using hname, by rw [← Except.ok.inj hword, hs]⟩
  · obtain ⟨n, hn, h⟩ := anchor_eq_ok h
    simp [leaveModifiers, hs, typeStep, State.typeStep?, unexpected] at h
  · simp [atSign, hs, unexpected] at h
  · simp only [openParameters] at h
    split at h
    · rename_i hcond
      exact Or.inr ⟨rfl, hcond.2.2, (Except.ok.inj h).symm⟩
    · simp [unexpected] at h

/-- **Behind the parameters**: only the word that begins the `throws` clause. -/
theorem step_complete (hs : r.state = .complete) {t : Token} (hstep : r.step t = .ok r') :
    t = .word "throws" ∧ r' = r.goto (.throwsClause r.freshType) := by
  rcases token_between (Or.inr (Or.inr hs)) hstep with
    ⟨w, rfl, h⟩ | ⟨e, rfl, h⟩ | ⟨rfl, h⟩ | ⟨rfl, h⟩
  · have hword : r.plainWord w = .ok r' := by simpa [word, leaveModifiers, hs] using h
    simp only [plainWord, hs] at hword
    split at hword
    · rename_i hw
      exact ⟨by rw [hw], (Except.ok.inj hword).symm⟩
    · simp [unexpected] at hword
  · obtain ⟨n, hn, h⟩ := anchor_eq_ok h
    simp [leaveModifiers, hs, typeStep, State.typeStep?, unexpected] at h
  · simp [atSign, hs, unexpected] at h
  · simp [openParameters, hs, unexpected] at h

/-! ## 6. Opening brackets behind names -/

/-- Whether the next token is to name a type. -/
def awaitsName (r : Reader) : Bool :=
  match r.state with
  | .modifiers => r.kind ≠ .constructor
  | .annotated type | .returnType type | .parameter type _ | .throwsClause type =>
    type.current.name.isNone
  | .name | .complete => false

theorem awaitsName_of_place (hs : r.state = place.state type) :
    r.awaitsName = true ↔ type.current.name = none := by
  cases place <;> simp [awaitsName, hs, Place.state]

/-- A step of a type without a name can only name it. -/
theorem setName_of_typeToken {t : Token} {step : TypeStep} {next : TypeStack}
    (ht : place.TypeToken t step) (hname : type.current.name = none)
    (hnext : type.step step = .done next) : ∃ n, t.Names n ∧ type.setName n = .done next := by
  have hframes := TypeStack.frames_of_step hnext
  rw [type.frames_eq_cons] at hframes
  generalize type.current = g at hframes hname
  generalize type.frames.tail = below at hframes
  generalize next.frames = frames at hframes
  cases ht with
  | name ht => exact ⟨_, ht, hnext⟩
  | suffix => cases hframes; simp_all
  | openList => cases hframes; simp_all
  | comma => cases hframes; simp_all [TypeFrame.toType]
  | closeList => cases hframes; simp_all [TypeFrame.toType]

/-- A type without a name is only left at the end of an empty list of parameters. -/
theorem complete_of_leaves {t : Token} (h : Leaves place type r t r')
    (hname : type.current.name = none) : r' = r.goto .complete := by
  have hnamed {a : TypeName} (ha : type.toType = .ok a) : False := by
    rw [(finished_of_toType ha).2] at hname
    simp at hname
  cases h with
  | annotated ha => exact (hnamed ha).elim
  | returnType ha => exact (hnamed ha).elim
  | parameterName hnamed => simp [hname] at hnamed
  | nextParameter ha => exact (hnamed ha).elim
  | lastParameter ha => exact (hnamed ha).elim
  | noParameter => rfl
  | nextException ha => exact (hnamed ha).elim

/-- Where the reader is when a token that it awaits as a name is followed by an opening bracket:
at a place, the first token of a return type included. -/
theorem step_open {r'' : Reader} {t : Token} (hname : r.awaitsName = true)
    (hstep : r.step t = .ok r') (hopen : r'.step (.mark .openList) = .ok r'') :
    ∃ (place : Place) (type next after : TypeStack) (n : String), t.Names n ∧
      type.setName n = .done next ∧ next.openList = .done after ∧
      r'' = r.goto (place.state after) ∧
      (r.state = place.state type ∨
        (r.state = .modifiers ∧ r.kind ≠ .constructor ∧ t.isKeyword = false ∧
          place = .returnType ∧ type = r.freshType)) := by
  have opened (place : Place) {next : TypeStack} (hr : r' = r.goto (place.state next)) :
      ∃ after, next.openList = .done after ∧ r'' = r.goto (place.state after) := by
    subst hr
    have hs : (r.goto (place.state next)).state = place.state next := rfl
    obtain ⟨after, hafter, rfl⟩ := (typeStep_eq_ok_iff hs).mp hopen
    exact ⟨after, hafter, rfl⟩
  have unopened (hs : r'.state = .modifiers ∨ r'.state = .name ∨ r'.state = .complete) : False := by
    simp [step, mark, typeStep_between hs, unexpected] at hopen
  rcases r.state.place_or_between with ⟨place, type, hs⟩ | hmodifiers | hs | hs
  · rw [awaitsName_of_place hs] at hname
    rcases step_at_place hs hstep with ⟨_, next, ht, hnext, hr⟩ | hleaves
    · obtain ⟨n, hn, hset⟩ := setName_of_typeToken ht hname hnext
      obtain ⟨after, hafter, hr''⟩ := opened place hr
      exact ⟨place, type, next, after, n, hn, hset, hafter, hr'', Or.inl hs⟩
    · obtain rfl := complete_of_leaves hleaves hname
      exact (unopened (by simp [goto])).elim
  · rcases step_modifiers hmodifiers hstep with ⟨_, _, -, -, rfl⟩ | ⟨-, hr⟩ | ⟨_, -, -, -, rfl⟩ |
      ⟨n, next, hkind, hn, hkeyword, hnext, hr⟩
    · exact (unopened (Or.inl hmodifiers)).elim
    · obtain ⟨after, hafter, -⟩ := opened .annotated hr
      have hframes : TypeStack.FrameStep r.freshType.frames .openList after.frames :=
        TypeStack.frames_of_step hafter
      generalize after.frames = frames at hframes
      cases hframes with
      | openList hnamed => exact nomatch hnamed
    · exact (unopened (by simp)).elim
    · obtain ⟨after, hafter, hr''⟩ := opened .returnType hr
      exact ⟨.returnType, r.freshType, next, after, n, hn, hnext, hafter, hr'',
        Or.inr ⟨hmodifiers, hkind, hkeyword, rfl, rfl⟩⟩
  · simp [awaitsName, hs] at hname
  · simp [awaitsName, hs] at hname

/-! ## 7. Runs -/

/-- What a reader does with a sequence of tokens. -/
def run (r : Reader) (ts : List Token) : Except Failure Reader := ts.foldlM step r

@[simp] theorem run_nil (r : Reader) : r.run [] = .ok r := rfl

@[simp] theorem run_cons (r : Reader) (t : Token) (ts : List Token) :
    r.run (t :: ts) = (do (← r.step t).run ts) := rfl

theorem run_append (r : Reader) (ts us : List Token) :
    r.run (ts ++ us) = (do (← r.run ts).run us) := by
  simp [run, List.foldlM_append]

theorem run_append_of_ok {ts : List Token} (h : r.run ts = .ok r') (us : List Token) :
    r.run (ts ++ us) = r'.run us := by
  rw [run_append, h]
  rfl

/-- A run over a sequence and one token more is a run and a step. -/
theorem run_snoc {ts : List Token} {t : Token} :
    r.run (ts ++ [t]) = .ok r' ↔ ∃ middle, r.run ts = .ok middle ∧ middle.step t = .ok r' := by
  rw [run_append]
  cases r.run ts with
  | error e => simp [bind, Except.bind]
  | ok middle =>
    simp only [run_cons, run_nil, bind, Except.bind, Except.ok.injEq, exists_eq_left']
    cases middle.step t <;> simp

/-- Neither a step nor a run changes what kind of member is read, or how deeply lists may be
nested. -/
theorem kind_of_step {t : Token} (h : r.step t = .ok r') :
    r'.kind = r.kind ∧ r'.limit = r.limit := by
  rcases r.state.place_or_between with ⟨place, type, hs⟩ | hs | hs | hs
  · rcases step_at_place hs h with ⟨_, next, -, -, rfl⟩ | hleaves
    · exact ⟨rfl, rfl⟩
    · cases hleaves <;> exact ⟨rfl, rfl⟩
  · rcases step_modifiers hs h with ⟨_, _, -, -, rfl⟩ | ⟨-, rfl⟩ | ⟨_, -, -, -, rfl⟩ |
      ⟨_, _, -, -, -, -, rfl⟩ <;> exact ⟨rfl, rfl⟩
  · rcases step_name hs h with ⟨_, -, rfl⟩ | ⟨-, -, rfl⟩ <;> exact ⟨rfl, rfl⟩
  · obtain ⟨-, rfl⟩ := step_complete hs h
    exact ⟨rfl, rfl⟩

theorem kind_of_run {ts : List Token} (h : r.run ts = .ok r') :
    r'.kind = r.kind ∧ r'.limit = r.limit := by
  induction ts generalizing r with
  | nil => exact Except.ok.inj h ▸ ⟨rfl, rfl⟩
  | cons t ts ih =>
    obtain ⟨middle, hstep, hrun⟩ := ok_of_bind h
    obtain ⟨hkind, hlimit⟩ := kind_of_step hstep
    obtain ⟨hkind', hlimit'⟩ := ih hrun
    exact ⟨hkind'.trans hkind, hlimit'.trans hlimit⟩

/-- **Every list is opened right behind the name of its type**: in front of an opening bracket
stands a token that the reader awaited as a name. -/
def ListsFollowNames (r : Reader) (ts : List Token) : Prop :=
  ∀ before t after, ts = before ++ t :: .mark .openList :: after →
    ∃ middle, r.run before = .ok middle ∧ middle.awaitsName = true

theorem ListsFollowNames.of_append {ts us : List Token} (h : r.ListsFollowNames (ts ++ us)) :
    r.ListsFollowNames ts := by
  rintro before t after rfl
  exact h before t (after ++ us) (by simp)

end Reader

end ApiPages.Signature
