/-
# Accounting for the tokens of a signature

What is counted in an accepted signature agrees with what it declares
(`accounted_of_ofFragments`): an `@` and a line break for each annotation; no parentheses in a
field, and one pair in any other member; as many parameters as the commas between the parentheses
divide off, and likewise exceptions.  The brackets of each type are balanced by themselves.

All of it is read off from how the tokens spell the signature (`spells_of_ofTokens`): within a
type only commas in a list occur, and none of the marks that divide a signature.
-/
import ApiPages.Proofs.Signature.Accepted
import ApiPages.Proofs.Signature.Nesting

namespace ApiPages.Signature

variable {free : Bool}

/-! ## 1. What is counted -/

/-- For each `@`, what stands between it and the next line break. -/
def annotatedParts : List Token → List (List Token)
  | [] => []
  | t :: ts =>
    if t.isMark .atSign then ts.takeWhile (!·.isLineBreak) :: annotatedParts ts
    else annotatedParts ts

/-- The tokens behind the last line break. -/
def behindLineBreaks (ts : List Token) : List Token :=
  (ts.reverse.takeWhile (!·.isLineBreak)).reverse

/-- The type in what stands before the parentheses: behind the annotations and the modifiers, and
before the name. -/
def headingType (ts : List Token) : List Token :=
  ((behindLineBreaks ts).dropWhile Token.isKeyword).dropLast

/-- The tokens before, between and behind the parentheses of a member, and what they add up to. -/
structure MemberAccounted (s : Signature) (before between behind : List Token) : Prop where
  parentheses : ∀ t ∈ before ++ between ++ behind, t.isParenthesis = false
  returnType : Balanced (headingType before)
  parameters : s.parameters.length = if between.isEmpty then 0 else outerCommas 0 between + 1
  eachParameter : ∀ part ∈ outerParts between, Balanced part
  exceptions : (behind = [] ∧ s.exceptions = []) ∨
    ∃ rest, behind = .word "throws" :: rest ∧ s.exceptions.length = outerCommas 0 rest + 1 ∧
      ∀ part ∈ outerParts rest, Balanced part

/-- **What the tokens of a signature add up to.** -/
structure Accounted (kind : MemberKind) (s : Signature) (ts : List Token) : Prop where
  atSigns : ts.countP (·.isMark .atSign) = s.annotations.length
  lineBreaks : ts.countP Token.isLineBreak = s.annotations.length
  eachAnnotation : ∀ part ∈ annotatedParts ts, Balanced part
  field : kind = .field → (∀ t ∈ ts, t.isParenthesis = false) ∧ Balanced (headingType ts) ∧
    s.parameters = [] ∧ s.exceptions = []
  member : kind ≠ .field → ∃ before between behind, MemberAccounted s before between behind ∧
    ts = before ++ .mark .openParameters :: between ++ .mark .closeParameters :: behind

/-! ## 2. Types and lists -/

/-- Whether a token divides a signature into its parts. -/
def Token.isDivider (t : Token) : Bool := t.isMark .atSign || t.isLineBreak || t.isParenthesis

/-- No divider is among the tokens. -/
def Undivided (ts : List Token) : Prop := ∀ t ∈ ts, t.isDivider = false

theorem Undivided.append {ts us : List Token} (h : Undivided ts) (h' : Undivided us) :
    Undivided (ts ++ us) := by
  simpa [Undivided, or_imp, forall_and] using ⟨h, h'⟩

/-- The tokens lead from `d` open lists to `e`; all their commas stand in lists, and no divider is
among them. -/
structure Nests (d e : Nat) (ts : List Token) : Prop where
  nest : nest? d ts = some e
  commas : outerCommas d ts = 0
  undivided : Undivided ts

namespace Nests

variable {c d e : Nat} {ts us : List Token}

theorem nil (d : Nat) : Nests d d [] := ⟨rfl, rfl, by simp [Undivided]⟩

theorem append (h : Nests c d ts) (h' : Nests d e us) : Nests c e (ts ++ us) where
  nest := by rw [nest?_append h.nest, h'.nest]
  commas := by rw [outerCommas_append h.nest, h.commas, h'.commas]
  undivided := h.undivided.append h'.undivided

/-- A name is neither a bracket nor a comma nor a divider. -/
theorem name {t : Token} {n : String} (h : t.Names n) (d : Nat) : Nests d d [t] := by
  cases h <;> exact ⟨rfl, by simp [outerCommas], by
    simp [Undivided, Token.isDivider, Token.isParenthesis]⟩

theorem openList (d : Nat) : Nests d (d + 1) [.mark .openList] :=
  ⟨rfl, by simp [outerCommas], by simp [Undivided, Token.isDivider, Token.isParenthesis]⟩

theorem closeList (d : Nat) : Nests (d + 1) d [.mark .closeList] :=
  ⟨rfl, by simp [outerCommas], by simp [Undivided, Token.isDivider, Token.isParenthesis]⟩

theorem comma (d : Nat) : Nests (d + 1) (d + 1) [.mark .comma] :=
  ⟨rfl, by simp [outerCommas], by simp [Undivided, Token.isDivider, Token.isParenthesis]⟩

end Nests

/-- How many lists of a frame are open. -/
def openLists (f : TypeFrame) : Nat := if f.isOpen then 1 else 0

/-- **While a frame grows**, its own list is the only one that is left open, and all commas stand in
lists. -/
theorem Grows.nests {place : Place} {f g : TypeFrame} {ts : List Token}
    (h : Grows free place f ts g) (d : Nat) : Nests (d + openLists f) (d + openLists g) ts := by
  induction h generalizing d with
  | refl f => exact .nil _
  | name _ _ _ ht ih => exact (ih d).append (.name ht _)
  | @suffix _ _ _ _ w _ _ _ _ _ ih => exact (ih d).append (.name (.word w) _)
  | @openNamed f g ts t n _ _ hopen ht ih =>
    have h := ((ih d).append (.name ht _)).append (.openList _)
    simpa [openLists, hopen] using h
  | openMore _ _ _ hopen ih =>
    have h := (ih d).append (.openList _)
    simpa [openLists, hopen] using h
  | next _ hopen _ _ ih ihargument =>
    simp only [openLists, hopen, if_true] at ih ⊢
    exact ((ih d).append (ihargument (d + 1))).append (.comma d)
  | close _ hopen _ ih ihargument =>
    simp only [openLists, hopen, if_true] at ih ⊢
    exact ((ih d).append (ihargument (d + 1))).append (.closeList d)

/-- A type that is read from nothing. -/
theorem nests_of_type {place : Place} {t : TypeName} {ts : List Token}
    (h : (Grammar.grown free).type place t ts) : Nests 0 0 ts := Grows.nests h 0

theorem nests_of_parameter {p : Parameter} {ts : List Token} (h : GrownParameter free p ts) :
    Nests 0 0 ts ∧ ts ≠ [] := by
  cases h with
  | @mk t t' ts us w named hw more =>
    have hname : Nests 0 0 [.word w] := .name (.word w) 0
    have h := (named.nests 0).append (hname.append (more.nests 0))
    exact ⟨by simpa [openLists] using h, by simp⟩

/-- A list of things spelled one by one has as many outer commas as it needs. -/
theorem outerCommas_of_commaEnded {α : Type} {P : α → List Token → Prop}
    (hP : ∀ a ts, P a ts → Nests 0 0 ts) {as : List α} {ts : List Token} (h : CommaEnded P as ts) :
    Balanced ts ∧ outerCommas 0 ts = as.length ∧ Undivided ts := by
  induction h with
  | nil => exact ⟨rfl, rfl, by simp [Undivided]⟩
  | @snoc as a ts us _ last ih =>
    obtain ⟨hnest, hcommas, hundivided⟩ := ih
    have hlast := hP a us last
    have hboth : nest? 0 (ts ++ us) = some 0 := by rw [nest?_append hnest, hlast.nest]
    have hcomma : Undivided [.mark .comma] := by
      simp [Undivided, Token.isDivider, Token.isParenthesis]
    refine ⟨?_, ?_, (hundivided.append hlast.undivided).append hcomma⟩
    · rw [Balanced, nest?_append hboth]
      rfl
    · rw [outerCommas_append hboth, outerCommas_append hnest, hcommas, hlast.commas]
      simp [outerCommas]

theorem outerCommas_of_listed {α : Type} {P : α → List Token → Prop}
    (hP : ∀ a ts, P a ts → Nests 0 0 ts) {as : List α} {ts : List Token} (h : Listed P as ts) :
    Balanced ts ∧ as.length = outerCommas 0 ts + 1 ∧ Undivided ts := by
  cases h with
  | @mk as a ts us init last =>
    obtain ⟨hnest, hcommas, hundivided⟩ := outerCommas_of_commaEnded hP init
    have hlast := hP a us last
    refine ⟨?_, ?_, hundivided.append hlast.undivided⟩
    · rw [Balanced, nest?_append hnest, hlast.nest]
    · rw [outerCommas_append hnest, hcommas, hlast.commas]
      simp

/-! ## 3. Up to the name -/

namespace Undivided

variable {ts us : List Token}

theorem word (w : String) : Undivided [.word w] := by
  simp [Undivided, Token.isDivider, Token.isParenthesis]

theorem atSign (h : Undivided ts) : ∀ t ∈ ts, t.isMark .atSign = false := fun t ht => by
  have := h t ht
  simp_all [Token.isDivider]

theorem lineBreak (h : Undivided ts) : ∀ t ∈ ts, t.isLineBreak = false := fun t ht => by
  have := h t ht
  simp_all [Token.isDivider]

theorem parenthesis (h : Undivided ts) : ∀ t ∈ ts, t.isParenthesis = false := fun t ht => by
  have := h t ht
  simp_all [Token.isDivider]

theorem countP_atSign (h : Undivided ts) : ts.countP (·.isMark .atSign) = 0 :=
  List.countP_eq_zero.mpr fun t ht => by simp [h.atSign t ht]

theorem countP_lineBreak (h : Undivided ts) : ts.countP Token.isLineBreak = 0 :=
  List.countP_eq_zero.mpr fun t ht => by simp [h.lineBreak t ht]

theorem annotatedParts_append (h : Undivided ts) (us : List Token) :
    annotatedParts (ts ++ us) = annotatedParts us := by
  induction ts with
  | nil => rfl
  | cons t ts ih =>
    have ht := h.atSign t (by simp)
    simp [annotatedParts, ht, ih fun u hu => h u (by simp [hu])]

theorem behindLineBreaks_append (h : Undivided us) (ts : List Token) :
    behindLineBreaks (ts ++ us) = behindLineBreaks ts ++ us := by
  have hall : ∀ u ∈ us.reverse, (!u.isLineBreak) = true := fun u hu => by
    simp [h.lineBreak u (by simpa using hu)]
  simp [behindLineBreaks, List.takeWhile_append_of_pos hall]

end Undivided

/-- What the annotations and modifiers before the type or name of a member add up to. -/
structure PreambleAccounted (as : List TypeName) (ts : List Token) : Prop where
  atSigns : ts.countP (·.isMark .atSign) = as.length
  lineBreaks : ts.countP Token.isLineBreak = as.length
  parentheses : ∀ t ∈ ts, t.isParenthesis = false
  keywords : ∀ t ∈ behindLineBreaks ts, t.isKeyword = true
  eachAnnotation : ∀ us, (∀ part ∈ annotatedParts us, Balanced part) →
    ∀ part ∈ annotatedParts (ts ++ us), Balanced part

theorem PreambleAccounted.of_preamble {ms : Modifiers} {as : List TypeName} {ts : List Token}
    (h : Preamble (.grown free) ms as ts) : PreambleAccounted as ts := by
  induction h with
  | nil => exact ⟨rfl, rfl, by simp, by simp [behindLineBreaks], by simp⟩
  | @modifier ms as ts m w init hw ih =>
    have hword := Undivided.word w
    refine ⟨?_, ?_, ?_, ?_, fun us hus => ?_⟩
    · simp [ih.atSigns, hword.countP_atSign]
    · simp [ih.lineBreaks, hword.countP_lineBreak]
    · simpa [or_imp, forall_and] using ⟨ih.parentheses, hword.parenthesis _ (by simp)⟩
    · have hkeyword : (Token.word w).isKeyword = true := by simp [Token.isKeyword, hw]
      rw [hword.behindLineBreaks_append]
      simpa [or_imp, forall_and] using ⟨ih.keywords, hkeyword⟩
    · rw [List.append_assoc]
      refine ih.eachAnnotation _ ?_
      rwa [hword.annotatedParts_append]
  | @annotated ms as a ts us init ha ih =>
    have htype : Nests 0 0 us := nests_of_type ha
    have hundivided := htype.undivided
    refine ⟨?_, ?_, ?_, ?_, fun vs hvs => ?_⟩
    · simp [ih.atSigns, hundivided.countP_atSign]
    · simp [ih.lineBreaks, hundivided.countP_lineBreak]
    · have hparentheses := hundivided.parenthesis
      have hinit := ih.parentheses
      simp only [List.mem_append, List.mem_cons, List.not_mem_nil, or_false]
      rintro t ((ht | rfl | ht) | rfl)
      · exact hinit t ht
      · rfl
      · exact hparentheses t ht
      · rfl
    · simp [behindLineBreaks]
    · have hbody : ∀ u ∈ us, (!u.isLineBreak) = true := fun u hu => by
        simp [hundivided.lineBreak u hu]
      have hparts : annotatedParts (.mark .atSign :: us ++ .lineBreak :: vs) =
          us :: annotatedParts vs := by
        simp [annotatedParts, List.takeWhile_append_of_pos hbody,
          hundivided.annotatedParts_append]
      rw [show ts ++ .mark .atSign :: us ++ [.lineBreak] ++ vs =
        ts ++ (.mark .atSign :: us ++ .lineBreak :: vs) by simp]
      refine ih.eachAnnotation _ ?_
      rw [hparts]
      simpa [htype.nest, Balanced] using hvs

/-- What stands before the parentheses of a member adds up, whatever stands behind. -/
structure HeadingAccounted (s : Signature) (ts : List Token) : Prop where
  atSigns : ts.countP (·.isMark .atSign) = s.annotations.length
  lineBreaks : ts.countP Token.isLineBreak = s.annotations.length
  parentheses : ∀ t ∈ ts, t.isParenthesis = false
  returnType : Balanced (headingType ts)
  eachAnnotation : ∀ us, (∀ part ∈ annotatedParts us, Balanced part) →
    ∀ part ∈ annotatedParts (ts ++ us), Balanced part

/-- A type and a name behind the annotations and modifiers; a constructor has no type. -/
theorem PreambleAccounted.heading {s : Signature} {ts us : List Token} {w : String}
    (h : PreambleAccounted s.annotations ts) (htype : Nests 0 0 us)
    (hfirst : ∀ u ∈ (us ++ [Token.word w]).head?, u.isKeyword = false) :
    HeadingAccounted s (ts ++ us ++ [.word w]) := by
  have hundivided : Undivided (us ++ [.word w]) := htype.undivided.append (.word w)
  have hstop : (us ++ [Token.word w]).dropWhile Token.isKeyword = us ++ [.word w] := by
    cases hlist : us ++ [Token.word w] with
    | nil => rfl
    | cons u vs =>
      rw [hlist] at hfirst
      simp [hfirst u rfl]
  have htail : headingType (ts ++ us ++ [.word w]) = us := by
    rw [headingType, List.append_assoc, hundivided.behindLineBreaks_append,
      List.dropWhile_append_of_pos h.keywords, hstop, List.dropLast_concat]
  rw [List.append_assoc] at htail ⊢
  refine ⟨?_, ?_, ?_, ?_, fun vs hvs => ?_⟩
  · rw [List.countP_append, h.atSigns, hundivided.countP_atSign, Nat.add_zero]
  · rw [List.countP_append, h.lineBreaks, hundivided.countP_lineBreak, Nat.add_zero]
  · intro t ht
    rcases List.mem_append.mp ht with ht | ht
    · exact h.parentheses t ht
    · exact hundivided.parenthesis t ht
  · rw [htail]
    exact htype.nest
  · rw [List.append_assoc]
    refine h.eachAnnotation _ ?_
    rwa [hundivided.annotatedParts_append]

theorem HeadingAccounted.of_heading {kind : MemberKind} {s : Signature} {ts : List Token}
    (h : Heading (.grown free) kind s ts) : HeadingAccounted s ts := by
  cases h with
  | @constructor ms as ts w preamble hw =>
    have h := PreambleAccounted.heading
      (s := { modifiers := ms, annotations := as, name := some w }) (w := w)
      (.of_preamble preamble) (.nil 0) (by simp [Token.isKeyword, hw])
    simpa using h
  | @typed _ ms as a ts us w hkind preamble type hfirst hw =>
    refine PreambleAccounted.heading (.of_preamble preamble) (nests_of_type type) ?_
    rcases Grows.head_names type rfl rfl with ⟨-, hnone⟩ | ⟨t, rest, n, rfl, -⟩
    · cases hnone
    · simpa using hfirst

/-! ## 4. Whole signatures -/

/-- The parameters, between the parentheses. -/
theorem accounted_of_parameters {ps : List Parameter} {ts : List Token}
    (h : Parameters (.grown free) ps ts) :
    Undivided ts ∧ Balanced ts ∧
      ps.length = if ts.isEmpty then 0 else outerCommas 0 ts + 1 := by
  cases h with
  | none => exact ⟨by simp [Undivided], rfl, rfl⟩
  | some h =>
    obtain ⟨hbalanced, hlength, hundivided⟩ :=
      outerCommas_of_listed (fun _ _ hp => (nests_of_parameter hp).1) h
    refine ⟨hundivided, hbalanced, ?_⟩
    cases h with
    | @mk _ _ ts us _ last =>
      have hne : ts ++ us ≠ [] := by simp [(nests_of_parameter last).2]
      simpa [List.isEmpty_iff, hne] using hlength

/-- The `throws` clause, behind the parentheses. -/
theorem accounted_of_exceptions {es : List TypeName} {ts : List Token}
    (h : Exceptions (.grown free) es ts) :
    Undivided ts ∧ ((ts = [] ∧ es = []) ∨
      ∃ rest, ts = .word "throws" :: rest ∧ es.length = outerCommas 0 rest + 1 ∧
        ∀ part ∈ outerParts rest, Balanced part) := by
  cases h with
  | none => exact ⟨by simp [Undivided], Or.inl ⟨rfl, rfl⟩⟩
  | some h =>
    obtain ⟨hbalanced, hlength, hundivided⟩ := outerCommas_of_listed (fun _ _ => nests_of_type) h
    exact ⟨(Undivided.word "throws").append hundivided,
      Or.inr ⟨_, rfl, hlength, balanced_of_mem_outerParts hbalanced⟩⟩

/-- **What is spelled adds up.** -/
theorem accounted_of_spells {kind : MemberKind} {s : Signature} {ts : List Token}
    (h : Spells (.grown free) kind s ts) : Accounted kind s ts := by
  cases h with
  | field heading =>
    have h := HeadingAccounted.of_heading heading
    obtain ⟨hparameters, hexceptions, -⟩ := heading.read
    have hparts := h.eachAnnotation [] (by simp [annotatedParts])
    exact ⟨h.atSigns, h.lineBreaks, by simpa using hparts,
      fun _ => ⟨h.parentheses, h.returnType, hparameters, hexceptions⟩,
      fun hkind => (hkind rfl).elim⟩
  | @member _ s ts us vs ps es hkind heading parameters exceptions =>
    have h := HeadingAccounted.of_heading heading
    obtain ⟨hus, hbetween, hlength⟩ := accounted_of_parameters parameters
    obtain ⟨hvs, hthrows⟩ := accounted_of_exceptions exceptions
    refine ⟨?_, ?_, ?_, fun hfield => (hkind hfield).elim, fun _ => ⟨ts, us, vs, ?_, rfl⟩⟩
    · simp [h.atSigns, hus.countP_atSign, hvs.countP_atSign]
    · simp [h.lineBreaks, hus.countP_lineBreak, hvs.countP_lineBreak]
    · rw [List.append_assoc]
      refine h.eachAnnotation _ ?_
      have hrest := hvs.annotatedParts_append []
      simp only [List.append_nil] at hrest
      simp [annotatedParts, hus.annotatedParts_append, hrest]
    · refine ⟨fun t ht => ?_, h.returnType, hlength, balanced_of_mem_outerParts hbetween, hthrows⟩
      simp only [List.mem_append] at ht
      rcases ht with (ht | ht) | ht
      · exact h.parentheses t ht
      · exact hus.parenthesis t ht
      · exact hvs.parenthesis t ht

/-- **The tokens of an accepted signature are accounted for** by what it declares. -/
theorem accounted_of_ofFragments {kind : MemberKind} {limit : Option Nat}
    {fragments : List Fragment} {s : Signature} (h : ofFragments kind limit fragments = .ok s) :
    Accounted kind s (Token.ofFragments fragments) := by
  have hspells : Spells (.grown true) kind s (Token.ofFragments fragments) :=
    spells_of_ofTokens h (by simp)
  exact accounted_of_spells hspells

theorem accounted_of_annotated_method :
    ∃ s, ofFragments .method (some 1) [.text "@Keep", .lineBreak,
        .text "public Map<K, V> m (List<A> a, int b) throws E, F<G>"] = .ok s ∧
      Accounted .method s (Token.ofFragments [.text "@Keep", .lineBreak,
        .text "public Map<K, V> m (List<A> a, int b) throws E, F<G>"]) := by
  have h : ofFragments .method (some 1) [.text "@Keep", .lineBreak,
      .text "public Map<K, V> m (List<A> a, int b) throws E, F<G>"] = .ok {
        modifiers := .single .publicAccess
        annotations := [⟨"Keep", []⟩]
        returnType := some ⟨"Map", [⟨"K", []⟩, ⟨"V", []⟩]⟩
        name := some "m"
        parameters := [⟨⟨"List", [⟨"A", []⟩]⟩, "a"⟩, ⟨⟨"int", []⟩, "b"⟩]
        exceptions := [⟨"E", []⟩, ⟨"F", [⟨"G", []⟩]⟩] } := by decide +kernel
  exact ⟨_, h, accounted_of_ofFragments h⟩

end ApiPages.Signature
