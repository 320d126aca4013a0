/-
# What a header records of its supertypes

Whatever a header looks like, a type that it records is not one of those that go without saying,
and is within the limit (`TypeName.Recordable`).  The types under construction stay within the limit
as those of a signature do; a type is recorded only when it is complete.  So every operation on a
list keeps it sound (`SupertypeList.Sound`), every node of a header keeps both lists sound
(`Supertypes.Sound`), and the header of a page
has only such types (`ClassHeader.sound_of_ofPage`).

What an operation on a list does when it succeeds is said first; nothing else is needed of it.
-/
import ApiPages.Header.Page
import ApiPages.Proofs.Outcome
import ApiPages.Proofs.Signature.Limit

namespace ApiPages

/-- A type that a header may record. -/
structure TypeName.Recordable (limit : Option Nat) (t : TypeName) : Prop where
  explicit : t.name ∉ implicitSupertypes
  depth_le : ∀ n, limit = some n → t.depth ≤ n

/-! ## 1. Operations on lists -/

/-- What a mark does to a type under construction. -/
def ClauseMark.step : ClauseMark → TypeStep
  | openList => .openList
  | closeList => .closeList
  | comma => .nextArgument

namespace SupertypeList

variable {l l' : SupertypeList} {type : TypeStack}

theorem ok_of_typeStep {step : TypeStep} (h : l.typeStep type step = .ok l') :
    ∃ next, type.step step = .done next ∧ l' = { l with pending := some next } := by
  obtain ⟨next, hnext, rfl⟩ := ok_of_map h
  exact ⟨next, TypeStack.done_of_toExcept hnext, rfl⟩

/-- A pending type that ends is recorded, and nothing is pending any more. -/
theorem ok_of_endPending (h : l.endPending = .ok l') :
    (l.pending = none ∧ l' = l) ∨
      ∃ type t, l.pending = some type ∧ type.toType = .ok t ∧
        l' = record { l with pending := none } t := by
  unfold SupertypeList.endPending at h
  split at h
  · rename_i hnone
    exact .inl ⟨hnone, (Except.ok.inj h).symm⟩
  · rename_i type htype
    obtain ⟨t, ht, rfl⟩ := ok_of_map h
    exact .inr ⟨type, t, htype, ht, rfl⟩

theorem ok_of_commit (h : l.commit = .ok l') : l' = l ∨ l.endPending = .ok l' := by
  unfold SupertypeList.commit at h
  split at h
  · exact .inl (Except.ok.inj h).symm
  · exact .inr h

/-- A name goes to the pending type, or ends it and begins the next one. -/
theorem ok_of_name {n : String} (h : l.name n = .ok l') :
    (∃ type, l.pending = some type ∧ l.typeStep type (.setName n) = .ok l') ∨
      ∃ ended, l.endPending = .ok ended ∧
        ended.typeStep (.start l.limit) (.setName n) = .ok l' := by
  unfold SupertypeList.name at h
  split at h
  · rename_i type htype
    exact .inl ⟨type, (Option.filter_eq_some_iff.mp htype).1, h⟩
  · rename_i hnone
    obtain ⟨ended, hended, hstep⟩ := ok_of_bind h
    have hcommit : l.commit = l.endPending := by
      rw [SupertypeList.commit, if_neg]
      cases hpending : l.pending with
      | none => simp
      | some type =>
        rw [hpending, Option.filter_eq_none_iff] at hnone
        have houter := hnone type rfl
        simp only [Bool.or_eq_true, not_or] at houter
        simpa using houter.2
    exact .inr ⟨ended, hcommit ▸ hended, hstep⟩

/-- A mark is a step of the pending type, or a comma that ends it. -/
theorem ok_of_mark {m : ClauseMark} (h : m.apply l = .ok l') :
    (∃ type, l.pending = some type ∧ l.typeStep type m.step = .ok l') ∨
      (m = .comma ∧ l.commit = .ok l') := by
  cases m with
  | openList =>
    simp only [ClauseMark.apply, openList] at h
    split at h
    · rename_i type htype
      exact .inl ⟨type, htype, h⟩
    · cases h
  | closeList =>
    simp only [ClauseMark.apply, closeList] at h
    split at h
    · rename_i type htype
      exact .inl ⟨type, htype, h⟩
    · cases h
  | comma =>
    simp only [ClauseMark.apply, comma] at h
    split at h
    · rename_i type htype
      exact .inl ⟨type, (Option.filter_eq_some_iff.mp htype).1, h⟩
    · exact .inr ⟨rfl, h⟩

end SupertypeList

/-! ## 2. Lists of types -/

namespace SupertypeList

variable {limit : Option Nat} {l l' : SupertypeList} {type : TypeStack}

/-- A list that records only what it may, and whose pending type is within the limit. -/
structure Sound (limit : Option Nat) (l : SupertypeList) : Prop where
  limit_eq : l.limit = limit
  pending : ∀ type ∈ l.pending, type.limit = limit ∧ type.Fits
  types : ∀ t ∈ l.types, t.Recordable limit

theorem sound_start (limit : Option Nat) : (start limit).Sound limit :=
  ⟨rfl, by simp [start], by simp [start]⟩

theorem Sound.endPending (h : l.Sound limit) (hl : l.endPending = .ok l') : l'.Sound limit := by
  obtain ⟨-, rfl⟩ | ⟨type, t, htype, ht, rfl⟩ := ok_of_endPending hl
  · exact h
  · obtain ⟨hlimit, hfits⟩ := h.pending type htype
    unfold record
    split
    · exact ⟨h.limit_eq, by simp, h.types⟩
    · rename_i hexplicit
      refine ⟨h.limit_eq, by simp, fun u hu => ?_⟩
      rcases List.mem_append.mp hu with hu | hu
      · exact h.types u hu
      · obtain rfl := List.mem_singleton.mp hu
        exact ⟨hexplicit, fun n hn => hfits.depth_le ht (hlimit.trans hn)⟩

theorem Sound.commit (h : l.Sound limit) (hl : l.commit = .ok l') : l'.Sound limit := by
  obtain rfl | hended := ok_of_commit hl
  · exact h
  · exact h.endPending hended

/-- A step of a type that is within the limit makes it the pending one. -/
theorem Sound.typeStep (h : l.Sound limit) (htype : type.limit = limit ∧ type.Fits)
    {step : TypeStep} (hl : l.typeStep type step = .ok l') : l'.Sound limit := by
  obtain ⟨next, hstep, rfl⟩ := ok_of_typeStep hl
  refine ⟨h.limit_eq, fun _ hmem => ?_, h.types⟩
  obtain rfl := Option.some.inj hmem
  exact ⟨(TypeStack.limit_of_step hstep).trans htype.1, htype.2.step hstep⟩

theorem Sound.name (h : l.Sound limit) {n : String} (hl : l.name n = .ok l') :
    l'.Sound limit := by
  obtain ⟨type, htype, hstep⟩ | ⟨ended, hended, hstep⟩ := ok_of_name hl
  · exact h.typeStep (h.pending type htype) hstep
  · exact (h.endPending hended).typeStep ⟨h.limit_eq, TypeStack.fits_start l.limit⟩ hstep

/-- A mark. -/
theorem Sound.mark (h : l.Sound limit) {m : ClauseMark} (hl : m.apply l = .ok l') :
    l'.Sound limit := by
  obtain ⟨type, htype, hstep⟩ | ⟨-, hcommit⟩ := ok_of_mark hl
  · exact h.typeStep (h.pending type htype) hstep
  · exact h.commit hcommit

theorem Sound.finish (h : l.Sound limit) {ts : List TypeName} (hl : l.finish = .ok ts) :
    ∀ t ∈ ts, t.Recordable limit := by
  obtain ⟨ended, hended, rfl⟩ := ok_of_map hl
  exact (h.endPending hended).types

end SupertypeList

/-! ## 3. Clauses -/

namespace Supertypes

variable {limit : Option Nat} {s s' : Supertypes}

/-- Both lists are sound. -/
structure Sound (limit : Option Nat) (s : Supertypes) : Prop where
  extended : s.extended.Sound limit
  implemented : s.implemented.Sound limit

theorem sound_start (limit : Option Nat) : (start limit).Sound limit :=
  ⟨SupertypeList.sound_start limit, SupertypeList.sound_start limit⟩

/-- What keeps a list sound keeps the clauses sound. -/
theorem Sound.onList (h : s.Sound limit) {token : String}
    {change : SupertypeList → Except Failure SupertypeList}
    (hchange : ∀ l l', l.Sound limit → change l = .ok l' → l'.Sound limit)
    (hs : s.onList token change = .ok s') : s'.Sound limit := by
  unfold Supertypes.onList at hs
  split at hs
  · obtain ⟨l, hl, rfl⟩ := ok_of_map hs
    exact ⟨hchange _ l h.extended hl, h.implemented⟩
  · obtain ⟨l, hl, rfl⟩ := ok_of_map hs
    exact ⟨h.extended, hchange _ l h.implemented hl⟩
  · cases hs

theorem Sound.commit (h : s.Sound limit) (hs : s.commit = .ok s') : s'.Sound limit :=
  h.onList (fun _ _ hl => hl.commit) hs

/-- A keyword ends the pending type of the clause before, if there is one. -/
theorem ok_of_goto {clause : Clause} (h : s.goto clause = .ok s') :
    ∃ ended, (ended = s ∨ s.commit = .ok ended) ∧ s' = { ended with clause := some clause } := by
  simp only [Supertypes.goto] at h
  split at h
  · obtain ⟨ended, hcommit, rfl⟩ := ok_of_map h
    exact ⟨ended, .inr hcommit, rfl⟩
  · exact ⟨s, .inl rfl, (Except.ok.inj h).symm⟩

theorem Sound.goto (h : s.Sound limit) {clause : Clause} (hs : s.goto clause = .ok s') :
    s'.Sound limit := by
  obtain ⟨ended, hended, rfl⟩ := ok_of_goto hs
  have hsound : ended.Sound limit := hended.elim (fun heq => heq ▸ h) h.commit
  exact ⟨hsound.extended, hsound.implemented⟩

/-- A word or a mark. -/
theorem Sound.lexeme (h : s.Sound limit) {bareNames : Bool} {lexeme : Text.Lexeme ClauseMark}
    (hs : Supertypes.lexeme bareNames s lexeme = .ok s') : s'.Sound limit := by
  cases lexeme with
  | mark m => exact h.onList (fun _ _ hl => hl.mark) hs
  | word w =>
    simp only [Supertypes.lexeme, word] at hs
    split at hs
    · exact h.goto hs
    · split at hs
      · exact h.onList (fun _ _ hl => hl.name) hs
      · cases hs

theorem Sound.text (h : s.Sound limit) {bareNames : Bool} {content : String}
    (hs : s.text bareNames content = .ok s') : s'.Sound limit :=
  foldlM_induction (Sound limit) (fun _ _ _ _ hs => hs.lexeme) h hs

theorem Sound.element (h : s.Sound limit) {bareNames : Bool} {e : Element}
    (hs : s.element bareNames e = .ok s') : s'.Sound limit := by
  unfold Supertypes.element at hs
  split at hs
  · obtain ⟨reference, -, hs⟩ := ok_of_bind hs
    obtain ⟨type, -, hs⟩ := ok_of_bind hs
    exact h.onList (fun _ _ hl => hl.name) hs
  · exact h.text hs

end Supertypes

/-! ## 4. Headers -/

/-- A header that records only what it may. -/
structure ClassHeader.Sound (limit : Option Nat) (h : ClassHeader) : Prop where
  extended : ∀ t ∈ h.extended, t.Recordable limit
  implemented : ∀ t ∈ h.implemented, t.Recordable limit

/-- The clauses add only types that may be recorded. -/
theorem Supertypes.Sound.finish {limit : Option Nat} {s : Supertypes} (hs : s.Sound limit)
    {h h' : ClassHeader} (hh : h.Sound limit) (hfinish : s.finish h = .ok h') :
    h'.Sound limit := by
  obtain ⟨extended, hextended, hfinish⟩ := ok_of_bind hfinish
  obtain ⟨implemented, himplemented, rfl⟩ := ok_of_map hfinish
  have happend {old new : List TypeName} (hold : ∀ t ∈ old, t.Recordable limit)
      (hnew : ∀ t ∈ new, t.Recordable limit) : ∀ t ∈ old ++ new, t.Recordable limit :=
    fun t ht => (List.mem_append.mp ht).elim (hold t) (hnew t)
  exact ⟨happend hh.extended (hs.extended.finish hextended),
    happend hh.implemented (hs.implemented.finish himplemented)⟩

namespace Header

variable {limit : Option Nat}

/-- Only the types of a header matter. -/
theorem sound_of_types {h h' : ClassHeader} (hh : h.Sound limit)
    (htypes : h'.extended = h.extended ∧ h'.implemented = h.implemented) : h'.Sound limit :=
  ⟨by rw [htypes.1]; exact hh.extended, by rw [htypes.2]; exact hh.implemented⟩

namespace Android

theorem types_of_optional {h h' : ClassHeader} {slots : List String} {index : Nat} {name : Slot}
    {modifier : Modifier} (ho : optional slots index name modifier h = .ok h') :
    h'.extended = h.extended ∧ h'.implemented = h.implemented := by
  obtain ⟨text, -, ho⟩ := ok_of_bind ho
  split at ho
  · obtain rfl := Except.ok.inj ho
    exact ⟨rfl, rfl⟩
  · split at ho
    · obtain rfl := Except.ok.inj ho
      exact ⟨rfl, rfl⟩
    · cases ho

/-- A record says nothing about supertypes. -/
theorem types_of_record {h h' : ClassHeader} {run : String} (hr : record h run = .ok h') :
    h'.extended = h.extended ∧ h'.implemented = h.implemented := by
  obtain ⟨access, -, hr⟩ := ok_of_bind hr
  split at hr
  · obtain ⟨h₀, hpublic, hr⟩ := ok_of_bind hr
    obtain rfl := Except.ok.inj hpublic
    obtain ⟨h₁, hstatic, hr⟩ := ok_of_bind hr
    obtain ⟨h₂, hfinal, hr⟩ := ok_of_bind hr
    obtain ⟨h₃, habstract, hr⟩ := ok_of_bind hr
    obtain ⟨kind, -, hr⟩ := ok_of_bind hr
    have h₁' := types_of_optional hstatic
    have h₂' := types_of_optional hfinal
    have h₃' := types_of_optional habstract
    split at hr
    · obtain rfl := Except.ok.inj hr
      exact ⟨h₃'.1.trans (h₂'.1.trans h₁'.1), h₃'.2.trans (h₂'.2.trans h₁'.2)⟩
    · cases hr
  · cases hr

theorem sound_of_clauseChild {s s' : Supertypes} {node : Node} (h : s.Sound limit)
    (hs : clauseChild s node = .ok s') : s'.Sound limit := by
  cases node with
  | text content => exact h.text hs
  | comment content => exact Except.ok.inj hs ▸ h
  | element tag attributes children => exact h.element hs

/-- One of the elements of a header keeps everything sound. -/
theorem sound_of_element {state state' : ClassHeader × Supertypes} {l : Located}
    (h : state.1.Sound limit ∧ state.2.Sound limit) (hl : element state l = .ok state') :
    state'.1.Sound limit ∧ state'.2.Sound limit := by
  obtain ⟨header, s⟩ := state
  simp only [element] at hl
  split at hl
  · split at hl
    · exact Except.ok.inj hl ▸ h
    · split at hl
      · obtain ⟨started, hstarted, hl⟩ := ok_of_bind hl
        obtain ⟨continued, hcontinued, hl⟩ := ok_of_bind hl
        obtain ⟨committed, hcommitted, rfl⟩ := ok_of_map hl
        have hsound : continued.Sound limit := foldlM_induction (Supertypes.Sound limit)
          (fun _ _ _ _ hs => sound_of_clauseChild hs) (h.2.goto hstarted) hcontinued
        exact ⟨h.1, hsound.commit hcommitted⟩
      · obtain ⟨recorded, hrecorded, rfl⟩ := ok_of_map hl
        exact ⟨sound_of_types h.1 (types_of_record hrecorded), h.2⟩
  · exact Except.ok.inj hl ▸ h

end Android

namespace Google

/-- A keyword says nothing about supertypes. -/
theorem types_of_keyword {h h' : ClassHeader} {word : String}
    (hk : Reader.keyword h word = .ok h') :
    h'.extended = h.extended ∧ h'.implemented = h.implemented := by
  unfold Reader.keyword at hk
  split at hk
  · obtain rfl := Except.ok.inj hk
    exact ⟨rfl, rfl⟩
  · obtain rfl := Except.ok.inj hk
    exact ⟨rfl, rfl⟩
  · cases hk

theorem sound_of_text {r r' : Reader} {content : String}
    (h : r.header.Sound limit ∧ r.supertypes.Sound limit) (hr : r.text content = .ok r') :
    r'.header.Sound limit ∧ r'.supertypes.Sound limit := by
  simp only [Reader.text] at hr
  split at hr
  · obtain ⟨header, hheader, rfl⟩ := ok_of_map hr
    have hsound : header.Sound limit := foldlM_induction (ClassHeader.Sound limit)
      (fun _ _ _ _ hh hk => sound_of_types hh (types_of_keyword hk)) h.1 hheader
    exact ⟨hsound, h.2⟩
  · split at hr
    · exact Except.ok.inj hr ▸ h
    · cases hr
  · obtain ⟨supertypes, hsupertypes, rfl⟩ := ok_of_map hr
    exact ⟨h.1, h.2.text hsupertypes⟩

theorem sound_of_element {r r' : Reader} {e : Element}
    (h : r.header.Sound limit ∧ r.supertypes.Sound limit) (hr : r.element e = .ok r') :
    r'.header.Sound limit ∧ r'.supertypes.Sound limit := by
  simp only [Reader.element] at hr
  split at hr
  · exact Except.ok.inj hr ▸ h
  · exact Except.ok.inj hr ▸ h
  · split at hr
    · exact Except.ok.inj hr ▸ h
    · obtain ⟨supertypes, hsupertypes, rfl⟩ := ok_of_map hr
      exact ⟨h.1, h.2.element hsupertypes⟩

/-- A child of the header block keeps everything sound. -/
theorem sound_of_child {r r' : Reader} {node : Node}
    (h : r.header.Sound limit ∧ r.supertypes.Sound limit) (hr : r.child node = .ok r') :
    r'.header.Sound limit ∧ r'.supertypes.Sound limit := by
  cases node with
  | text content => exact sound_of_text h hr
  | comment content => exact Except.ok.inj hr ▸ h
  | element tag attributes children => exact sound_of_element h hr

end Google

end Header

/-- **The header of a page records only what it may**, in both layouts. -/
theorem ClassHeader.sound_of_ofPage {layout : Layout} {limit : Option Nat} {page : Element}
    {h : ClassHeader} (hpage : ClassHeader.ofPage layout limit page = .ok h) : h.Sound limit := by
  have hempty : ClassHeader.Sound limit {} := ⟨by simp, by simp⟩
  have hstart := Supertypes.sound_start limit
  cases layout with
  | android =>
    obtain ⟨state, hstate, hfinish⟩ := ok_of_bind hpage
    obtain ⟨hheader, hsupertypes⟩ := foldlM_induction
      (fun state : ClassHeader × Supertypes => state.1.Sound limit ∧ state.2.Sound limit)
      (fun _ _ _ _ h => Header.Android.sound_of_element h) ⟨hempty, hstart⟩ hstate
    exact hsupertypes.finish hheader hfinish
  | google =>
    obtain ⟨found, -, hpage⟩ := ok_of_bind hpage
    obtain ⟨r, hr, hfinish⟩ := ok_of_bind hpage
    obtain ⟨hheader, hsupertypes⟩ := foldlM_induction
      (fun r : Header.Google.Reader => r.header.Sound limit ∧ r.supertypes.Sound limit)
      (fun _ _ _ _ h => Header.Google.sound_of_child h) ⟨hempty, hstart⟩ hr
    exact hsupertypes.finish hheader hfinish

end ApiPages
