/-
# Members are well-formed

An accepted signature has a name, and it has a type unless it is that of a constructor
(`Signature.complete_of_ofElement`).  Hence a constructor has neither name nor type, any other
method has both, and nothing is ever missing from a field, whose reader asks for both parts again
(`Field.ofElement_eq_error_iff`).  A member carries no other types than its signature, and a
constant none with arguments.  In the end every block of a page makes a member like this, in both
layouts (`Members.wellFormed_ofPage`).
-/
import ApiPages.Page
import ApiPages.Proofs.Signature.Acceptance

namespace ApiPages

/-! ## 1. Signatures -/

namespace Signature

/-- A heading has a type unless it is that of a constructor. -/
theorem Heading.returnType_isSome_iff {G : Grammar} {kind : MemberKind} {s : Signature}
    {ts : List Token} (h : Heading G kind s ts) :
    s.returnType.isSome = true ↔ kind ≠ .constructor := by
  cases h with
  | constructor => simp
  | typed hkind => simpa using hkind

/-- A signature with everything that its kind of member has. -/
structure Complete (kind : MemberKind) (limit : Option Nat) (s : Signature) : Prop where
  name : s.name.isSome = true
  returnType : s.returnType.isSome = true ↔ kind ≠ .constructor
  types : Within limit s.types

theorem complete_of_spells {G : Grammar} {kind : MemberKind} {limit : Option Nat} {s : Signature}
    {ts : List Token} (h : Spells G kind s ts) (htypes : Within limit s.types) :
    s.Complete kind limit := by
  cases h with
  | field heading => exact ⟨heading.read.2.2, heading.returnType_isSome_iff, htypes⟩
  | member _ heading => exact ⟨heading.read.2.2, heading.returnType_isSome_iff, htypes⟩

/-- **An accepted signature is complete.** -/
theorem complete_of_ofElement {kind : MemberKind} {limit : Option Nat} {e : Element}
    {s : Signature} (h : ofElement kind limit e = .ok s) : s.Complete kind limit := by
  obtain ⟨hspells, htypes⟩ := ofTokens_eq_ok_iff.mp (ok_of_mapError h)
  exact complete_of_spells hspells htypes

theorem body_eq_abstract_iff {s : Signature} :
    s.body = .abstract ↔ s.modifiers.has .abstract = true := by
  unfold body
  split <;> simp_all

end Signature

open Signature (Within complete_of_ofElement body_eq_abstract_iff)

variable {limit : Option Nat} {doc : String} {e : Element}

/-! ## 2. Methods -/

namespace Method

/-- The types in a method. -/
def types (m : Method) : List TypeName :=
  m.annotations ++ m.returnType.toList ++ m.parameters.map (·.type) ++ m.exceptions

/-- **A method as it can stand on a page**: it has a name exactly if it has a return type, and a
body exactly if it is not abstract, and its types are within the limit. -/
structure WellFormed (limit : Option Nat) (m : Method) : Prop where
  name_iff : m.name.isSome = true ↔ m.returnType.isSome = true
  body_iff : m.body = .abstract ↔ m.modifiers.has .abstract = true
  types : Within limit m.types

/-- The method of a signature. -/
theorem wellFormed_of_ofElement {isConstructor : Bool} {m : Method}
    (h : Method.ofElement isConstructor limit doc e = .ok m) :
    m.WellFormed limit ∧ m.name.isSome = !isConstructor := by
  obtain ⟨s, hs, rfl⟩ := ok_of_map h
  have hcomplete := complete_of_ofElement hs
  cases isConstructor with
  | true =>
    refine ⟨⟨by simp, body_eq_abstract_iff, fun t ht => hcomplete.types t ?_⟩, rfl⟩
    simp only [types, Signature.types, if_true, Option.toList_none, List.append_nil,
      List.mem_append] at ht ⊢
    tauto
  | false =>
    have hboth : s.returnType.isSome = true := hcomplete.returnType.mpr (by simp)
    exact ⟨⟨by simp [hboth, hcomplete.name], body_eq_abstract_iff, hcomplete.types⟩,
      hcomplete.name⟩

end Method

/-! ## 3. Fields -/

namespace Field

/-- A field is made of the parts of its signature. -/
theorem signature_of_ofElement {f : Field} (h : Field.ofElement limit doc e = .ok f) :
    ∃ s, Signature.ofElement .field limit e = .ok s ∧ s.returnType = some f.type ∧
      s.name = some f.name := by
  obtain ⟨s, hs, h⟩ := ok_of_bind h
  split at h
  · rename_i type name htype hname
    obtain rfl := Except.ok.inj h
    exact ⟨s, hs, htype, hname⟩
  · cases h

/-- **Nothing is ever missing from a field**: all that can go wrong is its signature. -/
theorem ofElement_eq_error_iff {failure : Failure} :
    Field.ofElement limit doc e = .error failure ↔
      Signature.ofElement .field limit e = .error failure := by
  unfold Field.ofElement
  cases hs : Signature.ofElement .field limit e with
  | error cause => simp [bind, Except.bind]
  | ok s =>
    have hcomplete := complete_of_ofElement hs
    obtain ⟨name, hname⟩ := Option.isSome_iff_exists.mp hcomplete.name
    obtain ⟨type, htype⟩ := Option.isSome_iff_exists.mp (hcomplete.returnType.mpr nofun)
    simp [bind, Except.bind, pure, Except.pure, hname, htype]

/-- The type of a field is within the limit. -/
theorem depth_le_of_ofElement {f : Field} (h : Field.ofElement limit doc e = .ok f) :
    Within limit [f.type] := by
  obtain ⟨s, hs, htype, -⟩ := signature_of_ofElement h
  intro t ht
  obtain rfl := List.mem_singleton.mp ht
  exact (complete_of_ofElement hs).types _ (by simp [Signature.types, htype])

end Field

/-! ## 4. Constants -/

namespace Constant

/-- The type of a constant has no arguments. -/
theorem depth_of_typeOfWord {word : String} {type : TypeName}
    (h : typeOfWord word = .ok type) : type.depth = 0 := by
  unfold typeOfWord at h
  split at h
  · exact Except.ok.inj h ▸ rfl
  · split at h
    · exact Except.ok.inj h ▸ rfl
    · split at h
      · exact Except.ok.inj h ▸ rfl
      · cases h

theorem depth_of_ofLines {signatureLine valueLine : String} {f : Field}
    (h : ofLines signatureLine valueLine doc = .ok f) : f.type.depth = 0 := by
  unfold ofLines at h
  split at h
  · cases h
  · obtain ⟨reader, -, h⟩ := ok_of_bind h
    split at h
    · cases h
    · obtain ⟨type, htype, rfl⟩ := ok_of_map h
      exact depth_of_typeOfWord htype

end Constant

/-! ## 5. The members of a page -/

/-- A member as it can stand on a page. -/
def Member.WellFormed (limit : Option Nat) : Member → Prop
  | .field f => Within limit [f.type]
  | .method m => m.WellFormed limit

/-- Members as they can stand on a page. -/
structure Members.WellFormed (limit : Option Nat) (members : Members) : Prop where
  fields : ∀ f ∈ members.fields, Within limit [f.type]
  methods : ∀ m ∈ members.methods, m.WellFormed limit

theorem Members.wellFormed_ofList {members : List Member} (h : ∀ m ∈ members, m.WellFormed limit) :
    (Members.ofList members).WellFormed limit := by
  constructor
  · intro f hf
    obtain ⟨member, hmem, hmember⟩ := List.mem_filterMap.mp hf
    cases member with
    | field g => exact Option.some.inj hmember ▸ h _ hmem
    | method m => cases hmember
  · intro m hm
    obtain ⟨member, hmem, hmember⟩ := List.mem_filterMap.mp hm
    cases member with
    | field f => cases hmember
    | method n => exact Option.some.inj hmember ▸ h _ hmem

theorem within_of_depth_eq_zero {t : TypeName} (h : t.depth = 0) : Within limit [t] := by
  intro u hu n _
  obtain rfl := List.mem_singleton.mp hu
  omega

namespace Member

theorem Android.wellFormed_of_ofBlock {label : Android.Section} {block : Located} {m : Member}
    (h : Android.ofBlock limit label block = .ok m) : m.WellFormed limit := by
  cases label with
  | constants =>
    obtain ⟨f, hf, rfl⟩ := ok_of_map h
    obtain ⟨found, -, hf⟩ := ok_of_bind hf
    exact within_of_depth_eq_zero (Constant.depth_of_ofLines hf)
  | fields =>
    obtain ⟨found, -, h⟩ := ok_of_bind h
    obtain ⟨f, hf, rfl⟩ := ok_of_map h
    exact Field.depth_le_of_ofElement hf
  | constructors =>
    obtain ⟨found, -, h⟩ := ok_of_bind h
    obtain ⟨m, hm, rfl⟩ := ok_of_map h
    exact (Method.wellFormed_of_ofElement hm).1
  | methods =>
    obtain ⟨found, -, h⟩ := ok_of_bind h
    obtain ⟨m, hm, rfl⟩ := ok_of_map h
    exact (Method.wellFormed_of_ofElement hm).1

theorem Google.depth_of_constant {block : Located} {f : Field}
    (h : Google.constant block = .ok f) : f.type.depth = 0 := by
  obtain ⟨declared, -, h⟩ := ok_of_bind h
  obtain ⟨name, -, h⟩ := ok_of_bind h
  obtain ⟨value, -, h⟩ := ok_of_bind h
  obtain ⟨type, htype, rfl⟩ := ok_of_map h
  exact Constant.depth_of_typeOfWord htype

theorem Google.wellFormed_of_method {block : Located} {m : Method}
    (h : Google.method limit block = .ok m) : m.WellFormed limit ∧ m.name.isSome = true := by
  obtain ⟨found, -, h⟩ := ok_of_bind h
  exact Method.wellFormed_of_ofElement h

end Member

/-- **The members of a page are well-formed**; in the Google layout there are no constructors. -/
theorem Members.wellFormed_ofPage {layout : Layout} {page : Element} {members : Members}
    (h : Members.ofPage layout limit page = .ok members) :
    members.WellFormed limit ∧
      (layout = .google → ∀ m ∈ members.methods, m.name.isSome = true) := by
  cases layout with
  | android =>
    obtain ⟨found, -, h⟩ := ok_of_bind h
    obtain ⟨list, hlist, rfl⟩ := ok_of_map h
    refine ⟨wellFormed_ofList fun m hm => ?_, nofun⟩
    obtain ⟨block, -, hblock⟩ := exists_of_mem_mapM hlist hm
    exact Member.Android.wellFormed_of_ofBlock hblock
  | google =>
    obtain ⟨fields, hfields, h⟩ := ok_of_bind h
    obtain ⟨methods, hmethods, rfl⟩ := ok_of_map h
    have hmethod : ∀ m ∈ methods, m.WellFormed limit ∧ m.name.isSome = true := by
      intro m hm
      obtain ⟨block, -, hblock⟩ := exists_of_mem_mapM hmethods hm
      exact Member.Google.wellFormed_of_method hblock
    refine ⟨⟨fun f hf => ?_, fun m hm => (hmethod m hm).1⟩, fun _ m hm => (hmethod m hm).2⟩
    obtain ⟨block, -, hblock⟩ := exists_of_mem_mapM hfields hf
    exact within_of_depth_eq_zero (Member.Google.depth_of_constant hblock)

end ApiPages
