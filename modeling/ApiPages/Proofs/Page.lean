/-
# What is true of every page that is read

Whatever a page looks like: if a declaration is read from it, that declaration is well-formed
(`ClassDeclaration.WellFormed`).  Its supertypes come from the header, which has recorded only what
it may; its interfaces are joined without repetition; its members are well-formed each by
itself.
-/
import ApiPages.Page
import ApiPages.Proofs.Header.Declaration
import ApiPages.Proofs.Header.Supertypes
import ApiPages.Proofs.Member.WellFormed

namespace ApiPages

namespace ClassHeader

variable {h : ClassHeader} {kind : ClassKind} {t : TypeName}

/-- The supertypes of the declaration are types of the header. -/
theorem mem_of_superclass? (ht : h.superclass? kind = some t) : t ∈ h.extended := by
  cases kind with
  | classType => exact List.mem_of_getLast? ht
  | interfaceType => cases ht
  | annotationType => cases ht

theorem mem_of_interfaces (ht : t ∈ h.interfaces kind) : t ∈ h.extended ∨ t ∈ h.implemented := by
  cases kind with
  | classType => exact Or.inr ht
  | interfaceType => exact List.mem_append.mp ht
  | annotationType => exact List.mem_append.mp ht

/-- An annotation is not abstract. -/
theorem has_abstract_declaredModifiers (h : ClassHeader) :
    (h.declaredModifiers .annotationType).has .abstract = false := by
  simp [declaredModifiers, Modifiers.has_erase]

end ClassHeader

namespace ClassDeclaration

/-- The types in a declaration, without those of the declarations nested in it. -/
def types (d : ClassDeclaration) : List TypeName :=
  d.superclass.toList ++ d.interfaces ++ d.fields.map (·.type) ++ d.methods.flatMap Method.types

/-- **A declaration as a page can make it.** -/
structure WellFormed (layout : Layout) (limit : Option Nat) (name : String)
    (d : ClassDeclaration) : Prop where
  name_eq : d.name = name
  /-- A page declares nothing but its class. -/
  nested_eq : d.nested = []
  nodup_interfaces : d.interfaces.Nodup
  /-- What every declaration inherits from anyway is not listed. -/
  explicit : ∀ t ∈ d.superclass.toList ++ d.interfaces, t.name ∉ implicitSupertypes
  superclass : d.superclass.isSome = true → d.kind = .classType
  annotation : d.kind = .annotationType → d.modifiers.has .abstract = false
  /-- A constructor has neither a name nor a return type, any other method both. -/
  method_name_iff : ∀ m ∈ d.methods, m.name.isSome = true ↔ m.returnType.isSome = true
  /-- The Google layout shows no constructors. -/
  google : layout = .google → ∀ m ∈ d.methods, m.name.isSome = true ∧ m.returnType.isSome = true
  method_body_iff : ∀ m ∈ d.methods, m.body = .abstract ↔ m.modifiers.has .abstract = true
  depth_le : ∀ n, limit = some n → ∀ t ∈ d.types, t.depth ≤ n

variable {layout : Layout} {limit : Option Nat} {name : String} {page : Element}
  {d : ClassDeclaration}

/-- What a page declares is made of its header and its members. -/
theorem exists_of_ofPage (h : ofPage layout limit name page = .ok d) :
    ∃ header kind members, ClassHeader.ofPage layout limit page = .ok header ∧
      Members.ofPage layout limit page = .ok members ∧ d = {
        name, kind
        modifiers := header.declaredModifiers kind
        superclass := header.superclass? kind
        interfaces := joined [] (header.interfaces kind)
        fields := members.fields, methods := members.methods, nested := [] } := by
  obtain ⟨header, hheader, h⟩ := ok_of_bind (ok_of_mapError h)
  obtain ⟨bare, hbare, h⟩ := ok_of_bind h
  obtain ⟨members, hmembers, rfl⟩ := ok_of_map h
  obtain ⟨kind, -, rfl⟩ := ClassHeader.toDeclaration_eq_ok_iff.mp hbare
  exact ⟨header, kind, members, hheader, hmembers, rfl⟩

/-- **Every declaration that is read from a page is well-formed.** -/
theorem wellFormed_of_ofPage (h : ofPage layout limit name page = .ok d) :
    d.WellFormed layout limit name := by
  obtain ⟨header, kind, members, hheader, hmembers, rfl⟩ := exists_of_ofPage h
  have hsound := ClassHeader.sound_of_ofPage hheader
  obtain ⟨hmembers, hgoogle⟩ := Members.wellFormed_ofPage hmembers
  have hsupertypes : ∀ t ∈ (header.superclass? kind).toList ++ joined [] (header.interfaces kind),
      t.Recordable limit := by
    intro t ht
    rcases List.mem_append.mp ht with ht | ht
    · exact hsound.extended t (ClassHeader.mem_of_superclass? (Option.mem_toList.mp ht))
    · have ht := (mem_joined.mp ht).resolve_left List.not_mem_nil
      exact (ClassHeader.mem_of_interfaces ht).elim (hsound.extended t) (hsound.implemented t)
  exact {
    name_eq := rfl
    nested_eq := rfl
    nodup_interfaces := nodup_joined List.nodup_nil
    explicit := fun t ht => (hsupertypes t ht).explicit
    superclass := by
      cases kind <;> simp [ClassHeader.superclass?]
    annotation := by
      rintro rfl
      exact header.has_abstract_declaredModifiers
    method_name_iff := fun m hm => (hmembers.methods m hm).name_iff
    google := fun hlayout m hm =>
      have hname := hgoogle hlayout m hm
      ⟨hname, (hmembers.methods m hm).name_iff.mp hname⟩
    method_body_iff := fun m hm => (hmembers.methods m hm).body_iff
    depth_le := by
      rintro n rfl t ht
      rcases List.mem_append.mp ht with ht | ht
      · rcases List.mem_append.mp ht with ht | ht
        · exact (hsupertypes t ht).depth_le n rfl
        · obtain ⟨f, hf, rfl⟩ := List.mem_map.mp ht
          exact hmembers.fields f hf f.type List.mem_cons_self n rfl
      · obtain ⟨m, hm, ht⟩ := List.mem_flatMap.mp ht
        exact (hmembers.methods m hm).types t ht n rfl }

/-- A page of an interface that extends a type without arguments that goes without saying, and twice
the same type with arguments. -/
theorem wellFormed_of_listener_page :
    let link (path : String) : Node := .element "a" [("href", path)] []
    let list : List Node := [link "/reference/java/util/List.html", .text "<",
      link "/reference/a/B.html", .text "> "]
    let header : List Node := [.text "public interface", .element "h1" [] [], .text "extends ",
      link "/reference/java/lang/Object.html", .text ", "] ++ list ++ list
    let methods : Node := .element "div" [("class", "jd-details")]
      [.element "h4" [("class", "jd-details-title")] [.text "abstract List<A> notify (int a)"]]
    let page : Element := ⟨"html", [], [.element "div" [("id", "jd-header")] header,
      .element "section" [("id", "public-methods")] [methods]]⟩
    ∃ d, ofPage .google (some 1) "a.Listener" page = .ok d ∧
      d.WellFormed .google (some 1) "a.Listener" ∧
      d.interfaces = [⟨"java.util.List", [⟨"a.B", []⟩]⟩] ∧ d.methods.length = 1 := by
  intro link list header methods page
  have hread : (ofPage .google (some 1) "a.Listener" page).toOption.map
      (fun d => (d.interfaces, d.methods.length)) =
        some ([⟨"java.util.List", [⟨"a.B", []⟩]⟩], 1) := by decide +kernel
  obtain ⟨d, hd, hparts⟩ := Option.map_eq_some_iff.mp hread
  have hd := toOption_eq_some_iff.mp hd
  exact ⟨d, hd, wellFormed_of_ofPage hd, congrArg Prod.fst hparts, congrArg Prod.snd hparts⟩

end ClassDeclaration

end ApiPages
