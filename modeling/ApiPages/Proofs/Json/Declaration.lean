/-
# Stored declarations are read back

What is written as a member of an object is found under its key, and what is left out is what the
reader takes for an absent key: nothing for an optional value, an empty list, an empty text.  Hence
every record is read back from its stored form, first the types, then the members of a declaration
and at last the declaration with all that is nested in it (`ClassDeclaration.ofJson?_toJson`).

A value can be read without being the stored form of anything: it may have other keys, keys in
another order, `null` for what is absent, or be an array.  But the stored form of what was read from
it is read as the same again, so it is a normal form of such values.
-/
import ApiPages.Json.Declaration
import ApiPages.Proofs.Declaration.StoredModifiers

namespace ApiPages

namespace Json

variable {α : Type} {members : List (String × Json)} {key : String}

/-! ## 1. Members of an object -/

@[simp] theorem lookup_cons (key k : String) (value : Json) (rest : List (String × Json)) :
    ((k, value) :: rest).lookup key = if key = k then some value else rest.lookup key := by
  by_cases hk : key = k
  · simp [hk]
  · have hne : (key == k) = false := beq_false_of_ne hk
    rw [List.lookup_cons, hne, if_neg hk]

@[simp] theorem lookup_optionalMember (key k : String) (value : Option Json) :
    (optionalMember k value).lookup key = if key = k then value else none := by
  cases value with
  | none => simp [optionalMember]
  | some value => rw [optionalMember, lookup_cons, List.lookup_nil]

@[simp] theorem lookup_listMember (key k : String) (items : List Json) :
    (listMember k items).lookup key =
      if key = k then (if items = [] then none else some (.array items)) else none := by
  cases items with
  | nil => simp [listMember]
  | cons item rest => simp [listMember, lookup_cons]

@[simp] theorem lookup_textMember (key k text : String) :
    (textMember k text).lookup key =
      if key = k then (if text = "" then none else some (.string text)) else none := by
  by_cases htext : text = ""
  · simp [textMember, htext]
  · simp [textMember, htext, lookup_cons]

@[simp] theorem string?_string (text : String) : (string text).string? = some text := rfl

theorem string_ne_null (text : String) : string text ≠ .null := by
  intro h
  cases h

/-! What the readers find. -/

theorem stringAt?_of_lookup {s : String} (h : members.lookup key = some (.string s)) :
    stringAt? members key = some s := by
  rw [stringAt?, h]
  rfl

theorem textAt?_of_lookup {text : String}
    (h : members.lookup key = if text = "" then none else some (.string text)) :
    textAt? members key = some text := by
  unfold textAt?
  by_cases htext : text = ""
  · rw [h, if_pos htext, htext]
  · rw [h, if_neg htext]
    rfl

theorem optionalAt?_of_lookup {write : α → Json} {read? : Json → Option α} {value : Option α}
    (hread : ∀ a, read? (write a) = some a) (hnull : ∀ a, write a ≠ .null)
    (h : members.lookup key = value.map write) : optionalAt? read? members key = some value := by
  unfold optionalAt?
  cases value with
  | none => rw [h, Option.map_none]
  | some a =>
    rw [h, Option.map_some]
    split
    · rename_i hnone
      cases hnone
    · rename_i hsome
      exact absurd (Option.some.inj hsome) (hnull a)
    · rename_i found _ hsome
      obtain rfl := Option.some.inj hsome
      rw [hread, Option.map_some]

theorem listAt?_of_array {write : α → Json} {read? : Json → Option α} {as : List α}
    (hread : ∀ a, read? (write a) = some a)
    (h : members.lookup key = some (.array (as.map write))) :
    listAt? read? members key = some as := by
  unfold listAt?
  rw [h]
  show (as.map write).mapM read? = some as
  rw [mapM_map_eq_some fun a _ => hread a, List.map_id']

theorem listAt?_of_lookup {write : α → Json} {read? : Json → Option α} {as : List α}
    (hread : ∀ a, read? (write a) = some a)
    (h : members.lookup key =
      if as.map write = [] then none else some (.array (as.map write))) :
    listAt? read? members key = some as := by
  by_cases has : as.map write = []
  · obtain rfl := List.map_eq_nil_iff.mp has
    rw [listAt?, h, if_pos has]
  · exact listAt?_of_array hread (by rw [h, if_neg has])

/-- A reader that goes through the members until it comes to a key has what is found under the
key. -/
theorem scan_eq_lookup {read? : Json → Option (List α)}
    {scan : List (String × Json) → Option (List α)} (hnil : scan [] = some [])
    (hcons : ∀ k value rest,
      scan ((k, value) :: rest) = if key == k then read? value else scan rest)
    (members : List (String × Json)) :
    scan members = match members.lookup key with
      | none => some []
      | some value => read? value := by
  induction members with
  | nil => rw [hnil, List.lookup_nil]
  | cons entry rest ih =>
    obtain ⟨k, value⟩ := entry
    rw [hcons, lookup_cons]
    by_cases hkey : key = k
    · simp [hkey]
    · simp [hkey, ih]

end Json

open Json

/-! ## 2. Types -/

namespace TypeName

theorem argumentsIn?_eq (members : List (String × Json)) :
    argumentsIn? members = match members.lookup "arguments" with
      | none => some []
      | some value => arrayOf? value :=
  scan_eq_lookup (by rw [argumentsIn?]) (fun _ _ _ => by rw [argumentsIn?]) members

theorem toJson_ne_null (t : TypeName) : t.toJson ≠ .null := by
  cases t
  simp [toJson]

mutual

/-- **A type is read back from its stored form.** -/
theorem ofJson?_toJson : (t : TypeName) → ofJson? t.toJson = some t
  | ⟨name, arguments⟩ => by
    have hname : stringAt? (("name", .string name) :: listMember "arguments" (allToJson arguments))
        "name" = some name := stringAt?_of_lookup (by simp)
    have harguments : argumentsIn?
        (("name", .string name) :: listMember "arguments" (allToJson arguments)) =
          some arguments := by
      rw [argumentsIn?_eq, lookup_cons, if_neg (by decide), lookup_listMember, if_pos rfl]
      cases arguments with
      | nil => rfl
      | cons a rest =>
        have hall := allOfJson?_allToJson (a :: rest)
        rw [if_neg (by simp [allToJson])]
        exact hall
    rw [toJson, ofJson?, hname, harguments]

theorem allOfJson?_allToJson : (ts : List TypeName) → allOfJson? (allToJson ts) = some ts
  | [] => by rw [allToJson, allOfJson?]
  | t :: rest => by
    have ht := ofJson?_toJson t
    have hrest := allOfJson?_allToJson rest
    rw [allToJson, allOfJson?, ht, hrest]

end

end TypeName

/-! ## 3. Members of a declaration -/

theorem ClassKind.ofStoredName?_storedName (kind : ClassKind) :
    ofStoredName? kind.storedName = some kind := by
  cases kind <;> decide

theorem Body.ofStoredName?_storedName (body : Body) :
    ofStoredName? body.storedName = some body := by
  cases body <;> decide

theorem Modifiers.inMembers?_of_lookup {s : Modifiers} {members : List (String × Json)}
    (h : members.lookup "modifiers" = some s.toJson) : inMembers? members = some s := by
  rw [inMembers?, stringAt?_of_lookup h]
  exact read?_render s

theorem Parameter.ofJson?_toJson (p : Parameter) : ofJson? p.toJson = some p := by
  obtain ⟨type, name⟩ := p
  rw [toJson]
  generalize hmembers : [("type", type.toJson), ("name", Json.string name)] = members
  have htype : members.lookup "type" = some type.toJson := by simp [← hmembers]
  have hname : stringAt? members "name" = some name := stringAt?_of_lookup (by simp [← hmembers])
  simp [ofJson?, membersOf?, htype, hname, TypeName.ofJson?_toJson]

theorem Field.ofJson?_toJson (f : Field) : ofJson? f.toJson = some f := by
  obtain ⟨name, type, modifiers, value, doc⟩ := f
  rw [toJson]
  generalize hmembers : [("name", Json.string name), ("type", type.toJson),
    ("modifiers", modifiers.toJson)] ++ optionalMember "value" (value.map .string)
      ++ textMember "doc" doc = members
  have hname : stringAt? members "name" = some name :=
    stringAt?_of_lookup (by simp [← hmembers])
  have htype : members.lookup "type" = some type.toJson := by simp [← hmembers]
  have hmodifiers : Modifiers.inMembers? members = some modifiers :=
    Modifiers.inMembers?_of_lookup (by simp [← hmembers])
  have hvalue : optionalAt? Json.string? members "value" = some value :=
    optionalAt?_of_lookup string?_string string_ne_null
      (by simp [← hmembers, List.lookup_append])
  have hdoc : textAt? members "doc" = some doc :=
    textAt?_of_lookup (by simp [← hmembers, List.lookup_append])
  simp [ofJson?, membersOf?, hname, htype, hmodifiers, hvalue, hdoc, TypeName.ofJson?_toJson]

theorem Method.ofJson?_toJson (m : Method) : ofJson? m.toJson = some m := by
  obtain ⟨name, modifiers, annotations, returnType, parameters, exceptions, doc, body⟩ := m
  rw [toJson]
  generalize hmembers : optionalMember "name" (name.map Json.string)
      ++ [("modifiers", modifiers.toJson)]
      ++ listMember "annotations" (annotations.map TypeName.toJson)
      ++ optionalMember "return_type" (returnType.map TypeName.toJson)
      ++ [("parameters", .array (parameters.map Parameter.toJson))]
      ++ listMember "exceptions" (exceptions.map TypeName.toJson)
      ++ textMember "doc" doc
      ++ [("body", .string body.storedName)] = members
  have hname : optionalAt? Json.string? members "name" = some name :=
    optionalAt?_of_lookup string?_string string_ne_null
      (by simp [← hmembers, List.lookup_append])
  have hmodifiers : Modifiers.inMembers? members = some modifiers :=
    Modifiers.inMembers?_of_lookup (by simp [← hmembers, List.lookup_append])
  have hannotations : listAt? TypeName.ofJson? members "annotations" = some annotations :=
    listAt?_of_lookup TypeName.ofJson?_toJson (by simp [← hmembers, List.lookup_append])
  have hreturn : optionalAt? TypeName.ofJson? members "return_type" = some returnType :=
    optionalAt?_of_lookup TypeName.ofJson?_toJson TypeName.toJson_ne_null
      (by simp [← hmembers, List.lookup_append])
  have hparameters : listAt? Parameter.ofJson? members "parameters" = some parameters :=
    listAt?_of_array Parameter.ofJson?_toJson (by simp [← hmembers, List.lookup_append])
  have hexceptions : listAt? TypeName.ofJson? members "exceptions" = some exceptions :=
    listAt?_of_lookup TypeName.ofJson?_toJson (by simp [← hmembers, List.lookup_append])
  have hdoc : textAt? members "doc" = some doc :=
    textAt?_of_lookup (by simp [← hmembers, List.lookup_append])
  have hbody : members.lookup "body" = some (.string body.storedName) := by
    simp [← hmembers, List.lookup_append]
  simp [ofJson?, membersOf?, hname, hmodifiers, hannotations, hreturn, hparameters, hexceptions,
    hdoc, hbody, choice?, Body.ofStoredName?_storedName]

/-! ## 4. Declarations -/

namespace ClassDeclaration

theorem nestedIn?_eq (members : List (String × Json)) :
    nestedIn? members = match members.lookup "nested" with
      | none => some []
      | some value => arrayOf? value :=
  scan_eq_lookup (by rw [nestedIn?]) (fun _ _ _ => by rw [nestedIn?]) members

/-- What the members of a declaration say besides its nested declarations. -/
theorem flatIn?_of_members (d : ClassDeclaration) (nested : List Json) :
    flatIn? ([("name", .string d.name), ("modifiers", d.modifiers.toJson),
        ("kind", .string d.kind.storedName)]
      ++ optionalMember "superclass" (d.superclass.map TypeName.toJson)
      ++ listMember "interfaces" (d.interfaces.map TypeName.toJson)
      ++ listMember "fields" (d.fields.map Field.toJson)
      ++ listMember "methods" (d.methods.map Method.toJson)
      ++ listMember "nested" nested) = some { d with nested := [] } := by
  generalize hmembers : _ ++ listMember "nested" nested = members
  have hname : stringAt? members "name" = some d.name :=
    stringAt?_of_lookup (by simp [← hmembers])
  have hmodifiers : Modifiers.inMembers? members = some d.modifiers :=
    Modifiers.inMembers?_of_lookup (by simp [← hmembers])
  have hkind : members.lookup "kind" = some (.string d.kind.storedName) := by simp [← hmembers]
  have hsuperclass : optionalAt? TypeName.ofJson? members "superclass" = some d.superclass :=
    optionalAt?_of_lookup TypeName.ofJson?_toJson TypeName.toJson_ne_null
      (by simp [← hmembers, List.lookup_append])
  have hinterfaces : listAt? TypeName.ofJson? members "interfaces" = some d.interfaces :=
    listAt?_of_lookup TypeName.ofJson?_toJson (by simp [← hmembers, List.lookup_append])
  have hfields : listAt? Field.ofJson? members "fields" = some d.fields :=
    listAt?_of_lookup Field.ofJson?_toJson (by simp [← hmembers, List.lookup_append])
  have hmethods : listAt? Method.ofJson? members "methods" = some d.methods :=
    listAt?_of_lookup Method.ofJson?_toJson (by simp [← hmembers, List.lookup_append])
  simp [flatIn?, hname, hmodifiers, hkind, hsuperclass, hinterfaces, hfields, hmethods, choice?,
    ClassKind.ofStoredName?_storedName]

mutual

/-- **A declaration is read back from its stored form**, with all that is nested in it. -/
theorem ofJson?_toJson : (d : ClassDeclaration) → ofJson? d.toJson = some d
  | ⟨name, modifiers, kind, superclass, interfaces, fields, methods, nested⟩ => by
    rw [toJson, ofJson?, flatIn?_of_members
      ⟨name, modifiers, kind, superclass, interfaces, fields, methods, nested⟩ (allToJson nested),
      nestedIn?_eq]
    cases nested with
    | nil => simp [List.lookup_append, allToJson]
    | cons d rest =>
      have hall := allOfJson?_allToJson (d :: rest)
      have hne : allToJson (d :: rest) ≠ [] := by simp [allToJson]
      simp [List.lookup_append, hne, arrayOf?, hall]

theorem allOfJson?_allToJson : (ds : List ClassDeclaration) →
    allOfJson? (allToJson ds) = some ds
  | [] => by rw [allToJson, allOfJson?]
  | d :: rest => by
    have hd := ofJson?_toJson d
    have hrest := allOfJson?_allToJson rest
    rw [allToJson, allOfJson?, hd, hrest]

end

/-- **Declarations survive being stored.**  A declaration is read back from its stored form as it
was; and whatever value a declaration is read from, its stored form is read again, and what is read
has the same stored form. -/
theorem stored_normal_form :
    (∀ d : ClassDeclaration, ofJson? d.toJson = some d) ∧
    ∀ (json : Json) (d : ClassDeclaration), ofJson? json = some d →
      ∃ e, ofJson? d.toJson = some e ∧ e.toJson = d.toJson := by
  refine ⟨ofJson?_toJson, fun json d _ => ?_⟩
  exact ⟨d, ofJson?_toJson d, rfl⟩

/-- A declaration read from keys in another order, one of them unknown, with `null` for what is
absent and a constant whose value is the empty text: in its stored form the keys are in order, and
the value is still there. -/
theorem stored_normal_form_of_other_order :
    let json : Json := .object [("kind", .object [("interface", .null)]), ("seen", .number 1),
      ("fields", .array [.object [("value", .string ""), ("modifiers", .string " "),
        ("type", .array [.string "int"]), ("name", .string "N"), ("doc", .string "")]]),
      ("superclass", .null), ("modifiers", .string "0x80|ABSTRACT | 0x1"), ("methods", .array []),
      ("name", .string "a.B")]
    let field : Field := ⟨"N", .simple "int", ⟨0x0#16⟩, some "", ""⟩
    let d : ClassDeclaration := ⟨"a.B", ⟨0x89#16⟩, .interfaceType, none, [], [field], [], []⟩
    let stored : Json := .object [("name", .string "a.B"),
      ("modifiers", .string "PUBLIC | ABSTRACT | 0x80"), ("kind", .string "interface"),
      ("fields", .array [.object [("name", .string "N"),
        ("type", .object [("name", .string "int")]), ("modifiers", .string ""),
        ("value", .string "")]])]
    ofJson? json = some d ∧ d.toJson = stored ∧
      ∃ e, ofJson? stored = some e ∧ e.toJson = stored := by
  intro json field d stored
  have hread : ofJson? json = some d := by rfl
  have hstored : d.toJson = stored := by cbv
  obtain ⟨-, hnormal⟩ := stored_normal_form
  refine ⟨hread, hstored, ?_⟩
  rw [← hstored]
  exact hnormal json d hread

end ClassDeclaration

end ApiPages
