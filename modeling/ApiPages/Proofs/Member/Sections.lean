/-
# Blocks and the comments before them

In the Android layout a section has no element of its own.  The reader goes through the children of
the content element with the section that was announced last (`labelled`).  Seen from a block, its
section is the one that the last announcement before it names, wherever that stands and whatever
stands in between (`blockAt?`), and the blocks that have a section are read in their order
(`labelled_eq_blocks`).

What a block declares depends on its section alone (`Declares`), and so does the list that its
member goes to.  Hence the fields of a page are those of its constant and field blocks, the methods
those of its constructor and method blocks, block by block; and the page fails with the first block
that declares nothing (`routed_of_select`).
-/
import ApiPages.Proofs.Member.WellFormed

namespace ApiPages

namespace Member.Android

/-! ## 1. Sections by position -/

/-- The section that a node announces: a comment that is a label, but for the blanks around it. -/
def announced? : Node → Option Section
  | .comment content => Section.ofMarker? (Text.trimmed content)
  | _ => none

/-- The block that a node is. -/
def block? : Node → Option Element
  | .element tag attributes children =>
    if tag = "div" then some ⟨tag, attributes, children⟩ else none
  | _ => none

/-- The section that holds behind a sequence of nodes: the one announced last. -/
def announcedLast (nodes : List Node) : Option Section := (nodes.filterMap announced?).getLast?

/-- The block at a position with its section, where `current` holds until another one is
announced; none if there is no block, or no section. -/
def blockAt? (current : Option Section) (nodes : List Node) (i : Nat) :
    Option (Section × Element) := do
  let block ← nodes[i]?.bind block?
  let label ← (announcedLast (nodes.take i)).or current
  return (label, block)

/-- **The blocks that have a section**, in document order. -/
def blocks (nodes : List Node) : List (Section × Element) :=
  (List.range nodes.length).filterMap (blockAt? none nodes)

/-- An announcement holds until the next one. -/
theorem announcedLast_cons (node : Node) (nodes : List Node) (current : Option Section) :
    (announcedLast (node :: nodes)).or current =
      (announcedLast nodes).or ((announced? node).or current) := by
  unfold announcedLast
  cases hnode : announced? node with
  | none => simp [hnode]
  | some label =>
    rw [List.filterMap_cons, hnode, List.getLast?_cons]
    cases (nodes.filterMap announced?).getLast? <;> rfl

/-- A position behind the first node is one of the rest. -/
theorem blockAt?_cons_succ (current : Option Section) (node : Node) (nodes : List Node) (i : Nat) :
    blockAt? current (node :: nodes) (i + 1) = blockAt? ((announced? node).or current) nodes i := by
  rw [blockAt?, blockAt?, List.getElem?_cons_succ, List.take_succ_cons, announcedLast_cons]

/-- The first node, if it is a block, belongs to the current section. -/
theorem labelled_cons (current : Option Section) (node : Node) (nodes : List Node) :
    labelled current (node :: nodes) = (blockAt? current (node :: nodes) 0).toList ++
      labelled ((announced? node).or current) nodes := by
  cases node with
  | text content => rfl
  | comment content => rfl
  | element tag attributes children =>
    cases current with
    | none => simp [labelled, blockAt?, announced?, announcedLast]
    | some label =>
      by_cases htag : tag = "div" <;>
        simp [labelled, blockAt?, announced?, announcedLast, block?, htag]

theorem labelled_eq (current : Option Section) (nodes : List Node) :
    labelled current nodes = (List.range nodes.length).filterMap (blockAt? current nodes) := by
  induction nodes generalizing current with
  | nil => rfl
  | cons node nodes ih =>
    have hrest : blockAt? current (node :: nodes) ∘ Nat.succ =
        blockAt? ((announced? node).or current) nodes :=
      funext fun i => blockAt?_cons_succ current node nodes i
    rw [labelled_cons, ih, List.length_cons, List.range_succ_eq_map, List.filterMap_cons,
      List.filterMap_map, hrest]
    cases blockAt? current (node :: nodes) 0 <;> rfl

/-- **Each block has the section that was announced last before it.** -/
theorem labelled_eq_blocks (nodes : List Node) : labelled none nodes = blocks nodes :=
  labelled_eq none nodes

/-! ## 2. What a block declares -/

/-- What a block of each section declares. -/
inductive Declares (limit : Option Nat) (block : Located) : Section → Member → Prop
  | constant {f : Field} (h : constant block = .ok f) : Declares limit block .constants (.field f)
  | field {f : Field} {e : Located} (hsignature : block.selectSingle signature = .ok e)
      (h : Field.ofElement limit (Documentation.ofMember .android block) e.element = .ok f) :
      Declares limit block .fields (.field f)
  | constructor {m : Method} {e : Located} (hsignature : block.selectSingle signature = .ok e)
      (h : Method.ofElement true limit (Documentation.ofMember .android block) e.element = .ok m) :
      Declares limit block .constructors (.method m)
  | method {m : Method} {e : Located} (hsignature : block.selectSingle signature = .ok e)
      (h : Method.ofElement false limit (Documentation.ofMember .android block) e.element = .ok m) :
      Declares limit block .methods (.method m)

theorem ofBlock_eq_ok_iff {limit : Option Nat} {label : Section} {block : Located} {m : Member} :
    ofBlock limit label block = .ok m ↔ Declares limit block label m := by
  constructor
  · intro h
    cases label with
    | constants =>
      obtain ⟨f, hf, rfl⟩ := ok_of_map h
      exact .constant hf
    | fields =>
      obtain ⟨e, he, h⟩ := ok_of_bind h
      obtain ⟨f, hf, rfl⟩ := ok_of_map h
      exact .field he hf
    | constructors =>
      obtain ⟨e, he, h⟩ := ok_of_bind h
      obtain ⟨m, hm, rfl⟩ := ok_of_map h
      exact .constructor he hm
    | methods =>
      obtain ⟨e, he, h⟩ := ok_of_bind h
      obtain ⟨m, hm, rfl⟩ := ok_of_map h
      exact .method he hm
  · intro h
    cases h with
    | constant h => simp only [ofBlock, h]; rfl
    | field he h => simp only [ofBlock, he, h, bind, Except.bind]; rfl
    | constructor he h => simp only [ofBlock, he, h, bind, Except.bind]; rfl
    | method he h => simp only [ofBlock, he, h, bind, Except.bind]; rfl

/-- The sections whose blocks declare fields; those of the others declare methods. -/
def Section.holdsFields : Section → Bool
  | constants | fields => true
  | constructors | methods => false

section

variable {limit : Option Nat} {block : Located} {label : Section}

/-- A method is a constructor exactly if its block is one of the constructor blocks. -/
theorem Declares.isConstructor_iff {m : Method} (h : Declares limit block label (.method m)) :
    m.isConstructor = true ↔ label = .constructors := by
  cases h with
  | constructor _ h =>
    have hname := (Method.wellFormed_of_ofElement h).2
    simpa [Method.isConstructor] using hname
  | method _ h =>
    have hname := (Method.wellFormed_of_ofElement h).2
    simpa [Method.isConstructor, Option.isSome_iff_ne_none] using hname

/-- **The section decides what a block declares**: a field or a method. -/
theorem Declares.sort {m : Member} (h : Declares limit block label m) :
    (∃ f, m = .field f ∧ label.holdsFields = true) ∨
      (∃ n, m = .method n ∧ label.holdsFields = false) := by
  cases h with
  | constant => exact .inl ⟨_, rfl, rfl⟩
  | field => exact .inl ⟨_, rfl, rfl⟩
  | constructor => exact .inr ⟨_, rfl, rfl⟩
  | method => exact .inr ⟨_, rfl, rfl⟩

end

/-! ## 3. The members of a page -/

section

variable {limit : Option Nat} {content : Located} {found : List (Section × Element)}
  {members : List Member}

/-- A block of the content element declares a member. -/
def DeclaresIn (limit : Option Nat) (content : Located) (b : Section × Element) (m : Member) :
    Prop :=
  Declares limit (content.childElement b.2) b.1 m

theorem fields_of_declared (h : List.Forall₂ (DeclaresIn limit content) found members) :
    List.Forall₂ (fun b f => DeclaresIn limit content b (.field f))
      (found.filter (·.1.holdsFields)) (Members.ofList members).fields := by
  induction h with
  | nil => exact .nil
  | cons hb _ ih =>
    rcases Declares.sort hb with ⟨f, rfl, hlabel⟩ | ⟨m, rfl, hlabel⟩
    · rw [List.filter_cons_of_pos (by exact hlabel)]
      exact .cons hb ih
    · rw [List.filter_cons_of_neg (by simp [hlabel])]
      exact ih

theorem methods_of_declared (h : List.Forall₂ (DeclaresIn limit content) found members) :
    List.Forall₂ (fun b m => DeclaresIn limit content b (.method m) ∧
        (m.isConstructor = true ↔ b.1 = .constructors))
      (found.filter (!·.1.holdsFields)) (Members.ofList members).methods := by
  induction h with
  | nil => exact .nil
  | cons hb _ ih =>
    rcases Declares.sort hb with ⟨f, rfl, hlabel⟩ | ⟨m, rfl, hlabel⟩
    · rw [List.filter_cons_of_neg (by simp [hlabel])]
      exact ih
    · rw [List.filter_cons_of_pos (by simp [hlabel])]
      exact .cons ⟨hb, Declares.isConstructor_iff hb⟩ ih

end

/-- How the blocks in the content element of a page make its members. -/
structure Routed (limit : Option Nat) (page : Element) (content : Located) : Prop where
  /-- The page has members exactly if each block that has a section declares one. -/
  ok_iff : (∃ members, ofPage limit page = .ok members) ↔
    ∀ b ∈ blocks content.element.children, ∃ m, DeclaresIn limit content b m
  /-- The fields are those of the constant and field blocks, in document order. -/
  fields : ∀ members, ofPage limit page = .ok members →
    List.Forall₂ (fun b f => DeclaresIn limit content b (.field f))
      ((blocks content.element.children).filter (·.1.holdsFields)) members.fields
  /-- The methods are those of the constructor and method blocks, in document order. -/
  methods : ∀ members, ofPage limit page = .ok members →
    List.Forall₂ (fun b m => DeclaresIn limit content b (.method m) ∧
        (m.isConstructor = true ↔ b.1 = .constructors))
      ((blocks content.element.children).filter (!·.1.holdsFields)) members.methods
  /-- The failure of a page is that of the first block that declares nothing. -/
  error_iff : ∀ failure, ofPage limit page = .error failure ↔
    ∃ before b behind, blocks content.element.children = before ++ b :: behind ∧
      (∀ b' ∈ before, ∃ m, DeclaresIn limit content b' m) ∧
      ofBlock limit b.1 (content.childElement b.2) = .error failure

/-- **Every block that has a section is read once and in order**, on every page with one content
element. -/
theorem routed_of_select (limit : Option Nat) {page : Element} {content : Located}
    (h : (Located.root page).select Android.content = [content]) : Routed limit page content := by
  let read (b : Section × Element) := ofBlock limit b.1 (content.childElement b.2)
  have hpage : ofPage limit page =
      (do return Members.ofList (← (blocks content.element.children).mapM read)) := by
    have hsingle : (Located.root page).selectSingle Android.content = .ok content := by
      rw [Located.selectSingle, h]
    rw [ofPage, hsingle, ← labelled_eq_blocks]
    rfl
  have hread : ∀ b m, read b = .ok m ↔ DeclaresIn limit content b m := fun b m => ofBlock_eq_ok_iff
  have hdeclared : ∀ members, ofPage limit page = .ok members → ∃ list,
      List.Forall₂ (DeclaresIn limit content) (blocks content.element.children) list ∧
        Members.ofList list = members := by
    intro members hmembers
    obtain ⟨list, hlist, hof⟩ := ok_of_map (hpage.symm.trans hmembers)
    exact ⟨list, (mapM_eq_ok_iff.mp hlist).imp fun b m => (hread b m).mp, hof⟩
  refine { ok_iff := ?ok, fields := ?fields, methods := ?methods, error_iff := ?error }
  case ok =>
    rw [hpage, exists_map_iff, exists_mapM_iff]
    simp only [hread]
  case fields =>
    intro members hmembers
    obtain ⟨list, hlist, rfl⟩ := hdeclared members hmembers
    exact fields_of_declared hlist
  case methods =>
    intro members hmembers
    obtain ⟨list, hlist, rfl⟩ := hdeclared members hmembers
    exact methods_of_declared hlist
  case error =>
    intro failure
    rw [hpage, map_eq_error_iff, mapM_eq_error_iff]
    simp only [hread]
    rfl

/-- A page with a block before the first label, a constant, a constructor behind a comment that is
no label, and another constant. -/
theorem routed_of_repeated_label :
    let block (text : String) : Node :=
      .element "div" [] [.element "pre" [("class", "api-signature")] [.text text],
        .element "p" [] [.text "Constant Value: 1 (0x1)"]]
    let page : Element := ⟨"html", [], [.element "div" [("id", "jd-content")]
      [block "public int none", .comment "\n Constants ", .text "text",
        block "public static final int A", .comment "Public ctors", .comment "Constructors",
        .element "p" [] [], block "public A (int a)", .comment "Constants",
        block "public static final int B"]]⟩
    ∃ content members, (Located.root page).select Android.content = [content] ∧
      Routed none page content ∧ ofPage none page = .ok members ∧
      (blocks content.element.children).map (·.1) = [.constants, .constructors, .constants] ∧
      members.fields.map (·.name) = ["A", "B"] ∧
      members.methods.map (·.isConstructor) = [true] := by
  intro block page
  have hread : (ofPage none page).toOption.map
      (fun members => (members.fields.map (·.name), members.methods.map (·.isConstructor))) =
        some (["A", "B"], [true]) := by decide +kernel
  obtain ⟨members, hmembers, hparts⟩ := Option.map_eq_some_iff.mp hread
  exact ⟨_, members, rfl, routed_of_select none rfl, toOption_eq_some_iff.mp hmembers, by
    decide +kernel, congrArg Prod.fst hparts, congrArg Prod.snd hparts⟩

end Member.Android

end ApiPages
