/-
# What a flattened element keeps

All nodes below an element can be listed in document order, each with the tags around it
(`Element.nodes`).  The flattened element is this list, with the nodes inside anchors left out and
only texts, anchors and line breaks kept (`Node.fragmentsOf_eq_filterMap`).  So nothing is lost:
with the texts inside the anchors, the items have all texts of the element in document order
(`Node.flatMap_texts`).  Both ask of the line breaks that nothing stands in them, since what does is
not visited.

Nothing else of the tree counts.  Whether some consecutive nodes have an element around them is not
to be seen in the flattened element, as long as this is no anchor and no line break
(`Rewrapped.fragmentsOf_eq`), and so not in the signature either.
-/
import ApiPages.Signature.Reader
import Mathlib.Logic.Relation

namespace ApiPages

/-! ## 1. Nodes in document order -/

/-- A node below an element, and the tags of the elements that stand around it there, the nearest
first. -/
structure LocatedNode where
  node : Node
  around : List String

mutual

/-- A node and the nodes in it, in document order. -/
def Node.nodes (around : List String) : Node → List LocatedNode
  | .text content => [⟨.text content, around⟩]
  | .comment content => [⟨.comment content, around⟩]
  | .element tag attributes children =>
    ⟨.element tag attributes children, around⟩ :: Node.nodesOf (tag :: around) children

/-- A sequence of nodes and the nodes in them, in document order. -/
def Node.nodesOf (around : List String) : List Node → List LocatedNode
  | [] => []
  | node :: rest => node.nodes around ++ Node.nodesOf around rest

end

/-- **The nodes below an element**, in document order. -/
def Element.nodes (e : Element) : List LocatedNode := Node.nodesOf [] e.children

mutual

/-- The contents of the text nodes of a node, in document order. -/
def Node.texts : Node → List String
  | .text content => [content]
  | .comment _ => []
  | .element _ _ children => Node.textsOf children

/-- The contents of the text nodes in a sequence of nodes. -/
def Node.textsOf : List Node → List String
  | [] => []
  | node :: rest => node.texts ++ Node.textsOf rest

end

mutual

theorem Node.join_texts : (node : Node) → String.join node.texts = node.textContent
  | .text content => by simp [Node.texts, Node.textContent]
  | .comment _ => rfl
  | .element _ _ children => by rw [Node.texts, Node.textContent, Node.join_textsOf children]

/-- The text nodes together are the text. -/
theorem Node.join_textsOf : (nodes : List Node) →
    String.join (Node.textsOf nodes) = Node.textOf nodes
  | [] => rfl
  | node :: rest => by
    rw [Node.textsOf, Node.textOf, String.join_append, Node.join_texts node, Node.join_textsOf rest]

end

/-- The contents of the text nodes that a fragment stands for. -/
def Fragment.texts : Fragment → List String
  | .text content => [content]
  | .anchor e => Node.textsOf e.children
  | .lineBreak => []

theorem Fragment.join_texts (f : Fragment) : String.join f.texts = f.textContent := by
  cases f with
  | text content => simp [texts, textContent]
  | anchor e => exact Node.join_textsOf e.children
  | lineBreak => rfl

/-- Whether a fragment is a line break. -/
def Fragment.isLineBreak : Fragment → Bool
  | .lineBreak => true
  | _ => false

namespace LocatedNode

/-- Whether a node is a line break outside all anchors. -/
def isBreak (l : LocatedNode) : Bool :=
  match l.node with
  | .element tag _ _ => tag = "br" && "a" ∉ l.around
  | _ => false

/-- Whether nothing stands in a node. -/
def isHollow (l : LocatedNode) : Bool :=
  match l.node with
  | .element _ _ children => children.isEmpty
  | _ => true

/-- What a node is in the flattened element: nothing inside an anchor, and outside only if it is a
text, an anchor or a line break. -/
def fragment? (l : LocatedNode) : Option Fragment :=
  if "a" ∈ l.around then none
  else match l.node with
    | .text content => some (.text content)
    | .comment _ => none
    | .element tag attributes children =>
      if tag = "a" then some (.anchor ⟨tag, attributes, children⟩)
      else if tag = "br" then some .lineBreak
      else none

/-- A line break is one item, wherever it stands outside of anchors. -/
theorem fragment?_of_isBreak {l : LocatedNode} (h : l.isBreak = true) :
    l.fragment? = some .lineBreak := by
  obtain ⟨node, around⟩ := l
  cases node with
  | element tag attributes children =>
    obtain ⟨rfl, haround⟩ : tag = "br" ∧ "a" ∉ around := by simpa [isBreak] using h
    simp [fragment?, haround]
  | text content => cases h
  | comment content => cases h

/-- Nothing stands in the line breaks among some nodes, but for those inside anchors. -/
def BreaksHollow (ls : List LocatedNode) : Prop :=
  ∀ l ∈ ls, l.isBreak = true → l.isHollow = true

instance (ls : List LocatedNode) : Decidable (BreaksHollow ls) :=
  inferInstanceAs (Decidable (∀ l ∈ ls, l.isBreak = true → l.isHollow = true))

end LocatedNode

/-! ## 2. Items in document order -/

open LocatedNode (BreaksHollow fragment? isBreak)

/-- What the condition on line breaks says of a line break and the nodes behind it. -/
theorem LocatedNode.BreaksHollow.eq_nil {around : List String} {ls : List LocatedNode}
    {attributes : List (String × String)} {children : List Node}
    (h : BreaksHollow (⟨.element "br" attributes children, around⟩ :: ls)) (hout : "a" ∉ around) :
    children = [] :=
  List.isEmpty_iff.mp (h _ List.mem_cons_self (by simp [isBreak, hout]))

mutual

theorem Node.filterMap_nodes_of_anchor (around : List String) (h : "a" ∈ around) :
    (node : Node) → (node.nodes around).filterMap fragment? = []
  | .text _ => by simp [Node.nodes, fragment?, h]
  | .comment _ => by simp [Node.nodes, fragment?, h]
  | .element tag _ children => by
    have hin : "a" ∈ tag :: around := List.mem_cons_of_mem tag h
    simp [Node.nodes, fragment?, h, Node.filterMap_nodesOf_of_anchor (tag :: around) hin children]

/-- **Inside an anchor there are no items.** -/
theorem Node.filterMap_nodesOf_of_anchor (around : List String) (h : "a" ∈ around) :
    (nodes : List Node) → (Node.nodesOf around nodes).filterMap fragment? = []
  | [] => rfl
  | node :: rest => by
    rw [Node.nodesOf, List.filterMap_append, Node.filterMap_nodes_of_anchor around h node,
      Node.filterMap_nodesOf_of_anchor around h rest, List.append_nil]

end

mutual

theorem Node.fragments_eq_filterMap (around : List String) (h : "a" ∉ around) : (node : Node) →
    BreaksHollow (node.nodes around) →
    node.fragments = (node.nodes around).filterMap fragment?
  | .text _, _ => by simp [Node.fragments, Node.nodes, fragment?, h]
  | .comment _, _ => by simp [Node.fragments, Node.nodes, fragment?, h]
  | .element tag attributes children, hbreaks => by
    rw [Node.nodes] at hbreaks ⊢
    have hchildren := (List.forall_mem_cons.mp hbreaks).2
    by_cases ha : tag = "a"
    · subst ha
      simp [Node.fragments, fragment?, h, Node.filterMap_nodesOf_of_anchor ("a" :: around)]
    · by_cases hbr : tag = "br"
      · subst hbr
        obtain rfl := hbreaks.eq_nil h
        simp [Node.fragments, Node.nodesOf, fragment?, h]
      · have hout : "a" ∉ tag :: around := by simpa [eq_comm, ha] using h
        rw [Node.fragments, if_neg ha, if_neg hbr,
          Node.fragmentsOf_eq_filterMap (tag :: around) hout children hchildren]
        simp [fragment?, h, ha, hbr]

/-- **The items of flattened nodes** are the texts, anchors and line breaks outside of anchors, in
document order. -/
theorem Node.fragmentsOf_eq_filterMap (around : List String) (h : "a" ∉ around) :
    (nodes : List Node) → BreaksHollow (Node.nodesOf around nodes) →
    Node.fragmentsOf nodes = (Node.nodesOf around nodes).filterMap fragment?
  | [], _ => rfl
  | node :: rest, hbreaks => by
    rw [Node.nodesOf] at hbreaks ⊢
    obtain ⟨hnode, hrest⟩ := List.forall_mem_append.mp hbreaks
    rw [Node.fragmentsOf, List.filterMap_append, Node.fragments_eq_filterMap around h node hnode,
      Node.fragmentsOf_eq_filterMap around h rest hrest]

end

mutual

theorem Node.flatMap_texts_fragments (around : List String) (h : "a" ∉ around) : (node : Node) →
    BreaksHollow (node.nodes around) →
    node.fragments.flatMap Fragment.texts = node.texts
  | .text _, _ => rfl
  | .comment _, _ => rfl
  | .element tag attributes children, hbreaks => by
    rw [Node.nodes] at hbreaks
    have hchildren := (List.forall_mem_cons.mp hbreaks).2
    by_cases ha : tag = "a"
    · simp [Node.fragments, ha, Fragment.texts, Node.texts]
    · by_cases hbr : tag = "br"
      · subst hbr
        obtain rfl := hbreaks.eq_nil h
        rfl
      · have hout : "a" ∉ tag :: around := by simpa [eq_comm, ha] using h
        rw [Node.fragments, if_neg ha, if_neg hbr, Node.texts]
        exact Node.flatMap_texts (tag :: around) hout children hchildren

/-- **No text is lost**, and none is repeated or moved. -/
theorem Node.flatMap_texts (around : List String) (h : "a" ∉ around) : (nodes : List Node) →
    BreaksHollow (Node.nodesOf around nodes) →
    (Node.fragmentsOf nodes).flatMap Fragment.texts = Node.textsOf nodes
  | [], _ => rfl
  | node :: rest, hbreaks => by
    rw [Node.nodesOf] at hbreaks
    obtain ⟨hnode, hrest⟩ := List.forall_mem_append.mp hbreaks
    rw [Node.fragmentsOf, List.flatMap_append, Node.textsOf,
      Node.flatMap_texts_fragments around h node hnode, Node.flatMap_texts around h rest hrest]

end

/-- **What the flattened content of an element is.** -/
structure Element.Flattens (e : Element) : Prop where
  /-- Its items are the texts, anchors and line breaks outside of anchors, in document order; -/
  in_order : e.fragments = e.nodes.filterMap fragment?
  /-- so each line break has its item, which stands between what is before it and what is behind; -/
  lineBreak : ∀ before l behind, e.nodes = before ++ l :: behind → l.isBreak = true →
    e.fragments = before.filterMap fragment? ++ .lineBreak :: behind.filterMap fragment?
  /-- and there are as many such items as line breaks. -/
  count_lineBreak : e.fragments.countP Fragment.isLineBreak = e.nodes.countP isBreak
  /-- All text nodes are there, each once and in document order, -/
  texts : e.fragments.flatMap Fragment.texts = Node.textsOf e.children
  /-- and make the text of the element. -/
  text : String.join (e.fragments.map Fragment.textContent) = e.text

/-- Other nodes make no item that is a line break. -/
theorem isLineBreak_fragment? (l : LocatedNode) :
    (l.fragment?.map Fragment.isLineBreak).getD false = l.isBreak := by
  obtain ⟨node, around⟩ := l
  cases node with
  | text content => by_cases h : "a" ∈ around <;> simp [fragment?, isBreak, h, Fragment.isLineBreak]
  | comment content => simp [fragment?, isBreak]
  | element tag attributes children =>
    by_cases h : "a" ∈ around
    · simp [fragment?, isBreak, h]
    · by_cases ha : tag = "a"
      · simp [fragment?, isBreak, h, ha, Fragment.isLineBreak]
      · by_cases hbr : tag = "br" <;> simp [fragment?, isBreak, h, ha, hbr, Fragment.isLineBreak]

theorem Element.flattens_of_breaksHollow {e : Element} (h : BreaksHollow e.nodes) :
    e.Flattens := by
  have houtside : "a" ∉ ([] : List String) := List.not_mem_nil
  have horder : e.fragments = e.nodes.filterMap fragment? :=
    Node.fragmentsOf_eq_filterMap [] houtside e.children h
  have htexts : e.fragments.flatMap Fragment.texts = Node.textsOf e.children :=
    Node.flatMap_texts [] houtside e.children h
  refine {
    in_order := horder
    lineBreak := ?lineBreak
    count_lineBreak := ?count
    texts := htexts
    text := ?text }
  case lineBreak =>
    intro before l behind hsplit hbreak
    rw [horder, hsplit, List.filterMap_append,
      List.filterMap_cons_some (LocatedNode.fragment?_of_isBreak hbreak)]
  case count =>
    rw [horder, List.countP_filterMap]
    exact List.countP_congr fun l _ => by rw [isLineBreak_fragment?]
  case text =>
    calc String.join (e.fragments.map Fragment.textContent)
        = String.join (e.fragments.flatMap Fragment.texts) := by
          induction e.fragments with
          | nil => rfl
          | cons f fs ih =>
            rw [List.map_cons, List.flatMap_cons, String.join_append, String.join_cons, ih,
              f.join_texts]
      _ = String.join (Node.textsOf e.children) := by rw [htexts]
      _ = e.text := Node.join_textsOf e.children

/-! ## 3. Elements around nodes -/

theorem Node.fragmentsOf_append (before behind : List Node) :
    Node.fragmentsOf (before ++ behind) = Node.fragmentsOf before ++ Node.fragmentsOf behind := by
  induction before with
  | nil => rfl
  | cons node before ih => rw [List.cons_append, Node.fragmentsOf, Node.fragmentsOf, ih,
      List.append_assoc]

theorem Node.textOf_append (before behind : List Node) :
    Node.textOf (before ++ behind) = Node.textOf before ++ Node.textOf behind := by
  induction before with
  | nil => simp [Node.textOf]
  | cons node before ih => rw [List.cons_append, Node.textOf, Node.textOf, ih, String.append_assoc]

/-- **An element is put around consecutive nodes**, somewhere outside of anchors; it is itself
neither an anchor nor a line break. -/
inductive Rewrapped : List Node → List Node → Prop where
  | here (before nodes behind : List Node) (tag : String) (attributes : List (String × String)) :
    tag ≠ "a" → tag ≠ "br" →
    Rewrapped (before ++ nodes ++ behind) (before ++ .element tag attributes nodes :: behind)
  | inside (before behind : List Node) (tag : String) (attributes : List (String × String))
    {children children' : List Node} :
    tag ≠ "a" → Rewrapped children children' →
    Rewrapped (before ++ .element tag attributes children :: behind)
      (before ++ .element tag attributes children' :: behind)

namespace Rewrapped

variable {nodes nodes' : List Node}

/-- **An element around nodes is transparent.** -/
theorem fragmentsOf_eq (h : Rewrapped nodes nodes') :
    Node.fragmentsOf nodes' = Node.fragmentsOf nodes := by
  induction h with
  | here before nodes behind tag attributes ha hbr =>
    simp only [Node.fragmentsOf_append, Node.fragmentsOf, Node.fragments, if_neg ha, if_neg hbr,
      List.append_assoc]
  | inside before behind tag attributes ha _ ih =>
    simp only [Node.fragmentsOf_append, Node.fragmentsOf, Node.fragments, if_neg ha, ih]

theorem textOf_eq (h : Rewrapped nodes nodes') : Node.textOf nodes' = Node.textOf nodes := by
  induction h with
  | here before nodes behind tag attributes _ _ =>
    simp only [Node.textOf_append, Node.textOf, Node.textContent, String.append_assoc]
  | inside before behind tag attributes _ _ ih =>
    simp only [Node.textOf_append, Node.textOf, Node.textContent, ih]

/-- What one element around nodes does not change, any number of them does not change. -/
theorem eq_of_eqvGen {α : Type} {view : List Node → α}
    (hview : ∀ nodes nodes', Rewrapped nodes nodes' → view nodes' = view nodes)
    (h : Relation.EqvGen Rewrapped nodes nodes') : view nodes' = view nodes := by
  induction h with
  | rel nodes nodes' h => exact hview nodes nodes' h
  | refl nodes => rfl
  | symm nodes nodes' _ ih => exact ih.symm
  | trans nodes nodes' nodes'' _ _ ih ih' => exact ih'.trans ih

end Rewrapped

/-- **Flattening an element loses no text, and sees no transparent markup.**  Where nothing stands
in the line breaks outside of anchors, the items have all the text of the element in document order,
and one item for each of these line breaks in its place.  Whatever elements are put around nodes or
taken from around them, the items remain the same, and so does the signature that they spell, of
every kind and within every limit, or the failure. -/
theorem flattening_keeps_text :
    (∀ e : Element, BreaksHollow e.nodes → e.Flattens) ∧
    ∀ (e : Element) (others : List Node), Relation.EqvGen Rewrapped e.children others →
      Element.fragments { e with children := others } = e.fragments ∧
      ∀ (kind : MemberKind) (limit : Option Nat),
        Signature.ofFragments kind limit (Element.fragments { e with children := others }) =
          Signature.ofFragments kind limit e.fragments ∧
        Signature.ofElement kind limit { e with children := others } =
          Signature.ofElement kind limit e := by
  refine ⟨fun e h => e.flattens_of_breaksHollow h, fun e others h => ?_⟩
  have hfragments : Element.fragments { e with children := others } = e.fragments :=
    Rewrapped.eq_of_eqvGen (fun _ _ => Rewrapped.fragmentsOf_eq) h
  have htext : Element.text { e with children := others } = e.text :=
    Rewrapped.eq_of_eqvGen (fun _ _ => Rewrapped.textOf_eq) h
  refine ⟨hfragments, fun kind limit => ⟨by rw [hfragments], ?_⟩⟩
  -- a failure shows the text, which is the same as well
  rw [Signature.ofElement, Signature.ofElement, hfragments, Element.line, Element.line, htext]

/-- A signature with a line break inside an anchor and one outside, and with an annotation set in
two elements: all of its text is in the items, and without the two elements they are the same. -/
theorem flattening_keeps_text_of_two_wrappers :
    let anchor : Node :=
      .element "a" [("href", "/reference/A")] [.text "A", .element "br" [] [.text "!"]]
    let marked : List Node := [.text "@", anchor, .comment "note", .element "br" [] []]
    let rest : Node := .text "void f ()"
    let e : Element :=
      ⟨"pre", [], [.element "b" [] [.element "i" [] marked, .text "public "], rest]⟩
    BreaksHollow e.nodes ∧ e.Flattens ∧ String.join (e.fragments.map Fragment.textContent) =
      "@A!public void f ()" ∧
    Element.fragments ⟨"pre", [], marked ++ [.text "public ", rest]⟩ = e.fragments := by
  intro anchor marked rest e
  have hbreaks : BreaksHollow e.nodes := by decide +kernel
  have hflattens := flattening_keeps_text.1 e hbreaks
  refine ⟨hbreaks, hflattens, hflattens.text.trans (by decide +kernel), ?_⟩
  have hinner : Rewrapped (marked ++ [.text "public ", rest])
      (.element "i" [] marked :: [.text "public ", rest]) :=
    .here [] marked [.text "public ", rest] "i" [] (by decide) (by decide)
  have houter : Rewrapped (.element "i" [] marked :: [.text "public ", rest]) e.children :=
    .here [] [.element "i" [] marked, .text "public "] [rest] "b" [] (by decide) (by decide)
  exact (flattening_keeps_text.2 ⟨"pre", [], marked ++ [.text "public ", rest]⟩ e.children
    (.trans _ _ _ (.rel _ _ hinner) (.rel _ _ houter))).1.symm

end ApiPages
