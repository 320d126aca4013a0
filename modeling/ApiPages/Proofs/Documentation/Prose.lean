/-
# Prose is kept word for word

A paragraph without links and code in it is prose.  It becomes a line of text, and although its
nodes are squeezed one by one, wherever its text is divided between them, the line has the words of
the paragraph (`sameWords_block`) and no line end of its own (`not_mem_block`).

So the documentation of a member whose paragraphs are prose has the words of these paragraphs, in
their order; and if there are words in the first and in the last one, it has a line for each of
them, with its words (`words_of_prose`).  Nothing is asked of how the paragraphs lie to each other.
-/
import ApiPages.Documentation
import ApiPages.Proofs.Text.Words
import Mathlib.Data.List.Basic

namespace ApiPages.Documentation

open Text (SameWords)

/-! ## 1. Paragraphs of prose -/

/-- A node that is neither a link nor code. -/
def isProseNode : Node → Bool
  | .element tag _ _ => tag ≠ "a" && tag ≠ "code"
  | _ => true

/-- **A paragraph of prose**: it may hold any nodes but links and code. -/
structure IsProse (e : Element) : Prop where
  tag : e.tag = "p"
  children : ∀ node ∈ e.children, isProseNode node = true

instance (e : Element) : Decidable (IsProse e) :=
  decidable_of_iff (e.tag = "p" ∧ ∀ node ∈ e.children, isProseNode node = true)
    ⟨fun h => ⟨h.1, h.2⟩, fun h => ⟨h.1, h.2⟩⟩

/-- A node of prose is shown as its text, squeezed. -/
theorem inline_of_isProseNode {node : Node} (h : isProseNode node = true) :
    inline node = Text.squeezed node.textContent := by
  cases node with
  | text content => rfl
  | comment content => rfl
  | element tag attributes children =>
    have htag : tag ≠ "a" ∧ tag ≠ "code" := by simpa [isProseNode] using h
    simp only [inline, if_neg htag.1, if_neg htag.2]
    rfl

/-- The nodes of a paragraph, each shown for itself. -/
theorem sameWords_inline {nodes : List Node} (h : ∀ node ∈ nodes, isProseNode node = true) :
    SameWords (nodes.flatMap fun node => (inline node).toList) (Node.textOf nodes).toList := by
  induction nodes with
  | nil => exact .refl _
  | cons node nodes ih =>
    obtain ⟨hnode, hrest⟩ := List.forall_mem_cons.mp h
    rw [List.flatMap_cons, Node.textOf, String.toList_append, inline_of_isProseNode hnode,
      Text.squeezed, String.toList_ofList]
    exact (Text.sameWords_squeeze _).append (ih hrest)

section

variable {e : Element} (h : IsProse e)
include h

theorem toList_block : (block e).toList = e.children.flatMap fun node => (inline node).toList := by
  rw [block, if_pos h.tag, String.toList_join, List.flatMap_map]

/-- **The line of a paragraph has its words**, wherever it stands. -/
theorem sameWords_block : SameWords (block e).toList e.text.toList := by
  rw [toList_block h]
  exact sameWords_inline h.children

/-- The line of a paragraph is one line. -/
theorem not_mem_block : '\n' ∉ (block e).toList := by
  rw [toList_block h]
  intro hmem
  obtain ⟨node, hnode, hmem⟩ := List.mem_flatMap.mp hmem
  rw [inline_of_isProseNode (h.children node hnode), Text.squeezed, String.toList_ofList] at hmem
  exact absurd (Text.eq_space_of_mem_squeezeFrom hmem (by decide)) (by decide)

end

/-! ## 2. The documentation of a member -/

/-- The documentation before it is trimmed. -/
theorem ofMember_eq (layout : Layout) (member : Located) :
    ofMember layout member = String.ofList
      (Text.trim (Text.lined ((blocks layout member).map fun e => (block e).toList))) := by
  have hlines : (String.join ((blocks layout member).map fun e => block e ++ "\n")).toList =
      Text.lined ((blocks layout member).map fun e => (block e).toList) := by
    rw [String.toList_join, List.flatMap_map, Text.lined, List.flatMap_map]
    simp only [String.toList_append]
    rfl
  rw [ofMember, Text.trimmed, hlines]

/-- **Prose is kept word for word, one line for each paragraph**, in both layouts. -/
theorem words_of_prose {layout : Layout} {member : Located}
    (h : ∀ p ∈ blocks layout member, IsProse p) :
    Text.wordsOf (ofMember layout member) =
        (blocks layout member).flatMap (fun p => Text.wordsOf p.text) ∧
      ∀ first ∈ (blocks layout member).head?, ∀ last ∈ (blocks layout member).getLast?,
        Text.wordsOf first.text ≠ [] → Text.wordsOf last.text ≠ [] →
          (Text.piecesOf '\n' (ofMember layout member)).map Text.wordsOf =
            (blocks layout member).map fun p => Text.wordsOf p.text := by
  have hwords : ∀ p ∈ blocks layout member,
      Text.words (block p).toList = Text.words p.text.toList :=
    fun p hp => (sameWords_block (h p hp)).words_eq
  constructor
  · rw [ofMember_eq, Text.wordsOf, String.toList_ofList, Text.words_trim, Text.words_lined,
      List.flatMap_map, List.map_flatMap]
    exact List.flatMap_congr fun p hp => congrArg (List.map String.ofList) (hwords p hp)
  · intro first hfirst last hlast hfirstWords hlastWords
    have hlines : ∀ line ∈ (blocks layout member).map fun e => (block e).toList,
        '\n' ∉ line := by
      intro line hline
      obtain ⟨p, hp, rfl⟩ := List.mem_map.mp hline
      exact not_mem_block (h p hp)
    have hcut := Text.cut_trim_lined hlines
      ⟨(block first).toList, by simp [Option.mem_def.mp hfirst], by
        rw [hwords first (List.mem_of_mem_head? hfirst)]
        exact fun hnil => hfirstWords (by rw [Text.wordsOf, hnil, List.map_nil])⟩
      ⟨(block last).toList, by simp [List.getLast?_map, Option.mem_def.mp hlast], by
        rw [hwords last (List.mem_of_getLast? hlast)]
        exact fun hnil => hlastWords (by rw [Text.wordsOf, hnil, List.map_nil])⟩
    calc
      (Text.piecesOf '\n' (ofMember layout member)).map Text.wordsOf
          = ((Text.cut (· == '\n') (Text.trim (Text.lined _))).map Text.words).map
              (List.map String.ofList) := by
            rw [ofMember_eq, Text.piecesOf, String.toList_ofList, List.map_map, List.map_map]
            exact List.map_congr_left fun piece _ => by simp [Text.wordsOf]
      _ = (blocks layout member).map fun p => Text.wordsOf p.text := by
            rw [hcut, List.map_map, List.map_map]
            exact List.map_congr_left fun p hp => congrArg (List.map String.ofList) (hwords p hp)

/-- Words that go on from one node to the next, comments, a no-break space, a paragraph of blanks,
and an empty paragraph that ends the documentation. -/
theorem words_of_prose_of_divided_words :
    let member : Located := .root ⟨"div", [],
      [.element "p" [] [.text "\n One  w", .comment "no word", .element "b" [] [.text "ord "],
          .element "i" [] [.text "\u00a0\nmore"]],
        .element "p" [] [.text "\t "],
        .element "p" [] [.element "em" [] [.element "b" [] [.text "la"], .text "st\n"]],
        .element "p" [] [], .element "p" [] [.text "gone"]]⟩
    (∀ p ∈ blocks .google member, IsProse p) ∧
      Text.wordsOf (ofMember .google member) = ["One", "word", "more", "last"] ∧
      (Text.piecesOf '\n' (ofMember .google member)).map Text.wordsOf =
        [["One", "word", "more"], [], ["last"]] := by
  intro member
  have hprose : ∀ p ∈ blocks .google member, IsProse p := by decide +kernel
  obtain ⟨hwords, hlines⟩ := words_of_prose hprose
  refine ⟨hprose, hwords.trans (by decide +kernel), ?_⟩
  exact (hlines _ rfl _ rfl (by decide +kernel) (by decide +kernel)).trans (by decide +kernel)

end ApiPages.Documentation
