/-
# Following a character through the documentation

How often a text is shown is seen from the characters in it, but not from every character: tags and
escapes bring in characters of their own, and so do the targets of links.  A tracer is a visible
character beyond ASCII that an element has in its texts only (`IsTracer`).

Neither squeezing nor trimming nor printing adds or removes a tracer (`occurrences_print`).  The
only text that is not shown is that of code which becomes a symbol; without it, a block shows each
character of its element as often as the element has it (`occurrences_block`).
-/
import ApiPages.Documentation
import ApiPages.Proofs.Markup.DocumentOrder
import ApiPages.Proofs.Text.Words

namespace ApiPages

/-! ## 1. Characters in texts -/

namespace Text

/-- A visible character beyond ASCII; markup is not written with it, and it is not escaped. -/
structure IsForeign (c : Char) : Prop where
  beyondAscii : 128 ≤ c.toNat
  visible : isBlank c = false

theorem occurrences_eq_zero {c : Char} {s : String} (h : c ∉ s.toList) : occurrences c s = 0 :=
  List.count_eq_zero.mpr h

theorem occurrences_join (c : Char) (ss : List String) :
    occurrences c (String.join ss) = (ss.map (occurrences c)).sum := by
  simp only [occurrences, String.toList_join, List.count_flatMap]
  rfl

theorem count_flatMap_eq {c : Char} {f : Char → List Char} (hf : ∀ d, (f d).count c = [d].count c)
    (cs : List Char) : (cs.flatMap f).count c = cs.count c := by
  induction cs with
  | nil => rfl
  | cons d cs ih =>
    rw [List.flatMap_cons, List.count_append, hf, ih, ← List.count_append, List.singleton_append]

section

variable {c : Char} (hc : IsForeign c)
include hc

theorem IsForeign.ne_of_ascii {d : Char} (hd : d.toNat < 128) : d ≠ c :=
  fun h => Nat.not_le.mpr hd (h ▸ hc.beyondAscii)

theorem IsForeign.ne_of_isBlank {d : Char} (hd : isBlank d = true) : d ≠ c := by
  rintro rfl
  exact absurd hd (by simp [hc.visible])

theorem occurrences_of_ascii {s : String} (h : s.toList.all (·.toNat < 128) = true) :
    occurrences c s = 0 :=
  occurrences_eq_zero fun hmem =>
    hc.ne_of_ascii (of_decide_eq_true (List.all_eq_true.mp h c hmem)) rfl

theorem count_of_blank {cs : List Char} (h : ∀ d ∈ cs, isBlank d = true) : cs.count c = 0 :=
  List.count_eq_zero.mpr fun hmem => hc.ne_of_isBlank (h c hmem) rfl

theorem count_dropWhile (cs : List Char) : (cs.dropWhile isBlank).count c = cs.count c := by
  have hblank : (cs.takeWhile isBlank).count c = 0 :=
    count_of_blank hc fun d hd => List.mem_takeWhile_imp hd
  conv_rhs => rw [← List.takeWhile_append_dropWhile (p := isBlank) (l := cs), List.count_append]
  omega

theorem occurrences_trimmed (s : String) : occurrences c (trimmed s) = occurrences c s := by
  simp only [occurrences, trimmed, trim, trimEnd, String.toList_ofList, List.count_reverse,
    count_dropWhile hc]

theorem count_squeezeFrom (afterBlank : Bool) (cs : List Char) :
    (squeezeFrom afterBlank cs).count c = cs.count c := by
  induction cs generalizing afterBlank with
  | nil => rfl
  | cons d cs ih =>
    rw [squeezeFrom]
    split
    · rename_i hd
      have hne := hc.ne_of_isBlank hd
      have hspace : ' ' ≠ c := hc.ne_of_ascii (by decide)
      split <;> simp [ih, hne, hspace]
    · simp [List.count_cons, ih]

theorem occurrences_squeezed (s : String) : occurrences c (squeezed s) = occurrences c s := by
  rw [occurrences, squeezed, String.toList_ofList, squeeze, count_squeezeFrom hc]
  rfl

end

end Text

open Text (IsForeign occurrences)

/-! ## 2. Tracers -/

mutual

/-- A node has a character in its texts only, and the links in it do not make one of it. -/
def Node.TextOnly (c : Char) : Node → Prop
  | .text _ => True
  | .comment content => occurrences c content = 0
  | .element tag attributes children =>
    occurrences c tag = 0 ∧
      (∀ a ∈ attributes, occurrences c a.1 = 0 ∧ occurrences c a.2 = 0 ∧
        occurrences c (Link.symbol a.2) = 0) ∧
      Node.AllTextOnly c children

/-- Nodes that have a character in their texts only. -/
def Node.AllTextOnly (c : Char) : List Node → Prop
  | [] => True
  | node :: rest => node.TextOnly c ∧ Node.AllTextOnly c rest

end

/-- **A character by which the text of an element can be followed.** -/
structure IsTracer (c : Char) (e : Element) : Prop where
  isForeign : IsForeign c
  textOnly : e.toNode.TextOnly c

namespace Node

variable {c : Char}

theorem allTextOnly_iff {nodes : List Node} :
    AllTextOnly c nodes ↔ ∀ node ∈ nodes, node.TextOnly c := by
  induction nodes with
  | nil => simp [AllTextOnly]
  | cons node nodes ih => simp [AllTextOnly, ih]

mutual

theorem textOnly_of_mem_elements (enclosing : List Element) : (node : Node) →
    node.TextOnly c → ∀ l ∈ node.elements enclosing, l.element.toNode.TextOnly c
  | .text _, _ => fun l hl => by simp [Node.elements] at hl
  | .comment _, _ => fun l hl => by simp [Node.elements] at hl
  | .element tag attributes children, h => fun l hl => by
    rw [Node.elements] at hl
    rcases List.mem_cons.mp hl with rfl | hl
    · exact h
    · rw [TextOnly] at h
      exact textOnly_of_mem_elementsOf _ children h.2.2 l hl

/-- What holds of nodes holds of the elements in them. -/
theorem textOnly_of_mem_elementsOf (enclosing : List Element) : (nodes : List Node) →
    AllTextOnly c nodes → ∀ l ∈ Node.elementsOf enclosing nodes, l.element.toNode.TextOnly c
  | [], _ => fun l hl => by simp [Node.elementsOf] at hl
  | node :: rest, h => fun l hl => by
    rw [AllTextOnly] at h
    rw [Node.elementsOf] at hl
    rcases List.mem_append.mp hl with hl | hl
    · exact textOnly_of_mem_elements enclosing node h.1 l hl
    · exact textOnly_of_mem_elementsOf enclosing rest h.2 l hl

end
end Node

/-- A tracer of an element is one of every element below it. -/
theorem IsTracer.of_mem_descendants {c : Char} {outer inner : Located}
    (h : IsTracer c outer.element) (hinner : inner ∈ outer.descendants) :
    IsTracer c inner.element where
  isForeign := h.isForeign
  textOnly := by
    have htext := h.textOnly
    rw [Element.toNode, Node.TextOnly] at htext
    exact Node.textOnly_of_mem_elementsOf _ _ htext.2.2 inner hinner

/-! ## 3. Printed markup -/

namespace Markup

variable {c : Char} (hc : IsForeign c)
include hc

/-- Writing ASCII for another character keeps the count. -/
theorem count_escaped {d : Char} {written : List Char} (hd : d ≠ c)
    (hwritten : written.all (·.toNat < 128) = true) : written.count c = [d].count c := by
  rw [List.count_singleton, if_neg (by simpa using hd)]
  exact List.count_eq_zero.mpr fun hmem =>
    hc.ne_of_ascii (of_decide_eq_true (List.all_eq_true.mp hwritten c hmem)) rfl

theorem occurrences_escapedText (s : String) : occurrences c (escapedText s) = occurrences c s := by
  rw [occurrences, escapedText, String.toList_ofList]
  refine Text.count_flatMap_eq (fun d => ?_) s.toList
  rw [escapedTextChar.eq_def]
  split
  · exact count_escaped hc (hc.ne_of_ascii (by decide)) (by decide)
  · exact count_escaped hc (hc.ne_of_isBlank (by decide)) (by decide)
  · exact count_escaped hc (hc.ne_of_ascii (by decide)) (by decide)
  · exact count_escaped hc (hc.ne_of_ascii (by decide)) (by decide)
  · rfl

theorem occurrences_escapedValue (s : String) :
    occurrences c (escapedValue s) = occurrences c s := by
  rw [occurrences, escapedValue, String.toList_ofList]
  refine Text.count_flatMap_eq (fun d => ?_) s.toList
  rw [escapedValueChar.eq_def]
  split
  · exact count_escaped hc (hc.ne_of_ascii (by decide)) (by decide)
  · exact count_escaped hc (hc.ne_of_isBlank (by decide)) (by decide)
  · exact count_escaped hc (hc.ne_of_ascii (by decide)) (by decide)
  · rfl

theorem occurrences_startTag {tag : String} {attributes : List (String × String)}
    (htag : occurrences c tag = 0)
    (hattributes : ∀ a ∈ attributes, occurrences c a.1 = 0 ∧ occurrences c a.2 = 0) :
    occurrences c (startTag tag attributes) = 0 := by
  have hprinted : ∀ a ∈ attributes.mergeSort fun a b => a.1 ≤ b.1,
      occurrences c (printedAttribute a) = 0 := by
    intro a ha
    obtain ⟨hname, hvalue⟩ := hattributes a (List.mem_mergeSort.mp ha)
    have hspace := Text.occurrences_of_ascii hc (s := " ") (by decide)
    have hequals := Text.occurrences_of_ascii hc (s := "=\"") (by decide)
    have hquote := Text.occurrences_of_ascii hc (s := "\"") (by decide)
    simp only [printedAttribute, Text.occurrences_append, occurrences_escapedValue hc, hspace,
      hname, hequals, hvalue, hquote]
  have hless := Text.occurrences_of_ascii hc (s := "<") (by decide)
  have hgreater := Text.occurrences_of_ascii hc (s := ">") (by decide)
  simp only [startTag, Text.occurrences_append, Text.occurrences_join, htag, hless, hgreater,
    List.map_map, Nat.zero_add, Nat.add_zero]
  exact List.sum_eq_zero_iff_forall_eq_nat.mpr fun n hn => by
    obtain ⟨a, ha, rfl⟩ := List.mem_map.mp hn
    exact hprinted a ha

end Markup

variable {c : Char}

mutual

theorem occurrences_print (hc : IsForeign c) (tagless : Bool) (parent : String) :
    (node : Node) → node.TextOnly c →
      occurrences c (node.print tagless parent) = occurrences c node.textContent
  | .text content => fun _ => by
    rw [Node.print, Node.textContent]
    split
    · rfl
    · exact Markup.occurrences_escapedText hc content
  | .comment content => fun h => by
    rw [Node.TextOnly] at h
    have hopen := Text.occurrences_of_ascii hc (s := "<!--") (by decide)
    have hclose := Text.occurrences_of_ascii hc (s := "-->") (by decide)
    simp [Node.print, Node.textContent, h, hopen, hclose]
  | .element tag attributes children => fun h => by
    obtain ⟨htag, hattributes, hchildren⟩ := by simpa only [Node.TextOnly] using h
    have hstart := Markup.occurrences_startTag hc htag fun a ha =>
      ⟨(hattributes a ha).1, (hattributes a ha).2.1⟩
    have hend := Text.occurrences_of_ascii hc (s := "</") (by decide)
    have hgreater := Text.occurrences_of_ascii hc (s := ">") (by decide)
    rw [Node.print, Node.textContent]
    split
    · exact occurrences_printAll hc true tag children hchildren
    · split <;>
        simp [hstart, htag, hend, hgreater, occurrences_printAll hc _ tag children hchildren]

/-- **Printed nodes show their text once.** -/
theorem occurrences_printAll (hc : IsForeign c) (tagless : Bool) (parent : String) :
    (nodes : List Node) → Node.AllTextOnly c nodes →
      occurrences c (Node.printAll tagless parent nodes) = occurrences c (Node.textOf nodes)
  | [] => fun _ => rfl
  | node :: rest => fun h => by
    obtain ⟨hnode, hrest⟩ := by simpa only [Node.AllTextOnly] using h
    simp [Node.printAll, Node.textOf, occurrences_print hc tagless parent node hnode,
      occurrences_printAll hc tagless parent rest hrest]

end

/-- A printed element, without the blanks around it. -/
theorem occurrences_trimmed_print (hc : IsForeign c) {e : Element} (he : e.toNode.TextOnly c) :
    occurrences c (Text.trimmed e.print) = occurrences c e.text := by
  rw [Text.occurrences_trimmed hc, Element.print, occurrences_print hc false "" _ he]
  rfl

/-! ## 4. Blocks -/

namespace Documentation

/-- Code that becomes a symbol: there is one link in it. -/
def isReference : Node → Bool
  | .element tag attributes children =>
    tag = "code" && ((Located.root ⟨tag, attributes, children⟩).select anchors).length = 1
  | _ => false

/-- The text of an element that its block shows: in a paragraph, code that becomes a symbol is left
out. -/
def shownText (e : Element) : String :=
  if e.tag = "p" then Node.textOf (e.children.filter fun node => !isReference node) else e.text

theorem occurrences_target {e : Element} (he : e.toNode.TextOnly c) :
    occurrences c (target e) = 0 ∧ occurrences c (Link.symbol (target e)) = 0 := by
  obtain ⟨-, hattributes, -⟩ := by simpa only [Element.toNode, Node.TextOnly] using he
  rw [target, Element.attribute?]
  cases hvalue : e.attributes.lookup "href" with
  | none => exact ⟨rfl, congrArg (List.count c) (by decide : (Link.symbol "").toList = [])⟩
  | some value =>
    obtain ⟨before, behind, heq, -⟩ := List.lookup_eq_some_iff.mp hvalue
    exact (hattributes ("href", value) (heq ▸ List.mem_append_right before List.mem_cons_self)).2

section

variable (hc : IsForeign c)
include hc

theorem occurrences_link {e : Element} (he : e.toNode.TextOnly c) :
    occurrences c (link e) = occurrences c e.text := by
  have hopen := Text.occurrences_of_ascii hc (s := "<a href=\"") (by decide)
  have hbehind := Text.occurrences_of_ascii hc (s := "\">") (by decide)
  have hclose := Text.occurrences_of_ascii hc (s := "</a>") (by decide)
  simp [link, hopen, hbehind, hclose, (occurrences_target he).1]

/-- Code shows its text, or a symbol that has nothing of it. -/
theorem occurrences_code {e : Element} (he : e.toNode.TextOnly c) :
    occurrences c (code e) =
      if ((Located.root e).select anchors).length = 1 then 0 else occurrences c e.text := by
  rw [code]
  split
  · rename_i anchor hanchor
    have hselected : anchor ∈ (Located.root e).select anchors := by simp [hanchor]
    have hopen := Text.occurrences_of_ascii hc (s := "\x7b@link ") (by decide)
    have hclose := Text.occurrences_of_ascii hc (s := "\x7d") (by decide)
    have hroot : IsTracer c (Located.root e).element := ⟨hc, he⟩
    have htracer := hroot.of_mem_descendants (List.mem_filter.mp hselected).1
    simp [hanchor, hopen, hclose, (occurrences_target htracer.textOnly).2]
  · rename_i hnot
    rw [if_neg fun hlength => ?_, occurrences_trimmed_print hc he]
    obtain ⟨anchor, hanchor⟩ := List.length_eq_one_iff.mp hlength
    exact hnot anchor hanchor

/-- **A node within a paragraph shows its text once**, unless it becomes a symbol. -/
theorem occurrences_inline {node : Node} (hnode : node.TextOnly c) :
    occurrences c (inline node) =
      if isReference node then 0 else occurrences c node.textContent := by
  cases node with
  | text content => exact Text.occurrences_squeezed hc content
  | comment content => rfl
  | element tag attributes children =>
    rw [show (Node.element tag attributes children).textContent =
      (⟨tag, attributes, children⟩ : Element).text by rw [Node.textContent, Element.text]]
    by_cases ha : tag = "a"
    · subst ha
      simpa [inline, isReference] using occurrences_link hc (e := ⟨"a", attributes, children⟩) hnode
    · by_cases hcode : tag = "code"
      · subst hcode
        simpa [inline, isReference] using
          occurrences_code hc (e := ⟨"code", attributes, children⟩) hnode
      · simpa [inline, isReference, ha, hcode] using Text.occurrences_squeezed hc _

theorem occurrences_inlines {nodes : List Node} (h : ∀ node ∈ nodes, node.TextOnly c) :
    occurrences c (String.join (nodes.map inline)) =
      occurrences c (Node.textOf (nodes.filter fun node => !isReference node)) := by
  rw [Text.occurrences_join, List.map_map]
  induction nodes with
  | nil => rfl
  | cons node nodes ih =>
    obtain ⟨hnode, hrest⟩ := List.forall_mem_cons.mp h
    rw [List.map_cons, List.sum_cons, ih hrest, Function.comp_apply, occurrences_inline hc hnode]
    cases hreference : isReference node <;> simp [Node.textOf, hreference]

/-- **A block shows the text that it is to show once.** -/
theorem occurrences_block {e : Element} (htag : e.tag = "p" ∨ e.tag = "ul")
    (he : e.toNode.TextOnly c) : occurrences c (block e) = occurrences c (shownText e) := by
  by_cases hp : e.tag = "p"
  · obtain ⟨-, -, hchildren⟩ := by simpa only [Element.toNode, Node.TextOnly] using he
    rw [block, if_pos hp, shownText, if_pos hp]
    exact occurrences_inlines hc (Node.allTextOnly_iff.mp hchildren)
  · rw [block, if_neg hp, if_pos (htag.resolve_left hp), shownText, if_neg hp]
    exact occurrences_trimmed_print hc he

end

/-- No more is shown of an element than its text. -/
theorem occurrences_shownText_le (c : Char) (e : Element) :
    occurrences c (shownText e) ≤ occurrences c e.text := by
  rw [shownText]
  split
  · rw [Element.text]
    induction e.children with
    | nil => exact le_rfl
    | cons node nodes ih =>
      rw [List.filter_cons]
      split <;> simp only [Node.textOf, Text.occurrences_append] <;> omega
  · exact le_rfl

end Documentation
end ApiPages
