/-
# What the documentation shows twice

The documentation of a member takes paragraphs and lists wherever they stand below it, up to the
first one with nothing in it (`taken`).  A taken list is printed with all that is in it, and the
elements in it are taken for themselves as well.

So the documentation shows a text once for each taken element that shows it
(`occurrences_ofMember`).  Nothing is shown twice if the taken elements lie apart, and what a
paragraph in a taken list shows is shown twice.  Whether they lie apart is seen from each taken
element alone: the first element in it that could be taken has to be an empty one, which ends the
documentation (`apart_taken_iff`).
-/
import ApiPages.Proofs.Documentation.Tracer
import Mathlib.Data.List.TakeWhile

namespace ApiPages.Documentation

open Located (Apart)
open Text (occurrences)

variable {layout : Layout} {member outer inner : Located}

/-! ## 1. The elements that are taken -/

/-- The paragraphs and lists whose blocks make up the documentation, in their place. -/
def taken (layout : Layout) (member : Located) : List Located :=
  (member.selectAny (paragraphs layout)).takeWhile fun l => !l.element.isChildless

theorem blocks_eq (layout : Layout) (member : Located) :
    blocks layout member = (taken layout member).map (·.element) := by
  rw [blocks, taken, List.takeWhile_map]
  rfl

/-- What is taken stands below the member, in document order. -/
theorem taken_sublist (layout : Layout) (member : Located) :
    (taken layout member).Sublist member.descendants :=
  (List.takeWhile_sublist _).trans List.filter_sublist

/-- What is taken is a paragraph or a list. -/
theorem tag_of_mem_taken (h : outer ∈ taken layout member) :
    outer.element.tag = "p" ∨ outer.element.tag = "ul" := by
  have hselected := (List.takeWhile_sublist _).subset h
  obtain ⟨-, haccepted⟩ := List.mem_filter.mp hselected
  cases layout with
  | google =>
    exact (by simpa [paragraphs, Selector.accepts, Compound.accepts] using haccepted :
      "p" = outer.element.tag ∧ _ ∨ "ul" = outer.element.tag ∧ _).imp (·.1.symm) (·.1.symm)
  | android =>
    exact .inl (by simpa [paragraphs, Selector.accepts, Compound.accepts] using haccepted :
      "p" = outer.element.tag ∧ _).1.symm

theorem mem_of_append_eq {α : Type} {x y : α} {as bs cs ds : List α}
    (h : as ++ x :: bs = cs ++ y :: ds) : x ∈ cs ∨ x = y ∨ y ∈ as := by
  rcases List.append_eq_append_iff.mp h with ⟨es, rfl, hrest⟩ | ⟨es, rfl, hrest⟩ <;>
    rcases List.cons_eq_append_iff.mp hrest with ⟨rfl, heq⟩ | ⟨es, rfl, -⟩
  · exact .inr (.inl (List.cons.inj heq).1.symm)
  · exact .inl (by simp)
  · exact .inr (.inl (List.cons.inj heq).1)
  · exact .inr (.inr (by simp))

theorem add_le_sum_of_mem {α : Type} {x y : α} {xs : List α} (f : α → Nat) (hne : y ≠ x)
    (hx : x ∈ xs) (hy : y ∈ xs) : f x + f y ≤ (xs.map f).sum := by
  classical
  rw [← List.sum_map_erase f hx]
  have hrest := List.le_sum_of_mem
    (List.mem_map_of_mem (f := f) ((List.mem_erase_of_ne hne).mpr hy))
  omega

/-- The members of a list that a selection up to a first failure keeps. -/
theorem mem_takeWhile_filter {α : Type} {p q : α → Bool} {x : α} {xs : List α} :
    x ∈ (xs.filter p).takeWhile q ↔
      p x = true ∧ q x = true ∧
        ∃ before behind, xs = before ++ x :: behind ∧ ∀ y ∈ before, p y = true → q y = true := by
  induction xs with
  | nil => simp
  | cons z zs ih =>
    constructor
    · intro h
      by_cases hz : p z = true
      · rw [List.filter_cons_of_pos hz, List.takeWhile_cons] at h
        split at h
        · rename_i hq
          rcases List.mem_cons.mp h with rfl | h
          · exact ⟨hz, hq, [], zs, rfl, by simp⟩
          · obtain ⟨hp, hqx, before, behind, rfl, hall⟩ := ih.mp h
            exact ⟨hp, hqx, z :: before, behind, rfl,
              List.forall_mem_cons.mpr ⟨fun _ => hq, hall⟩⟩
        · simp at h
      · rw [List.filter_cons_of_neg hz] at h
        obtain ⟨hp, hqx, before, behind, rfl, hall⟩ := ih.mp h
        exact ⟨hp, hqx, z :: before, behind, rfl,
          List.forall_mem_cons.mpr ⟨fun h => absurd h hz, hall⟩⟩
    · rintro ⟨hp, hqx, before, behind, heq, hall⟩
      cases before with
      | nil =>
        obtain ⟨rfl, rfl⟩ := List.cons.inj heq
        simp [hp, hqx]
      | cons y before =>
        obtain ⟨rfl, rfl⟩ := List.cons.inj heq
        obtain ⟨hfirst, hrest⟩ := List.forall_mem_cons.mp hall
        have hbelow := ih.mpr ⟨hp, hqx, before, behind, rfl, hrest⟩
        by_cases hz : p z = true
        · rw [List.filter_cons_of_pos hz, List.takeWhile_cons_of_pos (hfirst hz)]
          exact List.mem_cons_of_mem z hbelow
        · rwa [List.filter_cons_of_neg hz]

/-- An element is taken if it is selected and not empty, and no empty one was selected before. -/
theorem mem_taken_iff :
    inner ∈ taken layout member ↔
      (paragraphs layout).any (·.accepts inner) = true ∧ (!inner.element.isChildless) = true ∧
        ∃ before behind, member.descendants = before ++ inner :: behind ∧
          ∀ l ∈ before, (paragraphs layout).any (·.accepts l) = true →
            (!l.element.isChildless) = true :=
  mem_takeWhile_filter

/-- The first element below another one that is selected. -/
theorem head?_selectAny_eq_some_iff {selectors : List Selector} {first : Located} :
    (outer.selectAny selectors).head? = some first ↔
      selectors.any (·.accepts first) = true ∧
        ∃ before behind, outer.descendants = before ++ first :: behind ∧
          ∀ l ∈ before, selectors.any (·.accepts l) = false := by
  rw [Located.selectAny, List.head?_filter, List.find?_eq_some_iff_append]
  simp

/-- **The taken elements lie apart** exactly if the first element to be taken in each of them is
empty, or there is none. -/
theorem apart_taken_iff :
    Apart (taken layout member) ↔
      ∀ outer ∈ taken layout member, ∀ first ∈ (outer.selectAny (paragraphs layout)).head?,
        first.element.isChildless = true := by
  constructor
  · intro hapart outer houter first hfirst
    by_contra hchild
    obtain ⟨haccepted, front, back, hbelow, hfront⟩ := head?_selectAny_eq_some_iff.mp hfirst
    obtain ⟨-, hkept, before, behind, hsplit, hbefore⟩ := mem_taken_iff.mp houter
    obtain ⟨rest, rfl⟩ := (Located.placed_of_descendants hsplit).descendants
    refine hapart outer houter first ?_ (by simp [hbelow])
    -- up to the first element to be taken in `outer`, nothing empty has been selected
    refine mem_taken_iff.mpr ⟨haccepted, by simpa using hchild, before ++ outer :: front,
      back ++ rest, by simp [hsplit, hbelow], fun l hl hselected => ?_⟩
    rcases List.mem_append.mp hl with hl | hl
    · exact hbefore l hl hselected
    · rcases List.mem_cons.mp hl with rfl | hl
      · exact hkept
      · exact absurd hselected (by simp [hfront l hl])
  · intro hempty outer houter inner hinner hbelow
    obtain ⟨haccepted, hkept, before, behind, hsplit, hbefore⟩ := mem_taken_iff.mp hinner
    have hfirst : ∃ first, (outer.selectAny (paragraphs layout)).head? = some first := by
      cases hhead : (outer.selectAny (paragraphs layout)).head? with
      | some first => exact ⟨first, rfl⟩
      | none =>
        have hmem : inner ∈ outer.selectAny (paragraphs layout) :=
          List.mem_filter.mpr ⟨hbelow, haccepted⟩
        simp [List.head?_eq_none_iff.mp hhead] at hmem
    obtain ⟨first, hfirst⟩ := hfirst
    have hchildless := hempty outer houter first hfirst
    obtain ⟨hselected, front, back, hdescendants, hfront⟩ := head?_selectAny_eq_some_iff.mp hfirst
    -- `outer` stands in front of `inner`, and `first` comes between them or is `inner`
    have houterBefore : outer ∈ before := by
      refine (Located.placed_of_descendants hsplit).around outer
        (Located.enclosed_of_mem_descendants hbelow) ?_
      exact (Located.enclosed_of_mem_descendants
        ((taken_sublist layout member).subset houter)).length_le
    obtain ⟨ahead, between, rfl⟩ := List.append_of_mem houterBefore
    rw [List.append_assoc, List.cons_append] at hsplit
    obtain ⟨rest, hrest⟩ := (Located.placed_of_descendants hsplit).descendants
    rw [hdescendants, List.append_assoc, List.cons_append] at hrest
    rcases mem_of_append_eq hrest with hbetween | rfl | hinnerFront
    · have hkeptFirst := hbefore first (by simp [hbetween]) hselected
      simp [hchildless] at hkeptFirst
    · simp [hchildless] at hkept
    · simp [hfront inner hinnerFront] at haccepted

/-! ## 2. How often a text is shown -/

/-- **The documentation shows a character as often as the taken elements show it**, one by one. -/
theorem occurrences_ofMember {c : Char} (hc : IsTracer c member.element) :
    occurrences c (ofMember layout member) =
      ((taken layout member).map fun l => occurrences c (shownText l.element)).sum := by
  have hend := Text.occurrences_of_ascii hc.isForeign (s := "\n") (by decide)
  rw [ofMember, Text.occurrences_trimmed hc.isForeign, Text.occurrences_join, blocks_eq,
    List.map_map, List.map_map]
  refine congrArg List.sum (List.map_congr_left fun l hl => ?_)
  have htracer := hc.of_mem_descendants ((taken_sublist layout member).subset hl)
  simp [hend, occurrences_block hc.isForeign (tag_of_mem_taken hl) htracer.textOnly]

/-- What is below an element has no more text than the element. -/
theorem occurrences_le_of_mem_descendants (c : Char) (h : inner ∈ outer.descendants) :
    occurrences c inner.element.text ≤ occurrences c outer.element.text := by
  have happart : Apart [inner] := by
    simpa [Apart] using Located.not_mem_descendants inner
  simpa [Element.text] using
    sum_occurrences_le c _ _ [inner] (List.singleton_sublist.mpr h) happart

/-- **Elements that lie apart show nothing twice.** -/
theorem occurrences_ofMember_le (h : Apart (taken layout member)) {c : Char}
    (hc : IsTracer c member.element) :
    occurrences c (ofMember layout member) ≤ occurrences c member.element.text := by
  rw [occurrences_ofMember hc]
  calc
    ((taken layout member).map fun l => occurrences c (shownText l.element)).sum
        ≤ ((taken layout member).map fun l => occurrences c l.element.text).sum :=
          List.sum_le_sum fun l _ => occurrences_shownText_le c l.element
    _ ≤ occurrences c member.element.text :=
          sum_occurrences_le c _ _ _ (taken_sublist layout member) h

/-- **What is taken out of a taken list is shown twice.** -/
theorem le_occurrences_ofMember (houter : outer ∈ taken layout member)
    (hlist : outer.element.tag = "ul") (hinner : inner ∈ taken layout member)
    (hbelow : inner ∈ outer.descendants) {c : Char} (hc : IsTracer c member.element) :
    2 * occurrences c (shownText inner.element) ≤ occurrences c (ofMember layout member) := by
  have hne : inner ≠ outer := by
    rintro rfl
    exact Located.not_mem_descendants inner hbelow
  have hsum := add_le_sum_of_mem (fun l => occurrences c (shownText l.element)) hne houter hinner
  have hshown := occurrences_shownText_le c inner.element
  have htext := occurrences_le_of_mem_descendants c hbelow
  have hwhole : shownText outer.element = outer.element.text := by
    rw [shownText, if_neg (by simp [hlist])]
  rw [occurrences_ofMember hc]
  simp only [hwhole] at hsum
  omega

/-! ## 3. Repetition -/

/-- What the documentation of a member shows how often. -/
structure Repeats (layout : Layout) (member : Located) : Prop where
  /-- The documentation shows what each taken element shows. -/
  shown : ∀ c, IsTracer c member.element →
    occurrences c (ofMember layout member) =
      ((taken layout member).map fun l => occurrences c (shownText l.element)).sum
  /-- If no taken element lies in another one, no text is shown more often than it is there. -/
  once : Apart (taken layout member) → ∀ c, IsTracer c member.element →
    occurrences c (ofMember layout member) ≤ occurrences c member.element.text
  /-- What a taken element in a taken list shows is shown twice. -/
  twice : ∀ outer ∈ taken layout member, outer.element.tag = "ul" →
    ∀ inner ∈ taken layout member, inner ∈ outer.descendants →
      ∀ c, IsTracer c member.element →
        2 * occurrences c (shownText inner.element) ≤ occurrences c (ofMember layout member)
  /-- No taken element lies in another one if and only if the first paragraph or list in each of
  them is empty, or there is none. -/
  apart_iff : Apart (taken layout member) ↔
    ∀ outer ∈ taken layout member, ∀ first ∈ (outer.selectAny (paragraphs layout)).head?,
      first.element.isChildless = true

/-- **How often the documentation of a member shows a text**, for any tree. -/
theorem repeats_ofMember (layout : Layout) (member : Located) : Repeats layout member where
  shown _ hc := occurrences_ofMember hc
  once h _ hc := occurrences_ofMember_le h hc
  twice _ houter hlist _ hinner hbelow _ hc :=
    le_occurrences_ofMember houter hlist hinner hbelow hc
  apart_iff := apart_taken_iff

/-- A paragraph in a list: it is taken, the list around it is taken, and its text is shown twice. -/
theorem repeated_paragraph :
    let paragraph : Element := ⟨"p", [], [.text "é"]⟩
    let item : Element := ⟨"li", [], [paragraph.toNode]⟩
    let list : Element := ⟨"ul", [], [item.toNode]⟩
    let member : Located := .root ⟨"div", [], [list.toNode]⟩
    let outer : Located := ⟨list, [member.element]⟩
    let inner : Located := ⟨paragraph, [item, list, member.element]⟩
    taken .google member = [outer, inner] ∧ inner ∈ outer.descendants ∧
      IsTracer 'é' member.element ∧ occurrences 'é' member.element.text = 1 ∧
      occurrences 'é' (ofMember .google member) = 2 ∧
      ofMember .google member = "<ul><li><p>é</p></li></ul>\né" := by
  intro paragraph item list member outer inner
  refine ⟨rfl, ?_, ⟨⟨by decide, by decide⟩, ?_⟩, by decide, by decide +kernel, by decide +kernel⟩
  · simp [Located.descendants, outer, inner, list, item, Element.toNode, Node.elementsOf,
      Node.elements]
  · simp [member, list, item, paragraph, Located.root, Element.toNode, Node.TextOnly,
      Node.AllTextOnly]
    decide

end ApiPages.Documentation
