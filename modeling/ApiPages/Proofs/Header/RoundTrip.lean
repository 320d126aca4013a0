/-
# Headers survive being written out

What a header shows is read back, in both layouts alike: the modifiers, the kind, and the types of
the two clauses but for those that go without saying (`ofPage_shown`).  The layouts have the
reading of clauses in common; what is left to each is how it gets there, over a text with keywords
and an element with the name in one of them, and element by element in the other.
-/
import ApiPages.Proofs.Declaration.Modifiers
import ApiPages.Proofs.Header.Clause
import ApiPages.Proofs.Text.Pieces

namespace ApiPages

open ShownClause (typesOf typesOf_filter exists_run_clauses)

/-! ## 1. The header that is to be read -/

namespace ShownHeader

variable {h : ShownHeader} {limit : Option Nat}

/-- What is to be read from a header. -/
def header (h : ShownHeader) : ClassHeader where
  modifiers := h.modifiers
  kind := some h.kind
  extended := explicitTypes h.extended.typeNames
  implemented := explicitTypes h.implemented.typeNames

/-- **A header that can be read**: its modifiers are known ones, and so are its clauses. -/
structure Readable (limit : Option Nat) (h : ShownHeader) : Prop where
  modifiers : h.modifiers.otherBits = 0#16
  extended : h.extended.Readable limit
  implemented : h.implemented.Readable limit

theorem Readable.clauses (hh : h.Readable limit) : ∀ c ∈ h.clauses, c.2.Readable limit := by
  intro c hc
  rcases List.mem_cons.mp (List.mem_filter.mp hc).1 with rfl | hc
  · exact hh.extended
  · obtain rfl := List.mem_singleton.mp hc
    exact hh.implemented

/-- A clause without types may be left out. -/
theorem typesOf_clauses (h : ShownHeader) :
    typesOf h.clauses .extending = h.extended.typeNames ∧
      typesOf h.clauses .implementing = h.implemented.typeNames := by
  have hdropped (clause : Clause) : typesOf h.clauses clause =
      typesOf [(.extending, h.extended), (.implementing, h.implemented)] clause := by
    refine typesOf_filter (fun c _ hc => ?_) clause
    simp only [Bool.not_eq_false', Bool.and_eq_true, List.isEmpty_iff] at hc
    simp [ShownClause.typeNames, hc.2]
  constructor <;> rw [hdropped] <;> simp [typesOf]

/-- No keyword runs into the next one: the first clause is left out, or is apart from the second. -/
theorem isChain_clauses (hapart : h.omitsEmpty = false → h.extended.ApartFrom h.implemented) :
    h.clauses.IsChain fun c next => c.2.ApartFrom next.2 := by
  cases homits : h.omitsEmpty with
  | false => simpa [clauses, homits] using hapart homits
  | true =>
    by_cases hextended : h.extended.types = [] <;>
      by_cases himplemented : h.implemented.types = [] <;>
        simp [clauses, homits, ShownClause.ApartFrom, hextended, himplemented]

/-- At the end of the header the types of its clauses are in its lists. -/
theorem finish_clauses {s : Supertypes} {read : ClassHeader}
    (hs : s.Collected limit (typesOf h.clauses)) (hmodifiers : read.modifiers = h.modifiers)
    (hkind : read.kind = some h.kind) (hextended : read.extended = [])
    (himplemented : read.implemented = []) : s.finish read = .ok h.header := by
  obtain ⟨hextending, himplementing⟩ := h.typesOf_clauses
  rw [hs.finish, hextending, himplementing]
  simp [header, hmodifiers, hkind, hextended, himplemented]

end ShownHeader

/-! ## 2. The Google layout -/

namespace Header.Google

/-- Behind the name, the children of the header block are the nodes of clauses. -/
def walker (header : ClassHeader) : Walker Reader where
  child := Reader.child
  state supertypes := { phase := .supertypes, header, supertypes }
  bareNames := false
  text_eq _ _ := rfl
  anchor_eq _ _ _ := rfl

theorem foldlM_modifiers (ms : List Modifier) (header : ClassHeader) :
    (ms.map Modifier.keyword).foldlM Reader.keyword header =
      .ok { header with modifiers := ms.foldl .insert header.modifiers } := by
  induction ms generalizing header with
  | nil => rfl
  | cons m ms ih =>
    have hm : Reader.keyword header m.keyword = .ok (header.withModifier m) := by
      simp [Reader.keyword, Modifier.ofKeyword?_keyword]
    rw [List.map_cons, List.foldlM_cons, hm]
    exact ih (header.withModifier m)

/-- **The keywords of a header are read**: the modifiers in any order, and the kind. -/
theorem foldlM_keywords (ms : List Modifier) (kind : ClassKind) :
    (ms.map Modifier.keyword ++ [kind.keyword]).foldlM Reader.keyword {} =
      .ok { modifiers := .ofList ms, kind := some kind } := by
  have hkind (header : ClassHeader) : Reader.keyword header kind.keyword =
      .ok { header with kind := some kind } := by
    have hnone : Modifier.ofKeyword? kind.keyword = none := by cases kind <;> decide
    simp [Reader.keyword, hnone, ClassKind.ofKeyword?_keyword]
  rw [List.foldlM_append, foldlM_modifiers]
  simp only [bind, Except.bind, List.foldlM_cons, List.foldlM_nil, hkind]
  rfl

/-- **A header block is read** to what it shows. -/
theorem foldlM_block {h : ShownHeader} {limit : Option Nat} (label : String → List Node)
    (hh : h.Readable limit)
    (hapart : h.omitsEmpty = false → h.extended.ApartFrom h.implemented)
    {keywords : String} {ms : List Modifier} (hms : ∀ m, m ∈ ms ↔ h.modifiers.has m = true)
    (hkeywords : Text.wordsOf keywords = ms.map Modifier.keyword ++ [h.kind.keyword])
    (name : Element) :
    (do let r ← (h.googleBlock label keywords name).foldlM Reader.child
          { supertypes := Supertypes.start limit }
        r.supertypes.finish r.header) = .ok h.header := by
  have hmodifiers := Modifiers.ofList_eq_of_mem_iff hh.modifiers hms
  let read : ClassHeader := { modifiers := h.modifiers, kind := some h.kind }
  have hread : Reader.child { supertypes := Supertypes.start limit } (.text keywords) =
      .ok { phase := .name, header := read, supertypes := Supertypes.start limit } := by
    have hwords := foldlM_keywords ms h.kind
    rw [hmodifiers] at hwords
    simp [Reader.child, Reader.text, hkeywords, hwords, read, bind, Except.bind, pure, Except.pure]
  have hname : Reader.child
      { phase := .name, header := read, supertypes := Supertypes.start limit } name.toNode =
        .ok ((walker read).state (Supertypes.start limit)) := rfl
  obtain ⟨s', hrun, hs'⟩ := exists_run_clauses (w := walker read) label hh.clauses
    (ShownHeader.isChain_clauses hapart) (Supertypes.collected_start limit)
  have hfold : (h.googleBlock label keywords name).foldlM Reader.child
      { supertypes := Supertypes.start limit } = .ok ((walker read).state s') := by
    simp only [ShownHeader.googleBlock, List.foldlM_cons, hread, hname, bind, Except.bind]
    exact hrun
  rw [hfold]
  have hcollected : s'.Collected limit (typesOf h.clauses) := by simpa using hs'
  exact ShownHeader.finish_clauses hcollected rfl rfl rfl rfl

end Header.Google

/-! ## 3. The Android layout -/

namespace Header.Android

open Text (trimmed trimmed_padded)

/-- Behind its first text, a header element has the nodes of a clause. -/
def walker : Walker Supertypes where
  child := clauseChild
  state s := s
  bareNames := true
  text_eq s content := (bind_pure (s.text true content)).symm
  anchor_eq s attributes children := (bind_pure (s.anchor ⟨"a", attributes, children⟩)).symm

variable {h : ShownHeader} {limit : Option Nat}

/-- A word of a record is a line of its own. -/
theorem line_keyword (m : Modifier) :
    trimmed m.keyword = m.keyword ∧ '\n' ∉ m.keyword.toList := by
  cases m <;> decide

theorem line_slot (h : ShownHeader) (m : Modifier) :
    trimmed (h.slot m) = h.slot m ∧ '\n' ∉ (h.slot m).toList := by
  unfold ShownHeader.slot
  split
  · exact line_keyword m
  · decide

theorem line_kind (kind : ClassKind) :
    trimmed kind.keyword = kind.keyword ∧ '\n' ∉ kind.keyword.toList := by
  cases kind <;> decide

/-- The slots of a record. -/
theorem slots_record (h : ShownHeader) : (Text.piecesOf '\n' h.record).map trimmed =
    [Modifier.publicAccess.keyword, h.slot .static, h.slot .final, h.slot .abstract,
      h.kind.keyword] := by
  have hpieces : Text.piecesOf '\n' h.record = [Modifier.publicAccess.keyword, h.slot .static,
      h.slot .final, h.slot .abstract, h.kind.keyword] := by
    refine Text.piecesOf_intercalate (List.cons_ne_nil _ _) fun line hline => ?_
    simp only [List.mem_cons, List.not_mem_nil, or_false] at hline
    rcases hline with rfl | rfl | rfl | rfl | rfl
    · exact (line_keyword .publicAccess).2
    · exact (line_slot h .static).2
    · exact (line_slot h .final).2
    · exact (line_slot h .abstract).2
    · exact (line_kind h.kind).2
  simp only [hpieces, List.map_cons, List.map_nil, (line_keyword .publicAccess).1,
    (line_slot h _).1, (line_kind h.kind).1]

/-- A slot that may be blank gives the modifier if the header has it. -/
theorem optional_slot (h : ShownHeader) {slots : List String} {index : Nat} (name : Slot)
    {m : Modifier} (hslot : slots[index]? = some (h.slot m)) (read : ClassHeader) :
    optional slots index name m read = .ok { read with
      modifiers := ([m].filter h.modifiers.has).foldl .insert read.modifiers } := by
  have hkeyword : m.keyword ≠ "" := by cases m <;> decide
  unfold ShownHeader.slot at hslot
  split at hslot <;> rename_i hm <;>
    simp [optional, slot, hslot, hm, hkeyword, bind, Except.bind, pure, Except.pure,
      ClassHeader.withModifier]

/-- **A record is read** to the modifiers and the kind that it shows. -/
theorem record_eq_ok (hother : h.modifiers.otherBits = 0#16)
    (hpublic : h.modifiers.has .publicAccess = true)
    (hslots : ∀ m, h.modifiers.has m = true → m ∈ [.publicAccess, .static, .final, .abstract]) :
    record {} h.record = .ok { modifiers := h.modifiers, kind := some h.kind } := by
  let slots : List Modifier := [.publicAccess] ++ [.static] ++ [.final] ++ [.abstract]
  have hms : Modifiers.ofList (slots.filter h.modifiers.has) = h.modifiers := by
    refine Modifiers.ofList_eq_of_mem_iff hother fun m => ?_
    rw [List.mem_filter]
    exact ⟨fun hm => hm.2, fun hm => ⟨hslots m hm, hm⟩⟩
  have hfirst : [Modifier.publicAccess].filter h.modifiers.has = [.publicAccess] := by
    simp [hpublic]
  simp only [slots, List.filter_append, hfirst, Modifiers.ofList, List.foldl_append] at hms
  unfold record
  rw [slots_record]
  simp only [slot, List.getElem?_cons_zero, optional_slot h, List.getElem?_cons_succ,
    ClassKind.ofKeyword?_keyword, bind, Except.bind]
  exact congrArg
    (fun modifiers => (Except.ok ⟨modifiers, some h.kind, [], []⟩ : Except Failure ClassHeader)) hms

/-- A record begins with the first letter of its access modifier, and ends with the kind. -/
theorem exists_toList_record (h : ShownHeader) :
    ∃ middle, h.record.toList = 'p' :: (middle ++ h.kind.keyword.toList) := by
  refine ⟨"ublic\n".toList ++ (h.slot .static).toList ++ '\n' :: (h.slot .final).toList ++
    '\n' :: (h.slot .abstract).toList ++ ['\n'], ?_⟩
  simp [ShownHeader.record, Modifier.keyword]

/-- The element of the record. -/
theorem element_record {before behind : String} (hbefore : Text.isBlankText before = true)
    (hbehind : Text.isBlankText behind = true)
    (hother : h.modifiers.otherBits = 0#16) (hpublic : h.modifiers.has .publicAccess = true)
    (hslots : ∀ m, h.modifiers.has m = true → m ∈ [.publicAccess, .static, .final, .abstract])
    {l : Located} (hl : l.element.children = [.text (before ++ h.record ++ behind)])
    (s : Supertypes) :
    element ({}, s) l = .ok ({ modifiers := h.modifiers, kind := some h.kind }, s) := by
  obtain ⟨middle, hrecord⟩ := exists_toList_record h
  have hne : h.record ≠ "" := by
    intro hempty
    simp [hempty] at hrecord
  have hfirst : h.record.toList.head?.any Text.isBlank = false := by
    rw [hrecord]
    rfl
  have hlast : h.record.toList.getLast?.any Text.isBlank = false := by
    have hkind : h.kind.keyword.toList ≠ [] := by cases h.kind <;> decide
    rw [hrecord, ← List.cons_append, List.getLast?_append_of_ne_nil _ hkind]
    cases h.kind <;> decide
  have htrimmed := trimmed_padded hbefore hbehind hne hfirst hlast
  have hclause : clauseOfRun? h.record = none := by
    simp [clauseOfRun?, hrecord, Text.after?, Clause.keyword]
  simp [element, hl, htrimmed, hclause, hne, record_eq_ok hother hpublic hslots, bind, Except.bind,
    pure, Except.pure]

/-- **A clause element is read** behind whatever has been read. -/
theorem exists_element_clause {c : ShownClause} (label : String → List Node)
    (hc : c.Readable limit) {s : Supertypes} {types : Clause → List TypeName}
    (hs : s.Collected limit types) (clause : Clause) {l : Located}
    (hl : l.element.children = c.shown label clause []) (read : ClassHeader) :
    ∃ s', element (read, s) l = .ok (read, s') ∧
      s'.Collected limit fun other => types other ++ typesOf [(clause, c)] other := by
  have hchildren := hl.trans (c.shown_nil label clause)
  have hne : clause.keyword ≠ "" := by cases clause <;> decide
  have htrimmed : trimmed (c.before ++ clause.keyword ++ c.behind) = clause.keyword :=
    trimmed_padded hc.before hc.behind hne (by cases clause <;> decide)
      (by cases clause <;> decide)
  have hclause : clauseOfRun? clause.keyword = some clause := by cases clause <;> decide
  obtain ⟨begun, hgoto, hbegunClause, hbegun⟩ := hs.exists_goto clause
  obtain ⟨types', hrun, htypesClause, htypes⟩ :=
    hc.exists_run_types (w := walker) label hbegun hbegunClause
  obtain ⟨s', hcommit, -, hs'⟩ := htypes.exists_commit htypesClause
  refine ⟨s', ?_, hs'⟩
  have hfold : (TypeName.shownList label c.types []).foldlM clauseChild begun = .ok types' :=
    hrun []
  simp [element, hchildren, htrimmed, hclause, hne, hgoto, hfold, hcommit, bind, Except.bind,
    pure, Except.pure]

/-- Clause elements are read one after the other. -/
theorem exists_foldlM_clauses (label : String → List Node)
    {clauses : List (Clause × ShownClause)} (hclauses : ∀ c ∈ clauses, c.2.Readable limit)
    {ls : List Located}
    (hls : ls.map (·.element.children) = clauses.map fun c => c.2.shown label c.1 [])
    {s : Supertypes} {types : Clause → List TypeName} (hs : s.Collected limit types)
    (read : ClassHeader) :
    ∃ s', ls.foldlM element (read, s) = .ok (read, s') ∧
      s'.Collected limit fun other => types other ++ typesOf clauses other := by
  induction clauses generalizing ls s types with
  | nil =>
    obtain rfl := List.map_eq_nil_iff.mp hls
    exact ⟨s, rfl, by simpa [typesOf] using hs⟩
  | cons c clauses ih =>
    obtain ⟨hc, hclauses⟩ := List.forall_mem_cons.mp hclauses
    obtain ⟨l, ls', rfl, hl, hls'⟩ := List.map_eq_cons_iff.mp hls
    obtain ⟨next, helement, hnext⟩ := exists_element_clause label hc hs c.1 hl read
    obtain ⟨s', hrest, hs'⟩ := ih hclauses hls' hnext
    refine ⟨s', ?_, ?_⟩
    · rw [List.foldlM_cons, helement]
      exact hrest
    · simpa only [List.append_assoc, ← ShownClause.typesOf_cons] using hs'

/-- **The elements of a header are read** to what they show. -/
theorem foldlM_elements (label : String → List Node) (hh : h.Readable limit)
    (hpublic : h.modifiers.has .publicAccess = true)
    (hslots : ∀ m, h.modifiers.has m = true → m ∈ [.publicAccess, .static, .final, .abstract])
    {before behind : String} (hbefore : Text.isBlankText before = true)
    (hbehind : Text.isBlankText behind = true) {ls : List Located}
    (hls : ls.map (·.element.children) = h.androidElements label before behind) :
    (do let (read, s) ← ls.foldlM element ({}, Supertypes.start limit)
        s.finish read) = .ok h.header := by
  obtain ⟨l, ls', rfl, hl, hls'⟩ := List.map_eq_cons_iff.mp hls
  have hrecord := element_record hbefore hbehind hh.modifiers hpublic hslots hl
    (Supertypes.start limit)
  obtain ⟨s', hclauses, hs'⟩ := exists_foldlM_clauses label hh.clauses hls'
    (Supertypes.collected_start limit) { modifiers := h.modifiers, kind := some h.kind }
  have hcollected : s'.Collected limit (typesOf h.clauses) := by simpa using hs'
  simp only [List.foldlM_cons, hrecord, hclauses, bind, Except.bind]
  exact ShownHeader.finish_clauses hcollected rfl rfl rfl rfl

end Header.Android

/-! ## 4. Pages -/

/-- **A header is read as what it shows, in both layouts.**  In the Google layout the one header
block of the page shows it, behind a text with the keywords of the modifiers, in any order, and that
of the kind, and no keyword of a clause runs into the next one.  In the Android layout the header
elements show it, if the modifiers are those that the record has slots for. -/
theorem ClassHeader.ofPage_shown (label : String → List Node) {limit : Option Nat}
    {h : ShownHeader} (hh : h.Readable limit) (page : Element) :
    (∀ (found : Located) (keywords : String) (ms : List Modifier) (name : Element),
      (h.omitsEmpty = false → h.extended.ApartFrom h.implemented) →
      (Located.root page).select Header.Google.block = [found] →
      found.element.children = h.googleBlock label keywords name →
      (∀ m, m ∈ ms ↔ h.modifiers.has m = true) →
      Text.wordsOf keywords = ms.map Modifier.keyword ++ [h.kind.keyword] →
      ClassHeader.ofPage .google limit page = .ok h.header) ∧
    (∀ before behind : String,
      ((Located.root page).select Header.Android.signatures).map (·.element.children) =
        h.androidElements label before behind →
      Text.isBlankText before = true → Text.isBlankText behind = true →
      h.modifiers.has .publicAccess = true →
      (∀ m, h.modifiers.has m = true → m ∈ [.publicAccess, .static, .final, .abstract]) →
      ClassHeader.ofPage .android limit page = .ok h.header) := by
  constructor
  · intro found keywords ms name hapart hfound hchildren hms hkeywords
    have hblock := Header.Google.foldlM_block label hh hapart hms hkeywords name
    rw [← hchildren] at hblock
    have hsingle : (Located.root page).selectSingle Header.Google.block = .ok found := by
      rw [Located.selectSingle, hfound]
    rw [ClassHeader.ofPage, Header.Google.ofPage, hsingle]
    exact hblock
  · intro before behind helements hbefore hbehind hpublic hslots
    exact Header.Android.foldlM_elements label hh hpublic hslots hbefore hbehind helements

/-- A class that extends nothing but what goes without saying, and implements a type with nested
arguments twice: its types are parted by a blank, by a comma and by nothing, and the keywords stand
right in front of the first ones. -/
theorem ClassHeader.ofPage_shown_handler :
    let label (name : String) : List Node := [.text name]
    let map : TypeName := ⟨"java.util.Map", [⟨"K", []⟩, ⟨"java.util.List", [⟨"a.V_1", []⟩]⟩]⟩
    let h : ShownHeader := {
      modifiers := .ofList [.publicAccess, .abstract]
      kind := .classType
      extended := ⟨"\n", "", [(⟨"java.lang.Object", []⟩, "\n")]⟩
      implemented := ⟨"", "", [(map, " "), (⟨"a.Sink", []⟩, ", "), (map, "")]⟩
      omitsEmpty := false }
    let name : Element := ⟨"h1", [], [.text "Handler"]⟩
    let google : Element := ⟨"html", [], [.element "div" [("id", "jd-header")]
      (h.googleBlock label "public abstract class\n" name)]⟩
    let android : Element := ⟨"html", [], (h.androidElements label "\n" "\n").map
      (.element "code" [("class", "api-signature")])⟩
    h.Readable (some 2) ∧
      ClassHeader.ofPage .google (some 2) google = .ok h.header ∧
      ClassHeader.ofPage .android (some 2) android = .ok h.header ∧
      h.header.extended = [] ∧ h.header.implemented = [map, ⟨"a.Sink", []⟩, map] := by
  intro label map h name google android
  have hwithin {ts : List TypeName} (hts : ∀ t ∈ ts, t.depth ≤ 2) :
      Signature.Within (some 2) ts := by
    rintro t ht n ⟨⟩
    exact hts t ht
  have hh : h.Readable (some 2) := {
    modifiers := by decide
    extended := {
      before := by decide
      behind := by decide
      separators := by decide
      names := by decide
      within := hwithin (by decide) }
    implemented := {
      before := by decide
      behind := by decide
      separators := by decide
      names := by decide
      within := hwithin (by decide) } }
  have hapart : h.omitsEmpty = false → h.extended.ApartFrom h.implemented :=
    fun _ htypes => absurd htypes (List.cons_ne_nil _ _)
  have hms : ∀ m, m ∈ [.publicAccess, .abstract] ↔ h.modifiers.has m = true := by
    intro m
    cases m <;> decide
  have hslots : ∀ m, h.modifiers.has m = true →
      m ∈ [.publicAccess, .static, .final, .abstract] := by
    intro m
    cases m <;> decide
  have hgoogle := (ofPage_shown label hh google).1
    ⟨⟨"div", [("id", "jd-header")], h.googleBlock label "public abstract class\n" name⟩, [google]⟩
    "public abstract class\n" [.publicAccess, .abstract] name hapart rfl rfl hms (by decide +kernel)
  have hcode (children : List Node) (enclosing : List Element) : Header.Android.signatures.accepts
      ⟨⟨"code", [("class", "api-signature")], children⟩, enclosing⟩ = true := by
    have hclasses : Element.classes ⟨"code", [("class", "api-signature")], children⟩ =
        ["api-signature"] := by
      dsimp only [Element.classes, Element.attribute?]
      decide +kernel
    simp [Header.Android.signatures, Selector.accepts, Compound.accepts, Selector.holdsAround,
      hclasses]
  have hanchor (attributes : List (String × String)) (children : List Node)
      (enclosing : List Element) :
      Header.Android.signatures.accepts ⟨⟨"a", attributes, children⟩, enclosing⟩ = false := rfl
  have helements : ((Located.root android).select Header.Android.signatures).map
      (·.element.children) = h.androidElements label "\n" "\n" := by
    simp [Located.select, Located.descendants, Located.root, android, Node.elementsOf,
      Node.elements, hcode, hanchor, h, label, map, ShownHeader.androidElements,
      ShownHeader.clauses, ShownClause.shown, Clause.keyword, TypeName.shownList, TypeName.shown,
      TypeName.shownArguments, TypeName.shownOthers, Node.withText, Node.anchor]
  have handroid := (ofPage_shown label hh android).2 "\n" "\n" helements (by decide) (by decide)
    (by decide) hslots
  exact ⟨hh, hgoogle, handroid, by decide, by decide⟩

end ApiPages
