/-
# Links to classes, and the names that they spell

A link to a class spells its qualified name in segments, and leaves much to whoever writes it: dots
or slashes between the segments, the site in front, query and fragment behind.  However it is
written, it is resolved to the segments with dots between them (`resolve_link`).

There are links of many other forms.  Whatever a link is, though, the name that it is resolved to
has none but word characters and dots (`isNameText_of_resolve`), so that it is a single word of a
signature (`lexemes_of_resolve`).
-/
import ApiPages.Proofs.Link.Plain
import ApiPages.Proofs.Text.Lexeme
import ApiPages.Signature.Token

namespace ApiPages.Link

open Text

/-! ## 1. Links to classes -/

/-- An identifier in ASCII. -/
def IsIdentifier (s : String) : Prop := s ≠ "" ∧ s.toList.all isIdentifierChar = true

instance (s : String) : Decidable (IsIdentifier s) := inferInstanceAs (Decidable (_ ∧ _))

/-- What a link has between two segments of a name. -/
inductive Joint where
  | slash
  | dot
  deriving Repr, DecidableEq

/-- The character of a joint. -/
def Joint.char : Joint → Char
  | slash => '/'
  | dot => '.'

/-- **A link to a class**: how it spells the name, and what it has around it. -/
structure Spelling where
  isAbsolute : Bool
  isAndroid : Bool
  first : String
  /-- The segments behind the first one, each with the joint in front of it. -/
  others : List (Joint × String)
  query : Option String
  fragment : Option String
  identifiers : ∀ s ∈ first :: others.map Prod.snd, IsIdentifier s

namespace Spelling

/-- The segments with their joints. -/
def path (l : Spelling) : String :=
  l.first ++ String.join (l.others.map fun (joint, s) => String.singleton joint.char ++ s)

/-- The query and the fragment. -/
def tail (l : Spelling) : String :=
  (l.query.map ("?" ++ ·)).getD "" ++ (l.fragment.map ("#" ++ ·)).getD ""

/-- **The link as it is written.** -/
def link (l : Spelling) : String :=
  (if l.isAbsolute then "https://developer.android.com" else "") ++
    (if l.isAndroid then "/android/reference/" else "/reference/") ++
    l.path ++ ".html" ++ l.tail

/-- **The name that the link spells.** -/
def name (l : Spelling) : String := ".".intercalate (l.first :: l.others.map Prod.snd)

end Spelling

/-! ## 2. The name that is spelt -/

theorem IsIdentifier.isPlainSegment {s : String} (h : IsIdentifier s) :
    IsPlainSegment s.toList :=
  isPlainSegment_of_identifier (fun hempty => h.1 (String.toList_eq_nil_iff.mp hempty)) h.2

/-- The characters of a first segment and of those behind it, with their joints. -/
def withJoints (first : List Char) (others : List (Joint × String)) : List Char :=
  first ++ others.flatMap fun (joint, s) => joint.char :: s.toList

section

variable {first : List Char} {joint : Joint} {s : String} {others : List (Joint × String)}

theorem withJoints_nil : withJoints first [] = first := by simp [withJoints]

theorem withJoints_cons : withJoints first ((joint, s) :: others) =
    first ++ joint.char :: withJoints s.toList others := by simp [withJoints]

/-- Between the slashes stand plain segments, of identifiers with dots between them. -/
theorem isPlainSegment_of_mem_cut (hfirst : IsPlainSegment first)
    (hothers : ∀ o ∈ others, IsIdentifier o.2) :
    ∀ s ∈ cut (· == '/') (withJoints first others), IsPlainSegment s := by
  -- Behind a dot the piece that has been begun goes on, so the induction is over any plain segment
  -- in front and not over an identifier.
  induction others generalizing first with
  | nil =>
    rw [withJoints_nil, cut_of_forall fun c hc =>
      beq_false_of_ne (isPlainChar_of_segment hfirst c hc).2]
    simpa using hfirst
  | cons o others ih =>
    obtain ⟨joint, t⟩ := o
    have ht : IsIdentifier t := hothers (joint, t) List.mem_cons_self
    have hrest : ∀ o ∈ others, IsIdentifier o.2 := fun o ho => hothers o (List.mem_cons_of_mem _ ho)
    rw [withJoints_cons]
    cases joint with
    | slash =>
      rw [Joint.char, cut_append_separator (by decide), cut_of_forall fun c hc =>
        beq_false_of_ne (isPlainChar_of_segment hfirst c hc).2]
      exact List.forall_mem_cons.mpr ⟨hfirst, ih ht.isPlainSegment hrest⟩
    | dot =>
      have hlonger : IsPlainSegment (first ++ '.' :: t.toList) :=
        hfirst.append (List.all_cons ▸ ht.isPlainSegment.chars)
      have hpieces := ih hlonger hrest
      rwa [withJoints, List.append_assoc, List.cons_append] at hpieces

/-- With dots for slashes, dots are all the joints. -/
theorem map_withJoints (hfirst : ∀ c ∈ first, c ≠ '/') (hothers : ∀ o ∈ others, IsIdentifier o.2) :
    (withJoints first others).map (fun c => if c = '/' then '.' else c) =
      ['.'].intercalate (first :: others.map fun o => o.2.toList) := by
  induction others generalizing first with
  | nil => simp [withJoints_nil, map_replaced_eq_self hfirst]
  | cons o others ih =>
    obtain ⟨joint, t⟩ := o
    have ht : IsIdentifier t := hothers (joint, t) List.mem_cons_self
    have hchar : (if joint.char = '/' then '.' else joint.char) = '.' := by cases joint <;> rfl
    have ih := ih (fun c hc => (isPlainChar_of_segment ht.isPlainSegment c hc).2)
      fun o ho => hothers o (List.mem_cons_of_mem _ ho)
    rw [withJoints_cons, List.map_append, List.map_cons, map_replaced_eq_self hfirst, hchar, ih,
      List.map_cons, List.intercalate_cons_cons, List.append_assoc, List.singleton_append]

end

namespace Spelling

theorem isTail_tail (l : Spelling) : IsTail l.tail.toList := by
  obtain ⟨-, -, -, -, query, fragment, -⟩ := l
  cases query with
  | some query => simp [IsTail, tail]
  | none => cases fragment <;> simp [IsTail, tail]

theorem toList_path (l : Spelling) : l.path.toList = withJoints l.first.toList l.others := by
  simp [path, withJoints, String.toList_join, List.flatMap_map]

theorem toList_link (l : Spelling) : l.link.toList = origin l.isAbsolute ++
    (tree l.isAndroid ++ withJoints l.first.toList l.others ++ ".html".toList) ++
      l.tail.toList := by
  have horigin : (if l.isAbsolute then "https://developer.android.com" else "").toList =
      origin l.isAbsolute := by
    cases l.isAbsolute <;> rfl
  have htree : (if l.isAndroid then "/android/reference/" else "/reference/").toList =
      tree l.isAndroid := by
    cases l.isAndroid <;> rfl
  simp only [link, String.toList_append, horigin, htree, toList_path, List.append_assoc]

end Spelling

/-- **The link to a class is resolved to the name that it spells.** -/
theorem resolve_link (l : Spelling) : resolve l.link = .ok l.name := by
  have hfirst : IsIdentifier l.first := l.identifiers l.first List.mem_cons_self
  have hothers : ∀ o ∈ l.others, IsIdentifier o.2 := fun o ho =>
    l.identifiers o.2 (List.mem_cons_of_mem _ (List.mem_map_of_mem ho))
  have hsegments := isPlainSegment_of_mem_cut hfirst.isPlainSegment hothers
  have hresolve := resolve_of_plain l.isAbsolute l.isAndroid (cut_ne_nil _ _) hsegments
    l.isTail_tail
  have hname : withReplaced '/' '.' (String.ofList (withJoints l.first.toList l.others)) =
      l.name := by
    rw [withReplaced, String.toList_ofList, map_withJoints
      (fun c hc => (isPlainChar_of_segment hfirst.isPlainSegment c hc).2) hothers,
      ← String.toList_inj, String.toList_ofList, Spelling.name, String.toList_intercalate]
    simp [Function.comp_def]
  rw [intercalate_cut, ← l.toList_link, String.ofList_toList, hname] at hresolve
  exact hresolve

/-! ## 3. Names of any links -/

/-- A name as a signature can have it: some word characters and dots. -/
structure IsNameText (name : String) : Prop where
  nonempty : name ≠ ""
  chars : ∀ c ∈ name.toList, c = '.' ∨ isWord c = true

theorem inIntervals_of_apart {intervals others : List (Nat × Nat)} {n : Nat}
    (hapart : ∀ i ∈ intervals, ∀ j ∈ others, i.2 < j.1 ∨ j.2 < i.1)
    (hn : inIntervals others n = true) : inIntervals intervals n = false := by
  obtain ⟨j, hj, hmem⟩ := List.any_eq_true.mp hn
  refine List.any_eq_false.mpr fun i hi => ?_
  have hapart := hapart i hi j hj
  simp only [Bool.and_eq_true, decide_eq_true_eq] at hmem ⊢
  omega

/-- A word character is no blank. -/
theorem isBlank_of_isWord {c : Char} (h : isWord c = true) : isBlank c = false := by
  have hascii : ∀ n : Fin 128, isBlank (Char.ofNat n) = true → n.1 ≤ 32 := by decide
  have htables : ∀ i ∈ blankIntervals, ∀ j ∈ wordIntervals, i.2 < j.1 ∨ j.2 < i.1 := by
    decide +kernel
  have hplain (hc : 32 < c.toNat ∧ c.toNat < 128) : isBlank c = false := by
    have hcode := hascii ⟨c.toNat, hc.2⟩
    simp only [Char.ofNat_toNat] at hcode
    exact Bool.eq_false_iff.mpr fun hblank => absurd (hcode hblank) (by omega)
  simp only [isWord, Bool.or_eq_true, Bool.and_eq_true, beq_iff_eq] at h
  rcases h with (halphanum | rfl) | hword
  · exact hplain (code_of_isAlphanum halphanum)
  · exact hplain (by decide)
  · exact inIntervals_of_apart htables hword.2

/-- A word character or a dot is none of the characters that mean something to a signature. -/
theorem ne_of_isWord {c d : Char} (h : c = '.' ∨ isWord c = true)
    (hd : d ≠ '.' ∧ isWord d = false) : c ≠ d := by
  rintro rfl
  simp [hd] at h

theorem ofChar?_of_isWord {c : Char} (h : c = '.' ∨ isWord c = true) :
    Signature.Mark.ofChar? c = none := by
  have hne (m : Signature.Mark) : c ≠ m.char := ne_of_isWord h (by cases m <;> decide)
  unfold Signature.Mark.ofChar?
  split
  · exact absurd rfl (hne .atSign)
  · exact absurd rfl (hne .openList)
  · exact absurd rfl (hne .closeList)
  · exact absurd rfl (hne .openParameters)
  · exact absurd rfl (hne .comma)
  · exact absurd rfl (hne .closeParameters)
  · rfl

theorem isBlank_of_name {c : Char} (h : c = '.' ∨ isWord c = true) : isBlank c = false := by
  rcases h with rfl | h
  · decide
  · exact isBlank_of_isWord h

/-- What a resolved link has gone through. -/
theorem exists_of_resolve {link name : String} (h : resolve link = .ok name) :
    ∃ path part, path? link = some path ∧
      namePart? (withoutEnding ".html" path).toList = some part ∧
      name = withReplaced '/' '.' (String.ofList part) := by
  rw [resolve] at h
  cases hpath : path? link with
  | none => simp [hpath] at h
  | some path =>
    cases hpart : namePart? (withoutEnding ".html" path).toList with
    | none => simp [hpath, nameOfPath?, hpart] at h
    | some part =>
      refine ⟨path, part, rfl, hpart, ?_⟩
      simpa [hpath, nameOfPath?, hpart, eq_comm] using h

theorem namePart?_eq_some_iff {path part : List Char} : namePart? path = some part ↔
    after? "/reference/".toList ((after? "/android".toList path).getD path) = some part ∧
      part ≠ [] ∧ ∀ c ∈ part, isNameChar c = true := by
  rw [namePart?]
  cases after? "/reference/".toList ((after? "/android".toList path).getD path) with
  | none => simp
  | some name =>
    simp only [Option.ite_none_right_eq_some, Bool.and_eq_true, Bool.not_eq_true',
      List.isEmpty_eq_false_iff, List.all_eq_true, Option.some.injEq]
    constructor
    · rintro ⟨hname, rfl⟩
      exact ⟨rfl, hname⟩
    · rintro ⟨rfl, hname⟩
      exact ⟨hname, rfl⟩

/-- **What any link is resolved to is the text of a name.** -/
theorem isNameText_of_resolve {link name : String} (h : resolve link = .ok name) :
    IsNameText name := by
  obtain ⟨path, part, -, hpart, rfl⟩ := exists_of_resolve h
  obtain ⟨-, hne, hchars⟩ := namePart?_eq_some_iff.mp hpart
  constructor
  · simpa [withReplaced, ← String.toList_inj] using hne
  · intro c hc
    rw [withReplaced, String.toList_ofList, String.toList_ofList] at hc
    obtain ⟨d, hd, rfl⟩ := List.mem_map.mp hc
    have hd := hchars d hd
    simp only [isNameChar, Bool.or_eq_true, beq_iff_eq] at hd
    split
    · exact Or.inl rfl
    · rename_i hslash
      simpa [hslash, or_comm] using hd

/-- **A name is a single word of a signature.** -/
theorem IsNameText.lexemes_eq {name : String} (h : IsNameText name) :
    lexemes Signature.Mark.ofChar? name = [.word name] := by
  have hword : IsPlainWord Signature.Mark.ofChar? name.toList :=
    ⟨by simpa using h.nonempty,
      fun c hc => ⟨ofChar?_of_isWord (h.chars c hc), isBlank_of_name (h.chars c hc)⟩⟩
  have hlexes := lexemes_of_lexes (Lexes.word hword)
  rwa [String.ofList_toList] at hlexes

/-- **Reference links are resolved to the names they spell**, and any link that is resolved at all
to a name that a signature can have. -/
theorem resolved_names :
    (∀ l : Spelling, resolve l.link = .ok l.name) ∧
    ∀ link name : String, resolve link = .ok name →
      name ≠ "" ∧ (∀ c ∈ name.toList, c = '.' ∨ isWord c = true) ∧
      (∀ c ∈ name.toList, isBlank c = false ∧ c ∉ "/@<>(,)".toList) ∧
      lexemes Signature.Mark.ofChar? name = [.word name] := by
  refine ⟨resolve_link, fun link name h => ?_⟩
  have hname := isNameText_of_resolve h
  refine ⟨hname.nonempty, hname.chars, fun c hc => ?_, hname.lexemes_eq⟩
  have hmeaning : ∀ d ∈ "/@<>(,)".toList, d ≠ '.' ∧ isWord d = false :=
    forall_mem_of_all (by decide)
  exact ⟨isBlank_of_name (hname.chars c hc),
    fun hd => ne_of_isWord (hname.chars c hc) (hmeaning c hd) rfl⟩

/-- A link with everything that a link to a class may have. -/
def entryLink : Spelling where
  isAbsolute := true
  isAndroid := true
  first := "java"
  others := [(.slash, "util"), (.slash, "Map"), (.dot, "Entry")]
  query := some "hl"
  fragment := some "e"
  identifiers := by decide

theorem resolved_names_of_entry :
    resolve "https://developer.android.com/android/reference/java/util/Map.Entry.html?hl#e" =
      .ok "java.util.Map.Entry" ∧
    lexemes Signature.Mark.ofChar? "java.util.Map.Entry" = [.word "java.util.Map.Entry"] := by
  have hlink : entryLink.link =
      "https://developer.android.com/android/reference/java/util/Map.Entry.html?hl#e" := by
    decide
  have hname : entryLink.name = "java.util.Map.Entry" := by decide
  have hresolve := resolved_names.1 entryLink
  rw [hlink, hname] at hresolve
  exact ⟨hresolve, (resolved_names.2 _ _ hresolve).2.2.2⟩

end ApiPages.Link
