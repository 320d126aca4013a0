/-
# Links that are read as they are written

A path whose segments are made of identifiers and dots, and start with an identifier, is a path of
the site that has nothing to clean, to decode or to resolve (`isSitePath_of_plain`).  So the link to
a class, made of its qualified name, is resolved to that name (`resolve_reference`).
-/
import ApiPages.Link.Reference
import ApiPages.Proofs.Link.SitePath

namespace ApiPages.Link

open Text

/-! ## 1. Plain paths -/

/-- A character of an identifier: an ASCII letter, a digit or an underscore. -/
def isIdentifierChar (c : Char) : Bool := c.isAlphanum || c == '_'

/-- A character of identifiers with dots between them. -/
def isSegmentChar (c : Char) : Bool := isIdentifierChar c || c == '.'

/-- A character that means nothing to the reading of a link, but that slashes part segments. -/
def isPlainChar (c : Char) : Bool := isSegmentChar c || c == '/'

/-- A segment of identifiers and dots that starts with an identifier. -/
structure IsPlainSegment (s : List Char) : Prop where
  start : s.head?.any isIdentifierChar = true
  chars : s.all isSegmentChar = true

/-- An identifier is a plain segment. -/
theorem isPlainSegment_of_identifier {s : List Char} (hne : s ≠ [])
    (h : s.all isIdentifierChar = true) : IsPlainSegment s := by
  have hchars := List.all_eq_true.mp h
  refine ⟨?_, List.all_eq_true.mpr fun c hc => by simp [isSegmentChar, hchars c hc]⟩
  cases s with
  | nil => exact absurd rfl hne
  | cons c s => simpa using hchars c List.mem_cons_self

/-- Letters and digits are three ranges of characters. -/
theorem code_of_isAlphanum {c : Char} (h : c.isAlphanum = true) :
    32 < c.toNat ∧ c.toNat < 128 := by
  have hranges : (decide ('A'.val ≤ c.val ∧ c.val ≤ 'Z'.val) ||
      ('a'.val ≤ c.val && c.val ≤ 'z'.val) || ('0'.val ≤ c.val && c.val ≤ '9'.val)) = true := h
  simp only [Bool.or_eq_true, Bool.and_eq_true, decide_eq_true_eq] at hranges
  rcases hranges with (⟨hl, hu⟩ | ⟨hl, hu⟩) | ⟨hl, hu⟩
  · exact ⟨Nat.lt_of_lt_of_le (by decide) hl, Nat.lt_of_le_of_lt hu (by decide)⟩
  · exact ⟨Nat.lt_of_lt_of_le (by decide) hl, Nat.lt_of_le_of_lt hu (by decide)⟩
  · exact ⟨Nat.lt_of_lt_of_le (by decide) hl, Nat.lt_of_le_of_lt hu (by decide)⟩

theorem code_of_isPlainChar {c : Char} (h : isPlainChar c = true) :
    32 < c.toNat ∧ c.toNat < 128 := by
  simp only [isPlainChar, isSegmentChar, isIdentifierChar, Bool.or_eq_true, beq_iff_eq] at h
  rcases h with ((h | rfl) | rfl) | rfl
  · exact code_of_isAlphanum h
  · decide
  · decide
  · decide

/-- Any other character differs from those of a plain text. -/
theorem ne_of_isPlainChar {c d : Char} (h : isPlainChar c = true) (hd : isPlainChar d = false) :
    c ≠ d := by
  rintro rfl
  rw [h] at hd
  cases hd

section Paths

variable {segments : List (List Char)}

/-- A segment that starts with an identifier is no dot segment. -/
theorem not_dot_of_plain {s : List Char} (h : IsPlainSegment s) :
    isSingleDot s = false ∧ isDoubleDot s = false := by
  have hlower : ∀ n : Fin 128, isIdentifierChar (Char.ofNat n) = true →
      (Char.ofNat n).toLower ≠ '.' ∧ (Char.ofNat n).toLower ≠ '%' := by decide
  cases s with
  | nil => cases h.start
  | cons c s =>
    have hc : isIdentifierChar c = true := by simpa using h.start
    have hplain : isPlainChar c = true := by simp [isPlainChar, isSegmentChar, hc]
    have hne : c ≠ '.' := by
      rintro rfl
      cases hc
    have hpercent := ne_of_isPlainChar hplain (d := '%') (by decide)
    obtain ⟨hdot, hpercent'⟩ := hlower ⟨c.toNat, (code_of_isPlainChar hplain).2⟩ (by simpa using hc)
    simp only [Char.ofNat_toNat] at hdot hpercent'
    simp [isSingleDot, isDoubleDot, hne, hpercent, hdot, hpercent']

theorem isPlainChar_of_segment {s : List Char} (h : IsPlainSegment s) :
    ∀ c ∈ s, isPlainChar c = true ∧ c ≠ '/' := by
  intro c hc
  have hc := List.all_eq_true.mp h.chars c hc
  refine ⟨by simp [isPlainChar, hc], ?_⟩
  rintro rfl
  cases hc

theorem isPlainChar_of_segments (h : ∀ s ∈ segments, IsPlainSegment s) :
    ∀ c ∈ ['/'].intercalate segments, isPlainChar c = true := by
  intro c hc
  rcases mem_of_mem_intercalate hc with rfl | ⟨s, hs, hc⟩
  · decide
  · exact (isPlainChar_of_segment (h s hs) c hc).1

theorem isPlainChar_of_path (h : ∀ s ∈ segments, IsPlainSegment s) :
    ∀ c ∈ '/' :: ['/'].intercalate segments, isPlainChar c = true :=
  List.forall_mem_cons.mpr ⟨by decide, isPlainChar_of_segments h⟩

theorem head_of_segments (hne : segments ≠ []) (h : ∀ s ∈ segments, IsPlainSegment s) :
    ∃ c cs, ['/'].intercalate segments = c :: cs ∧ isPlainChar c = true ∧ c ≠ '/' := by
  cases segments with
  | nil => exact absurd rfl hne
  | cons s rest =>
    have hs := h s List.mem_cons_self
    cases s with
    | nil => cases hs.start
    | cons c s =>
      have hc := isPlainChar_of_segment hs c List.mem_cons_self
      cases rest with
      | nil => exact ⟨c, s, by simp, hc⟩
      | cons t rest =>
        exact ⟨c, s ++ ('/' :: ['/'].intercalate (t :: rest)),
          by simp [List.intercalate_cons_cons], hc⟩

/-- **A plain path is a path of the site.** -/
theorem isSitePath_of_plain (hne : segments ≠ []) (h : ∀ s ∈ segments, IsPlainSegment s) :
    IsSitePath ('/' :: ['/'].intercalate segments) where
  start := by
    obtain ⟨c, cs, hcs, hplain, hc⟩ := head_of_segments hne h
    have hslash : PathStyle.common.isSlash c = false := by
      simp [PathStyle.isSlash, ne_of_isPlainChar hplain (d := '\\') (by decide), hc]
    rw [hcs, List.takeWhile_cons_of_pos (by decide), List.takeWhile_cons_of_neg (by simp [hslash])]
  finish := fun c hc => decide_eq_false (Nat.not_le.mpr
    (code_of_isPlainChar (isPlainChar_of_path h c (List.mem_of_getLast? hc))).1)
  chars := by
    intro c hc
    have hne {d : Char} (hd : isPlainChar d = false) := ne_of_isPlainChar
      (isPlainChar_of_path h c hc) hd
    simp [hne (d := '?') (by decide), hne (d := '#') (by decide), hne (d := '\\') (by decide),
      hne (d := '\t') (by decide), hne (d := '\n') (by decide), hne (d := '\r') (by decide)]
  segments := by
    have hslash : ∀ s ∈ segments, ∀ c ∈ s, (c == '/') = false := fun s hs c hc =>
      beq_false_of_ne (isPlainChar_of_segment (h s hs) c hc).2
    have hcut : cut (· == '/') ('/' :: ['/'].intercalate segments) = [] :: segments :=
      congrArg ([] :: ·) (cut_intercalate (by decide) hne hslash)
    rw [hcut]
    exact List.forall_mem_cons.mpr ⟨by decide, fun s hs => not_dot_of_plain (h s hs)⟩

end Paths

/-! ## 2. Links to classes -/

/-- A segment with a known ending is plain if both are. -/
theorem IsPlainSegment.append {s ending : List Char} (h : IsPlainSegment s)
    (hending : ending.all isSegmentChar = true) : IsPlainSegment (s ++ ending) where
  start := by
    have hstart := h.start
    cases s with
    | nil => cases hstart
    | cons c s => exact hstart
  chars := by rw [List.all_append, h.chars, hending, Bool.and_self]

/-- The segments of a path with a known ending. -/
theorem exists_segments_append {segments : List (List Char)} (hne : segments ≠ [])
    (h : ∀ s ∈ segments, IsPlainSegment s) (ending : List Char)
    (hending : ending.all isSegmentChar = true) :
    ∃ ended, ended ≠ [] ∧ (∀ s ∈ ended, IsPlainSegment s) ∧
      ['/'].intercalate ended = ['/'].intercalate segments ++ ending := by
  induction segments with
  | nil => exact absurd rfl hne
  | cons s rest ih =>
    have hs := h s List.mem_cons_self
    cases rest with
    | nil => exact ⟨[s ++ ending], by simp, by simpa using hs.append hending, by simp⟩
    | cons t rest =>
      obtain ⟨ended, hne, hended, heq⟩ := ih (by simp) fun u hu => h u (List.mem_cons_of_mem s hu)
      refine ⟨s :: ended, by simp, by simpa [hs] using hended, ?_⟩
      rw [List.intercalate_cons_of_ne_nil hne, heq, List.intercalate_cons_cons]
      simp

/-- The beginning of a path into the reference tree. -/
def tree (isAndroid : Bool) : List Char :=
  (if isAndroid then "/android".toList else []) ++ "/reference/".toList

theorem exists_segments_tree (isAndroid : Bool) {segments : List (List Char)}
    (hne : segments ≠ []) : ∃ outer : List (List Char), (∀ s ∈ outer, IsPlainSegment s) ∧
      tree isAndroid ++ ['/'].intercalate segments =
        '/' :: ['/'].intercalate (outer ++ segments) := by
  have hreference : IsPlainSegment "reference".toList := ⟨by decide, by decide⟩
  have hinner : ['/'].intercalate ("reference".toList :: segments) =
      "reference".toList ++ '/' :: ['/'].intercalate segments := by
    rw [List.intercalate_cons_of_ne_nil hne, List.append_assoc, List.singleton_append]
  cases isAndroid with
  | true =>
    have houter : ['/'].intercalate ("android".toList :: "reference".toList :: segments) =
        "android".toList ++ '/' :: ['/'].intercalate ("reference".toList :: segments) := by
      rw [List.intercalate_cons_cons, List.append_assoc, List.singleton_append]
    refine ⟨["android".toList, "reference".toList], ?_, ?_⟩
    · exact List.forall_mem_cons.mpr ⟨⟨by decide, by decide⟩, by simpa using hreference⟩
    · rw [List.cons_append, List.cons_append, List.nil_append, houter, hinner]
      rfl
  | false =>
    refine ⟨["reference".toList], by simpa using hreference, ?_⟩
    rw [List.cons_append, List.nil_append, hinner]
    rfl

theorem namePart?_tree (isAndroid : Bool) {name : List Char} (hne : name ≠ [])
    (hname : ∀ c ∈ name, isNameChar c = true) : namePart? (tree isAndroid ++ name) = some name := by
  have hsite : (after? "/android".toList (tree isAndroid ++ name)).getD (tree isAndroid ++ name) =
      "/reference/".toList ++ name := by
    cases isAndroid with
    | true =>
      have hafter : after? "/android".toList (tree true ++ name) =
          some ("/reference/".toList ++ name) := after?_eq_some_iff.mpr (List.append_assoc _ _ _)
      rw [hafter, Option.getD_some]
    | false =>
      have hafter : after? "/android".toList ("/reference/".toList ++ name) = none := by
        simp [after?]
      rw [tree, if_neg (by decide), List.nil_append, hafter, Option.getD_none]
  have htree : after? "/reference/".toList ("/reference/".toList ++ name) = some name :=
    after?_eq_some_iff.mpr rfl
  rw [namePart?, hsite, htree]
  simpa [hne] using hname

theorem namePart?_of_plain (isAndroid : Bool) {segments : List (List Char)} (hne : segments ≠ [])
    (h : ∀ s ∈ segments, IsPlainSegment s) :
    namePart? (tree isAndroid ++ ['/'].intercalate segments) =
      some (['/'].intercalate segments) := by
  refine namePart?_tree isAndroid ?_ fun c hc => ?_
  · obtain ⟨c, cs, hcs, -⟩ := head_of_segments hne h
    simp [hcs]
  · have hplain := isPlainChar_of_segments h c hc
    simp only [isPlainChar, isSegmentChar, isIdentifierChar, Bool.or_eq_true, beq_iff_eq] at hplain
    rcases hplain with ((halphanum | rfl) | rfl) | rfl
    · simp [isNameChar, isWord_of_isAlphanum halphanum]
    · decide
    · decide
    · decide

/-- **The link to a page of the reference tree is resolved to the name that its segments spell**,
with or without the host, and whatever query or fragment follows. -/
theorem resolve_of_plain (isAbsolute isAndroid : Bool) {segments : List (List Char)}
    {tail : List Char} (hne : segments ≠ []) (h : ∀ s ∈ segments, IsPlainSegment s)
    (htail : IsTail tail) :
    resolve (String.ofList (origin isAbsolute ++
        (tree isAndroid ++ ['/'].intercalate segments ++ ".html".toList) ++ tail)) =
      .ok (withReplaced '/' '.' (String.ofList (['/'].intercalate segments))) := by
  obtain ⟨ended, hended, hplain, heq⟩ := exists_segments_append hne h ".html".toList
    (by decide)
  obtain ⟨outer, houter, htree⟩ := exists_segments_tree isAndroid hended
  rw [heq, ← List.append_assoc] at htree
  have hall : ∀ s ∈ outer ++ ended, IsPlainSegment s := fun s hs =>
    (List.mem_append.mp hs).elim (houter s) (hplain s)
  have hpath := path?_origin isAbsolute (isSitePath_of_plain (by simp [hended]) hall)
    (fun c hc => ⟨(code_of_isPlainChar (isPlainChar_of_path hall c hc)).2,
      ne_of_isPlainChar (isPlainChar_of_path hall c hc) (by decide)⟩) htail
  rw [← htree] at hpath
  rw [resolve, hpath, Option.bind_some, nameOfPath?, String.ofList_append, String.ofList_toList,
    withoutEnding_append, String.toList_ofList, namePart?_of_plain isAndroid hne h]
  rfl

/-- **A qualified name of ASCII identifiers**: letters, digits and underscores, with dots between
them. -/
def IsPlainName (name : String) : Prop :=
  ∀ s ∈ cut (· == '.') name.toList, s ≠ [] ∧ s.all isIdentifierChar = true

instance (name : String) : Decidable (IsPlainName name) :=
  inferInstanceAs (Decidable (∀ s ∈ cut (· == '.') name.toList, _))

/-- The link from one page of the site to that of a class. -/
def reference (name : String) : String := "/reference/" ++ withReplaced '.' '/' name ++ ".html"

/-- **The link to a class is resolved to its name.** -/
theorem resolve_reference {name : String} (h : IsPlainName name) :
    resolve (reference name) = .ok name := by
  have hplain : ∀ s ∈ cut (· == '.') name.toList, IsPlainSegment s := fun s hs =>
    isPlainSegment_of_identifier (h s hs).1 (h s hs).2
  have hslash : ∀ c ∈ name.toList, c ≠ '/' := by
    intro c hc
    rw [← intercalate_cut '.' name.toList] at hc
    rcases mem_of_mem_intercalate hc with rfl | ⟨s, hs, hc⟩
    · decide
    · exact (isPlainChar_of_segment (hplain s hs) c hc).2
  have hpieces := intercalate_cut '/' (withReplaced '.' '/' name).toList
  rw [withReplaced, String.toList_ofList, cut_replaced hslash] at hpieces
  have hresolve := resolve_of_plain false false (cut_ne_nil _ _) hplain IsTail.nil
  have hpath : String.ofList (['/'].intercalate (cut (· == '.') name.toList)) =
      withReplaced '.' '/' name := by
    rw [hpieces, withReplaced]
  have hlink : String.ofList (origin false ++ (tree false ++
        ['/'].intercalate (cut (· == '.') name.toList) ++ ".html".toList) ++ []) =
      reference name := by
    rw [List.append_nil, origin, if_neg (by decide), List.nil_append, tree, if_neg (by decide),
      List.nil_append, String.ofList_append, String.ofList_append, String.ofList_toList,
      String.ofList_toList, hpath, reference]
  rw [hlink, hpath, withReplaced_withReplaced hslash] at hresolve
  exact hresolve

end ApiPages.Link
