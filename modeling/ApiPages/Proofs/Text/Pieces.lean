/-
# Texts put together from pieces

Pieces with separators between them are found again when the text is cut at the separators, as long
as none of them holds one (`cut_intercalate`); and what is put in front of a text or behind it is
taken off again (`withoutEnding_append`, `trim_padded`).  To leave out a part everywhere is to take
it off the end if it occurs nowhere else (`withoutPart_eq_withoutEnding`).
-/
import ApiPages.Proofs.Declaration.QualifiedName
import ApiPages.Text.Blank

namespace ApiPages.Text

variable {p : Char → Bool} {cs ds : List Char} {old new : Char}

/-- A fact about each character of a given text is checked along the text. -/
theorem forall_mem_of_all {q : Char → Prop} [DecidablePred q]
    (h : cs.all (fun c => decide (q c)) = true) : ∀ c ∈ cs, q c :=
  fun c hc => of_decide_eq_true (List.all_eq_true.mp h c hc)

/-! ## 1. Cutting -/

theorem cut_of_forall (h : ∀ c ∈ cs, p c = false) : cut p cs = [cs] := by
  induction cs with
  | nil => rfl
  | cons c cs ih =>
    simp [cut, h c List.mem_cons_self, ih fun d hd => h d (List.mem_cons_of_mem c hd)]

theorem cut_append_separator {c : Char} (hc : p c = true) :
    cut p (cs ++ c :: ds) = cut p cs ++ cut p ds := by
  induction cs with
  | nil => simp [cut, hc]
  | cons d cs ih =>
    simp only [List.cons_append, cut, ih]
    cases hcut : cut p cs with
    | nil => exact absurd hcut (cut_ne_nil p cs)
    | cons piece pieces => split <;> simp

/-- **Pieces with separators between them are the pieces of the whole.** -/
theorem cut_intercalate {separator : Char} (hp : p separator = true) {pieces : List (List Char)}
    (hne : pieces ≠ []) (h : ∀ s ∈ pieces, ∀ c ∈ s, p c = false) :
    cut p ([separator].intercalate pieces) = pieces := by
  induction pieces with
  | nil => exact absurd rfl hne
  | cons s rest ih =>
    have hs := cut_of_forall (h s List.mem_cons_self)
    cases rest with
    | nil => simpa using hs
    | cons t rest =>
      have ih := ih (by simp) fun u hu => h u (List.mem_cons_of_mem s hu)
      rw [List.intercalate_cons_cons, List.append_assoc, List.singleton_append,
        cut_append_separator hp, hs, ih]
      rfl

theorem piecesOf_intercalate {separator : Char} {pieces : List String} (hne : pieces ≠ [])
    (h : ∀ s ∈ pieces, separator ∉ s.toList) :
    piecesOf separator ((String.singleton separator).intercalate pieces) = pieces := by
  have hpieces : ∀ s ∈ pieces.map String.toList, ∀ c ∈ s, (c == separator) = false := by
    intro s hs c hc
    obtain ⟨t, ht, rfl⟩ := List.mem_map.mp hs
    exact beq_false_of_ne fun heq => h t ht (heq ▸ hc)
  rw [piecesOf, String.toList_intercalate, String.toList_singleton,
    cut_intercalate (by simp) (by simpa using hne) hpieces]
  simp

/-- The pieces of two strings with a separator between them. -/
theorem piecesOf_append (separator : Char) (s t : String) :
    piecesOf separator (s ++ String.singleton separator ++ t) =
      piecesOf separator s ++ piecesOf separator t := by
  have hsplit : (s ++ String.singleton separator ++ t).toList =
      s.toList ++ separator :: t.toList := by simp
  rw [piecesOf, hsplit, cut_append_separator (by simp), List.map_append]
  rfl

/-- The characters of a piece are characters of the text, and none of them is a separator. -/
theorem mem_and_eq_false_of_mem_cut {s : List Char} {c : Char} (hs : s ∈ cut p cs) (hc : c ∈ s) :
    c ∈ cs ∧ p c = false := by
  induction cs generalizing s with
  | nil =>
    obtain rfl := List.mem_singleton.mp hs
    cases hc
  | cons d cs ih =>
    have hlater {t : List Char} (ht : t ∈ cut p cs) (hct : c ∈ t) : c ∈ d :: cs ∧ p c = false :=
      (ih ht hct).imp_left (List.mem_cons_of_mem d)
    rw [cut] at hs
    split at hs
    · rcases List.mem_cons.mp hs with rfl | hs
      · cases hc
      · exact hlater hs hc
    · rename_i hd
      cases hcut : cut p cs with
      | nil => exact absurd hcut (cut_ne_nil p cs)
      | cons piece pieces =>
        rw [hcut] at hs hlater
        rcases List.mem_cons.mp hs with rfl | hs
        · rcases List.mem_cons.mp hc with rfl | hc
          · exact ⟨List.mem_cons_self, by simpa using hd⟩
          · exact hlater List.mem_cons_self hc
        · exact hlater (List.mem_cons_of_mem piece hs) hc

theorem mem_of_mem_cut {s : List Char} {c : Char} (hs : s ∈ cut p cs) (hc : c ∈ s) : c ∈ cs :=
  (mem_and_eq_false_of_mem_cut hs hc).1

theorem not_mem_of_mem_piecesOf {separator : Char} {s piece : String}
    (h : piece ∈ piecesOf separator s) : separator ∉ piece.toList := by
  obtain ⟨cs, hcs, rfl⟩ := List.mem_map.mp h
  rw [String.toList_ofList]
  intro hmem
  simpa using (mem_and_eq_false_of_mem_cut hcs hmem).2

/-- A character between pieces is the separator or belongs to a piece. -/
theorem mem_of_mem_intercalate {separator c : Char} {pieces : List (List Char)}
    (h : c ∈ [separator].intercalate pieces) : c = separator ∨ ∃ s ∈ pieces, c ∈ s := by
  induction pieces with
  | nil => simp at h
  | cons s rest ih =>
    cases rest with
    | nil => exact Or.inr ⟨s, by simp, by simpa using h⟩
    | cons t rest =>
      rw [List.intercalate_cons_cons, List.append_assoc, List.singleton_append] at h
      rcases List.mem_append.mp h with h | h
      · exact Or.inr ⟨s, List.mem_cons_self, h⟩
      · rcases List.mem_cons.mp h with h | h
        · exact Or.inl h
        · exact (ih h).imp_right fun ⟨u, hu, hc⟩ => ⟨u, List.mem_cons_of_mem s hu, hc⟩

/-! ## 2. Replacing characters -/

/-- A text has the same pieces with another separator that did not occur in it. -/
theorem cut_replaced (h : ∀ c ∈ cs, c ≠ new) :
    cut (· == new) (cs.map fun c => if c = old then new else c) = cut (· == old) cs := by
  induction cs with
  | nil => rfl
  | cons c cs ih =>
    have hne := h c List.mem_cons_self
    have ih := ih fun d hd => h d (List.mem_cons_of_mem c hd)
    by_cases hc : c = old
    · simp [cut, hc, ih]
    · simp [cut, hc, ih, hne]

theorem map_replaced_eq_self (h : ∀ c ∈ cs, c ≠ old) :
    cs.map (fun c => if c = old then new else c) = cs :=
  (List.map_congr_left fun c hc => if_neg (h c hc)).trans (List.map_id _)

theorem withReplaced_eq_self {s : String} (h : ∀ c ∈ s.toList, c ≠ old) :
    withReplaced old new s = s := by
  rw [withReplaced, map_replaced_eq_self h, String.ofList_toList]

/-- Replacing a character by one that did not occur can be taken back. -/
theorem withReplaced_withReplaced {s : String} (h : ∀ c ∈ s.toList, c ≠ new) :
    withReplaced new old (withReplaced old new s) = s := by
  rw [withReplaced, withReplaced, String.toList_ofList, List.map_map, ← String.toList_inj,
    String.toList_ofList]
  refine (List.map_congr_left fun c hc => ?_).trans (List.map_id _)
  have hne := h c hc
  by_cases hold : c = old
  · simp [hold]
  · simp [hold, hne]

/-! ## 3. Beginnings, endings and blanks -/

theorem withoutStart_append (start rest : List Char) :
    withoutStart (String.ofList start) (String.ofList (start ++ rest)) = String.ofList rest := by
  have hafter : after? start (start ++ rest) = some rest := after?_eq_some_iff.mpr rfl
  simp [withoutStart, hafter]

theorem withoutStart_of_not_isPrefix {start s : String} (h : ¬ start.toList <+: s.toList) :
    withoutStart start s = s := by
  cases hafter : after? start.toList s.toList with
  | none => simp [withoutStart, hafter]
  | some rest => exact absurd ⟨rest, (after?_eq_some_iff.mp hafter).symm⟩ h

theorem before?_append (ending : List Char) : before? ending (cs ++ ending) = some cs := by
  have h : after? ending.reverse (ending.reverse ++ cs.reverse) = some cs.reverse :=
    after?_eq_some_iff.mpr rfl
  simp [before?, List.reverse_append, h]

theorem before?_eq_some_iff {ending rest : List Char} :
    before? ending cs = some rest ↔ cs = rest ++ ending := by
  rw [before?, Option.map_eq_some_iff]
  constructor
  · rintro ⟨back, hback, rfl⟩
    rw [← List.reverse_inj, after?_eq_some_iff.mp hback]
    simp
  · rintro rfl
    exact ⟨rest.reverse, after?_eq_some_iff.mpr (List.reverse_append ..), List.reverse_reverse rest⟩

/-- What is left in front of an ending is a beginning of the text. -/
theorem withoutEnding_isPrefix (ending s : String) :
    (withoutEnding ending s).toList <+: s.toList := by
  cases hbefore : before? ending.toList s.toList with
  | none => simp [withoutEnding, hbefore]
  | some rest =>
    rw [withoutEnding, hbefore, String.toList_ofList]
    exact ⟨ending.toList, (before?_eq_some_iff.mp hbefore).symm⟩

theorem withoutEnding_append (s ending : String) : withoutEnding ending (s ++ ending) = s := by
  simp [withoutEnding, before?_append]

theorem dropWhile_padded {p : Char → Bool} (hcs : ∀ c ∈ cs, p c = true)
    (hds : ds.head?.any p = false) : (cs ++ ds).dropWhile p = ds := by
  rw [List.dropWhile_append_of_pos hcs]
  cases ds with
  | nil => rfl
  | cons d ds => exact List.dropWhile_cons_of_neg (by simpa using hds)

/-- A text of blanks only. -/
def isBlankText (s : String) : Bool := s.toList.all isBlank

theorem isBlank_of_isBlankText {s : String} (h : isBlankText s = true) :
    ∀ c ∈ s.toList, isBlank c = true :=
  List.all_eq_true.mp h

/-- Blanks around characters that neither begin nor end with one are trimmed off. -/
theorem trim_padded {before behind : List Char} (hbefore : ∀ c ∈ before, isBlank c = true)
    (hbehind : ∀ c ∈ behind, isBlank c = true) (hne : cs ≠ [])
    (hfirst : cs.head?.any isBlank = false) (hlast : cs.getLast?.any isBlank = false) :
    trim (before ++ cs ++ behind) = cs := by
  have hfront : (before ++ (cs ++ behind)).dropWhile isBlank = cs ++ behind := by
    refine dropWhile_padded hbefore ?_
    rwa [List.head?_append, Option.or_of_isSome (by simpa using hne)]
  have hback : (behind.reverse ++ cs.reverse).dropWhile isBlank = cs.reverse := by
    refine dropWhile_padded (fun c hc => ?_) (by simpa using hlast)
    exact hbehind c (List.mem_reverse.mp hc)
  rw [trim, trimEnd, List.append_assoc, hfront, List.reverse_append, hback, List.reverse_reverse]

/-- **Blanks around a text are trimmed off.** -/
theorem trimmed_padded {before s behind : String} (hbefore : isBlankText before = true)
    (hbehind : isBlankText behind = true) (hne : s ≠ "")
    (hfirst : s.toList.head?.any isBlank = false)
    (hlast : s.toList.getLast?.any isBlank = false) :
    trimmed (before ++ s ++ behind) = s := by
  have hne : s.toList ≠ [] := by simpa using hne
  rw [trimmed, String.toList_append, String.toList_append,
    trim_padded (isBlank_of_isBlankText hbefore) (isBlank_of_isBlankText hbehind) hne hfirst hlast,
    String.ofList_toList]

/-! ## 4. Leaving out a part -/

theorem leaveOut_length (part cs ds : List Char) :
    leaveOut part cs.length (cs ++ ds) = leaveOut part 0 ds := by
  induction cs with
  | nil => rfl
  | cons c cs ih => rw [List.length_cons, List.cons_append, leaveOut, ih]

theorem leaveOut_of_not_isInfix {part : List Char} (h : ¬ part <:+: cs) :
    leaveOut part 0 cs = cs := by
  induction cs with
  | nil => rfl
  | cons c cs ih =>
    have hprefix : part.isPrefixOf (c :: cs) = false := Bool.eq_false_iff.mpr fun hprefix =>
      h (List.isPrefixOf_iff_prefix.mp hprefix).isInfix
    rw [leaveOut, hprefix,
      ih fun hoccurs => h (hoccurs.trans (List.infix_cons (List.infix_refl cs)))]
    simp

section

variable {d : Char} {body : List Char} (hd : d ∉ body)
include hd

/-- A part that has its first character only once cannot straddle the beginning of another one. -/
theorem isPrefix_of_isPrefix_append (hne : cs ≠ []) (h : d :: body <+: cs ++ d :: body) :
    d :: body <+: cs := by
  obtain ⟨rest, hrest⟩ := h
  cases cs with
  | nil => exact absurd rfl hne
  | cons c cs =>
    rw [List.cons_append, List.cons_append, List.cons.injEq] at hrest
    obtain ⟨rfl, hrest⟩ := hrest
    rcases List.append_eq_append_iff.mp hrest with ⟨behind, rfl, -⟩ | ⟨front, rfl, hfront⟩
    · exact List.prefix_append (d :: body) behind
    · cases front with
      | nil => simp
      | cons e front =>
        obtain ⟨rfl, -⟩ := List.cons.inj hfront
        exact absurd (List.mem_append_right cs List.mem_cons_self) hd

/-- **A part at the end is left out, and nothing else**, if it occurs nowhere before. -/
theorem leaveOut_append (h : ¬ d :: body <:+: cs) :
    leaveOut (d :: body) 0 (cs ++ d :: body) = cs := by
  induction cs with
  | nil =>
    have hskip := leaveOut_length (d :: body) body []
    rw [List.append_nil] at hskip
    simp [leaveOut, hskip]
  | cons c cs ih =>
    have hprefix : (d :: body).isPrefixOf (c :: cs ++ d :: body) = false := by
      refine Bool.eq_false_iff.mpr fun hprefix => h ?_
      exact (isPrefix_of_isPrefix_append hd (List.cons_ne_nil c cs)
        (List.isPrefixOf_iff_prefix.mp hprefix)).isInfix
    rw [List.cons_append, leaveOut, ← List.cons_append, hprefix,
      ih fun hoccurs => h (hoccurs.trans (List.infix_cons (List.infix_refl cs)))]
    simp

/-- **To leave out a part is to take it off the end**, if it occurs nowhere else. -/
theorem withoutPart_eq_withoutEnding {part s : String} (hpart : part.toList = d :: body)
    (h : ¬ part.toList <:+: (withoutEnding part s).toList) :
    withoutPart part s = withoutEnding part s := by
  rw [withoutPart]
  rw [withoutEnding] at h ⊢
  cases hbefore : before? part.toList s.toList with
  | none =>
    rw [hbefore] at h
    dsimp only at h ⊢
    rw [leaveOut_of_not_isInfix h, String.ofList_toList]
  | some rest =>
    rw [hbefore, String.toList_ofList] at h
    dsimp only
    rw [before?_eq_some_iff.mp hbefore, hpart, leaveOut_append hd (hpart ▸ h)]

end

end ApiPages.Text
