/-
# Links that are paths of the site

A link may be written in many ways, and the simplest one is the path itself: one slash in front,
nothing that is left out or resolved when the link is read, and at most a query or a fragment behind
it (`IsSitePath`).  Such a link is read as it is written (`encodedPath?_append`), and so is the path
behind the host of an absolute link (`encodedPath?_origin`).
-/
import ApiPages.Link.Address
import ApiPages.Proofs.Domain.Ascii
import ApiPages.Proofs.Text.Percent
import Mathlib.Data.List.TakeWhile

namespace ApiPages.Link

open Text

/-! ## 1. Queries and fragments -/

/-- Nothing in front of a link or at its end is left out, and no character in between. -/
structure IsClean (cs : List Char) : Prop where
  start : ∀ c ∈ cs.head?, isControlOrSpace c = false
  finish : ∀ c ∈ cs.getLast?, isControlOrSpace c = false
  chars : ∀ c ∈ cs, isIgnored c = false ∧ c ≠ '?' ∧ c ≠ '#'

theorem IsClean.append {cs ds : List Char} (hcs : IsClean cs) (hds : IsClean ds) :
    IsClean (cs ++ ds) where
  start c hc := by
    rw [List.head?_append] at hc
    rcases Option.or_eq_some_iff.mp hc with hc | ⟨-, hc⟩
    · exact hcs.start c hc
    · exact hds.start c hc
  finish c hc := by
    rw [List.getLast?_append] at hc
    rcases Option.or_eq_some_iff.mp hc with hc | ⟨-, hc⟩
    · exact hds.finish c hc
    · exact hcs.finish c hc
  chars c hc := (List.mem_append.mp hc).elim (hcs.chars c) (hds.chars c)

/-- A query or a fragment, or both, or nothing. -/
def IsTail (tail : List Char) : Prop := ∀ c ∈ tail.head?, c = '?' ∨ c = '#'

theorem IsTail.nil : IsTail [] := by simp [IsTail]

section

variable {cs tail : List Char}

theorem dropWhile_of_head? {p : Char → Bool} (h : ∀ c ∈ cs.head?, p c = false) :
    cs.dropWhile p = cs := by
  cases cs with
  | nil => rfl
  | cons c cs => exact List.dropWhile_cons_of_neg (by simp [h c rfl])

/-- A question mark or a number sign is neither trimmed off nor left out. -/
theorem IsTail.kept (h : IsTail tail) :
    ∀ c ∈ tail.head?, isControlOrSpace c = false ∧ isIgnored c = false := by
  intro c hc
  rcases h c hc with rfl | rfl <;> decide

/-- What cleaning leaves of a tail is a tail, since its first character stays. -/
theorem IsTail.cleaned (h : IsTail tail) :
    IsTail (((tail.reverse.dropWhile isControlOrSpace).reverse).filter fun c => !isIgnored c) := by
  cases tail with
  | nil => exact IsTail.nil
  | cons d ds =>
    obtain ⟨hcontrol, hignored⟩ := h.kept d rfl
    have hback : ((d :: ds).reverse).dropWhile isControlOrSpace =
        ds.reverse.dropWhile isControlOrSpace ++ [d] := by
      rw [List.reverse_cons, List.dropWhile_append, List.dropWhile_cons_of_neg (by simp [hcontrol])]
      split
      · rename_i hempty
        rw [List.isEmpty_iff.mp hempty, List.nil_append]
      · rfl
    rw [hback, List.reverse_append, List.reverse_singleton, List.singleton_append,
      List.filter_cons_of_pos (by simp [hignored])]
    exact fun c hc => h c hc

/-- Cleaning a link may change its tail, but the tail remains one. -/
theorem cleaned_append (hclean : IsClean cs) (htail : IsTail tail) :
    ∃ tail', IsTail tail' ∧ cleaned (cs ++ tail) = cs ++ tail' := by
  have hkept : cs.filter (fun c => !isIgnored c) = cs :=
    List.filter_eq_self.mpr fun c hc => by simp [(hclean.chars c hc).1]
  have hfront : (cs ++ tail).dropWhile isControlOrSpace = cs ++ tail := by
    refine dropWhile_of_head? fun c hc => ?_
    rw [List.head?_append] at hc
    rcases Option.or_eq_some_iff.mp hc with hc | ⟨-, hc⟩
    · exact hclean.start c hc
    · exact (htail.kept c hc).1
  have hback : (tail.reverse ++ cs.reverse).dropWhile isControlOrSpace =
      tail.reverse.dropWhile isControlOrSpace ++ cs.reverse := by
    have hcs : cs.reverse.dropWhile isControlOrSpace = cs.reverse :=
      dropWhile_of_head? fun c hc => hclean.finish c (by rwa [List.head?_reverse] at hc)
    rw [List.dropWhile_append, hcs]
    split
    · rename_i hempty
      rw [List.isEmpty_iff.mp hempty, List.nil_append]
    · rfl
  refine ⟨_, htail.cleaned, ?_⟩
  rw [cleaned, hfront, List.reverse_append, hback, List.reverse_append, List.reverse_reverse,
    List.filter_append, hkept]

theorem withoutQuery_append (hchars : ∀ c ∈ cs, c ≠ '?' ∧ c ≠ '#') (htail : IsTail tail) :
    withoutQuery (cs ++ tail) = cs := by
  have hquery : ∀ c ∈ cs, (c != '?') = true := fun c hc => by simp [(hchars c hc).1]
  have hfragment : ∀ c ∈ cs, (c != '#') = true := fun c hc => by simp [(hchars c hc).2]
  rw [withoutQuery, List.takeWhile_append_of_pos hfragment, List.takeWhile_append_of_pos hquery]
  cases tail with
  | nil => simp
  | cons d ds =>
    rcases htail d rfl with rfl | rfl
    · simp
    · simp

/-- **Query and fragment are dropped**, and with them what is left out in them. -/
theorem withoutQuery_cleaned (hclean : IsClean cs) (htail : IsTail tail) :
    withoutQuery (cleaned (cs ++ tail)) = cs := by
  obtain ⟨tail', htail', hcleaned⟩ := cleaned_append hclean htail
  rw [hcleaned, withoutQuery_append (fun c hc => (hclean.chars c hc).2) htail']

end

/-! ## 2. Paths of the site -/

/-- **A path of the site as one writes it**: with a single slash in front, and without anything that
is left out or resolved when it is read. -/
structure IsSitePath (cs : List Char) : Prop where
  /-- Two slashes would announce a host. -/
  start : cs.takeWhile PathStyle.common.isSlash = ['/']
  finish : ∀ c ∈ cs.getLast?, isControlOrSpace c = false
  chars : ∀ c ∈ cs, c ∉ ['?', '#', '\\', '\t', '\n', '\r']
  segments : ∀ s ∈ cut (· == '/') cs, isSingleDot s = false ∧ isDoubleDot s = false

/-- The four conditions, checked along the text and its segments. -/
def isSitePath (cs : List Char) : Bool :=
  cs.takeWhile PathStyle.common.isSlash = ['/'] && !cs.getLast?.any isControlOrSpace &&
    cs.all (fun c => c ∉ ['?', '#', '\\', '\t', '\n', '\r']) &&
    (cut (· == '/') cs).all fun s => !isSingleDot s && !isDoubleDot s

theorem isSitePath_iff {cs : List Char} : isSitePath cs = true ↔ IsSitePath cs := by
  simp only [isSitePath, Bool.and_eq_true, decide_eq_true_eq, Bool.not_eq_true', List.all_eq_true,
    and_assoc, Option.any_eq_false]
  constructor
  · rintro ⟨start, finish, chars, segments⟩
    exact ⟨start, finish, chars, segments⟩
  · intro h
    exact ⟨h.start, h.finish, h.chars, h.segments⟩

instance (cs : List Char) : Decidable (IsSitePath cs) := decidable_of_iff _ isSitePath_iff

/-- Segments that are no dot segments are kept. -/
theorem settle_eq_append {segments : List (List Char)} (kept : List (List Char))
    (h : ∀ s ∈ segments, isSingleDot s = false ∧ isDoubleDot s = false) :
    settle .common kept segments = kept.reverse ++ segments := by
  induction segments generalizing kept with
  | nil => simp [settle]
  | cons s rest ih =>
    obtain ⟨hsingle, hdouble⟩ := h s List.mem_cons_self
    cases rest with
    | nil => simp [settle, hsingle, hdouble, keep]
    | cons t rest =>
      have ih := ih (s :: kept) fun u hu => h u (List.mem_cons_of_mem s hu)
      simp [settle, hsingle, hdouble, keep, ih]

theorem cut_congr {p q : Char → Bool} {cs : List Char} (h : ∀ c ∈ cs, p c = q c) :
    cut p cs = cut q cs := by
  induction cs with
  | nil => rfl
  | cons c cs ih =>
    rw [cut, cut, h c List.mem_cons_self, ih fun d hd => h d (List.mem_cons_of_mem c hd)]

namespace IsSitePath

variable {cs tail : List Char}

/-- Behind the slash in front stands no other one. -/
theorem exists_cons (h : IsSitePath cs) :
    ∃ rest, cs = '/' :: rest ∧ ∀ c ∈ rest.head?, PathStyle.common.isSlash c = false := by
  have hstart := h.start
  cases cs with
  | nil => cases hstart
  | cons c rest =>
    rw [List.takeWhile_cons] at hstart
    split at hstart
    · obtain ⟨rfl, hrest⟩ := List.cons.inj hstart
      refine ⟨rest, rfl, fun d hd => ?_⟩
      cases rest with
      | nil => cases hd
      | cons e rest =>
        obtain rfl : e = d := by simpa using hd
        rw [List.takeWhile_cons] at hrest
        split at hrest
        · cases hrest
        · rename_i he
          simpa using he
    · cases hstart

theorem isClean (h : IsSitePath cs) : IsClean cs where
  start := by
    obtain ⟨rest, rfl, -⟩ := h.exists_cons
    rintro c ⟨⟩
    decide
  finish := h.finish
  chars := by
    intro c hc
    have hc := h.chars c hc
    simp only [List.mem_cons, List.not_mem_nil, or_false, not_or] at hc
    simp [isIgnored, hc]

theorem pathOf_eq (h : IsSitePath cs) : pathOf .common (withoutSlash .common cs) = cs := by
  obtain ⟨rest, rfl, -⟩ := h.exists_cons
  have hcut : cut PathStyle.common.isSlash rest = cut (· == '/') rest := by
    refine cut_congr fun c hc => ?_
    have hc := h.chars c (List.mem_cons_of_mem _ hc)
    simp only [List.mem_cons, List.not_mem_nil, or_false, not_or] at hc
    simp [PathStyle.isSlash, hc]
  have hsegments : ∀ s ∈ cut (· == '/') rest, isSingleDot s = false ∧ isDoubleDot s = false :=
    fun s hs => h.segments s (List.mem_cons_of_mem _ hs)
  have hslash : withoutSlash .common ('/' :: rest) = rest := rfl
  rw [hslash]
  simp only [pathOf, hcut, settle_eq_append [] hsegments]
  rw [List.reverse_nil, List.nil_append, intercalate_cut]

theorem siteRelativePath?_eq (h : IsSitePath cs) : siteRelativePath? cs = some cs := by
  obtain ⟨rest, rfl, hrest⟩ := h.exists_cons
  rw [siteRelativePath?]
  · rw [h.start, if_neg (by decide), h.pathOf_eq]
  · rintro ds heq
    obtain rfl := (List.cons.inj heq).2
    cases hrest '/' rfl

/-- **A path of the site is read as it is written**, whatever query or fragment follows. -/
theorem encodedPath?_append (h : IsSitePath cs) (htail : IsTail tail) :
    encodedPath? (cs ++ tail) = some cs := by
  rw [encodedPath?, withoutQuery_cleaned h.isClean htail]
  have hscheme : scheme? cs = none := by
    obtain ⟨rest, rfl, -⟩ := h.exists_cons
    rfl
  simp only [hscheme]
  exact h.siteRelativePath?_eq

/-- **A path of the site is its own path.** -/
theorem encodedPath?_eq (h : IsSitePath cs) : encodedPath? cs = some cs := by
  simpa using h.encodedPath?_append IsTail.nil

end IsSitePath

/-! ## 3. Behind a host -/

/-- The host of the reference. -/
def referenceHost : List Char := "developer.android.com".toList

theorem ofText?_referenceHost :
    Host.ofText? referenceHost = some (.domain (cut (· == '.') referenceHost)) := by
  have hdecoded : Percent.decode? referenceHost = some referenceHost :=
    Percent.decode?_of_ascii (forall_mem_of_all (by decide))
  have hlabels : Domain.labels? referenceHost = some (cut (· == '.') referenceHost) :=
    Domain.labels?_of_ascii (forall_mem_of_all (by decide)) (forall_mem_of_all (by decide))
      (by decide +kernel)
  rw [Host.ofText?]
  · rw [hdecoded, Option.bind_some, hlabels]
    decide +kernel
  · rintro rest heq
    cases heq

theorem pathAfterHost?_append {cs : List Char} (h : IsSitePath cs) :
    pathAfterHost? (referenceHost ++ cs) = some cs := by
  have hslash : ∀ c ∈ referenceHost, (!PathStyle.common.isSlash c) = true :=
    forall_mem_of_all (by decide)
  obtain ⟨rest, hcs, -⟩ := h.exists_cons
  have hhost : (referenceHost ++ cs).takeWhile (fun c => !PathStyle.common.isSlash c) =
      referenceHost := by
    rw [List.takeWhile_append_of_pos hslash, hcs]
    simp [PathStyle.isSlash]
  have hpath : (referenceHost ++ cs).dropWhile (fun c => !PathStyle.common.isSlash c) = cs := by
    rw [List.dropWhile_append_of_pos hslash, hcs]
    rfl
  have hparts : cutPort false (cutUserInfo referenceHost).2 = (referenceHost, none) := by
    decide +kernel
  simp [pathAfterHost?, hhost, hpath, hparts, ofText?_referenceHost, h.pathOf_eq]

/-- The path behind a host is read as it is written. -/
theorem encodedPath?_absolute {cs tail : List Char} (h : IsSitePath cs) (htail : IsTail tail) :
    encodedPath? ("https://".toList ++ referenceHost ++ cs ++ tail) = some cs := by
  have hfront : IsClean ("https://".toList ++ referenceHost) := by
    refine ⟨?_, ?_, forall_mem_of_all (by decide)⟩
    · rintro c ⟨⟩
      decide
    · rintro c ⟨⟩
      decide
  rw [encodedPath?, withoutQuery_cleaned (hfront.append h.isClean) htail]
  have hscheme : scheme? ("https://".toList ++ referenceHost ++ cs) =
      some ("https".toList, "//".toList ++ (referenceHost ++ cs)) := rfl
  have hslashes : ("//".toList ++ (referenceHost ++ cs)).takeWhile PathStyle.common.isSlash =
      "//".toList := rfl
  have hrest : ("//".toList ++ (referenceHost ++ cs)).dropWhile PathStyle.common.isSlash =
      referenceHost ++ cs := rfl
  simp only [hscheme, hslashes, hrest]
  rw [if_neg (by decide), if_pos trivial, if_neg (by decide), pathAfterHost?_append h]

/-- What stands in front of the path of a link: scheme and host of the reference, or nothing. -/
def origin (isAbsolute : Bool) : List Char :=
  if isAbsolute then "https://".toList ++ referenceHost else []

/-- **A path of the site is read as it is written**, with or without the host in front of it. -/
theorem encodedPath?_origin (isAbsolute : Bool) {cs tail : List Char} (h : IsSitePath cs)
    (htail : IsTail tail) : encodedPath? (origin isAbsolute ++ cs ++ tail) = some cs := by
  cases isAbsolute with
  | true => exact encodedPath?_absolute h htail
  | false => exact h.encodedPath?_append htail

/-- **A path of ASCII characters without escapes** is not decoded either. -/
theorem path?_origin (isAbsolute : Bool) {cs tail : List Char} (h : IsSitePath cs)
    (hascii : ∀ c ∈ cs, c.toNat < 128 ∧ c ≠ '%') (htail : IsTail tail) :
    path? (String.ofList (origin isAbsolute ++ cs ++ tail)) = some (String.ofList cs) := by
  rw [path?, String.toList_ofList, encodedPath?_origin isAbsolute h htail]
  simp [Percent.decode?_of_ascii hascii]

end ApiPages.Link
