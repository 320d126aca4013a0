/-
# Site paths lead down

The file of a site path is its root with a list of names behind it (`fileOf_eq_below`).  The names
are the pieces of the path between its slashes, but for the empty ones and the dots; so none of them
leads anywhere but into the directory where it stands.  Nothing else of the path counts
(`fileOf_eq_iff`).
-/
import ApiPages.Proofs.Text.Pieces
import ApiPages.Site.Path

namespace ApiPages.Site

open Text (piecesOf)

variable {root path segment : String} {names pieces : List String}

/-! ## 1. Names -/

/-- A name that something in a directory can have. -/
structure IsEntryName (name : String) : Prop where
  ne_empty : name ≠ ""
  ne_dot : name ≠ "."
  ne_dots : name ≠ ".."
  no_slash : '/' ∉ name.toList

theorem leadsDown_iff : leadsDown segment = true ↔ segment ∉ ["", ".", ".."] := by
  simp [leadsDown, and_assoc]

/-- What is left of a path are names. -/
theorem isEntryName_of_mem_segments (path : String) :
    ∀ name ∈ segments path, IsEntryName name := by
  intro name hname
  obtain ⟨hpiece, hdown⟩ := List.mem_filter.mp hname
  have hdown := leadsDown_iff.mp hdown
  simp only [List.mem_cons, List.not_mem_nil, or_false, not_or] at hdown
  exact ⟨hdown.1, hdown.2.1, hdown.2.2, Text.not_mem_of_mem_piecesOf hpiece⟩

theorem IsEntryName.leadsDown (h : IsEntryName segment) : leadsDown segment = true := by
  simp [leadsDown_iff, h.ne_empty, h.ne_dot, h.ne_dots]

/-- What the path is between its slashes; every path can be divided in exactly one such way. -/
structure Divides (pieces : List String) (path : String) : Prop where
  ne_nil : pieces ≠ []
  no_slash : ∀ piece ∈ pieces, '/' ∉ piece.toList
  joined : "/".intercalate pieces = path

theorem divides_piecesOf (path : String) : Divides (piecesOf '/' path) path where
  ne_nil := by simpa [piecesOf] using Text.cut_ne_nil (· == '/') path.toList
  no_slash _ := Text.not_mem_of_mem_piecesOf
  joined := Text.intercalate_piecesOf '/' path

theorem Divides.piecesOf_eq (h : Divides pieces path) : piecesOf '/' path = pieces := by
  rw [← h.joined]
  exact Text.piecesOf_intercalate h.ne_nil h.no_slash

theorem segments_eq_filter (h : Divides pieces path) :
    segments path = pieces.filter (· ∉ ["", ".", ".."]) := by
  rw [segments, h.piecesOf_eq]
  refine List.filter_congr fun segment _ => Bool.eq_iff_iff.mpr ?_
  rw [leadsDown_iff, decide_eq_true_iff]

/-- **The path of the names that lead down has these names.** -/
theorem segments_intercalate (h : ∀ name ∈ names, IsEntryName name) :
    segments ("/".intercalate names) = names := by
  cases names with
  | nil => decide
  | cons first rest =>
    have hpieces : piecesOf '/' ("/".intercalate (first :: rest)) = first :: rest :=
      Text.piecesOf_intercalate (List.cons_ne_nil first rest)
        fun name hname => (h name hname).no_slash
    rw [segments, hpieces]
    exact List.filter_eq_self.mpr fun name hname => (h name hname).leadsDown

/-! ## 2. Files -/

/-- What has to stand between a root and a name behind it. -/
def gap (root : String) : String :=
  if root = "" ∨ root.toList.getLast? = some '/' then "" else "/"

/-- The path of what is reached from a root by names, one after the other. -/
def below (root : String) : List String → String
  | [] => root
  | first :: rest => root ++ gap root ++ "/".intercalate (first :: rest)

theorem join_eq (root segment : String) : join root segment = root ++ gap root ++ segment := by
  unfold join gap
  split <;> simp

/-- There is a slash behind a name. -/
theorem gap_join (h : IsEntryName segment) : gap (join root segment) = "/" := by
  have hne : segment.toList ≠ [] := by simpa using h.ne_empty
  have hlast : (join root segment).toList.getLast? = some (segment.toList.getLast hne) := by
    rw [join_eq, String.toList_append, List.getLast?_append, List.getLast?_eq_some_getLast hne]
    rfl
  have hslash : segment.toList.getLast hne ≠ '/' := fun heq =>
    h.no_slash (heq ▸ List.getLast_mem hne)
  have hempty : join root segment ≠ "" := by
    rw [join_eq]
    simp [h.ne_empty]
  rw [gap, hlast, if_neg]
  simp [hempty, hslash]

theorem foldl_join (h : ∀ name ∈ names, IsEntryName name) (root : String) :
    names.foldl join root = below root names := by
  induction names generalizing root with
  | nil => rfl
  | cons first rest ih =>
    obtain ⟨hfirst, hrest⟩ := List.forall_mem_cons.mp h
    rw [List.foldl_cons, ih hrest]
    cases rest with
    | nil => simp [below, join_eq]
    | cons second rest =>
      rw [below, below, gap_join hfirst, join_eq, String.intercalate_cons_cons]
      simp only [String.append_assoc]

/-- **The file of a path is below its root.** -/
theorem fileOf_eq_below (root path : String) : fileOf root path = below root (segments path) :=
  foldl_join (isEntryName_of_mem_segments path) root

section

variable (hne : names ≠ []) (hnames : ∀ name ∈ names, IsEntryName name)
include hne hnames

/-- The path starts with its root, or with the first name if that is empty. -/
theorem exists_toList_below (root : String) : ∃ c cs, c ≠ '/' ∧
    (below root names).toList = root.toList ++ (gap root).toList ++ c :: cs := by
  obtain ⟨first, rest, rfl⟩ := List.exists_cons_of_ne_nil hne
  have hfirst := hnames first (by simp)
  have hchars : first.toList ≠ [] := by simpa using hfirst.ne_empty
  obtain ⟨c, cs, hcs⟩ := List.exists_cons_of_ne_nil hchars
  have hc : c ≠ '/' := fun h => hfirst.no_slash (by simp [hcs, h])
  cases rest with
  | nil => exact ⟨c, cs, hc, by simp [below, hcs]⟩
  | cons second rest =>
    refine ⟨c, cs ++ ("/" ++ "/".intercalate (second :: rest)).toList, hc, ?_⟩
    simp only [below, String.intercalate_cons_cons, String.toList_append, hcs, List.append_assoc,
      List.cons_append]

/-- Names lead away from the root. -/
theorem below_ne_self (root : String) : below root names ≠ root := by
  obtain ⟨c, cs, -, hchars⟩ := exists_toList_below hne hnames root
  intro hsame
  simp [hsame] at hchars

theorem below_ne_empty (root : String) : below root names ≠ "" := by
  obtain ⟨c, cs, -, hchars⟩ := exists_toList_below hne hnames root
  intro hempty
  simp [hempty] at hchars

end

/-- **Different names lead to different files.** -/
theorem below_inj {others : List String} (hnames : ∀ name ∈ names, IsEntryName name)
    (hothers : ∀ name ∈ others, IsEntryName name) :
    below root names = below root others ↔ names = others := by
  refine ⟨fun heq => ?_, fun heq => heq ▸ rfl⟩
  cases names with
  | nil =>
    cases others with
    | nil => rfl
    | cons first rest => exact absurd heq.symm (below_ne_self (List.cons_ne_nil _ _) hothers root)
  | cons first rest =>
    cases others with
    | nil => exact absurd heq (below_ne_self (List.cons_ne_nil _ _) hnames root)
    | cons first' rest' =>
      simp only [below] at heq
      have hjoined := (String.append_right_inj _).mp heq
      rw [← segments_intercalate hnames, hjoined, segments_intercalate hothers]

/-- **Only the names in a path count.** -/
theorem fileOf_eq_iff {path' : String} :
    fileOf root path' = fileOf root path ↔ segments path' = segments path := by
  rw [fileOf_eq_below, fileOf_eq_below]
  exact below_inj (isEntryName_of_mem_segments path') (isEntryName_of_mem_segments path)

end ApiPages.Site
