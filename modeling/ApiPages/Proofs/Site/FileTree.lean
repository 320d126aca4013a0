/-
# Pages are read below the root of the site

A path is walked name by name, and a name that leads down leads from a directory to one of its
entries (`foldlM_enter_names`).  The file of a site path is its root with such names behind it, so
whoever walks it has been at the root before, and goes nowhere but down from there
(`walk_below`).

So whatever site path is asked for, the file that is read lies below the root, at the names in the
path (`StaysBelow`).  What else there is in the tree has no part in it, whether it stands beside the
root or above it.
-/
import ApiPages.Proofs.Outcome
import ApiPages.Proofs.Site.Path
import ApiPages.Site.FileTree

namespace ApiPages

open Site (IsEntryName below)
open Text (piecesOf)

namespace FileTree

variable {t t' : FileTree} {root : String} {here places names : List String}

/-! ## 1. Walking down -/

/-- What is behind a place is found from there. -/
theorem get?_append (t : FileTree) (here names : List String) :
    t.get? (here ++ names) = (t.get? here).bind (·.get? names) := by
  induction here generalizing t with
  | nil => rfl
  | cons name here ih =>
    simp only [List.cons_append, get?]
    cases t.entries.lookup name with
    | none => rfl
    | some below => exact ih below

/-- A step leads on only from a directory. -/
theorem exists_directory_of_enter {component : String}
    (h : t.enter here component = .ok places) :
    ∃ entries, t.get? here = some (.directory entries) := by
  unfold enter at h
  split at h
  · rename_i entries hget
    exact ⟨entries, hget⟩
  · cases h
  · cases h

/-- **A name leads to the entry with this name.** -/
theorem enter_name {name : String} (hname : IsEntryName name)
    (h : t.enter here name = .ok places) : places = here ++ [name] := by
  unfold enter at h
  split at h
  · rw [if_neg (not_or.mpr ⟨hname.ne_empty, hname.ne_dot⟩), if_neg hname.ne_dots] at h
    split at h
    · cases h
    · split at h
      · exact (Except.ok.inj h).symm
      · cases h
  · cases h
  · cases h

/-- The empty component stays where it is, in a directory. -/
theorem enter_empty (h : t.enter here "" = .ok places) : places = here := by
  unfold enter at h
  split at h
  · exact (Except.ok.inj h).symm
  · cases h
  · cases h

theorem foldlM_enter_empty (t : FileTree) (here : List String) :
    [""].foldlM t.enter here = t.enter here "" := by
  simp

theorem enter_empty_of_directory {entries : List (String × FileTree)}
    (h : t.get? here = some (.directory entries)) : t.enter here "" = .ok here := by
  simp [enter, h]

/-- **Names lead down**, and nowhere else. -/
theorem foldlM_enter_names (hnames : ∀ name ∈ names, IsEntryName name)
    (h : names.foldlM t.enter here = .ok places) : places = here ++ names := by
  induction names generalizing here with
  | nil => simpa [pure, Except.pure] using h.symm
  | cons name names ih =>
    obtain ⟨hname, hrest⟩ := List.forall_mem_cons.mp hnames
    rw [List.foldlM_cons] at h
    cases hstep : t.enter here name with
    | error fault =>
      rw [hstep] at h
      cases h
    | ok next =>
      rw [hstep] at h
      rw [ih hrest h, enter_name hname hstep, List.append_assoc, List.singleton_append]

/-- A step sees nothing but what is where it starts. -/
theorem enter_congr (h : t.get? here = t'.get? here) (component : String) :
    t.enter here component = t'.enter here component := by
  unfold enter
  rw [h]

/-- **Walking down sees nothing but what is below.** -/
theorem foldlM_enter_congr (hnames : ∀ name ∈ names, IsEntryName name)
    (h : t.get? here = t'.get? here) :
    names.foldlM t.enter here = names.foldlM t'.enter here := by
  induction names generalizing here with
  | nil => rfl
  | cons name names ih =>
    obtain ⟨hname, hrest⟩ := List.forall_mem_cons.mp hnames
    rw [List.foldlM_cons, List.foldlM_cons, enter_congr h name]
    cases hstep : t'.enter here name with
    | error fault => rfl
    | ok next =>
      obtain rfl := enter_name hname hstep
      exact ih hrest (by rw [get?_append, get?_append, h])

/-! ## 2. Paths below a root -/

/-- The root of a site is at the names `here`.  The empty root is where paths start. -/
def Reaches (t : FileTree) (root : String) (here : List String) : Prop :=
  root = "" ∧ here = [] ∨ t.walk root = .ok here

theorem walk_eq_ok_iff {path : String} :
    t.walk path = .ok places ↔ path.utf8ByteSize ≤ 4095 ∧ path ≠ "" ∧ isAbsolute path = false ∧
      (piecesOf '/' path).foldlM t.enter [] = .ok places := by
  unfold walk
  split
  · rename_i hlong
    simp [Nat.not_le.mpr hlong]
  · rename_i hshort
    split
    · rename_i hempty
      simp [hempty]
    · rename_i hne
      split
      · rename_i habsolute
        simp [habsolute]
      · rename_i hrelative
        simp [Nat.not_lt.mp hshort, hne, hrelative]

theorem piecesOf_slash (s u : String) :
    piecesOf '/' (s ++ "/" ++ u) = piecesOf '/' s ++ piecesOf '/' u :=
  Text.piecesOf_append '/' s u

/-- What is walked before the names behind a root: the pieces of the root, but for the empty one
behind a final slash. -/
theorem exists_front (hroot : root ≠ "") : ∃ front,
    (piecesOf '/' root = front ∨ piecesOf '/' root = front ++ [""]) ∧
      ∀ names, names ≠ [] → (∀ name ∈ names, IsEntryName name) →
        piecesOf '/' (below root names) = front ++ names := by
  have hjoined : ∀ names, names ≠ [] → (∀ name ∈ names, IsEntryName name) →
      piecesOf '/' ("/".intercalate names) = names := fun names hne hnames =>
    Text.piecesOf_intercalate hne fun name hname => (hnames name hname).no_slash
  by_cases hslash : root.toList.getLast? = some '/'
  · -- the root ends with a slash, and nothing is put behind it
    obtain ⟨front, hfront⟩ := List.getLast?_eq_some_iff.mp hslash
    obtain rfl : root = String.ofList front ++ "/" := by
      rw [← String.toList_inj, hfront]
      simp
    refine ⟨piecesOf '/' (String.ofList front), Or.inr ?_, fun names hne hnames => ?_⟩
    · simpa [piecesOf, Text.cut] using piecesOf_slash (String.ofList front) ""
    · obtain ⟨first, rest, rfl⟩ := List.exists_cons_of_ne_nil hne
      rw [below, Site.gap, if_pos (Or.inr hslash), String.append_empty, piecesOf_slash,
        hjoined _ hne hnames]
  · refine ⟨piecesOf '/' root, Or.inl rfl, fun names hne hnames => ?_⟩
    obtain ⟨first, rest, rfl⟩ := List.exists_cons_of_ne_nil hne
    rw [below, Site.gap, if_neg (not_or.mpr ⟨hroot, hslash⟩), piecesOf_slash,
      hjoined _ hne hnames]

/-- The pieces in front of the names lead where the root does. -/
theorem foldlM_front {front : List String}
    (hfront : piecesOf '/' root = front ∨ piecesOf '/' root = front ++ [""])
    (h : (piecesOf '/' root).foldlM t.enter [] = .ok here) :
    front.foldlM t.enter [] = .ok here := by
  rcases hfront with hfront | hfront
  · rwa [hfront] at h
  · rw [hfront, List.foldlM_append] at h
    cases hwalk : front.foldlM t.enter [] with
    | error fault =>
      rw [hwalk] at h
      cases h
    | ok next =>
      rw [hwalk] at h
      have hstay : t.enter next "" = .ok here := (foldlM_enter_empty t next).symm.trans h
      rw [enter_empty hstay]

section

variable (hne : names ≠ []) (hnames : ∀ name ∈ names, IsEntryName name)
include hne hnames

/-- Names make no path absolute. -/
theorem isAbsolute_below : isAbsolute (below root names) = isAbsolute root := by
  obtain ⟨c, cs, hc, hchars⟩ := Site.exists_toList_below hne hnames root
  rw [isAbsolute, isAbsolute, hchars]
  by_cases hroot : root = ""
  · simp [hroot, Site.gap, hc]
  · obtain ⟨d, ds, hds⟩ := List.exists_cons_of_ne_nil (show root.toList ≠ [] by simpa using hroot)
    simp [hds]

/-- **From the root of a site one only goes down.** -/
theorem walk_below (hreaches : t.Reaches root here) :
    t.walk (below root names) =
      if 4095 < (below root names).utf8ByteSize then .error .nameTooLong
      else names.foldlM t.enter here := by
  have habsolute : isAbsolute (below root names) = false := by
    rw [isAbsolute_below hne hnames]
    rcases hreaches with ⟨rfl, -⟩ | hwalk
    · decide
    · exact (walk_eq_ok_iff.mp hwalk).2.2.1
  have hpieces : (piecesOf '/' (below root names)).foldlM t.enter [] =
      names.foldlM t.enter here := by
    rcases hreaches with ⟨rfl, rfl⟩ | hwalk
    · have hjoined : piecesOf '/' (below "" names) = names := by
        obtain ⟨first, rest, rfl⟩ := List.exists_cons_of_ne_nil hne
        simpa [below, Site.gap] using
          Text.piecesOf_intercalate hne fun name hname => (hnames name hname).no_slash
      rw [hjoined]
    · obtain ⟨-, hroot, -, hpieces⟩ := walk_eq_ok_iff.mp hwalk
      obtain ⟨front, hfront, hbelow⟩ := exists_front hroot
      rw [hbelow names hne hnames, List.foldlM_append, foldlM_front hfront hpieces]
      rfl
  rw [walk, if_neg (Site.below_ne_empty hne hnames root), habsolute, hpieces]
  rfl

/-- Who gets to a place below a root has been at the root. -/
theorem exists_reaches_of_walk (h : t.walk (below root names) = .ok places) :
    ∃ here, t.Reaches root here := by
  by_cases hroot : root = ""
  · exact ⟨[], Or.inl ⟨hroot, rfl⟩⟩
  · obtain ⟨hsize, -, habsolute, hpieces⟩ := walk_eq_ok_iff.mp h
    obtain ⟨front, hfront, hbelow⟩ := exists_front hroot
    rw [hbelow names hne hnames, List.foldlM_append] at hpieces
    obtain ⟨first, rest, rfl⟩ := List.exists_cons_of_ne_nil hne
    cases hwalk : front.foldlM t.enter [] with
    | error fault =>
      rw [hwalk] at hpieces
      cases hpieces
    | ok here =>
      refine ⟨here, Or.inr (walk_eq_ok_iff.mpr ⟨?size, hroot, ?relative, ?pieces⟩)⟩
      case size =>
        have hle : root.utf8ByteSize ≤ (below root (first :: rest)).utf8ByteSize := by
          simp only [below, String.utf8ByteSize_append]
          omega
        exact Nat.le_trans hle hsize
      case relative => rwa [isAbsolute_below hne hnames] at habsolute
      case pieces =>
        rcases hfront with hfront | hfront
        · rw [hfront, hwalk]
        · -- the first name has been looked for in what is there, so it is a directory
          rw [hwalk] at hpieces
          have hdirectory : ∃ entries, t.get? here = some (.directory entries) := by
            cases hstep : t.enter here first with
            | error fault =>
              simp [bind, Except.bind, List.foldlM_cons, hstep] at hpieces
            | ok next => exact exists_directory_of_enter hstep
          obtain ⟨entries, hget⟩ := hdirectory
          rw [hfront, List.foldlM_append, hwalk]
          exact (foldlM_enter_empty t here).trans (enter_empty_of_directory hget)

end

/-! ## 3. Pages -/

theorem read_eq_ok_iff {path text : String} :
    t.read path = .ok text ↔ ∃ places content chars, t.walk path = .ok places ∧
      t.get? places = some (.file content) ∧ Text.Utf8.decode? content = some chars ∧
      text = String.ofList chars := by
  unfold read
  cases hwalk : t.walk path with
  | error fault => simp [bind, Except.bind]
  | ok places =>
    cases hget : t.get? places with
    | none => simp [bind, Except.bind, hget]
    | some found =>
      cases found with
      | directory entries => simp [bind, Except.bind, hget]
      | file content =>
        cases hdecode : Text.Utf8.decode? content with
        | none => simp [bind, Except.bind, hget, hdecode]
        | some chars =>
          simp [bind, Except.bind, pure, Except.pure, hget, hdecode, eq_comm]

/-- A page that is read lies below the root. -/
theorem exists_file_of_pages {path text : String} (h : t.pages root path = .ok text) :
    ∃ here content chars, t.Reaches root here ∧
      t.get? (here ++ Site.segments path) = some (.file content) ∧
      Text.Utf8.decode? content = some chars ∧ text = String.ofList chars := by
  have hread : t.read (Site.fileOf root path) = .ok text := by
    unfold pages at h
    cases hread : t.read (Site.fileOf root path) with
    | error fault => simp [hread, Except.mapError] at h
    | ok found => simpa [hread, Except.mapError] using h
  obtain ⟨places, content, chars, hwalk, hget, hdecode, rfl⟩ := read_eq_ok_iff.mp hread
  rw [Site.fileOf_eq_below] at hwalk
  have hnames := Site.isEntryName_of_mem_segments path
  by_cases hne : Site.segments path = []
  · rw [hne] at hwalk ⊢
    exact ⟨places, content, chars, Or.inr hwalk, by rwa [List.append_nil], hdecode, rfl⟩
  · obtain ⟨here, hreaches⟩ := exists_reaches_of_walk hne hnames hwalk
    rw [walk_below hne hnames hreaches] at hwalk
    split at hwalk
    · cases hwalk
    · obtain rfl := foldlM_enter_names hnames hwalk
      exact ⟨here, content, chars, hreaches, hget, hdecode, rfl⟩

/-- What is not below the root has no part in a page. -/
theorem pages_congr (hreaches : t.Reaches root here) (hreaches' : t'.Reaches root here)
    (h : t.get? here = t'.get? here) (path : String) : t.pages root path = t'.pages root path := by
  have hnames := Site.isEntryName_of_mem_segments path
  have hread : t.read (Site.fileOf root path) = t'.read (Site.fileOf root path) := by
    rw [Site.fileOf_eq_below, read, read]
    by_cases hne : Site.segments path = []
    · rw [hne]
      rcases hreaches with ⟨rfl, -⟩ | hwalk
      · rfl
      · rcases hreaches' with ⟨rfl, -⟩ | hwalk'
        · rfl
        · rw [below, hwalk, hwalk']
          simp only [bind, Except.bind, h]
    · rw [walk_below hne hnames hreaches, walk_below hne hnames hreaches']
      split
      · rfl
      · rw [foldlM_enter_congr hnames h]
        cases hwalk : (Site.segments path).foldlM t'.enter here with
        | error fault => rfl
        | ok places =>
          obtain rfl := foldlM_enter_names hnames hwalk
          simp only [bind, Except.bind, get?_append, h]
  rw [pages, pages, hread]

/-- **A site path stays below the root** whose pages are asked for. -/
structure StaysBelow (root path : String) : Prop where
  /-- The file is the root with the names in the path behind it, -/
  file_eq : Site.fileOf root path = below root (Site.segments path)
  /-- each of them the name of something in a directory; -/
  entries : ∀ name ∈ Site.segments path, IsEntryName name
  /-- and these are the pieces between its slashes, in order, without empty ones and dots. -/
  divided : ∃! pieces, Site.Divides pieces path
  names_eq : ∀ pieces, Site.Divides pieces path →
    Site.segments path = pieces.filter (· ∉ ["", ".", ".."])
  /-- Nothing else of the path counts, -/
  same : ∀ path', Site.fileOf root path' = Site.fileOf root path ↔
    Site.segments path' = Site.segments path
  /-- so the path made of the names has the same file. -/
  again : Site.fileOf root ("/".intercalate (Site.segments path)) = Site.fileOf root path
  /-- In every tree, a page that is read is the file at these names below the root. -/
  reads : ∀ (t : FileTree) (text : String), t.pages root path = .ok text →
    ∃ here content chars, t.Reaches root here ∧
      t.get? (here ++ Site.segments path) = some (.file content) ∧
      Text.Utf8.decode? content = some chars ∧ text = String.ofList chars
  /-- What is not below the root may be anything. -/
  unseen : ∀ (t t' : FileTree) (here : List String), t.Reaches root here → t'.Reaches root here →
    t.get? here = t'.get? here → t.pages root path = t'.pages root path

/-- **Pages are read below the root**, whatever the root is and whatever is asked for. -/
theorem stays_below (root path : String) : StaysBelow root path := by
  have hnames := Site.isEntryName_of_mem_segments path
  refine {
    file_eq := Site.fileOf_eq_below root path
    entries := hnames
    divided := ⟨piecesOf '/' path, Site.divides_piecesOf path, fun pieces h => ?unique⟩
    names_eq := fun pieces h => Site.segments_eq_filter h
    same := fun path' => Site.fileOf_eq_iff
    again := Site.fileOf_eq_iff.mpr (Site.segments_intercalate hnames)
    reads := fun t text h => exists_file_of_pages h
    unseen := fun t t' here h h' hsame => pages_congr h h' hsame path }
  case unique => exact h.piecesOf_eq.symm

/-- Slashes and dots that a link hides from the URL rules lead nowhere but down. -/
example : (Link.path? "/reference/..%2F..%2F%2Fetc/%2E%2F./passwd").map (Site.fileOf "site/") =
    some "site/reference/etc/passwd" := by decide +kernel

end FileTree

end ApiPages
