/-
# Two readings of a link

A link is read as an address where a signature needs the name of a class, and as a mere text where
documentation only shows a symbol.  The text knows nothing of scheme, host, dot segments or the
place that a link is relative to.  But a link that is its own path, such as a path of the site that
one writes (`IsSitePath.encodedPath?_eq`), is decoded to the same text in both readings, since it
has no plus sign, and the same beginning and ending are taken off; so both readings find the same
name (`symbol_eq_of_resolve`).

Two more conditions exclude what only the symbol loses: `.html` within the name, and a second
beginning behind the first one.  Without the conditions the readings differ (`readings_differ`).
-/
import ApiPages.Documentation
import ApiPages.Proofs.Link.Resolution

namespace ApiPages.Link

open Text

/-! ## 1. Type arguments -/

theorem lineWithoutArguments_eq_self {line : List Char} (h : '<' ∉ line) :
    lineWithoutArguments line = line := by
  have hfront : line.takeWhile (· != '<') = line :=
    List.takeWhile_eq_self_iff.mpr fun c hc => bne_iff_ne.mpr fun heq => h (heq ▸ hc)
  rw [lineWithoutArguments, hfront, if_neg (by omega)]

/-- A text without a `<` has no type arguments. -/
theorem withoutArguments_eq_self {s : String} (h : '<' ∉ s.toList) : withoutArguments s = s := by
  have hlines : (cut (· == '\n') s.toList).map lineWithoutArguments = cut (· == '\n') s.toList :=
    (List.map_congr_left fun line hline => lineWithoutArguments_eq_self fun hmem =>
      h (mem_of_mem_cut hline hmem)).trans (List.map_id _)
  rw [withoutArguments, hlines, intercalate_cut, String.ofList_toList]

/-! ## 2. The path of a resolved link -/

/-- A path with a name part is a beginning of the reference tree and the name part. -/
theorem exists_tree_of_namePart? {path part : List Char} (h : namePart? path = some part) :
    ∃ isAndroid, path = tree isAndroid ++ part := by
  obtain ⟨hpart, -, -⟩ := namePart?_eq_some_iff.mp h
  cases hsite : after? "/android".toList path with
  | none =>
    rw [hsite, Option.getD_none] at hpart
    exact ⟨false, after?_eq_some_iff.mp hpart⟩
  | some rest =>
    rw [hsite, Option.getD_some] at hpart
    refine ⟨true, ?_⟩
    rw [after?_eq_some_iff.mp hsite, after?_eq_some_iff.mp hpart, tree, if_pos rfl,
      List.append_assoc]

theorem isNameChar_of_namePart? {path part : List Char} (h : namePart? path = some part) :
    ∀ c ∈ path, isNameChar c = true := by
  obtain ⟨-, -, hpart⟩ := namePart?_eq_some_iff.mp h
  obtain ⟨isAndroid, rfl⟩ := exists_tree_of_namePart? h
  have htree : ∀ c ∈ tree isAndroid, isNameChar c = true := by
    cases isAndroid <;> exact forall_mem_of_all (by decide)
  exact fun c hc => (List.mem_append.mp hc).elim (htree c) (hpart c)

/-- The ending that is taken off has name characters only. -/
theorem isNameChar_of_withoutEnding {path : String}
    (h : ∀ c ∈ (withoutEnding ".html" path).toList, isNameChar c = true) :
    ∀ c ∈ path.toList, isNameChar c = true := by
  have hending : ∀ c ∈ ".html".toList, isNameChar c = true := forall_mem_of_all (by decide)
  rw [withoutEnding] at h
  cases hbefore : before? ".html".toList path.toList with
  | none =>
    rw [hbefore] at h
    exact h
  | some rest =>
    rw [hbefore, String.toList_ofList] at h
    rw [before?_eq_some_iff.mp hbefore]
    exact fun c hc => (List.mem_append.mp hc).elim (h c) (hending c)

/-! ## 3. The two readings -/

/-- **A link that is its own path is decoded to it in both readings**: a plus sign in the link would
be one in the path. -/
theorem decoded_eq_path {link path : String} (hown : encodedPath? link.toList = some link.toList)
    (hpath : path? link = some path) (hchars : ∀ c ∈ path.toList, isNameChar c = true) :
    Percent.decodeFilled (withReplaced '+' ' ' link).toList = path.toList := by
  have hdecoded : Percent.decode? link.toList = some path.toList := by
    rw [path?, hown, Option.bind_eq_bind, Option.bind_some] at hpath
    obtain ⟨cs, hcs, heq⟩ := Option.bind_eq_some_iff.mp hpath
    obtain rfl : String.ofList cs = path := Option.some.inj heq
    rwa [String.toList_ofList]
  have hplus : ∀ c ∈ link.toList, c ≠ '+' := by
    rintro c hc rfl
    have hmem : '+' ∈ path.toList :=
      Percent.mem_of_decode? (by decide) (by decide) (by decide) hdecoded hc
    have hname := hchars '+' hmem
    revert hname
    decide
  rw [withReplaced_eq_self hplus]
  exact Utf8.decodeFilled_of_decode? hdecoded

/-- The beginning of the reference tree is taken off, once. -/
theorem withoutStart_tree (isAndroid : Bool) {part : List Char}
    (h : isAndroid = true → ¬ "/reference/".toList <+: part) :
    withoutStart "/reference/" (withoutStart "/android/reference/"
      (String.ofList (tree isAndroid ++ part))) = String.ofList part := by
  cases isAndroid with
  | true =>
    have hsite := withoutStart_append "/android/reference/".toList part
    rw [String.ofList_toList] at hsite
    have htree : tree true = "/android/reference/".toList := rfl
    rw [htree, hsite]
    exact withoutStart_of_not_isPrefix (by simpa using h rfl)
  | false =>
    have htree := withoutStart_append "/reference/".toList part
    rw [String.ofList_toList] at htree
    have hsite : withoutStart "/android/reference/" (String.ofList ("/reference/".toList ++ part)) =
        String.ofList ("/reference/".toList ++ part) :=
      withoutStart_of_not_isPrefix (by simp)
    rw [tree, if_neg (by decide), List.nil_append, hsite, htree]

/-- **Where a link is its own path, both readings find the same name**, as long as `.html` is only
the ending of the path and no second beginning follows the first one: the symbol in the
documentation names the type that the link is in a signature. -/
theorem symbol_eq_of_resolve {link path name : String}
    (hown : encodedPath? link.toList = some link.toList) (hpath : path? link = some path)
    (hresolve : resolve link = .ok name)
    (hending : ¬ ".html".toList <:+: (withoutEnding ".html" path).toList)
    (hstart : ¬ "/android/reference//reference/".toList <+: path.toList) :
    symbol link = name ∧
      ∀ (code : Element) (anchor : Located),
        (Located.root code).select Documentation.anchors = [anchor] →
        anchor.element.attribute? "href" = some link →
          Documentation.code code = "\x7b@link " ++ name ++ "\x7d" ∧
          (do (← anchor.element.classReference).typeName) = .ok (TypeName.simple name) := by
  obtain ⟨path', part, hpath', hpart, rfl⟩ := exists_of_resolve hresolve
  obtain rfl : path = path' := Option.some.inj (hpath.symm.trans hpath')
  obtain ⟨isAndroid, htree⟩ := exists_tree_of_namePart? hpart
  have hdecoded := decoded_eq_path hown hpath
    (isNameChar_of_withoutEnding (isNameChar_of_namePart? hpart))
  have htrimmed : withoutPart ".html" path = String.ofList (tree isAndroid ++ part) := by
    rw [withoutPart_eq_withoutEnding (show '.' ∉ "html".toList by decide) rfl hending,
      ← htree, String.ofList_toList]
  have hpartStart : isAndroid = true → ¬ "/reference/".toList <+: part := by
    rintro rfl ⟨rest, rfl⟩
    have hbeginning : "/android/reference//reference/".toList <+:
        (withoutEnding ".html" path).toList := by
      rw [htree]
      exact ⟨rest, rfl⟩
    exact hstart (hbeginning.trans (withoutEnding_isPrefix ".html" path))
  have hchars : '<' ∉ (withReplaced '/' '.' (String.ofList part)).toList := fun hmem =>
    ne_of_isWord ((isNameText_of_resolve hresolve).chars '<' hmem) (by decide) rfl
  have hsymbol : symbol link = withReplaced '/' '.' (String.ofList part) := by
    rw [symbol, hdecoded, String.ofList_toList, htrimmed, withoutStart_tree isAndroid hpartStart,
      withoutArguments_eq_self hchars]
  refine ⟨hsymbol, fun code anchor hselect hhref => ⟨?_, ?_⟩⟩
  · rw [Documentation.code, hselect]
    dsimp only
    rw [Documentation.target, hhref, Option.getD_some, hsymbol]
  · rw [Element.classReference, hhref]
    show ClassReference.typeName ⟨anchor.element.line, link⟩ = _
    rw [ClassReference.typeName, ClassReference.qualifiedName, hresolve]

theorem symbol_eq_of_escaped_link :
    symbol "/reference/java/Map%2eEntry.html" = "java.Map.Entry" ∧
      Documentation.code
        ⟨"code", [], [.element "a" [("href", "/reference/java/Map%2eEntry.html")] []]⟩ =
          "\x7b@link java.Map.Entry\x7d" := by
  have hsite : IsSitePath "/reference/java/Map%2eEntry.html".toList := by decide +kernel
  have hpath : path? "/reference/java/Map%2eEntry.html" =
      some "/reference/java/Map.Entry.html" := by decide +kernel
  have hresolve : resolve "/reference/java/Map%2eEntry.html" = .ok "java.Map.Entry" := by
    decide +kernel
  obtain ⟨hsymbol, hcode⟩ := symbol_eq_of_resolve hsite.encodedPath?_eq hpath hresolve
    (by decide +kernel) (by decide +kernel)
  exact ⟨hsymbol, (hcode _ _ rfl rfl).1⟩

/-- The name that a link is resolved to, if it is, and its symbol. -/
def readings (link : String) : Option String × String := ((resolve link).toOption, symbol link)

/-- **The readings differ** behind a host, for a relative link, for dot segments, for `.html` in the
middle, and for two beginnings. -/
theorem readings_differ :
    readings "https://developer.android.com/reference/a/B.html" =
        (some "a.B", "https:..developer.android.com.reference.a.B") ∧
      readings "reference/a/B.html" = (some "a.B", "reference.a.B") ∧
      readings "/reference/x/../a/B.html" = (some "a.B", "x....a.B") ∧
      readings "/reference/a.html/B.html" = (some "a.html.B", "a.B") ∧
      readings "/android/reference//reference/A.html" = (some ".reference.A", "A") := by
  have habsolute : resolve "https://developer.android.com/reference/a/B.html" = .ok "a.B" :=
    resolve_link ⟨true, false, "a", [(.slash, "B")], none, none, by decide⟩
  have hsymbol : symbol "https://developer.android.com/reference/a/B.html" =
      "https:..developer.android.com.reference.a.B" := by decide +kernel
  refine ⟨?_, by decide +kernel, by decide +kernel, by decide +kernel, by decide +kernel⟩
  rw [readings, habsolute, hsymbol]
  rfl

end ApiPages.Link
