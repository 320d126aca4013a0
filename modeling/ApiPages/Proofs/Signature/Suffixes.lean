/-
# Array types and how they are displayed

A signature writes an array type, or one of variable length, with its suffixes behind everything
else: behind the name, and behind the list of arguments if there is one (`TypeExpr.written`).  What
is read of it is a type that has the suffixes as the end of its name (`TypeExpr.type`).  Displayed,
the suffixes therefore stand between the name and the list.

So a type is displayed as it is written exactly if no level of it has both a list and suffixes
(`TypeExpr.display_eq_written_iff`).  This holds wherever types stand in an accepted signature
(`displayed_of_ofFragments`), since the tokens of a type determine it (`Grows.unique`).
-/
import ApiPages.Proofs.Signature.Acceptance
import ApiPages.Proofs.Text.Pieces

namespace ApiPages.Signature

/-! ## 1. Type expressions -/

/-- A word that is only array dimensions and dots. -/
abbrev ArraySuffix := { w : String // isArraySuffix w = true }

/-- The text of suffixes. -/
def ArraySuffix.text (ws : List ArraySuffix) : String := String.join (ws.map (·.1))

/-- **A type as a signature writes it**: a name, at most one list of arguments, which are type
expressions again, and suffixes. -/
structure TypeExpr where
  name : String
  arguments : List TypeExpr
  suffixes : List ArraySuffix

namespace TypeExpr

mutual

/-- The type of an expression: the suffixes belong to the name. -/
def type : TypeExpr → TypeName
  | ⟨name, arguments, suffixes⟩ => ⟨name ++ ArraySuffix.text suffixes, typeAll arguments⟩

/-- The types of a list of expressions. -/
def typeAll : List TypeExpr → List TypeName
  | [] => []
  | e :: rest => e.type :: typeAll rest

end

mutual

/-- **The expression as it is written**, with a comma and a space between arguments: the suffixes
stand at the end. -/
def written : TypeExpr → String
  | ⟨name, [], suffixes⟩ => name ++ ArraySuffix.text suffixes
  | ⟨name, first :: rest, suffixes⟩ =>
    name ++ "<" ++ first.written ++ writtenRest rest ++ ">" ++ ArraySuffix.text suffixes

/-- The arguments after the first. -/
def writtenRest : List TypeExpr → String
  | [] => ""
  | e :: rest => ", " ++ e.written ++ writtenRest rest

end

mutual

/-- No level of the expression has both arguments and suffixes. -/
def Upright : TypeExpr → Prop
  | ⟨_, arguments, suffixes⟩ => (arguments = [] ∨ suffixes = []) ∧ UprightAll arguments

/-- The same of each expression of a list. -/
def UprightAll : List TypeExpr → Prop
  | [] => True
  | e :: rest => e.Upright ∧ UprightAll rest

end

theorem typeAll_append (es fs : List TypeExpr) : typeAll (es ++ fs) = typeAll es ++ typeAll fs := by
  induction es with
  | nil => rfl
  | cons e es ih => rw [List.cons_append, typeAll, ih]; rfl

end TypeExpr

/-! ## 2. The display of a type -/

/-- A suffix does not begin with an angle bracket. -/
theorem ArraySuffix.exists_cons (w : ArraySuffix) : ∃ c cs, w.1.toList = c :: cs ∧ c ≠ '<' := by
  obtain ⟨w, hw⟩ := w
  have hbrackets {cs : List Char} (h : isArraySuffix.isBrackets cs = true) (hne : cs ≠ []) :
      ∃ ds, cs = '[' :: ds := by
    unfold isArraySuffix.isBrackets at h
    split at h
    · exact absurd rfl hne
    · exact ⟨_, rfl⟩
    · cases h
  simp only [isArraySuffix, Bool.and_eq_true] at hw
  obtain ⟨hne, h⟩ := hw
  have hne : w.toList ≠ [] := by simpa using hne
  cases hdots : Text.before? "...".toList w.toList with
  | none =>
    rw [hdots, Option.getD_none] at h
    obtain ⟨ds, hds⟩ := hbrackets h hne
    exact ⟨'[', ds, hds, by decide⟩
  | some front =>
    rw [hdots, Option.getD_some] at h
    have hsplit : w.toList = front ++ "...".toList := Text.before?_eq_some_iff.mp hdots
    cases front with
    | nil => exact ⟨'.', ['.', '.'], hsplit, by decide⟩
    | cons c cs =>
      obtain ⟨ds, hds⟩ := hbrackets h (List.cons_ne_nil c cs)
      exact ⟨'[', ds ++ "...".toList, by rw [hsplit, hds]; rfl, by decide⟩

namespace TypeExpr

mutual

/-- A type is displayed with the characters that are written. -/
theorem length_display : (e : TypeExpr) → e.type.display.length = e.written.length
  | ⟨name, [], suffixes⟩ => by simp [type, typeAll, TypeName.display_nil, written]
  | ⟨name, first :: rest, suffixes⟩ => by
    have hfirst := first.length_display
    have hrest := length_displayRest rest
    simp only [type, typeAll, TypeName.display_cons, written, String.length_append]
    omega

theorem length_displayRest : (es : List TypeExpr) →
    (TypeName.displayRest (typeAll es)).length = (writtenRest es).length
  | [] => rfl
  | e :: rest => by
    have hfirst := e.length_display
    have hrest := length_displayRest rest
    simp only [typeAll, TypeName.displayRest, writtenRest, String.length_append]
    omega

end

/-- Texts that are equal and of which the beginnings have the same length. -/
theorem append_eq_append_iff {s t u v : String} (hlength : s.length = t.length) :
    s ++ u = t ++ v ↔ s = t ∧ u = v := by
  constructor
  · intro h
    have hlists : s.toList ++ u.toList = t.toList ++ v.toList := by
      simpa using congrArg String.toList h
    obtain ⟨hst, huv⟩ := List.append_inj hlists (by simpa only [String.length_toList] using hlength)
    exact ⟨String.toList_inj.mp hst, String.toList_inj.mp huv⟩
  · rintro ⟨rfl, rfl⟩
    rfl

/-- With a list and a suffix, the suffix is displayed where the list is written. -/
theorem display_ne_written {name : String} {first : TypeExpr} {rest : List TypeExpr}
    {w : ArraySuffix} {ws : List ArraySuffix} :
    (TypeExpr.type ⟨name, first :: rest, w :: ws⟩).display ≠
      TypeExpr.written ⟨name, first :: rest, w :: ws⟩ := by
  intro h
  obtain ⟨c, cs, hw, hc⟩ := w.exists_cons
  have hlists := congrArg String.toList h
  simp [type, typeAll, TypeName.display_cons, written, ArraySuffix.text, hw] at hlists
  exact hc hlists.1

mutual

/-- **A type is displayed as it is written exactly if no level of it has both arguments and
suffixes.** -/
theorem display_eq_written_iff : (e : TypeExpr) → (e.type.display = e.written ↔ e.Upright)
  | ⟨name, [], suffixes⟩ => by
    simp [type, typeAll, TypeName.display_nil, written, Upright, UprightAll]
  | ⟨name, first :: rest, []⟩ => by
    have hboth : first.type.display ++ TypeName.displayRest (typeAll rest) =
        first.written ++ writtenRest rest ↔ first.Upright ∧ UprightAll rest := by
      rw [append_eq_append_iff first.length_display, first.display_eq_written_iff,
        displayRest_eq_writtenRest_iff rest]
    simp only [type, typeAll, TypeName.display_cons, written, Upright, UprightAll, ArraySuffix.text,
      List.map_nil, String.join_nil, String.append_empty, or_true, true_and, String.append_left_inj]
    simpa only [String.append_assoc, String.append_right_inj] using hboth
  | ⟨name, first :: rest, w :: ws⟩ => by
    refine iff_of_false display_ne_written ?_
    simp [Upright]

theorem displayRest_eq_writtenRest_iff : (es : List TypeExpr) →
    (TypeName.displayRest (typeAll es) = writtenRest es ↔ UprightAll es)
  | [] => iff_of_true rfl trivial
  | e :: rest => by
    simp only [typeAll, TypeName.displayRest, writtenRest, UprightAll]
    rw [append_eq_append_iff (by simp [e.length_display]), String.append_right_inj,
      e.display_eq_written_iff, displayRest_eq_writtenRest_iff rest]

end

end TypeExpr

/-! ## 3. The tokens of a type -/

/-- Suffixes behind a name, one after the other. -/
theorem ArraySuffix.foldl_append (n : String) (ws : List ArraySuffix) :
    (ws.map (·.1)).foldl (· ++ ·) n = n ++ ArraySuffix.text ws := by
  induction ws generalizing n with
  | nil => simp [ArraySuffix.text]
  | cons w ws ih =>
    rw [List.map_cons, List.foldl_cons, ih]
    simp [ArraySuffix.text, String.append_assoc]

mutual

/-- **The tokens that spell a type expression.**  The name may be a word or an anchor that leads
to it, and each suffix is a word. -/
inductive Spelled : TypeExpr → List Token → Prop
  | plain {n : String} {t : Token} {ws : List ArraySuffix} (hname : t.Names n) :
      Spelled ⟨n, [], ws⟩ (t :: (ws.map (·.1)).map .word)
  | generic {n : String} {t : Token} {es : List TypeExpr} {us : List Token} {ws : List ArraySuffix}
      (hname : t.Names n) (arguments : SpelledAll es us) :
      Spelled ⟨n, es, ws⟩
        (t :: .mark .openList :: us ++ .mark .closeList :: (ws.map (·.1)).map .word)

/-- The tokens that spell one or more expressions, with commas between them. -/
inductive SpelledAll : List TypeExpr → List Token → Prop
  | one {e : TypeExpr} {ts : List Token} (h : Spelled e ts) : SpelledAll [e] ts
  | more {es : List TypeExpr} {e : TypeExpr} {ts us : List Token} (init : SpelledAll es ts)
      (last : Spelled e us) : SpelledAll (es ++ [e]) (ts ++ .mark .comma :: us)

end

variable {free free' : Bool} {place : Place} {ts : List Token}

/-- Where types may have suffixes, their lists may have commas. -/
theorem Place.hasCommas_of_hasSuffixes (h : place.hasSuffixes = true) : place.hasCommas = true := by
  cases place <;> first | rfl | cases h

mutual

/-- What spells an expression is its type as documented, where types may have suffixes. -/
theorem Spelled.writtenType (hplace : place.hasSuffixes = true) {e : TypeExpr} {ts : List Token} :
    Spelled e ts → WrittenType place e.type ts
  | .plain hname => by
    rw [TypeExpr.type, ← ArraySuffix.foldl_append]
    exact .plain hname (fun _ => hplace) (by simp +contextual)
  | .generic hname arguments => by
    rw [TypeExpr.type, ← ArraySuffix.foldl_append]
    exact .generic hname (arguments.writtenArguments hplace) (fun _ => hplace)
      (by simp +contextual)

theorem SpelledAll.writtenArguments (hplace : place.hasSuffixes = true) {es : List TypeExpr}
    {ts : List Token} : SpelledAll es ts → WrittenArguments place (TypeExpr.typeAll es) ts
  | .one h => .one (h.writtenType hplace)
  | .more init last => by
    rw [TypeExpr.typeAll_append]
    exact .more (init.writtenArguments hplace) (place.hasCommas_of_hasSuffixes hplace)
      (last.writtenType hplace)

end

/-- A reader at a place, before the first token of a type. -/
def Reader.before (place : Place) : Reader := ⟨.method, none, place.state (.start none), {}⟩

/-- **The tokens of a type determine it**: there is no second way to read them. -/
theorem Grows.unique {t t' : TypeName} (h : Grows free place .empty ts (.finished t))
    (h' : Grows free' place .empty ts (.finished t')) : t = t' := by
  have hrun := (reads_of_grown (r := .before place) h rfl nofun).run
  have hrun' := (reads_of_grown (r := .before place) h' rfl nofun).run
  have hstate : place.state (.ofType none t) = place.state (.ofType none t') :=
    congrArg Reader.state (Except.ok.inj (hrun.symm.trans hrun'))
  exact TypeFrame.finished_inj (congrArg TypeStack.current (Place.state_inj hstate).2)

/-- The tokens of a parameter determine it. -/
theorem GrownParameter.unique {p p' : Parameter} (h : GrownParameter free p ts)
    (h' : GrownParameter free' p' ts) : p = p' := by
  have hrun := (reads_of_parameter (r := .before .parameter) h rfl nofun).run
  have hrun' := (reads_of_parameter (r := .before .parameter) h' rfl nofun).run
  have hstate : (Place.namedParameter p.name).state (.ofType none p.type) =
      (Place.namedParameter p'.name).state (.ofType none p'.type) :=
    congrArg Reader.state (Except.ok.inj (hrun.symm.trans hrun'))
  obtain ⟨hname, hstack⟩ := Place.state_inj hstate
  obtain ⟨type, name⟩ := p
  obtain ⟨type', name'⟩ := p'
  obtain rfl : name = name' := Place.namedParameter.inj hname
  obtain rfl : type = type' := TypeFrame.finished_inj (congrArg TypeStack.current hstack)
  rfl

/-! ## 4. Accepted signatures -/

/-- The grammar of the reader, with what is displayed of the types that are expressions: the type
of an expression is the one that is read, and it is displayed as it is written exactly if no level
has both arguments and suffixes. -/
def Grammar.displayed : Grammar where
  type place t ts :=
    Grows true place .empty ts (.finished t) ∧
      (place.hasSuffixes = true →
        ∀ e, Spelled e ts → t = e.type ∧ (t.display = e.written ↔ e.Upright))
  parameter p ts :=
    GrownParameter true p ts ∧
      ∀ e us w, ts = us ++ [.word w] → isArraySuffix w = false → Spelled e us →
        p = ⟨e.type, w⟩ ∧ (p.type.display = e.written ↔ e.Upright)

/-- **How array types of an accepted signature are displayed.** -/
theorem displayed_of_ofFragments {kind : MemberKind} {limit : Option Nat}
    {fragments : List Fragment} {s : Signature} (h : ofFragments kind limit fragments = .ok s) :
    Spells .displayed kind s (Token.ofFragments fragments) := by
  have hspells : Spells (.grown true) kind s (Token.ofFragments fragments) :=
    (ofTokens_eq_ok_iff.mp h).1
  refine hspells.mono ?_ ?_
  · intro place t ts hgrows
    refine ⟨hgrows, fun hplace e he => ?_⟩
    obtain rfl := hgrows.unique (he.writtenType hplace).grows
    exact ⟨rfl, e.display_eq_written_iff⟩
  · intro p ts hgrown
    refine ⟨hgrown, ?_⟩
    rintro e us w rfl hw he
    have hwritten : GrownParameter false ⟨e.type, w⟩ (us ++ [.word w]) :=
      .mk (he.writtenType rfl).grows hw (.refl _)
    obtain rfl := hgrown.unique hwritten
    exact ⟨rfl, e.display_eq_written_iff⟩

theorem displayed_of_array_argument :
    ∃ s, ofFragments .method none [.text "public List<K []> m (T ... ts)"] = .ok s ∧
      Spells .displayed .method s
        (Token.ofFragments [.text "public List<K []> m (T ... ts)"]) := by
  have h : ofFragments .method none [.text "public List<K []> m (T ... ts)"] = .ok {
      modifiers := .single .publicAccess
      returnType := some ⟨"List", [⟨"K[]", []⟩]⟩
      name := some "m"
      parameters := [⟨⟨"T...", []⟩, "ts"⟩] } := by decide +kernel
  exact ⟨_, h, displayed_of_ofFragments h⟩

/-- **A suffix behind a list is displayed in front of it.** -/
theorem suffix_behind_list :
    ∃ s e ts,
      ofFragments .method none [.text "public Map<K, V>[] m ()"] = .ok s ∧
      Token.ofFragments [.text "public Map<K, V>[] m ()"] =
        .word "public" :: ts ++ [.word "m", .mark .openParameters, .mark .closeParameters] ∧
      Spelled e ts ∧ s.returnType = some e.type ∧
      e.written = "Map<K, V>[]" ∧ e.type.display = "Map[]<K, V>" := by
  have h : ofFragments .method none [.text "public Map<K, V>[] m ()"] = .ok {
      modifiers := .single .publicAccess
      returnType := some ⟨"Map[]", [⟨"K", []⟩, ⟨"V", []⟩]⟩
      name := some "m" } := by decide +kernel
  have hlexemes : Text.lexemes Mark.ofChar? "public Map<K, V>[] m ()" =
      [.word "public", .word "Map", .mark .openList, .word "K", .mark .comma, .word "V",
        .mark .closeList, .word "[]", .word "m", .mark .openParameters,
        .mark .closeParameters] := by decide +kernel
  have hspelled : Spelled ⟨"Map", [⟨"K", [], []⟩, ⟨"V", [], []⟩], [⟨"[]", by decide +kernel⟩]⟩ _ :=
    .generic (.word "Map") (.more (.one (.plain (.word "K"))) (.plain (.word "V")))
  refine ⟨_, _, _, h, ?_, hspelled, ?_, ?_, ?_⟩
  · simp [Token.ofFragments, Token.ofFragment, hlexemes, Token.ofLexeme]
  · decide +kernel
  · decide +kernel
  · decide +kernel

end ApiPages.Signature
