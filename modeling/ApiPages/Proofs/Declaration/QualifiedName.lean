/-
# Enclosing names

The pieces of a name with dots between them are the name again, so a name that has an enclosing
class is the name of that class, a dot and the last segment (`eq_of_enclosing?_eq_some`).  It is
longer than the name of the class, and no name encloses itself, be it over several steps.
-/
import ApiPages.Declaration.QualifiedName

namespace ApiPages

namespace Text

/-- The pieces of a text with the separator between them are the text. -/
theorem intercalate_cut (separator : Char) (cs : List Char) :
    [separator].intercalate (cut (· == separator) cs) = cs := by
  induction cs with
  | nil => simp [cut]
  | cons c rest ih =>
    have hne := cut_ne_nil (· == separator) rest
    cases hcut : cut (· == separator) rest with
    | nil => exact absurd hcut hne
    | cons piece pieces =>
      rw [hcut] at ih
      simp only [cut, hcut]
      split
      · rename_i hc
        obtain rfl : c = separator := by simpa using hc
        simp [ih]
      · cases pieces with
        | nil => simpa using ih
        | cons next others => simpa using ih

/-- The pieces of a string with the separator between them are the string. -/
theorem intercalate_piecesOf (separator : Char) (s : String) :
    (String.singleton separator).intercalate (piecesOf separator s) = s := by
  rw [← String.toList_inj, String.toList_intercalate]
  simp [piecesOf, Function.comp_def, intercalate_cut]

end Text

namespace QualifiedName

variable {name outer : String}

theorem segments_ne_nil (name : String) : segments name ≠ [] := by
  simp [segments, Text.piecesOf, Text.cut_ne_nil]

theorem simpleName_eq_getLast (name : String) :
    simpleName name = (segments name).getLast (segments_ne_nil name) := by
  rw [simpleName, List.getLastD_eq_getLast?,
    List.getLast?_eq_some_getLast (segments_ne_nil name), Option.getD_some]

/-- **A nested class has the name of the enclosing class, a dot and its simple name.** -/
theorem eq_of_enclosing?_eq_some (h : enclosing? name = some outer) :
    name = outer ++ "." ++ simpleName name := by
  unfold enclosing? at h
  split at h
  · rename_i hchain
    obtain rfl := Option.some.inj h
    have hsuffix : (classChain name).length ≤ (segments name).length :=
      (List.dropWhile_suffix _).length_le
    have hdrop : (segments name).dropLast ≠ [] := List.ne_nil_of_length_pos (by simp; omega)
    calc name = ".".intercalate (segments name) := (Text.intercalate_piecesOf '.' name).symm
      _ = ".".intercalate ((segments name).dropLast ++ [simpleName name]) := by
        rw [simpleName_eq_getLast, List.dropLast_concat_getLast]
      _ = ".".intercalate (segments name).dropLast ++ "." ++ simpleName name := by
        rw [String.intercalate_append_of_ne_nil hdrop (by simp), String.intercalate_singleton]
  · cases h

/-- The name of the enclosing class is the shorter one. -/
theorem length_lt_of_enclosing? (h : enclosing? name = some outer) :
    outer.length < name.length := by
  have hname := congrArg String.length (eq_of_enclosing?_eq_some h)
  simp only [String.length_append] at hname
  have hdot : ".".length = 1 := by decide
  omega

end QualifiedName

end ApiPages
