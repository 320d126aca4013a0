/-
# Which signatures are accepted

The reader accepts exactly the tokens that its own grammar spells, as long as the limit admits the
types (`ofTokens_eq_ok_iff`).  That grammar is wider than the documented one in a single respect:
an argument list may be opened anywhere behind the name of its type.  A signature that is accepted
is written as documented exactly if no list in it is opened in such a place
(`documented_iff_listsFollowNames`).
-/
import ApiPages.Proofs.Signature.Accepted
import ApiPages.Proofs.Signature.Documented
import ApiPages.Proofs.Signature.Readable

namespace ApiPages.Signature

variable {kind : MemberKind} {limit : Option Nat} {ts : List Token} {s : Signature}

/-- **The reader accepts what its grammar spells**, within the limit. -/
theorem ofTokens_eq_ok_iff :
    ofTokens kind limit ts = .ok s ↔ Spells (.grown true) kind s ts ∧ Within limit s.types := by
  constructor
  · exact fun h => ⟨spells_of_ofTokens h (by simp), within_of_ofTokens h⟩
  · exact fun h => (ofTokens_of_spells h.1 h.2).1

/-- A signature that is written as documented is accepted, within the limit, and all its lists are
opened behind names. -/
theorem ofTokens_of_documented (h : Spells .documented kind s ts) (hdepth : Within limit s.types) :
    ofTokens kind limit ts = .ok s ∧ (Reader.start kind limit).ListsFollowNames ts := by
  obtain ⟨hok, hfollow⟩ := ofTokens_of_spells (spells_documented_iff.mp h) hdepth
  exact ⟨hok, hfollow rfl⟩

/-- **An accepted signature is written as documented exactly if every list in it is opened right
behind the name of its type.** -/
theorem documented_iff_listsFollowNames {fragments : List Fragment}
    (h : ofFragments kind limit fragments = .ok s) :
    Spells .documented kind s (Token.ofFragments fragments) ↔
      (Reader.start kind limit).ListsFollowNames (Token.ofFragments fragments) := by
  constructor
  · intro hspells
    exact (ofTokens_of_documented hspells (within_of_ofTokens h)).2
  · intro hfollow
    exact spells_documented_iff.mpr (spells_of_ofTokens h fun _ => hfollow)

/-- A list behind the name of a parameter is accepted, and the type of the parameter takes it. -/
theorem ofFragments_list_behind_name :
    ofFragments .method none [.text "public void f (A x <B>)"] = .ok {
      modifiers := .single .publicAccess
      returnType := some ⟨"void", []⟩
      name := some "f"
      parameters := [⟨⟨"A", [⟨"B", []⟩]⟩, "x"⟩] } := by decide +kernel

theorem documented_iff_of_list_behind_name :
    ∃ s, ofFragments .method none [.text "public void f (A x <B>)"] = .ok s ∧
      (Spells .documented .method s (Token.ofFragments [.text "public void f (A x <B>)"]) ↔
        (Reader.start .method none).ListsFollowNames
          (Token.ofFragments [.text "public void f (A x <B>)"])) :=
  ⟨_, ofFragments_list_behind_name,
    documented_iff_listsFollowNames ofFragments_list_behind_name⟩

/-- **Not everything that is accepted is written as documented.** -/
theorem accepted_undocumented :
    ∃ s, ofFragments .method none [.text "public void f (A x <B>)"] = .ok s ∧
      ¬ Spells .documented .method s (Token.ofFragments [.text "public void f (A x <B>)"]) := by
  refine ⟨_, ofFragments_list_behind_name, fun hspells => ?_⟩
  have hlexemes : Text.lexemes Mark.ofChar? "public void f (A x <B>)" =
      [.word "public", .word "void", .word "f", .mark .openParameters, .word "A", .word "x",
        .mark .openList, .word "B", .mark .closeList, .mark .closeParameters] := by decide +kernel
  have hwithin := within_of_ofTokens ofFragments_list_behind_name
  obtain ⟨middle, hrun, hawaits⟩ := (ofTokens_of_documented hspells hwithin).2
    [.word "public", .word "void", .word "f", .mark .openParameters, .word "A"] (.word "x")
    [.word "B", .mark .closeList, .mark .closeParameters]
    (by simp [Token.ofFragments, Token.ofFragment, hlexemes, Token.ofLexeme])
  -- behind the type the reader awaits no name of a type, but that of the parameter
  have hnamed : ∀ r ∈ ((Reader.start .method none).run
      [.word "public", .word "void", .word "f", .mark .openParameters, .word "A"]).toOption,
      r.awaitsName = false := by decide +kernel
  simp [hrun, Except.toOption, hawaits] at hnamed

end ApiPages.Signature
