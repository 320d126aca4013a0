/-
# How signatures are spelled

The documentation gives signatures a small grammar.  A type is a name, then at most one list of
arguments between angle brackets, then array suffixes; a parameter is a type and a name; a member
is its annotations and modifiers, its type and name, and, unless it is a field, its parameters
between parentheses and possibly a `throws` clause.

The reader accepts more than that.  It opens an argument list wherever the innermost level has a
name and no open list: also behind a list that was closed, behind an array suffix, and behind the
name of a parameter, whose type then goes on growing.

This file has both grammars.  They agree above the level of types, so that part is stated once,
over any grammar of types and parameters (`Grammar`, `Spells`).  `Grammar.documented` is the
grammar of the documentation.  `Grammar.grown` follows the reader: it says how the frame of a type
grows token by token (`Grows`), and its flag says whether a list may be opened behind anything but
the name of its type.  With the flag down the two agree (`spells_documented_iff`).
-/
import ApiPages.Proofs.Signature.Stack
import ApiPages.Signature.Reader

namespace ApiPages.Signature

/-! ## 1. Places and names -/

/-- A place of a signature where a type is read. -/
inductive Place where
  | annotated
  | returnType
  | parameter
  /-- A parameter of which the name has been read, too. -/
  | namedParameter (name : String)
  | exception

namespace Place

/-- The state of a reader that is at the place. -/
def state : Place → TypeStack → State
  | annotated, type => .annotated type
  | returnType, type => .returnType type
  | parameter, type => .parameter type none
  | namedParameter name, type => .parameter type (some name)
  | exception, type => .throwsClause type

theorem state_inj {place place' : Place} {type type' : TypeStack}
    (h : place.state type = place'.state type') : place = place' ∧ type = type' := by
  cases place <;> cases place' <;> simp_all [state]

/-- Whether array suffixes may stand behind types. -/
def hasSuffixes : Place → Bool
  | returnType | parameter => true
  | _ => false

/-- Whether argument lists may have more than one argument. -/
def hasCommas : Place → Bool
  | annotated => false
  | _ => true

end Place

/-- The reader is at a place, or in one of the three states between types. -/
theorem State.place_or_between (s : State) :
    (∃ (place : Place) (type : TypeStack), s = place.state type) ∨
      s = .modifiers ∨ s = .name ∨ s = .complete := by
  cases s with
  | modifiers => simp
  | annotated type => exact Or.inl ⟨.annotated, type, rfl⟩
  | returnType type => exact Or.inl ⟨.returnType, type, rfl⟩
  | name => simp
  | parameter type name =>
    cases name with
    | none => exact Or.inl ⟨.parameter, type, rfl⟩
    | some w => exact Or.inl ⟨.namedParameter w, type, rfl⟩
  | complete => simp
  | throwsClause type => exact Or.inl ⟨.exception, type, rfl⟩

/-- `t.Names n`: the token stands for the type name `n`, as a word or as an anchor that leads to
it. -/
inductive Token.Names : Token → String → Prop
  | word (n : String) : Names (.word n) n
  | anchor {e : Element} {r : ClassReference} {type : TypeName}
      (href : e.classReference = .ok r) (htype : r.typeName = .ok type) :
      Names (.anchor e) type.name

/-- A name is never written as a mark. -/
theorem Token.Names.ne_mark {t : Token} {n : String} (h : t.Names n) (m : Mark) : t ≠ .mark m := by
  cases h <;> simp

/-- Whether a token is a modifier keyword. -/
def Token.isKeyword : Token → Bool
  | .word text => (Modifier.ofKeyword? text).isSome
  | _ => false

/-! ## 2. Lists -/

/-- Things spelled one after the other, with a comma behind each. -/
inductive CommaEnded {α : Type} (P : α → List Token → Prop) : List α → List Token → Prop
  | nil : CommaEnded P [] []
  | snoc {as : List α} {a : α} {ts us : List Token} (init : CommaEnded P as ts) (last : P a us) :
      CommaEnded P (as ++ [a]) (ts ++ us ++ [.mark .comma])

/-- One or more things, with commas between them. -/
inductive Listed {α : Type} (P : α → List Token → Prop) : List α → List Token → Prop
  | mk {as : List α} {a : α} {ts us : List Token} (init : CommaEnded P as ts) (last : P a us) :
      Listed P (as ++ [a]) (ts ++ us)

theorem CommaEnded.mono {α : Type} {P Q : α → List Token → Prop} (hPQ : ∀ a ts, P a ts → Q a ts)
    {as : List α} {ts : List Token} (h : CommaEnded P as ts) : CommaEnded Q as ts := by
  induction h with
  | nil => exact .nil
  | snoc _ last ih => exact .snoc ih (hPQ _ _ last)

theorem CommaEnded.eq_nil {α : Type} {P : α → List Token → Prop} {ts : List Token}
    (h : CommaEnded P [] ts) : ts = [] := by
  generalize has : ([] : List α) = as at h
  cases h with
  | nil => rfl
  | snoc => simp at has

theorem Listed.mono {α : Type} {P Q : α → List Token → Prop} (hPQ : ∀ a ts, P a ts → Q a ts)
    {as : List α} {ts : List Token} (h : Listed P as ts) : Listed Q as ts := by
  cases h with
  | mk init last => exact .mk (init.mono hPQ) (hPQ _ _ last)

/-! ## 3. Signatures over any grammar of types -/

/-- A grammar of types, at each place, and of parameters. -/
structure Grammar where
  type : Place → TypeName → List Token → Prop
  parameter : Parameter → List Token → Prop

/-- What stands before the type or name of a member: modifier keywords, and annotations each ended
by a line break. -/
inductive Preamble (G : Grammar) : Modifiers → List TypeName → List Token → Prop
  | nil : Preamble G .empty [] []
  | modifier {ms : Modifiers} {as : List TypeName} {ts : List Token} {m : Modifier} {w : String}
      (init : Preamble G ms as ts) (hw : Modifier.ofKeyword? w = some m) :
      Preamble G (ms.insert m) as (ts ++ [.word w])
  | annotated {ms : Modifiers} {as : List TypeName} {a : TypeName} {ts us : List Token}
      (init : Preamble G ms as ts) (ha : G.type .annotated a us) :
      Preamble G ms (as ++ [a]) (ts ++ .mark .atSign :: us ++ [.lineBreak])

/-- A member up to its name.  A constructor has no type.  The first token behind the modifiers
must not be a keyword, and the name of a method or field not an array suffix. -/
inductive Heading (G : Grammar) : MemberKind → Signature → List Token → Prop
  | constructor {ms : Modifiers} {as : List TypeName} {ts : List Token} {w : String}
      (preamble : Preamble G ms as ts) (hw : Modifier.ofKeyword? w = none) :
      Heading G .constructor { modifiers := ms, annotations := as, name := some w }
        (ts ++ [.word w])
  | typed {kind : MemberKind} {ms : Modifiers} {as : List TypeName} {t : TypeName}
      {ts us : List Token} {w : String} (hkind : kind ≠ .constructor)
      (preamble : Preamble G ms as ts) (type : G.type .returnType t us)
      (hfirst : ∀ u ∈ us.head?, u.isKeyword = false) (hw : isArraySuffix w = false) :
      Heading G kind
        { modifiers := ms, annotations := as, returnType := some t, name := some w }
        (ts ++ us ++ [.word w])

/-- A heading has a name, and neither parameters nor exceptions. -/
theorem Heading.read {G : Grammar} {kind : MemberKind} {s : Signature} {ts : List Token}
    (h : Heading G kind s ts) :
    s.parameters = [] ∧ s.exceptions = [] ∧ s.name.isSome = true := by
  cases h <;> simp

/-- The parameters of a member, of which there may be none. -/
inductive Parameters (G : Grammar) : List Parameter → List Token → Prop
  | none : Parameters G [] []
  | some {ps : List Parameter} {ts : List Token} (h : Listed G.parameter ps ts) :
      Parameters G ps ts

/-- The `throws` clause of a member, of which there may be none. -/
inductive Exceptions (G : Grammar) : List TypeName → List Token → Prop
  | none : Exceptions G [] []
  | some {es : List TypeName} {ts : List Token} (h : Listed (G.type .exception) es ts) :
      Exceptions G es (.word "throws" :: ts)

/-- **How a signature is spelled.**  A field is its heading; any other member has parameters and
may have a `throws` clause. -/
inductive Spells (G : Grammar) : MemberKind → Signature → List Token → Prop
  | field {s : Signature} {ts : List Token} (heading : Heading G .field s ts) :
      Spells G .field s ts
  | member {kind : MemberKind} {s : Signature} {ts us vs : List Token} {ps : List Parameter}
      {es : List TypeName} (hkind : kind ≠ .field) (heading : Heading G kind s ts)
      (parameters : Parameters G ps us) (exceptions : Exceptions G es vs) :
      Spells G kind { s with parameters := ps, exceptions := es }
        (ts ++ .mark .openParameters :: us ++ .mark .closeParameters :: vs)

section Mono

variable {G H : Grammar} (htype : ∀ place t ts, G.type place t ts → H.type place t ts)
  (hparameter : ∀ p ts, G.parameter p ts → H.parameter p ts)

include htype

theorem Preamble.mono {ms : Modifiers} {as : List TypeName} {ts : List Token}
    (h : Preamble G ms as ts) : Preamble H ms as ts := by
  induction h with
  | nil => exact .nil
  | modifier _ hw ih => exact .modifier ih hw
  | annotated _ ha ih => exact .annotated ih (htype _ _ _ ha)

theorem Heading.mono {kind : MemberKind} {s : Signature} {ts : List Token}
    (h : Heading G kind s ts) : Heading H kind s ts := by
  cases h with
  | constructor preamble hw => exact .constructor (preamble.mono htype) hw
  | typed hkind preamble type hfirst hw =>
    exact .typed hkind (preamble.mono htype) (htype _ _ _ type) hfirst hw

include hparameter

/-- A wider grammar of types and parameters spells more signatures. -/
theorem Spells.mono {kind : MemberKind} {s : Signature} {ts : List Token}
    (h : Spells G kind s ts) : Spells H kind s ts := by
  cases h with
  | field heading => exact .field (heading.mono htype)
  | member hkind heading parameters exceptions =>
    refine .member hkind (heading.mono htype) ?_ ?_
    · cases parameters with
      | none => exact .none
      | some h => exact .some (h.mono hparameter)
    · cases exceptions with
      | none => exact .none
      | some h => exact .some (h.mono (htype _))

end Mono

/-! ## 4. The grammar of the documentation -/

mutual

/-- **A type as documented**: a name, at most one argument list, then array suffixes. -/
inductive WrittenType (place : Place) : TypeName → List Token → Prop
  | plain {n : String} {t : Token} {ws : List String} (hname : t.Names n)
      (hplace : ws ≠ [] → place.hasSuffixes = true) (hws : ∀ w ∈ ws, isArraySuffix w = true) :
      WrittenType place ⟨ws.foldl (· ++ ·) n, []⟩ (t :: ws.map .word)
  | generic {n : String} {t : Token} {as : List TypeName} {us : List Token} {ws : List String}
      (hname : t.Names n) (arguments : WrittenArguments place as us)
      (hplace : ws ≠ [] → place.hasSuffixes = true) (hws : ∀ w ∈ ws, isArraySuffix w = true) :
      WrittenType place ⟨ws.foldl (· ++ ·) n, as⟩
        (t :: .mark .openList :: us ++ .mark .closeList :: ws.map .word)

/-- The arguments of a list, with commas between them where the place has commas. -/
inductive WrittenArguments (place : Place) : List TypeName → List Token → Prop
  | one {a : TypeName} {ts : List Token} (h : WrittenType place a ts) :
      WrittenArguments place [a] ts
  | more {as : List TypeName} {a : TypeName} {ts us : List Token}
      (init : WrittenArguments place as ts) (hplace : place.hasCommas = true)
      (last : WrittenType place a us) :
      WrittenArguments place (as ++ [a]) (ts ++ .mark .comma :: us)

end

/-- **A parameter as documented**: a type, then a name that is no array suffix, and nothing more. -/
inductive WrittenParameter : Parameter → List Token → Prop
  | mk {t : TypeName} {ts : List Token} {w : String} (type : WrittenType .parameter t ts)
      (hw : isArraySuffix w = false) : WrittenParameter ⟨t, w⟩ (ts ++ [.word w])

/-- **The grammar of the documentation.** -/
def Grammar.documented : Grammar := ⟨WrittenType, WrittenParameter⟩

/-! ## 5. The grammar of the reader -/

/-- `Grows free place f ts g`: at the place, the tokens `ts` take the frame `f` of a type to the
frame `g`.  An argument is a frame that grows from nothing and is then finished by a comma or a
closing bracket.  A list is opened right behind the name; elsewhere only if `free`. -/
inductive Grows (free : Bool) (place : Place) : TypeFrame → List Token → TypeFrame → Prop
  | refl (f : TypeFrame) : Grows free place f [] f
  | name {f g : TypeFrame} {ts : List Token} {t : Token} {n : String}
      (init : Grows free place f ts g) (hname : g.name = none) (hopen : g.isOpen = false)
      (ht : t.Names n) :
      Grows free place f (ts ++ [t]) { g with name := some n }
  | suffix {f g : TypeFrame} {ts : List Token} {n w : String} (init : Grows free place f ts g)
      (hname : g.name = some n) (hopen : g.isOpen = false) (hplace : place.hasSuffixes = true)
      (hw : isArraySuffix w = true) :
      Grows free place f (ts ++ [.word w]) { g with name := some (n ++ w) }
  | openNamed {f g : TypeFrame} {ts : List Token} {t : Token} {n : String}
      (init : Grows free place f ts g) (hname : g.name = none) (hopen : g.isOpen = false)
      (ht : t.Names n) :
      Grows free place f (ts ++ [t, .mark .openList]) { g with name := some n, isOpen := true }
  | openMore {f g : TypeFrame} {ts : List Token} {n : String} (hfree : free = true)
      (init : Grows free place f ts g) (hname : g.name = some n) (hopen : g.isOpen = false) :
      Grows free place f (ts ++ [.mark .openList]) { g with isOpen := true }
  | next {f g : TypeFrame} {ts us : List Token} {a : TypeName} (init : Grows free place f ts g)
      (hopen : g.isOpen = true) (hplace : place.hasCommas = true)
      (argument : Grows free place .empty us (.finished a)) :
      Grows free place f (ts ++ us ++ [.mark .comma])
        { g with arguments := g.arguments ++ [a] }
  | close {f g : TypeFrame} {ts us : List Token} {a : TypeName} (init : Grows free place f ts g)
      (hopen : g.isOpen = true) (argument : Grows free place .empty us (.finished a)) :
      Grows free place f (ts ++ us ++ [.mark .closeList])
        { g with arguments := g.arguments ++ [a], isOpen := false }

/-- Growth in two parts is growth. -/
theorem Grows.trans {free : Bool} {place : Place} {f g h : TypeFrame} {ts us : List Token}
    (hfg : Grows free place f ts g) (hgh : Grows free place g us h) :
    Grows free place f (ts ++ us) h := by
  induction hgh with
  | refl => simpa using hfg
  | name _ hname hopen ht ih => simpa using (ih hfg).name hname hopen ht
  | suffix _ hname hopen hplace hw ih => simpa using (ih hfg).suffix hname hopen hplace hw
  | openNamed _ hname hopen ht ih => simpa using (ih hfg).openNamed hname hopen ht
  | openMore hfree _ hname hopen ih => simpa using Grows.openMore hfree (ih hfg) hname hopen
  | next _ hopen hplace argument ih => simpa using (ih hfg).next hopen hplace argument
  | close _ hopen argument ih => simpa using (ih hfg).close hopen argument

/-- A frame that still has no name has not grown, unless its list was open. -/
theorem Grows.eq_of_unnamed {free : Bool} {place : Place} {f g : TypeFrame} {ts : List Token}
    (h : Grows free place f ts g) (hf : f.isOpen = false) (hg : g.name = none) :
    ts = [] ∧ g = f := by
  induction h with
  | refl => exact ⟨rfl, rfl⟩
  | name => simp at hg
  | suffix => simp at hg
  | openNamed => simp at hg
  | openMore _ _ hname _ ih => simp [hname] at hg
  | next _ hopen _ _ ih =>
    obtain ⟨-, rfl⟩ := ih hf hg
    simp [hf] at hopen
  | close _ hopen _ ih =>
    obtain ⟨-, rfl⟩ := ih hf hg
    simp [hf] at hopen

/-- The first token of a type names it. -/
theorem Grows.head_names {free : Bool} {place : Place} {f g : TypeFrame} {ts : List Token}
    (h : Grows free place f ts g) (hf : f.name = none) (hopen : f.isOpen = false) :
    (ts = [] ∧ g = f) ∨ ∃ t rest n, ts = t :: rest ∧ t.Names n := by
  induction h with
  | refl => exact Or.inl ⟨rfl, rfl⟩
  | name _ _ _ ht ih =>
    rcases ih hf hopen with ⟨rfl, -⟩ | ⟨u, rest, n, rfl, hu⟩
    · exact Or.inr ⟨_, [], _, rfl, ht⟩
    · exact Or.inr ⟨u, _, n, rfl, hu⟩
  | suffix _ hname _ _ _ ih =>
    rcases ih hf hopen with ⟨-, rfl⟩ | ⟨u, rest, n, rfl, hu⟩
    · simp [hf] at hname
    · exact Or.inr ⟨u, _, n, rfl, hu⟩
  | openNamed _ _ _ ht ih =>
    rcases ih hf hopen with ⟨rfl, -⟩ | ⟨u, rest, n, rfl, hu⟩
    · exact Or.inr ⟨_, _, _, rfl, ht⟩
    · exact Or.inr ⟨u, _, n, rfl, hu⟩
  | openMore _ _ hname _ ih =>
    rcases ih hf hopen with ⟨-, rfl⟩ | ⟨u, rest, n, rfl, hu⟩
    · simp [hf] at hname
    · exact Or.inr ⟨u, _, n, rfl, hu⟩
  | next _ hlist _ _ ih _ =>
    rcases ih hf hopen with ⟨-, rfl⟩ | ⟨u, rest, n, rfl, hu⟩
    · simp [hopen] at hlist
    · exact Or.inr ⟨u, _, n, rfl, hu⟩
  | close _ hlist _ ih _ =>
    rcases ih hf hopen with ⟨-, rfl⟩ | ⟨u, rest, n, rfl, hu⟩
    · simp [hopen] at hlist
    · exact Or.inr ⟨u, _, n, rfl, hu⟩

/-- A parameter as it is read: its type grows, its name is read, and its type grows on. -/
inductive GrownParameter (free : Bool) : Parameter → List Token → Prop
  | mk {t t' : TypeName} {ts us : List Token} {w : String}
      (type : Grows free .parameter .empty ts (.finished t)) (hw : isArraySuffix w = false)
      (more : Grows free (.namedParameter w) (.finished t) us (.finished t')) :
      GrownParameter free ⟨t', w⟩ (ts ++ .word w :: us)

/-- The grammar of the reader. -/
def Grammar.grown (free : Bool) : Grammar :=
  ⟨fun place t ts => Grows free place .empty ts (.finished t), GrownParameter free⟩

end ApiPages.Signature
