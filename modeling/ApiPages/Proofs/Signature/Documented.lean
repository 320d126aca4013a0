/-
# The documented grammar is the grammar of the reader with the flag down

A type that is written as documented grows token by token (`WrittenType.grows`).  Conversely a
frame that grows from nothing, with lists opened only behind names, is always a beginning of such
a type (`Shape`).  Behind the name of a parameter nothing can grow then.  So the two grammars
spell the same signatures (`spells_documented_iff`).
-/
import ApiPages.Proofs.Signature.Spelling

namespace ApiPages.Signature

variable {place : Place}

/-! ## 1. What is written grows -/

/-- Suffixes behind a named frame. -/
theorem Grows.suffixes {free : Bool} {f g : TypeFrame} {ts : List Token} {n : String}
    {ws : List String} (h : Grows free place f ts g) (hname : g.name = some n)
    (hopen : g.isOpen = false) (hplace : ws ≠ [] → place.hasSuffixes = true)
    (hws : ∀ w ∈ ws, isArraySuffix w = true) :
    Grows free place f (ts ++ ws.map .word) { g with name := some (ws.foldl (· ++ ·) n) } := by
  induction ws generalizing g ts n with
  | nil => simpa [← hname] using h
  | cons w ws ih =>
    have hnext := h.suffix hname hopen (hplace (by simp)) (hws w (by simp))
    simpa using ih hnext rfl hopen (fun _ => hplace (by simp)) fun v hv => hws v (by simp [hv])

mutual

theorem WrittenType.grows {t : TypeName} {ts : List Token} :
    WrittenType place t ts → Grows false place .empty ts (.finished t)
  | .plain hname hplace hws =>
    (Grows.name (.refl .empty) rfl rfl hname).suffixes rfl rfl hplace hws
  | .generic hname arguments hplace hws => by
    have hlist : Grows false place .empty _ _ := .openNamed (.refl .empty) rfl rfl hname
    obtain ⟨init, a, us, vs, rfl, rfl, hinit, hlast⟩ := arguments.grows (f := ⟨_, [], true⟩) rfl
    have hclosed := (hlist.trans hinit).close rfl hlast
    simpa [TypeFrame.finished] using hclosed.suffixes rfl rfl hplace hws

theorem WrittenArguments.grows {as : List TypeName} {ts : List Token} {f : TypeFrame}
    (hopen : f.isOpen = true) : WrittenArguments place as ts →
      ∃ init a us vs, as = init ++ [a] ∧ ts = us ++ vs ∧
        Grows false place f us { f with arguments := f.arguments ++ init } ∧
        Grows false place .empty vs (.finished a)
  | .one h => ⟨[], _, [], _, rfl, rfl, by simpa using Grows.refl f, h.grows⟩
  | .more init hplace last => by
    obtain ⟨done, a, us, vs, rfl, rfl, hinit, hlast⟩ := init.grows hopen
    have hnext := hinit.next hopen hplace hlast
    exact ⟨done ++ [a], _, us ++ vs ++ [.mark .comma], _, rfl, by simp, by simpa using hnext,
      last.grows⟩

end

/-! ## 2. What has grown is written -/

/-- A suffix more. -/
theorem WrittenType.suffix {n w : String} {as : List TypeName} {ts : List Token}
    (h : WrittenType place ⟨n, as⟩ ts) (hplace : place.hasSuffixes = true)
    (hw : isArraySuffix w = true) : WrittenType place ⟨n ++ w, as⟩ (ts ++ [.word w]) := by
  cases h with
  | @plain m t ws hname _ hws =>
    have hmore : ∀ v ∈ ws ++ [w], isArraySuffix v = true := by
      simpa [or_imp, forall_and] using ⟨hws, hw⟩
    have h : WrittenType place _ _ := .plain hname (fun _ => hplace) hmore
    simpa using h
  | @generic m t as us ws hname arguments _ hws =>
    have hmore : ∀ v ∈ ws ++ [w], isArraySuffix v = true := by
      simpa [or_imp, forall_and] using ⟨hws, hw⟩
    simpa using WrittenType.generic hname arguments (fun _ => hplace) hmore

/-- The arguments of an open list, each with the comma behind it; there may be none yet. -/
inductive Pending (place : Place) : List TypeName → List Token → Prop
  | nil : Pending place [] []
  | snoc {as : List TypeName} {ts : List Token} (h : WrittenArguments place as ts)
      (hplace : place.hasCommas = true) : Pending place as (ts ++ [.mark .comma])

/-- The last argument of a list. -/
theorem Pending.last {as : List TypeName} {a : TypeName} {ts us : List Token}
    (h : Pending place as ts) (ha : WrittenType place a us) :
    WrittenArguments place (as ++ [a]) (ts ++ us) := by
  cases h with
  | nil => exact .one ha
  | snoc h hplace => simpa using h.more hplace ha

/-- What a frame that has grown from nothing looks like: it is the empty one, or a type that is
written so far, or the list of a named type is open. -/
inductive Shape (place : Place) : TypeFrame → List Token → Prop
  | empty : Shape place .empty []
  | written {t : TypeName} {ts : List Token} (h : WrittenType place t ts) :
      Shape place (.finished t) ts
  | listed {n : String} {t : Token} {as : List TypeName} {us : List Token} (hname : t.Names n)
      (arguments : Pending place as us) :
      Shape place ⟨some n, as, true⟩ (t :: .mark .openList :: us)

/-- A finished frame is that of a written type. -/
theorem Shape.written_of_finished {t : TypeName} {ts : List Token}
    (h : Shape place (.finished t) ts) : WrittenType place t ts := by
  generalize hf : TypeFrame.finished t = f at h
  cases h with
  | empty => exact nomatch hf
  | written h => exact TypeFrame.finished_inj hf ▸ h
  | listed => exact nomatch hf

/-- **With the flag down a frame grows as documented.** -/
theorem Shape.of_grows {g : TypeFrame} {ts : List Token} (h : Grows false place .empty ts g) :
    Shape place g ts := by
  generalize hfree : false = free at h
  generalize hf : TypeFrame.empty = f at h
  induction h with
  | refl => exact hf ▸ .empty
  | name _ hname _ ht ih =>
    cases ih hf with
    | empty => exact .written (@WrittenType.plain place _ _ [] ht (by simp) (by simp))
    | written => simp at hname
    | listed => simp at hname
  | suffix _ hname hopen hplace hw ih =>
    cases ih hf with
    | empty => simp at hname
    | @written t _ h =>
      obtain ⟨n, as⟩ := t
      obtain rfl := Option.some.inj hname
      exact .written (h.suffix hplace hw)
    | listed => simp at hopen
  | openNamed _ hname _ ht ih =>
    cases ih hf with
    | empty => exact .listed ht .nil
    | written => simp at hname
    | listed => simp at hname
  | openMore h => simp [← hfree] at h
  | next _ hopen hplace _ ih ihargument =>
    cases ih hf with
    | empty => simp at hopen
    | written => simp at hopen
    | listed hname arguments =>
      have harguments := arguments.last (ihargument rfl).written_of_finished
      simpa using Shape.listed hname (.snoc harguments hplace)
  | close _ hopen _ ih ihargument =>
    cases ih hf with
    | empty => simp at hopen
    | written => simp at hopen
    | listed hname arguments =>
      have harguments := arguments.last (ihargument rfl).written_of_finished
      have h := @WrittenType.generic place _ _ _ _ [] hname harguments (by simp) (by simp)
      simpa [TypeFrame.finished] using Shape.written h

/-- The type of a named parameter cannot grow with the flag down. -/
theorem Grows.eq_of_named {f g : TypeFrame} {ts : List Token} (h : Grows false place f ts g)
    (hplace : place.hasSuffixes = false) (hname : f.name ≠ none) (hopen : f.isOpen = false) :
    ts = [] ∧ g = f := by
  generalize hfree : false = free at h
  induction h with
  | refl => exact ⟨rfl, rfl⟩
  | name _ hnone _ _ ih =>
    obtain ⟨-, rfl⟩ := ih hname hopen
    exact absurd hnone hname
  | suffix _ _ _ hsuffixes => simp [hplace] at hsuffixes
  | openNamed _ hnone _ _ ih =>
    obtain ⟨-, rfl⟩ := ih hname hopen
    exact absurd hnone hname
  | openMore h => simp [← hfree] at h
  | next _ hlist _ _ ih =>
    obtain ⟨-, rfl⟩ := ih hname hopen
    simp [hopen] at hlist
  | close _ hlist _ ih =>
    obtain ⟨-, rfl⟩ := ih hname hopen
    simp [hopen] at hlist

/-! ## 3. Signatures -/

/-- **The documented grammar spells the same signatures as that of the reader with the flag
down.** -/
theorem spells_documented_iff {kind : MemberKind} {s : Signature} {ts : List Token} :
    Spells .documented kind s ts ↔ Spells (.grown false) kind s ts := by
  constructor
  · refine Spells.mono (fun _ _ _ => WrittenType.grows) fun p ts h => ?_
    cases h with
    | mk type hw => exact .mk type.grows hw (.refl _)
  · refine Spells.mono (fun _ _ _ h => (Shape.of_grows h).written_of_finished) fun p ts h => ?_
    cases h with
    | mk type hw more =>
      obtain ⟨rfl, hfinished⟩ := more.eq_of_named rfl (by simp) rfl
      obtain rfl := TypeFrame.finished_inj hfinished
      exact .mk (Shape.of_grows type).written_of_finished hw

end ApiPages.Signature
