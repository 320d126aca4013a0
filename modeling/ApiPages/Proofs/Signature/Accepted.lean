/-
# What the reader has accepted

At every moment the tokens that the reader has gone through spell what it holds: the finished
parts of the signature, and of the type it is in the frames that are still open
(`Consumed`).  Each token keeps this (`Consumed.step`), so a signature that is accepted is spelled
by its tokens in the grammar of the reader (`spells_of_ofTokens`).

The flag of the grammar says whether an argument list may be opened behind anything but the name
of its type.  With the flag up every token keeps the invariant.  With the flag down an opening
bracket keeps it only together with the name before it, so the two are taken as one step
(`Consumed.step_open`).
-/
import ApiPages.Proofs.Signature.Step

namespace ApiPages.Signature

variable {free : Bool}

/-! ## 1. Open frames -/

/-- `Stacked free place f frames ts`: the tokens `ts` take the frame `f` of a type to a stack with
the given frames, the innermost first.  Each frame below another one has its list open. -/
inductive Stacked (free : Bool) (place : Place) (f : TypeFrame) : List TypeFrame → List Token → Prop
  | root {ts : List Token} {g : TypeFrame} (h : Grows free place f ts g) :
      Stacked free place f [g] ts
  | argument {ts us : List Token} {p g : TypeFrame} {below : List TypeFrame}
      (init : Stacked free place f (p :: below) ts) (hopen : p.isOpen = true)
      (h : Grows free place .empty us g) : Stacked free place f (g :: p :: below) (ts ++ us)

/-- The innermost frame may grow on. -/
theorem Stacked.grow {place : Place} {f p p' : TypeFrame} {below : List TypeFrame}
    {ts us : List Token} (h : Stacked free place f (p :: below) ts)
    (hgrow : Grows free place p us p') : Stacked free place f (p' :: below) (ts ++ us) := by
  cases h with
  | root h => exact .root (h.trans hgrow)
  | argument init hopen h =>
    rw [List.append_assoc]
    exact .argument init hopen (h.trans hgrow)

/-- The tokens `ts` take the frame `f` to the type under construction. -/
structure Reading (free : Bool) (place : Place) (f : TypeFrame) (type : TypeStack)
    (ts : List Token) : Prop where
  stacked : Stacked free place f type.frames ts
  /-- No list is open on the innermost level. -/
  closed : type.current.isOpen = false

namespace Reading

variable {place : Place} {f : TypeFrame} {type next : TypeStack} {ts : List Token}

/-- Before the first token. -/
theorem start (free : Bool) (place : Place) (limit : Option Nat) :
    Reading free place .empty (.start limit) [] :=
  ⟨.root (.refl _), rfl⟩

/-- The frames when a type is finished. -/
theorem grows_of_toType (h : Reading free place f type ts) {a : TypeName}
    (ha : type.toType = .ok a) : Grows free place f ts (.finished a) := by
  have hstacked := h.stacked
  rw [TypeStack.toType_eq_ok_iff.mp ha] at hstacked
  cases hstacked with
  | root h => exact h

/-- The only frame of a stack without arguments, whose type has a name. -/
theorem frames_of_named (h : Reading free place f type ts) (hargument : type.inArgument = false)
    {n : String} (hname : type.current.name = some n) :
    type.frames = [.finished ⟨n, type.current.arguments⟩] := by
  have hclosed := h.closed
  rw [type.inArgument_eq_false_iff.mp hargument]
  cases hcurrent : type.current
  simp_all [TypeFrame.finished]

/-- Nothing has been read of a stack without arguments, whose type has no name. -/
theorem eq_nil_of_unnamed (h : Reading free place .empty type ts)
    (hargument : type.inArgument = false) (hname : type.current.name = none) : ts = [] := by
  have hstacked := h.stacked
  rw [type.inArgument_eq_false_iff.mp hargument] at hstacked
  cases hstacked with
  | root h => exact (h.eq_of_unnamed rfl hname).1

/-- **A step of the type keeps what has been read**, an opening bracket only if it is free. -/
theorem step (h : Reading free place f type ts) {t : Token} {s : TypeStep}
    (ht : place.TypeToken t s) (hnext : type.step s = .done next)
    (hfree : t = .mark .openList → free = true) : Reading free place f next (ts ++ [t]) := by
  obtain ⟨hstacked, hclosed⟩ := h
  have hframes := TypeStack.frames_of_step hnext
  rw [type.frames_eq_cons] at hframes hstacked
  generalize type.current = g at hframes hstacked hclosed
  generalize type.frames.tail = below at hframes hstacked
  generalize htarget : next.frames = frames at hframes
  -- the innermost frame of the next stack, for the second half of the goal
  have closed_of {g' : TypeFrame} {below' : List TypeFrame} (heq : frames = g' :: below')
      (hg' : g'.isOpen = false) : next.current.isOpen = false := by
    rw [next.frames_eq_cons, heq] at htarget
    rw [(List.cons.inj htarget).1, hg']
  cases ht with
  | name ht =>
    cases hframes with
    | setName hname =>
      have hgrown : Stacked free place f (_ :: below) (ts ++ [t]) :=
        hstacked.grow (.name (.refl g) hname hclosed ht)
      exact ⟨htarget ▸ hgrown, closed_of rfl hclosed⟩
  | @suffix w hplace hw =>
    cases hframes with
    | appendSuffix hname =>
      have hgrown : Stacked free place f (_ :: below) (ts ++ [.word w]) :=
        hstacked.grow (.suffix (.refl g) hname hclosed hplace hw)
      exact ⟨htarget ▸ hgrown, closed_of rfl hclosed⟩
  | openList =>
    cases hframes with
    | openList hname hopen =>
      have hgrown := hstacked.grow (.openMore (hfree rfl) (.refl g) hname hopen)
      refine ⟨htarget ▸ ?_, closed_of rfl rfl⟩
      simpa using hgrown.argument rfl (.refl .empty)
  | comma hplace =>
    cases hframes with
    | @nextArgument _ p _ a ha hopen =>
      cases hstacked with
      | argument init _ hg =>
        rw [(TypeFrame.toType_eq_ok_iff hclosed).mp ha] at hg
        have hgrown := init.grow (.next (.refl p) hopen hplace hg)
        refine ⟨htarget ▸ ?_, closed_of rfl rfl⟩
        simpa using hgrown.argument hopen (.refl .empty)
  | closeList =>
    cases hframes with
    | @closeList _ p _ a ha hopen =>
      cases hstacked with
      | argument init _ hg =>
        rw [(TypeFrame.toType_eq_ok_iff hclosed).mp ha] at hg
        have hgrown := init.grow (.close (.refl p) hopen hg)
        refine ⟨htarget ▸ ?_, closed_of rfl rfl⟩
        simpa using hgrown

/-- **A name and the opening bracket behind it keep what has been read.** -/
theorem step_open (h : Reading free place f type ts) {t : Token} {n : String} {after : TypeStack}
    (ht : t.Names n) (hnext : type.setName n = .done next) (hafter : next.openList = .done after) :
    Reading free place f after (ts ++ [t, .mark .openList]) := by
  obtain ⟨hstacked, hclosed⟩ := h
  have hframes : TypeStack.FrameStep type.frames (.setName n) next.frames :=
    TypeStack.frames_of_step hnext
  have hframes' : TypeStack.FrameStep next.frames .openList after.frames :=
    TypeStack.frames_of_step hafter
  rw [type.frames_eq_cons] at hframes hstacked
  generalize type.current = g at hframes hstacked hclosed
  generalize type.frames.tail = below at hframes hstacked
  generalize next.frames = middle at hframes hframes'
  generalize htarget : after.frames = frames at hframes'
  cases hframes with
  | setName hname =>
    cases hframes' with
    | openList hname' hopen =>
      have hgrown := hstacked.grow (.openNamed (.refl g) hname hclosed ht)
      constructor
      · rw [htarget]
        simpa using hgrown.argument rfl (.refl .empty)
      · rw [after.frames_eq_cons] at htarget
        rw [(List.cons.inj htarget).1]
        rfl

end Reading

/-! ## 2. The reader -/

/-- How a type begins: `Begun free kind place f s ts` says that the tokens `ts` lead to the place,
where the type starts from the frame `f` and `s` has been read. -/
inductive Begun (free : Bool) (kind : MemberKind) :
    Place → TypeFrame → Signature → List Token → Prop
  | annotated {ms : Modifiers} {as : List TypeName} {ts : List Token}
      (preamble : Preamble (.grown free) ms as ts) :
      Begun free kind .annotated .empty { modifiers := ms, annotations := as }
        (ts ++ [.mark .atSign])
  | returnType {ms : Modifiers} {as : List TypeName} {ts : List Token} (hkind : kind ≠ .constructor)
      (preamble : Preamble (.grown free) ms as ts) :
      Begun free kind .returnType .empty { modifiers := ms, annotations := as } ts
  | parameter {s : Signature} {ps : List Parameter} {ts us : List Token} (hkind : kind ≠ .field)
      (heading : Heading (.grown free) kind s ts) (done : CommaEnded (GrownParameter free) ps us) :
      Begun free kind .parameter .empty { s with parameters := ps }
        (ts ++ .mark .openParameters :: us)
  | namedParameter {s : Signature} {ps : List Parameter} {t : TypeName} {w : String}
      {ts us vs : List Token} (hkind : kind ≠ .field) (heading : Heading (.grown free) kind s ts)
      (done : CommaEnded (GrownParameter free) ps us)
      (named : Grows free .parameter .empty vs (.finished t)) (hw : isArraySuffix w = false) :
      Begun free kind (.namedParameter w) (.finished t) { s with parameters := ps }
        (ts ++ .mark .openParameters :: us ++ vs ++ [.word w])
  | exception {s : Signature} {ps : List Parameter} {es : List TypeName} {ts us vs : List Token}
      (hkind : kind ≠ .field) (heading : Heading (.grown free) kind s ts)
      (parameters : Parameters (.grown free) ps us)
      (done : CommaEnded ((Grammar.grown free).type .exception) es vs) :
      Begun free kind .exception .empty { s with parameters := ps, exceptions := es }
        (ts ++ .mark .openParameters :: us ++ .mark .closeParameters :: .word "throws" :: vs)

/-- **What the reader holds is spelled by the tokens it has gone through.** -/
inductive Consumed (free : Bool) (kind : MemberKind) : State → Signature → List Token → Prop
  | modifiers {ms : Modifiers} {as : List TypeName} {ts : List Token}
      (preamble : Preamble (.grown free) ms as ts) :
      Consumed free kind .modifiers { modifiers := ms, annotations := as } ts
  | name {s : Signature} {ts : List Token} (heading : Heading (.grown free) kind s ts) :
      Consumed free kind .name s ts
  | complete {s : Signature} {ps : List Parameter} {ts us : List Token} (hkind : kind ≠ .field)
      (heading : Heading (.grown free) kind s ts) (parameters : Parameters (.grown free) ps us) :
      Consumed free kind .complete { s with parameters := ps }
        (ts ++ .mark .openParameters :: us ++ [.mark .closeParameters])
  /-- The type of a method or field has its first token from the start: only that token tells that
  the modifiers are over. -/
  | place {place : Place} {f : TypeFrame} {type : TypeStack} {s : Signature} {ts us : List Token}
      (begun : Begun free kind place f s ts) (reading : Reading free place f type us)
      (hfirst : place = .returnType → us ≠ [] ∧ ∀ u ∈ us.head?, u.isKeyword = false) :
      Consumed free kind (place.state type) s (ts ++ us)

namespace Consumed

variable {kind : MemberKind} {r r' : Reader} {ts : List Token} {t : Token}

/-- A token that ends a type leaves the invariant. -/
theorem leave {place : Place} {f : TypeFrame} {type : TypeStack} {us : List Token}
    (begun : Begun free r.kind place f r.read ts) (reading : Reading free place f type us)
    (hfirst : place = .returnType → us ≠ [] ∧ ∀ u ∈ us.head?, u.isKeyword = false)
    (hleaves : Reader.Leaves place type r t r') :
    Consumed free r'.kind r'.state r'.read (ts ++ us ++ [t]) := by
  generalize hread : r.read = s at begun
  cases hleaves with
  | annotated ha =>
    cases begun with
    | annotated preamble =>
      simpa [hread] using Consumed.modifiers (preamble.annotated (reading.grows_of_toType ha))
  | returnType ha hw =>
    cases begun with
    | returnType hkind preamble =>
      simpa [hread] using
        Consumed.name (.typed hkind preamble (reading.grows_of_toType ha) (hfirst rfl).2 hw)
  | parameterName hname hargument hw =>
    cases begun with
    | parameter hkind heading done =>
      have hframes := reading.frames_of_named hargument hname
      have named := reading.grows_of_toType (TypeStack.toType_eq_ok_iff.mpr hframes)
      have more : ∀ w, Reading free (.namedParameter w) (.finished _) type [] := fun w =>
        ⟨by rw [hframes]; exact .root (.refl _), reading.closed⟩
      have h := Consumed.place (.namedParameter hkind heading done named hw) (more _) (by simp)
      simpa [hread, Reader.goto, Place.state] using h
  | nextParameter ha =>
    cases begun with
    | namedParameter hkind heading done named hw =>
      have last := GrownParameter.mk named hw (reading.grows_of_toType ha)
      have h := Consumed.place (.parameter hkind heading (done.snoc last))
        (.start free .parameter r.limit) (by simp)
      simpa [hread, Reader.freshType, Place.state] using h
  | lastParameter ha =>
    cases begun with
    | namedParameter hkind heading done named hw =>
      have last := GrownParameter.mk named hw (reading.grows_of_toType ha)
      have h := Consumed.complete hkind heading (.some (.mk done last))
      simpa [hread] using h
  | noParameter hargument hname hnone =>
    cases begun with
    | parameter hkind heading done =>
      obtain rfl := reading.eq_nil_of_unnamed hargument
        (by rwa [TypeStack.current_of_not_inArgument hargument])
      simp only [hread] at hnone
      subst hnone
      obtain rfl := done.eq_nil
      simpa [hread, Reader.goto] using Consumed.complete hkind heading .none
  | nextException ha =>
    cases begun with
    | exception hkind heading parameters done =>
      have h := Consumed.place
        (.exception hkind heading parameters (done.snoc (reading.grows_of_toType ha)))
        (.start free .exception r.limit) (by simp)
      simpa [hread, Reader.freshType, Place.state] using h

/-- **Each token keeps the invariant**, an opening bracket only if it is free. -/
theorem step (h : Consumed free r.kind r.state r.read ts) (hstep : r.step t = .ok r')
    (hfree : t = .mark .openList → free = true) :
    Consumed free r'.kind r'.state r'.read (ts ++ [t]) := by
  generalize hs : r.state = state at h
  generalize hread : r.read = s at h
  cases h with
  | modifiers preamble =>
    rcases Reader.step_modifiers hs hstep with ⟨w, m, rfl, hw, rfl⟩ | ⟨rfl, rfl⟩ |
      ⟨w, hkind, rfl, hw, rfl⟩ | ⟨n, next, hkind, ht, hkeyword, hnext, rfl⟩
    · simpa [hs, hread] using Consumed.modifiers (preamble.modifier hw)
    · have begun : Begun free r.kind .annotated _ _ _ := .annotated preamble
      have h := Consumed.place begun (.start free .annotated r.limit) (by simp)
      simpa [hread, Reader.goto, Reader.freshType, Place.state] using h
    · simpa [hkind, hread] using Consumed.name (.constructor preamble hw)
    · have reading : Reading free .returnType .empty next ([] ++ [t]) :=
        (Reading.start _ _ _).step (.name ht) hnext hfree
      have h := Consumed.place (.returnType hkind preamble) reading (by simpa using hkeyword)
      simpa [hread, Reader.goto, Place.state] using h
  | name heading =>
    obtain ⟨hparameters, -, hname⟩ := heading.read
    rcases Reader.step_name hs hstep with ⟨_, hnone, -⟩ | ⟨rfl, hkind, rfl⟩
    · rw [hread] at hnone
      simp [hnone] at hname
    · have h := Consumed.place (.parameter hkind heading .nil) (.start free .parameter r.limit)
        (by simp)
      rw [← hparameters] at h
      simpa [hread, Reader.goto, Reader.freshType, Place.state] using h
  | complete hkind heading parameters =>
    obtain ⟨rfl, rfl⟩ := Reader.step_complete hs hstep
    have h := Consumed.place (.exception hkind heading parameters .nil)
      (.start free .exception r.limit) (by simp)
    obtain ⟨-, hexceptions, -⟩ := heading.read
    rw [← hexceptions] at h
    simpa [hread, Reader.goto, Reader.freshType, Place.state] using h
  | @place _ _ _ _ _ us begun reading hfirst =>
    rcases Reader.step_at_place hs hstep with ⟨_, next, ht, hnext, rfl⟩ | hleaves
    · rw [Reader.goto, hread, List.append_assoc]
      refine .place begun (reading.step ht hnext hfree) fun hplace => ⟨by simp, ?_⟩
      rw [List.head?_append_of_ne_nil _ (hfirst hplace).1]
      exact (hfirst hplace).2
    · exact leave (hread ▸ begun) reading hfirst hleaves

/-- **A name and the opening bracket behind it keep the invariant**, whatever the flag. -/
theorem step_open {r'' : Reader} (h : Consumed free r.kind r.state r.read ts)
    (hname : r.awaitsName = true) (hstep : r.step t = .ok r')
    (hopen : r'.step (.mark .openList) = .ok r'') :
    Consumed free r''.kind r''.state r''.read (ts ++ [t, .mark .openList]) := by
  obtain ⟨place, type, next, after, n, ht, hnext, hafter, hr, hplace⟩ :=
    Reader.step_open hname hstep hopen
  generalize hs : r.state = state at h
  generalize hread : r.read = s at h
  subst hr
  rcases hplace with hplace | ⟨hmodifiers, hkind, hkeyword, rfl, rfl⟩
  · cases h with
    | modifiers => cases place <;> simp [hplace, Place.state] at hs
    | name => cases place <;> simp [hplace, Place.state] at hs
    | complete => cases place <;> simp [hplace, Place.state] at hs
    | @place place' _ type' _ _ us begun reading hfirst =>
      obtain ⟨rfl, rfl⟩ := Place.state_inj (hplace.symm.trans hs)
      rw [Reader.goto, hread, List.append_assoc]
      refine .place begun (reading.step_open ht hnext hafter) fun hplace => ⟨by simp, ?_⟩
      rw [List.head?_append_of_ne_nil _ (hfirst hplace).1]
      exact (hfirst hplace).2
  · cases h with
    | name => simp [hmodifiers] at hs
    | complete => simp [hmodifiers] at hs
    | @place place => cases place <;> simp [hmodifiers, Place.state] at hs
    | modifiers preamble =>
      have reading : Reading free .returnType .empty after ([] ++ [t, .mark .openList]) :=
        (Reading.start _ _ _).step_open ht hnext hafter
      rw [Reader.goto, hread]
      exact .place (.returnType hkind preamble) reading (by simpa using hkeyword)

/-! ## 3. Whole signatures -/

/-- A signature that may end is spelled by the tokens gone through. -/
theorem spells_of_finish (h : Consumed free r.kind r.state r.read ts) {s : Signature}
    (hfinish : r.finish = .ok s) : Spells (.grown free) r.kind s ts := by
  generalize hs : r.state = state at h
  generalize hread : r.read = read at h
  cases h with
  | modifiers => simp [Reader.finish, hs] at hfinish
  | name heading =>
    simp only [Reader.finish, hs] at hfinish
    split at hfinish
    · rename_i hcond
      obtain rfl := Except.ok.inj hfinish
      rw [hread]
      rw [hcond.1] at heading ⊢
      exact .field heading
    · simp at hfinish
  | complete hkind heading parameters =>
    simp only [Reader.finish, hs] at hfinish
    obtain rfl := Except.ok.inj hfinish
    obtain ⟨-, hexceptions, -⟩ := heading.read
    have h := Spells.member hkind heading parameters .none
    rw [← hexceptions] at h
    rw [hread]
    simpa using h
  | @place place f type _ _ us begun reading hfirst =>
    cases begun with
    | exception hkind heading parameters done =>
      simp only [Reader.finish, hs, Place.state] at hfinish
      split at hfinish
      · obtain ⟨pushed, hpushed, hread'⟩ := ok_of_bind hfinish
        obtain ⟨a, ha, rfl⟩ := Reader.pushException_eq_ok_iff.mp hpushed
        obtain rfl := Except.ok.inj hread'
        have last := reading.grows_of_toType ha
        have h := Spells.member hkind heading parameters (.some (.mk done last))
        simpa [hread] using h
      · simp at hfinish
    | _ => simp [Reader.finish, hs, Place.state] at hfinish

/-- **A run keeps the invariant**: with the flag down, if every list is opened behind a name. -/
theorem of_run {kind : MemberKind} {limit : Option Nat}
    (hrun : (Reader.start kind limit).run ts = .ok r)
    (hfree : free = false → (Reader.start kind limit).ListsFollowNames ts) :
    Consumed free r.kind r.state r.read ts := by
  induction hlength : ts.length using Nat.strongRecOn generalizing ts r with
  | ind length ih =>
    obtain rfl | ⟨init, t, rfl⟩ := ts.eq_nil_or_concat
    · obtain rfl := Except.ok.inj hrun
      exact .modifiers .nil
    rw [List.concat_eq_append] at hrun hfree hlength ⊢
    obtain ⟨middle, hinit, hstep⟩ := Reader.run_snoc.mp hrun
    by_cases hopen : t = .mark .openList → free = true
    · have hconsumed := ih init.length (by simp at hlength; omega) hinit
        (fun hf => (hfree hf).of_append) rfl
      exact hconsumed.step hstep hopen
    -- an opening bracket that is not free: the token before it is the name of its type
    · obtain ⟨rfl, hf⟩ := Classical.not_imp.mp hopen
      obtain rfl | ⟨before, u, rfl⟩ := init.eq_nil_or_concat
      · obtain rfl := Except.ok.inj hinit
        simp [Reader.step, Reader.mark, Reader.typeStep, Reader.start, State.typeStep?,
          Reader.unexpected] at hstep
      rw [List.concat_eq_append] at hinit hfree hlength ⊢
      obtain ⟨first, hbefore, hu⟩ := Reader.run_snoc.mp hinit
      obtain ⟨first', hbefore', hname⟩ := hfree (by simpa using hf) before u [] (by simp)
      obtain rfl := Except.ok.inj (hbefore.symm.trans hbefore')
      have hconsumed := ih before.length (by simp at hlength; omega) hbefore
        (fun hf => (hfree hf).of_append.of_append) rfl
      simpa using hconsumed.step_open hname hu hstep

end Consumed

/-- **An accepted signature is spelled by its tokens**, in the grammar of the reader; if every
list is opened behind a name, in that grammar with the flag down. -/
theorem spells_of_ofTokens {kind : MemberKind} {limit : Option Nat} {ts : List Token}
    {s : Signature} (h : ofTokens kind limit ts = .ok s)
    (hfree : free = false → (Reader.start kind limit).ListsFollowNames ts) :
    Spells (.grown free) kind s ts := by
  obtain ⟨r, hrun, hfinish⟩ := ok_of_bind h
  have hkind : r.kind = kind := (Reader.kind_of_run hrun).1
  exact hkind ▸ (Consumed.of_run hrun hfree).spells_of_finish hfinish

end ApiPages.Signature
