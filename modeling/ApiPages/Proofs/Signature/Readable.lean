/-
# What is spelled is read

The converse of `Accepted.lean`: tokens that spell a signature in the grammar of the reader are
accepted, and the signature is what they spell (`ofTokens_of_spells`), provided that the limit
admits its types.

A frame that grows is read on whatever level of a stack it stands (`reads_of_grows`); everything
else is put together from that.  With the flag of the grammar down the run opens lists only behind
names, which is carried along (`Reads`).
-/
import ApiPages.Proofs.Signature.Limit

namespace ApiPages.Signature

variable {free : Bool}

/-! ## 1. Runs -/

/-- The run of `r` over `ts` ends in `r'`; with the flag down every list is opened behind a name. -/
structure Reads (free : Bool) (r : Reader) (ts : List Token) (r' : Reader) : Prop where
  run : r.run ts = .ok r'
  follow : free = false → r.ListsFollowNames ts
  /-- No opening bracket stands first, where it might belong to a name before. -/
  head : free = false → ts.head? ≠ some (.mark .openList)

namespace Reads

variable {r r' r'' : Reader} {ts us : List Token} {t : Token}

theorem nil (free : Bool) (r : Reader) : Reads free r [] r :=
  ⟨rfl, fun _ before t after h => by simp at h, fun _ => by simp⟩

/-- Two runs make one. -/
theorem append (h : Reads free r ts r') (h' : Reads free r' us r'') :
    Reads free r (ts ++ us) r'' := by
  refine ⟨by rw [Reader.run_append_of_ok h.run, h'.run], fun hf before t after heq => ?_,
    fun hf => ?_⟩
  · rcases List.append_eq_append_iff.mp heq with ⟨xs, rfl, hus⟩ | ⟨xs, rfl, hxs⟩
    · obtain ⟨middle, hrun, hname⟩ := h'.follow hf xs t after hus
      exact ⟨middle, by rw [Reader.run_append_of_ok h.run, hrun], hname⟩
    · match xs, hxs with
      | [], hxs =>
        obtain ⟨middle, hrun, hname⟩ := h'.follow hf [] t after hxs.symm
        obtain rfl := Except.ok.inj hrun
        exact ⟨r', by simpa using h.run, hname⟩
      | [_], hxs =>
        have hus : .mark .openList :: after = us := (List.cons.inj hxs).2
        exact absurd (by rw [← hus]; rfl) (h'.head hf)
      | _ :: _ :: xs, hxs =>
        simp only [List.cons_append, List.cons.injEq] at hxs
        obtain ⟨rfl, rfl, -⟩ := hxs
        exact h.follow hf before t xs rfl
  · cases ts with
    | nil => exact h'.head hf
    | cons => simpa using h.head hf

/-- One token; with the flag down, no opening bracket. -/
theorem single (hstep : r.step t = .ok r') (ht : free = false → t ≠ .mark .openList) :
    Reads free r [t] r' := by
  refine ⟨by simp [hstep, bind, Except.bind], fun _ before u after h => ?_, by simpa using ht⟩
  cases before <;> simp at h

/-- A name, and an opening bracket behind it. -/
theorem pair {n : String} (ht : t.Names n) (hname : r.awaitsName = true)
    (hstep : r.step t = .ok r') (hopen : r'.step (.mark .openList) = .ok r'') :
    Reads free r [t, .mark .openList] r'' := by
  refine ⟨by simp [hstep, hopen, bind, Except.bind], fun _ before u after h => ?_,
    fun _ => by simpa using ht.ne_mark .openList⟩
  cases before with
  | nil => exact ⟨r, rfl, hname⟩
  | cons v before =>
    obtain ⟨-, h⟩ := List.cons.inj h
    cases before <;> simp at h

end Reads

/-! ## 2. Types -/

/-- A frame only gets deeper. -/
theorem Grows.depth_le {place : Place} {f g : TypeFrame} {ts : List Token}
    (h : Grows free place f ts g) : f.depth ≤ g.depth := by
  induction h with
  | refl => exact Nat.le_refl _
  | name _ _ _ _ ih => exact ih
  | suffix _ _ _ _ _ ih => exact ih
  | openNamed _ _ hopen _ ih => exact Nat.le_trans ih (TypeFrame.depth_opened hopen _).1
  | openMore _ _ _ hopen ih => exact Nat.le_trans ih (TypeFrame.depth_opened hopen _).1
  | next _ hopen _ _ ih _ => exact Nat.le_trans ih (TypeFrame.depth_snoc hopen _ _).1
  | close _ hopen _ ih _ => exact Nat.le_trans ih (TypeFrame.depth_snoc hopen _ _).1

/-- A step of a type on whose innermost level the frame `g` is closed. -/
theorem Reader.step_of_seat {r : Reader} {place : Place} {type next : TypeStack} {g : TypeFrame}
    {t : Token} {step : TypeStep} (hopen : g.isOpen = false) (ht : place.TypeToken t step)
    (hnext : (type.withCurrent g).step step = .done next) :
    (r.goto (place.state (type.seat g))).step t = .ok (r.goto (place.state next)) := by
  have hs : (r.goto (place.state (type.seat g))).state = place.state (type.withCurrent g) := by
    rw [type.seat_of_closed hopen]
    rfl
  exact step_of_typeToken hs ht hnext

/-- **A frame that grows is read** on whatever level of a stack it stands. -/
theorem reads_of_grows {place : Place} {f g : TypeFrame} {ts : List Token}
    (h : Grows free place f ts g) {r : Reader} {type : TypeStack}
    (hs : r.state = place.state (type.seat f)) (hadmits : type.Admits g.depth) :
    Reads free r ts (r.goto (place.state (type.seat g))) := by
  induction h generalizing r type with
  | refl =>
    rw [← hs]
    exact .nil free r
  | @name f g ts t n init hname hopen ht ih =>
    have hset : (type.withCurrent g).setName n = .done (type.seat { g with name := some n }) := by
      simpa [TypeStack.seat, hopen] using
        TypeStack.setName_of_unnamed (s := type.withCurrent g) (by simpa using hname) n
    exact (ih hs hadmits).append
      (.single (Reader.step_of_seat hopen (.name ht) hset) fun _ => ht.ne_mark _)
  | @suffix f g ts n w init hname hopen hplace hw ih =>
    have happend : (type.withCurrent g).appendSuffix w =
        .done (type.seat { g with name := some (n ++ w) }) := by
      simpa [TypeStack.seat, hopen] using
        TypeStack.appendSuffix_of_named (s := type.withCurrent g) (by simpa using hname) w
    exact (ih hs hadmits).append
      (.single (Reader.step_of_seat hopen (.suffix hplace hw) happend) (by simp))
  | @openNamed f g ts t n init hname hopen ht ih =>
    obtain ⟨hdepth, hone⟩ := TypeFrame.depth_opened hopen (some n)
    have hawaits : (r.goto (place.state (type.seat g))).awaitsName = true :=
      (Reader.awaitsName_of_place rfl).mpr (by simpa [TypeStack.seat, hopen] using hname)
    have hset : (type.withCurrent g).setName n = .done (type.seat { g with name := some n }) := by
      simpa [TypeStack.seat, hopen] using
        TypeStack.setName_of_unnamed (s := type.withCurrent g) (by simpa using hname) n
    have hlist : (type.withCurrent { g with name := some n }).openList =
        .done (type.seat { g with name := some n, isOpen := true }) :=
      TypeStack.openList_of_admits rfl hopen hadmits hone
    exact (ih hs (hadmits.mono hdepth)).append
      (.pair ht hawaits (Reader.step_of_seat hopen (.name ht) hset)
        (Reader.step_of_seat hopen .openList hlist))
  | @openMore f g ts n hfree init hname hopen ih =>
    obtain ⟨hdepth, hone⟩ := TypeFrame.depth_opened hopen g.name
    have hlist := TypeStack.openList_of_admits hname hopen hadmits hone
    exact (ih hs (hadmits.mono hdepth)).append
      (.single (Reader.step_of_seat hopen .openList hlist) (by simp [hfree]))
  | @next f g ts us a init hopen hplace argument ih ihargument =>
    obtain ⟨hdepth, hargument⟩ := TypeFrame.depth_snoc hopen a g.isOpen
    have hrun := ih hs (hadmits.mono hdepth)
    rw [type.seat_of_open hopen] at hrun
    have hlevel : (type.withCurrent g).push.Admits a.depth := (hadmits.mono hargument).push
    have hread := ihargument (r := r.goto (place.state (type.withCurrent g).push)) rfl
      (by simpa using hlevel)
    have hnext := TypeStack.nextArgument_of_push (p := type.withCurrent g)
      (TypeFrame.toType_finished a) (by simpa using hopen)
    have hall := (hrun.append hread).append
      (.single (Reader.step_of_seat rfl (.comma hplace) hnext) (by simp))
    simpa [Reader.goto, TypeStack.seat, hopen] using hall
  | @close f g ts us a init hopen argument ih ihargument =>
    obtain ⟨hdepth, hargument⟩ := TypeFrame.depth_snoc hopen a false
    have hrun := ih hs (hadmits.mono hdepth)
    rw [type.seat_of_open hopen] at hrun
    have hlevel : (type.withCurrent g).push.Admits a.depth := (hadmits.mono hargument).push
    have hread := ihargument (r := r.goto (place.state (type.withCurrent g).push)) rfl
      (by simpa using hlevel)
    have hclose := TypeStack.closeList_of_push (p := type.withCurrent g)
      (TypeFrame.toType_finished a) (by simpa using hopen)
    have hall := (hrun.append hread).append
      (.single (Reader.step_of_seat rfl .closeList hclose) (by simp))
    simpa [Reader.goto, TypeStack.seat, hopen] using hall

/-- A type is read from a fresh stack. -/
theorem reads_of_grown {place : Place} {t : TypeName} {ts : List Token} {r : Reader}
    (h : Grows free place .empty ts (.finished t)) (hs : r.state = place.state r.freshType)
    (hdepth : ∀ n, r.limit = some n → t.depth ≤ n) :
    Reads free r ts (r.goto (place.state (.ofType r.limit t))) := by
  have hadmits : r.freshType.Admits (TypeFrame.finished t).depth := by
    intro n hn
    simpa [Reader.freshType, TypeStack.start, TypeStack.depth] using hdepth n hn
  exact reads_of_grows h hs hadmits

/-! ## 3. Up to the name -/

theorem reads_of_preamble {kind : MemberKind} {limit : Option Nat} {ms : Modifiers}
    {as : List TypeName} {ts : List Token} (h : Preamble (.grown free) ms as ts)
    (hdepth : Within limit as) :
    Reads free (.start kind limit) ts
      ⟨kind, limit, .modifiers, { modifiers := ms, annotations := as }⟩ := by
  induction h with
  | nil => exact .nil free _
  | @modifier ms as ts m w init hw ih =>
    refine (ih hdepth).append (.single ?_ (by simp))
    simp [Reader.step, Reader.word, hw, pure, Except.pure]
  | @annotated ms as a ts us init ha ih =>
    have hinit := ih fun t ht => hdepth t (by simp [ht])
    have hread := reads_of_grown ha
      (r := ⟨kind, limit, .annotated (.start limit), { modifiers := ms, annotations := as }⟩) rfl
      (hdepth a (by simp))
    have hat : (⟨kind, limit, .modifiers, { modifiers := ms, annotations := as }⟩ : Reader).step
        (.mark .atSign) =
          .ok ⟨kind, limit, .annotated (.start limit), { modifiers := ms, annotations := as }⟩ :=
      rfl
    have hbreak := (hinit.append (.single hat (by simp))).append (hread.append
      (.single (Reader.step_of_leaves rfl (.annotated (TypeStack.toType_ofType _ _))) (by simp)))
    simpa [Reader.goto] using hbreak

/-- Behind the modifiers of a method or field, its type is read from its first token on. -/
theorem Reads.of_modifiers {r r' : Reader} {t : Token} {ts : List Token} {n : String}
    (hs : r.state = .modifiers) (hkind : r.kind ≠ .constructor) (ht : t.Names n)
    (hkeyword : t.isKeyword = false)
    (h : Reads free (r.goto (.returnType r.freshType)) (t :: ts) r') :
    Reads free r (t :: ts) r' := by
  have hplace : (r.goto (.returnType r.freshType)).state = Place.returnType.state r.freshType := rfl
  have hstep : r.step t = (r.goto (.returnType r.freshType)).step t := by
    cases ht with
    | word =>
      have hw : Modifier.ofKeyword? n = none := by simpa [Token.isKeyword] using hkeyword
      simp only [Reader.step, Reader.word_of_place hplace]
      simp [Reader.word, hs, hw, Reader.leaveModifiers_of_modifiers hs hkind]
    | anchor href htype =>
      simp only [Reader.step, Reader.anchor_eq (.anchor href htype),
        Reader.leaveModifiers_of_modifiers hs hkind, Reader.leaveModifiers_of_place hplace]
  refine ⟨?_, fun hf before u after heq => ?_, h.head⟩
  · simpa [hstep] using h.run
  · obtain ⟨middle, hrun, hname⟩ := h.follow hf before u after heq
    cases before with
    | nil => exact ⟨r, rfl, by simpa [Reader.awaitsName, hs] using hkind⟩
    | cons v before =>
      obtain rfl : t = v := (List.cons.inj heq).1
      exact ⟨middle, by simpa [hstep] using hrun, hname⟩

theorem reads_of_heading {kind : MemberKind} {limit : Option Nat} {s : Signature} {ts : List Token}
    (h : Heading (.grown free) kind s ts)
    (hdepth : Within limit (s.annotations ++ s.returnType.toList)) :
    Reads free (.start kind limit) ts ⟨kind, limit, .name, s⟩ := by
  cases h with
  | @constructor ms as ts w preamble hw =>
    refine (reads_of_preamble preamble fun t ht => hdepth t (by simp [ht])).append
      (.single ?_ (by simp))
    simp [Reader.step, Reader.word, hw, Reader.leaveModifiers, Reader.plainWord, Reader.goto, pure,
      Except.pure]
  | @typed _ ms as a ts us w hkind preamble type hfirst hw =>
    have hpreamble : Reads free (.start kind limit) ts _ :=
      reads_of_preamble preamble fun t ht => hdepth t (by simp [ht])
    have hread := reads_of_grown type
      (r := ⟨kind, limit, .returnType (.start limit), { modifiers := ms, annotations := as }⟩) rfl
      (hdepth a (by simp))
    rcases Grows.head_names type rfl rfl with ⟨-, hnone⟩ | ⟨t, rest, n, rfl, ht⟩
    · cases hnone
    · have hkeyword : t.isKeyword = false := hfirst t rfl
      have hmodifiers := Reads.of_modifiers (r := ⟨kind, limit, .modifiers, _⟩) rfl hkind ht
        hkeyword hread
      have hname := (hpreamble.append hmodifiers).append
        (.single (Reader.step_of_leaves rfl (.returnType (TypeStack.toType_ofType _ _) hw))
          (by simp))
      simpa [Reader.goto] using hname

/-! ## 4. Parameters and exceptions -/

/-- Things with a comma behind each are read one after the other, if each of them is. -/
theorem reads_of_commaEnded {α : Type} {P : α → List Token → Prop} {Q : α → Prop}
    {reader : List α → Reader}
    (hread : ∀ done a ts, P a ts → Q a →
      Reads free (reader done) (ts ++ [.mark .comma]) (reader (done ++ [a])))
    {as : List α} {ts : List Token} (h : CommaEnded P as ts) (hQ : ∀ a ∈ as, Q a) :
    Reads free (reader []) ts (reader as) := by
  induction h with
  | nil => exact .nil free _
  | snoc init last ih =>
    rw [List.append_assoc]
    exact (ih fun a ha => hQ a (by simp [ha])).append (hread _ _ _ last (hQ _ (by simp)))

/-- A parameter is read up to the token that ends it. -/
theorem reads_of_parameter {p : Parameter} {ts : List Token} {r : Reader}
    (h : GrownParameter free p ts) (hs : r.state = .parameter r.freshType none)
    (hdepth : ∀ n, r.limit = some n → p.type.depth ≤ n) :
    Reads free r ts (r.goto ((Place.namedParameter p.name).state (.ofType r.limit p.type))) := by
  cases h with
  | @mk t t' ts us w named hw more =>
    have htype : Reads free r ts (r.goto (Place.parameter.state (.ofType r.limit t))) :=
      reads_of_grown named hs fun n hn =>
        Nat.le_trans (by simpa using more.depth_le) (hdepth n hn)
    have hname := Reader.step_of_leaves (r := r.goto (Place.parameter.state (.ofType r.limit t)))
      rfl (.parameterName (n := t.name) rfl rfl hw)
    have hadmits : (TypeStack.ofType r.limit t).Admits (TypeFrame.finished t').depth := by
      intro n hn
      simpa [TypeStack.ofType, TypeStack.depth] using hdepth n hn
    have hmore := reads_of_grows more
      (r := r.goto ((Place.namedParameter w).state (.ofType r.limit t))) rfl hadmits
    simpa [Reader.goto] using htype.append ((Reads.single hname (by simp)).append hmore)

/-- The parameters of a member, from behind the opening parenthesis to the closing one. -/
theorem reads_of_parameters {kind : MemberKind} {limit : Option Nat} {s : Signature}
    {ps : List Parameter} {ts : List Token} (h : Parameters (.grown free) ps ts)
    (hnone : s.parameters = []) (hdepth : Within limit (ps.map (·.type))) :
    Reads free ⟨kind, limit, .parameter (.start limit) none, s⟩ (ts ++ [.mark .closeParameters])
      ⟨kind, limit, .complete, { s with parameters := ps }⟩ := by
  have hs : s = { s with parameters := [] } := by rw [← hnone]
  cases h with
  | none =>
    rw [← hs]
    exact .single (Reader.step_of_leaves rfl (.noParameter rfl rfl hnone)) (by simp)
  | some h =>
    cases h with
    | @mk ps p ts us init last =>
      let reader (done : List Parameter) : Reader :=
        ⟨kind, limit, .parameter (.start limit) none, { s with parameters := done }⟩
      have hparameter (done : List Parameter) (p : Parameter) (ts : List Token)
          (hp : GrownParameter free p ts) (hd : ∀ n, limit = some n → p.type.depth ≤ n) :
          Reads free (reader done) ts
            ((reader done).goto ((Place.namedParameter p.name).state (.ofType limit p.type))) :=
        reads_of_parameter hp rfl hd
      have hinit : Reads free (reader []) ts (reader ps) := by
        refine reads_of_commaEnded (Q := fun p => ∀ n, limit = some n → p.type.depth ≤ n)
          (fun done p ts hp hd => (hparameter done p ts hp hd).append ?_) init
          fun p hp => hdepth p.type (by simp; grind)
        exact .single (Reader.step_of_leaves rfl
          (.nextParameter (TypeStack.toType_ofType _ _))) (by simp)
      have hlast := hparameter ps p us last (hdepth p.type (by simp))
      have hclose := Reader.step_of_leaves (r := (reader ps).goto _) rfl
        (.lastParameter (w := p.name) (TypeStack.toType_ofType limit p.type))
      have hall := hinit.append (hlast.append (.single hclose (by simp)))
      rw [hs, List.append_assoc]
      exact hall

/-- The exceptions of a member that has some, up to the end of the last one. -/
theorem reads_of_exceptions (kind : MemberKind) {limit : Option Nat} {s : Signature}
    {es : List TypeName} {ts : List Token} (h : Listed ((Grammar.grown free).type .exception) es ts)
    (hnone : s.exceptions = []) (hdepth : Within limit es) :
    ∃ init e, es = init ++ [e] ∧
      Reads free ⟨kind, limit, .throwsClause (.start limit), s⟩ ts
        ⟨kind, limit, .throwsClause (.ofType limit e), { s with exceptions := init }⟩ := by
  have hs : s = { s with exceptions := [] } := by rw [← hnone]
  cases h with
  | @mk es e ts us init last =>
    let reader (done : List TypeName) : Reader :=
      ⟨kind, limit, .throwsClause (.start limit), { s with exceptions := done }⟩
    have hexception (done : List TypeName) (e : TypeName) (ts : List Token)
        (he : (Grammar.grown free).type .exception e ts) (hd : ∀ n, limit = some n → e.depth ≤ n) :
        Reads free (reader done) ts
          ((reader done).goto (Place.exception.state (.ofType limit e))) :=
      reads_of_grown he rfl hd
    have hinit : Reads free (reader []) ts (reader es) := by
      refine reads_of_commaEnded (Q := fun e => ∀ n, limit = some n → e.depth ≤ n)
        (fun done e ts he hd => (hexception done e ts he hd).append ?_) init
        fun e he => hdepth e (by simp [he])
      exact .single (Reader.step_of_leaves rfl
        (.nextException (TypeStack.toType_ofType _ _))) (by simp)
    refine ⟨es, e, rfl, ?_⟩
    rw [hs]
    exact hinit.append (hexception es e us last (hdepth e (by simp)))

/-! ## 5. Whole signatures -/

/-- Tokens that spell a signature lead the reader to where it may end. -/
theorem reads_of_spells {kind : MemberKind} {limit : Option Nat} {s : Signature} {ts : List Token}
    (h : Spells (.grown free) kind s ts) (hdepth : Within limit s.types) :
    ∃ r, Reads free (.start kind limit) ts r ∧ r.finish = .ok s := by
  cases h with
  | field heading =>
    have hread : Reads free (.start .field limit) ts _ :=
      reads_of_heading heading fun t ht => hdepth t (by simp [types] at ht ⊢; grind)
    exact ⟨_, hread, by simp [Reader.finish, heading.read, pure, Except.pure]⟩
  | @member _ s ts us vs ps es hkind heading parameters exceptions =>
    obtain ⟨hparameters, hexceptions, hname⟩ := heading.read
    have hheading : Reads free (.start kind limit) ts _ :=
      reads_of_heading heading fun t ht => hdepth t (by simp [types] at ht ⊢; grind)
    have hopen : Reader.step ⟨kind, limit, .name, s⟩ (.mark .openParameters) =
        .ok ⟨kind, limit, .parameter (.start limit) none, s⟩ := by
      simp [Reader.step, Reader.mark, Reader.openParameters, hname, hkind, Reader.goto,
        Reader.freshType, pure, Except.pure]
    have hclosed : Reads free ⟨kind, limit, .parameter (.start limit) none, s⟩ _ _ :=
      reads_of_parameters parameters hparameters fun t ht =>
        hdepth t (by simp [types] at ht ⊢; grind)
    have hall := (hheading.append (.single hopen (by simp))).append hclosed
    cases exceptions with
    | none =>
      refine ⟨_, by simpa using hall, ?_⟩
      rw [← hexceptions]
      rfl
    | @some _ vs listed =>
      have hthrows : Reader.step ⟨kind, limit, .complete, { s with parameters := ps }⟩
          (.word "throws") =
            .ok ⟨kind, limit, .throwsClause (.start limit), { s with parameters := ps }⟩ := rfl
      have hwithin : Within limit es := fun t ht => hdepth t (by simp [types, ht])
      obtain ⟨init, e, rfl, hlast⟩ := reads_of_exceptions kind
        (s := { s with parameters := ps }) listed hexceptions hwithin
      refine ⟨_, by simpa using hall.append ((Reads.single hthrows (by simp)).append hlast), ?_⟩
      have hpush := TypeStack.toType_ofType limit e
      simp only [TypeStack.ofType] at hpush
      simp [Reader.finish, Reader.pushException, TypeStack.ofType, hpush, bind, Except.bind, pure,
        Except.pure]

/-- **Tokens that spell a signature are accepted**, and the signature is what they spell; with the
flag down, every list is opened behind a name. -/
theorem ofTokens_of_spells {kind : MemberKind} {limit : Option Nat} {s : Signature}
    {ts : List Token} (h : Spells (.grown free) kind s ts) (hdepth : Within limit s.types) :
    ofTokens kind limit ts = .ok s ∧
      (free = false → (Reader.start kind limit).ListsFollowNames ts) := by
  obtain ⟨r, hread, hfinish⟩ := reads_of_spells h hdepth
  have hrun : ts.foldlM Reader.step (Reader.start kind limit) = .ok r := hread.run
  exact ⟨by rw [ofTokens, hrun]; exact hfinish, hread.follow⟩

end ApiPages.Signature
