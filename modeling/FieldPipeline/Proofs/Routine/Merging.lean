import FieldPipeline.Proofs.Routine.Keeping

/-!
Merged routines.  Tokens that stand together on a field may be one operation, or one operation
each.  Where they ask for the same fields, one guard admits both; where the field keeps having a
value, each may as well stand under a guard of its own.
-/

namespace FieldPipeline

open Run

namespace Operation

def fuse (t : Token) (rest : List Token) : Operation where
  kind := t.kind
  target := t.target
  references := Expression.sortedNames ((t :: rest).flatMap (·.references))
  calls := (t :: rest).map (·.call)
  tokenIds := (t :: rest).map (·.id)

theorem ofOrder_false (ts : List Token) : ofOrder false ts = ts.map fun t => fuse t [] := by
  have hflatten : (ts.map fun t => [t]).flatten = ts := by
    induction ts with
    | nil => rfl
    | cons t ts ih => simp [ih]
  have hsplit : ts.splitBy (fun t next => false && t.joins next) = ts.map fun t => [t] := by
    rw [List.splitBy_eq_iff]
    refine ⟨hflatten.symm, by simp, by simp, ?_⟩
    induction ts with
    | nil => simp
    | cons t ts ih =>
        cases ts with
        | nil => simp
        | cons t' ts =>
            rw [List.map_cons, List.map_cons, List.isChain_cons_cons]
            exact ⟨⟨by simp, by simp, rfl⟩, ih (by simpa using hflatten)⟩
  rw [ofOrder, hsplit, List.filterMap_map]
  exact congrFun List.filterMap_eq_map' ts

theorem ofOrder_true (ts : List Token) :
    ofOrder true ts = (ts.splitBy Token.joins).filterMap ofTokens? := by
  simp [ofOrder]

theorem mem_references_fuse (t : Token) (rest : List Token) (name : String) :
    name ∈ (fuse t rest).references ↔ ∃ t' ∈ t :: rest, name ∈ t'.references := by
  have hof : ofTokens? (t :: rest) = some (fuse t rest) := rfl
  exact mem_references_ofTokens? hof name

variable {e : Entity}

theorem writesOnly_runAll {o : Operation} (hdraws : ∀ c ∈ o.calls, c.modifier.Draws)
    (admitted : Bool) : WritesOnly (· = o.target) (runAll e admitted [o]) := by
  cases admitted with
  | false => exact .pure _
  | true =>
      refine .forM fun o' ho' => ?_
      rw [List.mem_singleton] at ho'
      subst ho'
      exact writesOnly_runCalls _ hdraws

theorem writesOnly_byItself {o : Operation} (hdraws : ∀ c ∈ o.calls, c.modifier.Draws) :
    WritesOnly (· = o.target) (o.byItself e) := by
  refine .bind (fun s => ?_) fun admitted => writesOnly_runAll hdraws admitted
  rw [Group.exec_admits]
  exact .refl s

theorem exec_admitsAfter_of_answer {previous o : Operation} {ran : Bool} {s : Session}
    (h : previous.alone.answer e s.context = .ok ran) :
    exec (o.admitsAfter e (some (previous, ran))) s = exec (o.alone.admits e) s := by
  unfold admitsAfter
  dsimp only
  split
  · rename_i hguard
    obtain ⟨htarget, hfields, hrequires⟩ := sameGuard_iff.mp hguard
    have hsame : previous.alone.answer e s.context = o.alone.answer e s.context :=
      Group.answer_congr e s.context htarget hfields hrequires
    rw [Group.exec_admits, exec_pure, ← hsame, h]
  · rfl

theorem exec_inTurn_of_keeping (before : Option (Operation × Bool)) (ops rest : List Operation)
    (hne : ops ≠ []) (hkeeping : ∀ o ∈ ops, o.Keeping e.name) {s : Session}
    (hbefore : ∀ o ∈ ops, exec (o.admitsAfter e before) s = exec (o.alone.admits e) s) :
    (∃ f t, exec (ops.forM (byItself e)) s = (.error f, t) ∧
      exec (inTurn e before (ops ++ rest)) s = (.error f, t)) ∨
    ∃ t o ran, o ∈ ops ∧ o.alone.answer e t.context = .ok ran ∧
      exec (ops.forM (byItself e)) s = (.ok (), t) ∧
      exec (inTurn e before (ops ++ rest)) s = exec (inTurn e (some (o, ran)) rest) t := by
  induction ops generalizing s before with
  | nil => exact absurd rfl hne
  | cons o ops ih =>
      have ho := hkeeping o (by simp)
      rw [exec_forM_cons, List.cons_append, inTurn, exec_bind, exec_bind (admitsAfter _ _ _),
        hbefore o (by simp)]
      unfold byItself
      rw [exec_bind, Group.exec_admits]
      rcases hanswer : o.alone.answer e s.context with f | ran
      · exact .inl ⟨f, s, rfl, rfl⟩
      · dsimp only
        rw [exec_bind (runAll e ran [o])]
        rcases ht : exec (runAll e ran [o]) s with ⟨f | _, t⟩
        · exact .inl ⟨f, t, rfl, rfl⟩
        · have hstill := answer_of_runAll ho hanswer ht
          cases ops with
          | nil => exact .inr ⟨t, o, ran, by simp, hstill, rfl, rfl⟩
          | cons o' ops =>
              dsimp only
              have hbefore' : ∀ o'' ∈ o' :: ops, exec (o''.admitsAfter e (some (o, ran))) t =
                  exec (o''.alone.admits e) t := fun _ _ => exec_admitsAfter_of_answer hstill
              rcases ih _ (by simp) (fun o ho => hkeeping o (List.mem_cons_of_mem _ ho)) hbefore'
                with h | ⟨u, o'', ran'', hmem, h⟩
              · exact .inl h
              · exact .inr ⟨u, o'', ran'', List.mem_cons_of_mem _ hmem, h⟩

theorem keeping_fuse {t : Token} {rest : List Token}
    (huniform : ∀ t' ∈ t :: rest, t'.target = t.target ∧ t'.kind = t.kind)
    (hkeeping : ∀ t' ∈ t :: rest, (fuse t' []).Keeping e.name) : (fuse t rest).Keeping e.name where
  kind_ne := (hkeeping t (by simp)).kind_ne
  draws := by
    intro c hc
    obtain ⟨t', ht', rfl⟩ := List.mem_map.mp hc
    exact (hkeeping t' ht').draws _ (by simp [fuse])
  keeps := by
    intro hkind c hc
    obtain ⟨t', ht', rfl⟩ := List.mem_map.mp hc
    have hsame := huniform t' ht'
    have hkeeps := (hkeeping t' ht').keeps (hsame.2.trans hkind) t'.call (by simp [fuse])
    change t'.call.KeepsValues e.name t'.target at hkeeps
    rw [hsame.1] at hkeeps
    exact hkeeps

theorem agree_byItself_fuse {t : Token} {rest : List Token}
    (huniform : ∀ t' ∈ t :: rest, t'.target = t.target ∧ t'.kind = t.kind)
    (hkeeping : ∀ t' ∈ t :: rest, (fuse t' []).Keeping e.name) {s : Session}
    (hs : s.context.latest.names.Nodup) :
    Agree (exec ((fuse t rest).byItself e) s)
      (exec (((t :: rest).map fun t => fuse t []).forM (byItself e)) s) := by
  induction rest generalizing t s with
  | nil => exact .of_eq (congrArg (fun x => exec x s) (bind_pure _).symm)
  | cons t' rest ih =>
      obtain ⟨htarget, hkind⟩ := huniform t' (by simp)
      have huniform' : ∀ t'' ∈ t' :: rest, t''.target = t'.target ∧ t''.kind = t'.kind := by
        intro t'' ht''
        obtain ⟨htarget', hkind'⟩ := huniform t'' (List.mem_cons_of_mem t ht'')
        exact ⟨htarget'.trans htarget.symm, hkind'.trans hkind.symm⟩
      have hkeeping' : ∀ t'' ∈ t' :: rest, (fuse t'' []).Keeping e.name :=
        fun t'' ht'' => hkeeping t'' (List.mem_cons_of_mem _ ht'')
      have hfirst := hkeeping t (by simp)
      have hlater := keeping_fuse huniform' hkeeping'
      have hwhole := keeping_fuse huniform hkeeping
      have hjoins : (fuse t (t' :: rest)).alone.Joins (fuse t []).alone (fuse t' rest).alone := by
        refine ⟨hwhole.requiresTarget, hfirst.requiresTarget, hlater.requiresTarget, rfl, htarget,
          fun name => ?_⟩
        change name ∈ (fuse t (t' :: rest)).references ↔
          name ∈ (fuse t []).references ∨ name ∈ (fuse t' rest).references
        simp only [mem_references_fuse, List.mem_cons, exists_eq_or_imp, List.not_mem_nil,
          or_false, exists_eq_left]
      refine (agree_byItself_cons hfirst hlater hjoins rfl hkind rfl rfl hs).trans ?_
      rw [List.map_cons, exec_forM_cons]
      refine .bind (.refl _) fun _ u hu _ => ih huniform' hkeeping' ?_
      exact ((writesOnly_byItself hfirst.draws).writes hu).nodup hs

/-- What is needed of tokens that may be one operation.  `keeps` tells of some fields that their
processors keep values. -/
structure Fusible (e : Entity) (keeps : String → Prop) (t : Token) (rest : List Token) : Prop where
  uniform : ∀ t' ∈ t :: rest, t'.target = t.target ∧ t'.kind = t.kind
  draws : ∀ t' ∈ t :: rest, t'.call.modifier.Draws
  keeping : keeps t.target → t.kind = .processor →
    ∀ t' ∈ t :: rest, t'.call.KeepsValues e.name t.target
  references : (∀ t' ∈ rest, t'.references = t.references) ∨
    t.kind ≠ .activator ∧ keeps t.target
  layered : t.kind = .activator → Call.Layered e.name t.target ((t :: rest).map (·.call))

namespace Fusible

variable {keeps : String → Prop} {t : Token} {rest : List Token}

theorem keeping_of_keeps (h : Fusible e keeps t rest) (hkind : t.kind ≠ .activator)
    (hkeeps : keeps t.target) : ∀ t' ∈ t :: rest, (fuse t' []).Keeping e.name := by
  intro t' ht'
  have hsame := h.uniform t' ht'
  refine ⟨?_, ?_, ?_⟩
  · change t'.kind ≠ .activator
    rw [hsame.2]
    exact hkind
  · simpa [fuse] using h.draws t' ht'
  · intro hprocessor
    have hprocessor' : t.kind = .processor := hsame.2 ▸ hprocessor
    have hkeep := h.keeping hkeeps hprocessor' t' ht'
    rw [← hsame.1] at hkeep
    simpa [fuse] using hkeep

theorem agree_runAll (h : Fusible e keeps t rest) (admitted : Bool) {s : Session}
    (hs : s.context.latest.names.Nodup) :
    Agree (exec (runAll e admitted [fuse t rest]) s)
      (exec (runAll e admitted ((t :: rest).map fun t => fuse t [])) s) := by
  cases admitted with
  | false => exact .refl _
  | true =>
      have hsingle : ((t :: rest).map fun t => fuse t []).forM (run e) =
          ((t :: rest).map (·.call)).forM fun c => runCalls e.name t.target t.kind [c] := by
        refine List.forM_map.trans (.trans (forM_congr fun t' ht' => ?_) List.forM_map.symm)
        obtain ⟨htarget, hkind⟩ := h.uniform t' ht'
        simp only [run, fuse, htarget, hkind, List.map_cons, List.map_nil]
      have hdraws : ∀ c ∈ (t :: rest).map (·.call), c.modifier.Draws := by
        intro c hc
        obtain ⟨t', ht', rfl⟩ := List.mem_map.mp hc
        exact h.draws t' ht'
      have hrun : (fuse t rest).run e =
          runCalls e.name t.target t.kind ((t :: rest).map (·.call)) := rfl
      rw [exec_runAll_one, if_pos rfl, hrun, runAll, if_pos rfl, hsingle]
      by_cases hkind : t.kind = .activator
      · rw [hkind]
        exact agree_activators_forM hdraws (h.layered hkind) hs
      · exact (coincide_runCalls_forM hkind hdraws (by simp) hs).agree

end Fusible

def Alike (e : Entity) (keeps : String → Prop) (c : Context) :
    Option (Operation × Bool) → Option (Operation × Bool) → Prop
  | none, none => True
  | some (o, ran), some (o', ran') => o.target = o'.target ∧ o.requiresTarget = o'.requiresTarget ∧
    (o.alone.answer e c = .ok ran ∧ o'.alone.answer e c = .ok ran' ∨
      ¬(o.requiresTarget = true ∧ keeps o.target) ∧ o.references = o'.references ∧ ran = ran')
  | _, _ => False

theorem Alike.exec_admitsAfter {keeps : String → Prop} {s : Session}
    {before before' : Option (Operation × Bool)} (h : Alike e keeps s.context before before')
    {o o' : Operation} (hguard : o.sameGuard o' = true) :
    exec (o.admitsAfter e before) s = exec (o'.admitsAfter e before') s := by
  obtain ⟨htarget, hreferences, hrequires⟩ := sameGuard_iff.mp hguard
  have halone : o.alone.admits e = o'.alone.admits e :=
    Group.admits_congr e htarget hreferences hrequires
  cases before with
  | none =>
      cases before' with
      | none => exact congrArg (fun x => exec x s) halone
      | some _ => exact h.elim
  | some before =>
      cases before' with
      | none => exact h.elim
      | some before' =>
          obtain ⟨htarget', hrequires', ⟨hanswer, hanswer'⟩ | ⟨_, hreferences', hran⟩⟩ := h
          · rw [exec_admitsAfter_of_answer hanswer, exec_admitsAfter_of_answer hanswer', halone]
          · have hsame : before.1.sameGuard o = before'.1.sameGuard o' := by
              simp only [sameGuard, htarget, hreferences, hrequires, htarget', hrequires',
                hreferences']
            simp only [admitsAfter, hsame, hran, halone]

theorem Alike.exec_admitsAfter_of_keeps {keeps : String → Prop} {s : Session}
    {before before' : Option (Operation × Bool)} (h : Alike e keeps s.context before before')
    {o : Operation} (hrequires : o.requiresTarget = true) (hkeeps : keeps o.target) :
    exec (o.admitsAfter e before) s = exec (o.alone.admits e) s ∧
      exec (o.admitsAfter e before') s = exec (o.alone.admits e) s := by
  cases before with
  | none =>
      cases before' with
      | none => exact ⟨rfl, rfl⟩
      | some _ => exact h.elim
  | some before =>
      cases before' with
      | none => exact h.elim
      | some before' =>
          obtain ⟨htarget', hrequires', ⟨hanswer, hanswer'⟩ | ⟨hnot, _, _⟩⟩ := h
          · exact ⟨exec_admitsAfter_of_answer hanswer, exec_admitsAfter_of_answer hanswer'⟩
          · have hother : ∀ p : Operation, p.target = before.1.target →
                p.requiresTarget = before.1.requiresTarget → p.sameGuard o = false := by
              intro p hp hp'
              rw [← Bool.not_eq_true]
              intro hguard
              obtain ⟨htarget, _, hrequire⟩ := sameGuard_iff.mp hguard
              refine hnot ⟨hp' ▸ hrequire.trans hrequires, ?_⟩
              rw [← hp, htarget]
              exact hkeeps
            constructor
            · simp [admitsAfter, hother before.1 rfl rfl]
            · simp [admitsAfter, hother before'.1 htarget'.symm hrequires'.symm]

theorem exec_admitsAfter_snd (o : Operation) (before : Option (Operation × Bool)) (s : Session) :
    (exec (o.admitsAfter e before) s).2 = s := by
  cases before with
  | none =>
      change (exec (o.alone.admits e) s).2 = s
      rw [Group.exec_admits]
  | some before =>
      unfold admitsAfter
      dsimp only
      split
      · rfl
      · rw [Group.exec_admits]

theorem Fusible.sameGuard {keeps : String → Prop} {t : Token} {rest : List Token}
    (h : Fusible e keeps t rest) (hreferences : ∀ t' ∈ rest, t'.references = t.references)
    {t' : Token} (ht' : t' ∈ t :: rest) : (fuse t rest).sameGuard (fuse t' []) = true := by
  obtain ⟨htarget, hkind⟩ := h.uniform t' ht'
  have hfields : t'.references = t.references := by
    rcases List.mem_cons.mp ht' with rfl | ht'
    · rfl
    · exact hreferences t' ht'
  rw [sameGuard_iff]
  refine ⟨htarget.symm, ?_, ?_⟩
  · simp only [fuse]
    rw [Expression.sortedNames_eq_iff]
    intro name
    simp only [List.mem_flatMap, List.mem_cons, exists_eq_or_imp, List.not_mem_nil, or_false,
      exists_eq_left, hfields]
    constructor
    · rintro (hname | ⟨t'', ht'', hname⟩)
      · exact hname
      · rwa [hreferences t'' ht''] at hname
    · exact .inl
  · simp only [requiresTarget, fuse, hkind]

theorem inTurn_of_sameGuard {t : Token} {rest : List Token}
    (hguard : ∀ t' ∈ t :: rest, (fuse t rest).sameGuard (fuse t' []) = true)
    (before : Option (Operation × Bool)) (later : List Operation) :
    ∃ last ∈ t :: rest, inTurn e before (((t :: rest).map fun t => fuse t []) ++ later) =
      (fuse t []).admitsAfter e before >>= fun admitted =>
        runAll e admitted ((t :: rest).map fun t => fuse t []) >>= fun _ =>
          inTurn e (some (fuse last [], admitted)) later := by
  have hchain : ((t :: rest).map fun t => fuse t []).IsChain
      fun o other => o.sameGuard other = true := by
    refine List.Pairwise.isChain (List.pairwise_map.mpr (List.pairwise_of_forall_mem_list ?_))
    intro a ha b hb
    obtain ⟨htarget, hreferences, hrequires⟩ := sameGuard_iff.mp (hguard a ha)
    obtain ⟨htarget', hreferences', hrequires'⟩ := sameGuard_iff.mp (hguard b hb)
    exact sameGuard_iff.mpr ⟨htarget.symm.trans htarget', hreferences.symm.trans hreferences',
      hrequires.symm.trans hrequires'⟩
  have hmem : (fuse t [] :: rest.map fun t => fuse t []).getLast (by simp) ∈
      (t :: rest).map fun t => fuse t [] := List.getLast_mem _
  obtain ⟨last, hlast, hfuse⟩ := List.mem_map.mp hmem
  refine ⟨last, hlast, ?_⟩
  have hsplit : ∀ admitted, runAll e admitted ((t :: rest).map fun t => fuse t []) =
      runAll e admitted [fuse t []] >>= fun _ =>
        runAll e admitted (rest.map fun t => fuse t []) := fun admitted =>
    runAll_append e admitted [fuse t []] (rest.map fun t => fuse t [])
  rw [List.map_cons] at hchain hsplit ⊢
  rw [List.cons_append, inTurn, hfuse]
  simp only [inTurn_chain e hchain, hsplit, bind_assoc]

def AgreeAfter (e : Entity) (keeps : String → Prop) (later later' : List Operation) : Prop :=
  ∀ before before' s, Alike e keeps s.context before before' → s.context.latest.names.Nodup →
    Agree (exec (inTurn e before later) s) (exec (inTurn e before' later') s)

namespace Fusible

variable {keeps : String → Prop} {t : Token} {rest : List Token} {later later' : List Operation}
  {before before' : Option (Operation × Bool)} {s : Session}

theorem draws_fuse (h : Fusible e keeps t rest) : ∀ c ∈ (fuse t rest).calls, c.modifier.Draws := by
  intro c hc
  obtain ⟨t', ht', rfl⟩ := List.mem_map.mp hc
  exact h.draws t' ht'

theorem agree_of_keeps (h : Fusible e keeps t rest) (hkind : t.kind ≠ .activator)
    (hkeeps : keeps t.target) (hlater : AgreeAfter e keeps later later')
    (hbefore : Alike e keeps s.context before before') (hs : s.context.latest.names.Nodup) :
    Agree (exec (inTurn e before (fuse t rest :: later)) s)
      (exec (inTurn e before' (((t :: rest).map fun t => fuse t []) ++ later')) s) := by
  have hsingle := h.keeping_of_keeps hkind hkeeps
  have hwhole := keeping_fuse h.uniform hsingle
  have hanew := fun {o : Operation} => hbefore.exec_admitsAfter_of_keeps (o := o)
  have htargets : ∀ o ∈ (t :: rest).map fun t => fuse t [],
      o.Keeping e.name ∧ o.target = t.target := by
    intro o ho
    obtain ⟨t', ht', rfl⟩ := List.mem_map.mp ho
    exact ⟨hsingle t' ht', (h.uniform t' ht').1⟩
  have hmerged := exec_inTurn_of_keeping before [fuse t rest] later
    (by simp) (by simpa using hwhole) (by simpa using (hanew hwhole.requiresTarget hkeeps).1)
  have hsingles := exec_inTurn_of_keeping before' ((t :: rest).map fun t => fuse t []) later'
    (by simp) (fun o ho => (htargets o ho).1)
    fun o ho => (hanew (htargets o ho).1.requiresTarget ((htargets o ho).2 ▸ hkeeps)).2
  -- both sides are now operations under their own guards, with the same end
  have hagree := agree_byItself_fuse h.uniform hsingle hs
  have hone : exec ([fuse t rest].forM (byItself e)) s = exec ((fuse t rest).byItself e) s :=
    congrArg (fun x => exec x s) (bind_pure _)
  rw [hone] at hmerged
  have hnodup := (writesOnly_byItself (e := e) h.draws_fuse s).nodup hs
  rcases hmerged with ⟨f, u, hfirst, hmerged⟩ | ⟨u, o, ran, ho, hstill, hfirst, hmerged⟩
  · rcases hsingles with ⟨f', u', _, hsingles⟩ | ⟨u', _, _, _, _, hfirst', _⟩
    · exact .of_errors hmerged hsingles
    · rw [hfirst, hfirst'] at hagree
      rcases hagree with ⟨_, _, h, _⟩ | ⟨_, _, _, h⟩ <;> cases h
  · rcases hsingles with ⟨f', u', hfirst', _⟩ | ⟨u', o', ran', ho', hstill', hfirst', hsingles⟩
    · rw [hfirst, hfirst'] at hagree
      rcases hagree with ⟨_, _, _, h⟩ | ⟨⟨_, _, h⟩, _⟩ <;> cases h
    · rw [List.mem_singleton] at ho
      subst ho
      rw [hfirst] at hnodup
      have hsame : u' = u := by
        rw [hfirst, hfirst'] at hagree
        rcases hagree with ⟨_, _, h, h'⟩ | ⟨⟨_, _, h⟩, _⟩
        · cases h
          cases h'
          rfl
        · cases h
      subst hsame
      obtain ⟨hkeeping', htarget'⟩ := htargets o' ho'
      rw [List.singleton_append] at hmerged
      rw [hmerged, hsingles]
      refine hlater _ _ _ ⟨htarget'.symm, ?_, .inl ⟨hstill, hstill'⟩⟩ hnodup
      rw [hwhole.requiresTarget, hkeeping'.requiresTarget]

theorem agree_of_sameGuard (h : Fusible e keeps t rest)
    (hkeeps : ¬(t.kind ≠ .activator ∧ keeps t.target)) (hlater : AgreeAfter e keeps later later')
    (hbefore : Alike e keeps s.context before before') (hs : s.context.latest.names.Nodup) :
    Agree (exec (inTurn e before (fuse t rest :: later)) s)
      (exec (inTurn e before' (((t :: rest).map fun t => fuse t []) ++ later')) s) := by
  have hreferences := h.references.resolve_right hkeeps
  have hguard := fun t' => @Fusible.sameGuard e keeps t rest h hreferences t'
  obtain ⟨last, hlast, hturn⟩ := inTurn_of_sameGuard (e := e) (fun t' => hguard t') before' later'
  rw [hturn, inTurn]
  refine .bind (.of_eq (hbefore.exec_admitsAfter (hguard t (by simp)))) fun admitted u hu _ => ?_
  have hstate := exec_admitsAfter_snd (e := e) (fuse t rest) before s
  rw [hu] at hstate
  change u = s at hstate
  rw [hstate]
  refine .bind (h.agree_runAll admitted hs) fun _ u' hrun _ => hlater _ _ _ ?_ ?_
  · obtain ⟨htarget, hreferences', hrequires⟩ := sameGuard_iff.mp (hguard last hlast)
    refine ⟨htarget, hrequires, .inr ⟨?_, hreferences', rfl⟩⟩
    rintro ⟨hrequire, hkeep⟩
    refine hkeeps ⟨fun hkind => ?_, hkeep⟩
    simp [requiresTarget, fuse, hkind] at hrequire
  · exact ((writesOnly_runAll h.draws_fuse admitted).writes hrun).nodup hs

end Fusible

theorem agree_inTurn {keeps : String → Prop} (chains : List (List Token))
    (hfusible : ∀ chain ∈ chains, ∃ t rest, chain = t :: rest ∧ Fusible e keeps t rest) :
    AgreeAfter e keeps (chains.filterMap ofTokens?)
      (chains.flatten.map fun t => fuse t []) := by
  induction chains with
  | nil => exact fun _ _ _ _ _ => .refl _
  | cons chain chains ih =>
      intro before before' s hbefore hs
      obtain ⟨t, rest, rfl, h⟩ := hfusible chain (by simp)
      have hlater := ih fun chain hchain => hfusible chain (List.mem_cons_of_mem _ hchain)
      have hcons : ((t :: rest) :: chains).filterMap ofTokens? =
          fuse t rest :: chains.filterMap ofTokens? := List.filterMap_cons_some rfl
      rw [hcons, List.flatten_cons, List.map_append]
      by_cases hkeeps : t.kind ≠ .activator ∧ keeps t.target
      · exact h.agree_of_keeps hkeeps.1 hkeeps.2 hlater hbefore hs
      · exact h.agree_of_sameGuard hkeeps hlater hbefore hs

end Operation

namespace Token

/-- Whether no processor on a field makes null of a value. -/
def KeepsField (entity : String) (ts : List Token) (field : String) : Prop :=
  ∀ t ∈ ts, t.target = field → t.kind = .processor → t.call.KeepsValues entity field

/-- Whether it makes no difference if tokens that stand together are merged.  They have to ask for
the same fields, unless they validate or process a field that keeps its values; and activators
must not miss one another. -/
structure Mergeable (entity : String) (ts : List Token) : Prop where
  guards : ∀ chain ∈ ts.splitBy joins, ∀ t ∈ chain, ∀ t' ∈ chain,
    t'.references = t.references ∨ t.kind ≠ .activator ∧ KeepsField entity ts t.target
  layered : ∀ chain ∈ ts.splitBy joins, ∀ t ∈ chain, t.kind = .activator →
    Call.Layered entity t.target (chain.map (·.call))

theorem mergeable_of_alike {entity : String} {ts : List Token}
    (h : ∀ chain ∈ ts.splitBy joins, ∀ t ∈ chain, (t.kind = .activator → chain.length ≤ 1) ∧
      ∀ t' ∈ chain, t'.references = t.references) : Mergeable entity ts := by
  refine ⟨fun chain hchain t ht t' ht' => .inl ((h chain hchain t ht).2 t' ht'), ?_⟩
  intro chain hchain t ht hkind
  have hlength := (h chain hchain t ht).1 hkind
  unfold Call.Layered
  cases chain with
  | nil => exact List.Pairwise.nil
  | cons first rest =>
      cases rest with
      | nil => exact List.pairwise_singleton _ _
      | cons second rest => simp at hlength

theorem Mergeable.fusible {e : Entity} {ts : List Token} (h : Mergeable e.name ts)
    (hdraws : ∀ t ∈ ts, t.call.modifier.Draws) {chain : List Token}
    (hchain : chain ∈ ts.splitBy joins) :
    ∃ t rest, chain = t :: rest ∧ Operation.Fusible e (KeepsField e.name ts) t rest := by
  have hmem : ∀ t ∈ chain, t ∈ ts := fun _ => mem_of_mem_splitBy hchain
  have hjoined := List.isChain_of_mem_splitBy hchain
  cases chain with
  | nil => exact absurd hchain (List.nil_notMem_splitBy _ _)
  | cons t rest =>
      have huniform : ∀ t' ∈ t :: rest, t'.target = t.target ∧ t'.kind = t.kind := by
        intro t' ht'
        rcases List.mem_cons.mp ht' with rfl | ht'
        · exact ⟨rfl, rfl⟩
        · exact ⟨eq_of_isChain (f := Token.target) (fun _ _ => target_eq_of_joins) hjoined t' ht',
            eq_of_isChain (f := Token.kind) (fun _ _ => kind_eq_of_joins) hjoined t' ht'⟩
      refine ⟨t, rest, rfl, huniform, fun t' ht' => hdraws t' (hmem t' ht'), ?_, ?_, ?_⟩
      · intro hkeeps hkind t' ht'
        obtain ⟨htarget, hkind'⟩ := huniform t' ht'
        exact hkeeps t' (hmem t' ht') htarget (hkind'.trans hkind)
      · by_cases hkeeps : t.kind ≠ .activator ∧ KeepsField e.name ts t.target
        · exact .inr hkeeps
        · exact .inl fun t' ht' =>
            (h.guards _ hchain t (by simp) t' (by simp [ht'])).resolve_right hkeeps
      · exact h.layered _ hchain t (by simp)

end Token

namespace Routine

theorem agree_apply {e : Entity} {ts : List Token} (h : Token.Mergeable e.name ts)
    (hdraws : ∀ t ∈ ts, t.call.modifier.Draws) {s : Session}
    (hs : s.context.latest.names.Nodup) :
    Agree (exec ((ofOrder e.name true ts).apply e) s)
      (exec ((ofOrder e.name false ts).apply e) s) := by
  unfold apply ofOrder
  rw [Group.forM_ofOrder, Group.forM_ofOrder, Operation.ofOrder_true, Operation.ofOrder_false]
  have hagree := Operation.agree_inTurn (ts.splitBy Token.joins)
    (fun _ hchain => h.fusible hdraws hchain) none none s trivial hs
  rwa [List.flatten_splitBy] at hagree

end Routine

end FieldPipeline
