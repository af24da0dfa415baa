import FieldPipeline.Proofs.Preparation.Course
import FieldPipeline.Proofs.Routine.Merging
import FieldPipeline.Proofs.Routine.Pipeline
import FieldPipeline.Proofs.Routine.Token

/-!
What a preparation makes of a field that has a value when the routine begins: the pipeline of its
uses, each over a record that shows the references as they are in the end.
-/

namespace FieldPipeline

open Run

namespace Token

/-- Whether the work of a use on a value depends on the value, on the references, and on fields on
which no use works. -/
structure Confined (ts : List Token) (t : Token) : Prop where
  steady : t.kind ≠ .activator → t.call.modifier.Steady
  formulas : t.call.modifier.ReadsFormulas
  reads : ∀ name ∈ t.call.reads, name ≠ t.target →
    name ∈ t.references ∨ ∀ t' ∈ ts, t'.target ≠ name

variable {table : ModifierTable} {ts : List Token} {t : Token} {entity : String}

theorem invoke_congr_of_sees (hconfined : t.Confined ts) (hliteral : t.call.Literal)
    (hkind : t.kind = t.call.modifier.kind) (hne : t.kind ≠ .activator) {final around : Record}
    (h : t.Sees ts final around) (v : Value) (s s' : Session) :
    (exec (t.call.invoke entity t.target (around.put t.target v) [v]) s).1 =
      (exec (t.call.invoke entity t.target (final.put t.target v) [v]) s').1 := by
  have hgiven : [v].length = t.call.modifier.kind.given := by
    rw [← hkind]
    cases hcase : t.kind with
    | activator => exact absurd hcase hne
    | validator | processor => rfl
  have hagree : Expression.AgreeOn t.call.reads (around.put t.target v)
      (final.put t.target v) := by
    intro name hname
    by_cases htarget : t.target = name
    · rw [htarget, Record.get?_put_self, Record.get?_put_self]
    · rw [Record.get?_put_of_ne _ htarget, Record.get?_put_of_ne _ htarget]
      exact h name (Ne.symm htarget) (hconfined.reads name hname (Ne.symm htarget))
  rw [Call.invoke_congr hconfined.formulas hliteral hagree entity t.target [v] hgiven]
  unfold Call.invoke
  rw [exec_explain, exec_explain, hconfined.steady hne _ _ s s']

theorem work_congr (hconfined : t.Confined ts) (hliteral : t.call.Literal)
    (hkind : t.kind = t.call.modifier.kind) {final around : Record} (h : t.Sees ts final around)
    (v : Value) (s s' : Session) :
    (exec (t.work entity around v) s).1 = (exec (t.work entity final v) s').1 := by
  unfold work
  cases hcase : t.kind with
  | activator => rfl
  | processor => exact invoke_congr_of_sees hconfined hliteral hkind (by simp [hcase]) h v s s'
  | validator =>
      refine fst_exec_bind_congr
        (invoke_congr_of_sees hconfined hliteral hkind (by simp [hcase]) h v s s') ?_
      intro accepted u u'
      split <;> rfl

theorem pipeline_final {turns : List Turn} {final : Record}
    (hconfined : ∀ turn ∈ turns, turn.token.Confined ts)
    (hof : ∀ turn ∈ turns, turn.token.call.Literal ∧
      turn.token.kind = turn.token.call.modifier.kind)
    (hsees : ∀ turn ∈ turns, turn.token.Sees ts final turn.around) (v : Value) (s : Session) :
    pipeline entity ((turns.map (·.token)).map fun t => ⟨t, final, s⟩) v =
      pipeline entity turns v := by
  induction turns generalizing v with
  | nil => rfl
  | cons turn turns ih =>
      rw [List.forall_mem_cons] at hconfined hof hsees
      have hresult : Turn.result entity ⟨turn.token, final, s⟩ v = turn.result entity v :=
        (work_congr hconfined.1 hof.1.1 hof.1.2 hsees.1 v _ _).symm
      rw [List.map_cons, List.map_cons, pipeline_cons, pipeline_cons, hresult]
      congr 1
      funext w
      exact ih hconfined.2 hof.2 hsees.2 w

end Token

namespace Entity

variable {table : ModifierTable} {merging : Bool} {e : Entity} {r : Routine} {ts : List Token}

theorem settles_of_compile (htable : ∀ m ∈ table, '~' ∉ m.name.toList)
    (hmodifiers : ∀ m ∈ table, m.Draws) (hfields : e.fieldNames.Nodup)
    (h : e.compile table merging = .ok r) : r.Settles e := by
  refine Routine.settles_of_pairwise (draws_of_compile hmodifiers h) (holds_of_compile h) ?_
    (pairwise_groups_of_compile htable hfields h)
  obtain ⟨_, sorted, _, _, hordered, rfl⟩ := exists_ordered htable hfields h
  intro g hg
  obtain ⟨o, ho⟩ := List.exists_mem_of_ne_nil _ (Group.operations_ne_nil hg)
  have hholds := Group.holds_of_mem_ofOrder hg ho
  rw [← hholds.target_eq, ← hholds.references_eq]
  exact Operation.target_notMem_references hordered.notSelf (Group.mem_of_mem_ofOrder hg ho)

theorem sees_of_takes (htable : ∀ m ∈ table, '~' ∉ m.name.toList)
    (hmodifiers : ∀ m ∈ table, m.Draws) (hfields : e.fieldNames.Nodup)
    (h : e.compile table merging = .ok r) (hts : e.tokens table = .ok ts) {s u : Session}
    (hs : s.context.latest.names.Nodup) (happly : exec (r.apply e) s = (.ok (), u))
    {turn : Token.Turn} (htakes : r.Takes e s turn) :
    turn.token.Sees ts u.context.scope turn.around := by
  have hdraws := draws_of_compile hmodifiers h
  obtain ⟨o, t, hstarts, haround, htarget, hreferences⟩ := htakes
  obtain ⟨before, g, after, hgroups, ho, hwrites⟩ := Routine.writes_of_starts hdraws hstarts
  have hsettled := settles_of_compile htable hmodifiers hfields h s o t hstarts
  rw [happly] at hwrites hsettled
  have hu : u.context.latest.names.Nodup :=
    ((Routine.writesOnly_apply hdraws).writes happly).nodup hs
  have ht : t.context.latest.names.Nodup := by
    obtain ⟨before', g', after', done, rest, v, hgroups', hbefore, _, _, hoperations, hdone⟩ :=
      hstarts
    have hv := (hdraws.writes_before hgroups' hbefore).nodup hs
    exact ((Operation.writesOnly_forM e.name g'.target fun o' ho' =>
      hdraws g' (by simp [hgroups']) o' (by simp [hoperations, ho'])).writes hdone).nodup hv
  intro name hname hseen
  rw [haround, Context.get?_scope ht, Context.get?_scope hu]
  rcases hseen with hreference | hfree
  · exact (hsettled name (hreferences name hreference)).symm
  · refine (hwrites.lookUp? ?_).symm
    have hgroup : ∀ g' ∈ r.groups, name ≠ g'.target := by
      rintro g' hg' rfl
      obtain ⟨tok, htok, htarget'⟩ := exists_token_of_mem_groups htable hfields h hts hg'
      exact hfree tok htok htarget'
    rintro (hmine | ⟨g', hg', hlater⟩)
    · exact hgroup g (by simp [hgroups]) hmine
    · exact hgroup g' (by simp [hgroups, hg']) hlater

theorem exists_turns_of_apply (htable : ∀ m ∈ table, '~' ∉ m.name.toList)
    (hmodifiers : ∀ m ∈ table, m.Draws) (hfields : e.fieldNames.Nodup)
    (h : e.compile table merging = .ok r) (hts : e.tokens table = .ok ts) {s u : Session}
    (hs : s.context.latest.names.Nodup) (happly : exec (r.apply e) s = (.ok (), u))
    {field : String} {x : Value} (hx : s.context.latest.get? field = some x)
    (hnonnull : x.isNull = false) (hnull : ¬r.Nullifies e s field) :
    ∃ (turns : List Token.Turn) (y : Value), u.context.latest.get? field = some y ∧
      turns.map (·.token) = ts.filter (·.target = field) ∧
      (∀ turn ∈ turns, turn.token.Sees ts u.context.scope turn.around) ∧
      Token.pipeline e.name turns x = .ok y := by
  have hcalls : ∀ g ∈ r.groups, ∀ o ∈ g.operations, o.calls ≠ [] := by
    obtain ⟨_, _, _, _, rfl⟩ := compile_ok h
    exact fun g hg o ho => Operation.calls_ne_nil (Group.mem_of_mem_ofOrder hg ho)
  obtain ⟨chunks, hchunks, hflatten⟩ : ∃ chunks,
      List.Forall₂ (fun chunk o => Operation.IsOf chunk o) chunks
        (r.groups.flatMap (·.operations)) ∧
      chunks.flatten.filter (·.target = field) = ts.filter (·.target = field) := by
    obtain ⟨sorted, hmem, hordered, rfl⟩ := ordered_of_tokens htable hfields h hts
    refine ⟨sorted.splitBy fun t next => merging && t.joins next, ?_, ?_⟩
    · have hoperations := Routine.operations_ofOrder e.name merging sorted
      unfold Routine.operations at hoperations
      rw [hoperations]
      exact Operation.forall₂_isOf_ofOrder merging sorted
    · rw [List.flatten_splitBy]
      exact hordered.filter_eq (positions_tokens hts hfields) hmem field
  obtain ⟨turns, y, hy, _, hturns, htakes, hresult⟩ := Routine.exists_turns_of_groups
    (draws_of_compile hmodifiers h) (holds_of_compile h) hcalls hs hnull
    (List.nil_append r.groups).symm hchunks rfl happly hx hnonnull
  refine ⟨turns, y, hy, hturns.trans hflatten, fun turn hturn => ?_, hresult⟩
  -- a turn that is not taken is that of an activator, and is put over the record in the end
  rcases htakes turn hturn with htaken | haround
  · exact sees_of_takes htable hmodifiers hfields h hts hs happly htaken
  · exact fun name _ _ => by rw [haround]

/-- A use of a built-in modifier depends on what it reads besides its field and its references only
when a word that it reads is the name of a field on which uses work. -/
theorem confined_of_words (hts : e.tokens ModifierTable.builtin = .ok ts) {t : Token} (ht : t ∈ ts)
    (hwords : ∀ name ∈ t.call.reads, name ≠ t.target → Expression.IsWord name →
      ∀ t' ∈ ts, t'.target ≠ name) : t.Confined ts := by
  obtain ⟨target, position, u, hof⟩ := isOfUse_of_mem_tokens hts ht
  refine ⟨fun hkind => ?_, ModifierTable.readsFormulas_builtin _ hof.registered, ?_⟩
  · exact ModifierTable.steady_builtin hof.registered (hof.kind_eq ▸ hkind)
  · intro name hname htarget
    rcases reads_of_mem_tokens hts ht hname with hreference | hsame | hword
    · exact .inl hreference
    · exact absurd hsame htarget
    · exact .inr (hwords name hname htarget hword)

/-- Where processors make no null of a value, a field has one whenever an operation of its starts
that is no activator. -/
theorem given_of_starts (hmodifiers : ∀ m ∈ table, m.Draws) (h : e.compile table merging = .ok r)
    {o : Operation} (hkind : o.kind ≠ .activator)
    (hkeeps : ∀ g ∈ r.groups, ∀ o' ∈ g.operations, o'.target = o.target → o'.kind = .processor →
      ∀ c ∈ o'.calls, c.KeepsValues e.name o.target) {s t : Session} (hstarts : r.Starts e s o t) :
    t.context.Given o.target := by
  have hdraws := draws_of_compile hmodifiers h
  have hholds := holds_of_compile h
  obtain ⟨before, g, after, done, rest, w, hgroups, _, hverdict, hmissing, hoperations, hdone⟩ :=
    hstarts
  have hg : g ∈ r.groups := by simp [hgroups]
  have hhold := hholds g hg o (by simp [hoperations])
  have hrequire : g.requireTarget = true := by
    rw [← hhold.requiresTarget_eq, Operation.requiresTarget_iff]
    exact hkind
  rw [hhold.target_eq] at hkeeps ⊢
  -- the guard has seen a value, and the operations before this one keep it
  refine exec_forM_ok_induct (P := fun t => t.context.Given g.target) ?_ ?_ hdone
  · intro o' ho' s₁ t₁ hs₁ h₁
    have hmem : o' ∈ g.operations := by simp [hoperations, ho']
    have hkind' : o'.kind ≠ .activator := by
      rw [← Operation.requiresTarget_iff, (hholds g hg o' hmem).requiresTarget_eq, hrequire]
    exact Operation.given_of_runCalls hkind' (hdraws g hg o' hmem)
      (hkeeps g hg o' hmem (hholds g hg o' hmem).target_eq) hs₁ h₁
  · refine Group.given_of_answer (e := e) hrequire ?_
    unfold Group.answer
    rw [hverdict, hmissing]

theorem not_nullifies_of_keepsField (hmodifiers : ∀ m ∈ table, m.Draws)
    (h : e.compile table merging = .ok r) (hts : e.tokens table = .ok ts) {field : String}
    (hkeeps : Token.KeepsField e.name ts field) (s : Session) : ¬r.Nullifies e s field := by
  rintro ⟨o, t, c, scope, values, u, v, hstarts, rfl, hkind, hreaches, hinvoke, hnull⟩
  have hcalls : ∀ g ∈ r.groups, ∀ o' ∈ g.operations, o'.target = o.target →
      o'.kind = .processor → ∀ c ∈ o'.calls, c.KeepsValues e.name o.target := by
    intro g hg o' ho' htarget hprocessor c hc
    obtain ⟨ts', hts', tok, htok, rfl, hmakes⟩ := exists_token_of_compile h hg ho' hc
    cases hts.symm.trans hts'
    exact hkeeps tok htok (hmakes.target_eq.symm.trans htarget)
      (hmakes.kind_eq.symm.trans hprocessor)
  obtain ⟨x, hx, hnonnull⟩ := given_of_starts hmodifiers h (by simp [hkind]) hcalls hstarts
  obtain ⟨_, g, _, _, _, _, hgroups, _, _, _, hoperations, _⟩ := hstarts
  have hkept := hcalls g (by simp [hgroups]) o (by simp [hoperations]) rfl hkind
  have hmem := hreaches.mem_calls
  have hgiven : ∃ y, values = [y] ∧ y.isNull = false := by
    cases hreaches with
    | validator _ _ _ hkind' => cases hkind.symm.trans hkind'
    | activator _ _ _ hkind' => cases hkind.symm.trans hkind'
    | processor pre post y _ _ hoCalls hbefore =>
        rw [show t.context.latest.getOrNull o.target = x by simp [Record.getOrNull, hx]] at hbefore
        exact ⟨y, rfl, Operation.isNull_process
          (fun c hc => hkept c (by simp [hoCalls, hc])) hnonnull hbefore⟩
  obtain ⟨y, rfl, hy⟩ := hgiven
  have hresult : exec (c.invoke e.name o.target scope [y]) u =
      (.ok v, (exec (c.invoke e.name o.target scope [y]) u).2) := Prod.ext hinvoke rfl
  rw [hkept c hmem _ _ _ _ _ hy hresult] at hnull
  cases hnull

end Entity

namespace Preparation

variable {table : ModifierTable} {merging : Bool} {equipment : Equipment} {e : Entity}
  {r : Routine} {mode : Mode} {ts : List Token}

/-- When a routine has been applied, a field that was null when all fields had their first values
is null, and a field that had a value, of which no processor made null, has what its uses make of
the value one after the other: processors and validators in the order of their declaration, and
activators nothing.  To each use the references show their last values; when the uses look up
nothing else on which others work, all of them may as well work over the values in the end. -/
theorem composes_of_apply (htable : ∀ m ∈ table, '~' ∉ m.name.toList)
    (hmodifiers : ∀ m ∈ table, m.Draws) (hgenerators : ∀ g ∈ equipment.generators, g.Draws)
    (hfields : e.fieldNames.Nodup) (hr : e.compile table merging = .ok r)
    (hts : e.tokens table = .ok ts) {s v w u : Session} (hbegins : Begins equipment e r mode s v)
    (hfill : exec (fill equipment e mode) (v.atPoint .perFieldFill) = (.ok (), w))
    (happly : exec (r.apply e) (w.atPoint .applyRoutine) = (.ok (), u)) {field : String}
    {x : Value} (hx : w.context.latest.get? field = some x) :
    (x.isNull = true → u.context.latest.get? field = some x) ∧
      (x.isNull = false → ¬r.Nullifies e (w.atPoint .applyRoutine) field →
        ∃ (turns : List Token.Turn) (y : Value), u.context.latest.get? field = some y ∧
          turns.map (·.token) = ts.filter (·.target = field) ∧
          (∀ turn ∈ turns, turn.token.Sees ts u.context.scope turn.around) ∧
          Token.pipeline e.name turns x = .ok y ∧
          ((∀ t ∈ ts, t.target = field → t.Confined ts) → ∀ s', Token.pipeline e.name
            ((ts.filter (·.target = field)).map fun t => ⟨t, u.context.scope, s'⟩) x = .ok y)) := by
  have hw : (w.atPoint .applyRoutine).context.latest.names.Nodup := by
    have hnodup := @nodup_fill equipment e mode hgenerators (v.atPoint .perFieldFill)
      (hbegins.latest_and_mode.1 ▸ List.nodup_nil)
    rw [hfill] at hnodup
    exact hnodup
  refine ⟨fun hnull => Routine.get?_of_null (t := w.atPoint .applyRoutine)
    (Entity.draws_of_compile hmodifiers hr) hnull hx happly, fun hnonnull hnot => ?_⟩
  obtain ⟨turns, y, hy, hturns, hsees, hresult⟩ := Entity.exists_turns_of_apply htable hmodifiers
    hfields hr hts hw happly hx hnonnull hnot
  refine ⟨turns, y, hy, hturns, hsees, hresult, fun hconfined s' => ?_⟩
  have hmem : ∀ turn ∈ turns, turn.token ∈ ts ∧ turn.token.target = field := by
    intro turn hturn
    have htoken : turn.token ∈ ts.filter (·.target = field) :=
      hturns ▸ List.mem_map_of_mem hturn
    simpa using htoken
  rw [← hturns, Token.pipeline_final (fun turn hturn => ?_) (fun turn hturn => ?_) hsees, hresult]
  · exact hconfined turn.token (hmem turn hturn).1 (hmem turn hturn).2
  · obtain ⟨target, position, use, hof⟩ := Entity.isOfUse_of_mem_tokens hts (hmem turn hturn).1
    exact ⟨hof.literal, hof.kind_eq⟩

def signup : Entity where
  name := "signup"
  fields := [
    { name := "code", displayName := "code", modifiers := [
      { kind := "Processor", name := "lower" },
      { kind := "Validator", name := "equals", args := [.fieldRef "again"] },
      { kind := "Processor", name := "upper" },
      { kind := "Activator", name := "copy", args := [.fieldRef "again"] }] },
    { name := "again", displayName := "again", modifiers := [
      { kind := "Processor", name := "lower" }] }]

def signupTokens : List Token := [
  { id := "code~0:lower", kind := .processor, target := "code", references := [],
    chainable := true, position := 0,
    call := { modifier := Modifier.Processor.of "lower" (Modifier.Processor.onText Text.lower) } },
  { id := "code~1:equals", kind := .validator, target := "code", references := ["again"],
    chainable := true, position := 1,
    call := {
      modifier := Modifier.Validator.of "equals" Modifier.Validator.equals
      args := [.fieldRef "again"] } },
  { id := "code~2:upper", kind := .processor, target := "code", references := [],
    chainable := true, position := 2,
    call := { modifier := Modifier.Processor.of "upper" (Modifier.Processor.onText Text.upper) } },
  { id := "code~3:copy", kind := .activator, target := "code", references := ["again"],
    chainable := true, position := 3,
    call := {
      modifier := Modifier.Activator.of "copy" Modifier.Activator.argument
      args := [.fieldRef "again"] } },
  { id := "again~0:lower", kind := .processor, target := "again", references := [],
    chainable := true, position := 0,
    call := { modifier := Modifier.Processor.of "lower" (Modifier.Processor.onText Text.lower) } }]

theorem tokens_signup : signup.tokens ModifierTable.builtin = .ok signupTokens := rfl

theorem keepsValues_onText (entity target name : String) (change : String → String) :
    Call.KeepsValues entity target
      { modifier := Modifier.Processor.of name (Modifier.Processor.onText change) } := by
  intro scope v s w t hv h
  cases v <;> cases h <;> first | rfl | cases hv

theorem signup_keepsField : Token.KeepsField "signup" signupTokens "code" := by
  intro t ht htarget hkind
  simp only [signupTokens, List.mem_cons, List.not_mem_nil, or_false] at ht
  rcases ht with rfl | rfl | rfl | rfl | rfl
  all_goals first | exact keepsValues_onText _ _ _ _ | cases hkind

def newSignup : Session where
  settings := {}
  sources := .still
  context := { raw := [("code", .text "Ab"), ("again", .text "aB")] }

theorem code_after_signup : (match signup.compile ModifierTable.builtin true with
    | .ok r =>
        match exec (r.apply signup) ((exec (fill {} signup .create)
          ((newSignup.begun .create).atPoint .perFieldFill)).2.atPoint .applyRoutine) with
        | (.ok (), u) =>
            match u.context.latest.get? "code" with
            | some (.text code) => decide (code = "AB")
            | _ => false
        | _ => false
    | .error _ => false) = true := by
  decide +kernel

theorem signup_composes : signup.fieldNames.Nodup ∧
    ∃ r w u, signup.compile ModifierTable.builtin true = .ok r ∧
      r.order = ["code~0:lower", "again~0:lower", "code~1:equals", "code~2:upper", "code~3:copy"] ∧
      exec (fill {} signup .create) ((newSignup.begun .create).atPoint .perFieldFill) =
        (.ok (), w) ∧
      exec (r.apply signup) (w.atPoint .applyRoutine) = (.ok (), u) ∧
      w.context.latest.get? "code" = some (.text "Ab") ∧
      u.context.latest.get? "code" = some (.text "AB") ∧
      ¬r.Nullifies signup (w.atPoint .applyRoutine) "code" ∧
      ∀ s', Token.pipeline "signup" ((signupTokens.filter (·.target = "code")).map
        fun t => ⟨t, u.context.scope, s'⟩) (.text "Ab") = .ok (.text "AB") := by
  have hfields : signup.fieldNames.Nodup := by decide
  obtain ⟨r, hr, horder⟩ : ∃ r, signup.compile ModifierTable.builtin true = .ok r ∧
      r.order = ["code~0:lower", "again~0:lower", "code~1:equals", "code~2:upper",
        "code~3:copy"] :=
    ⟨_, rfl, rfl⟩
  obtain ⟨w, hfill, hx⟩ : ∃ w,
      exec (fill {} signup .create) ((newSignup.begun .create).atPoint .perFieldFill) =
        (.ok (), w) ∧ w.context.latest.get? "code" = some (.text "Ab") :=
    ⟨_, rfl, rfl⟩
  obtain ⟨u, happly, hy⟩ : ∃ u, exec (r.apply signup) (w.atPoint .applyRoutine) = (.ok (), u) ∧
      u.context.latest.get? "code" = some (.text "AB") := by
    have hcode := code_after_signup
    rw [hr, hfill] at hcode
    dsimp only at hcode
    split at hcode
    · rename_i u happly
      split at hcode
      · rename_i code hcode'
        exact ⟨u, happly, by rw [hcode', of_decide_eq_true hcode]⟩
      · cases hcode
    · cases hcode
  have hnot := Entity.not_nullifies_of_keepsField (fun m hm => ModifierTable.draws_builtin hm) hr
    tokens_signup signup_keepsField (w.atPoint .applyRoutine)
  have hwords : ∀ t ∈ signupTokens, ∀ name ∈ t.call.reads, name ≠ t.target →
      Expression.IsWord name → ∀ t' ∈ signupTokens, t'.target ≠ name := by
    decide
  have hbegins : Begins {} signup r .create newSignup (newSignup.begun .create) := rfl
  obtain ⟨turns, y, hy', _, _, _, hfinal⟩ := (composes_of_apply
    ModifierTable.notMem_tilde_builtin (fun m hm => ModifierTable.draws_builtin hm)
    (fun g hg => Generator.draws_of_mem_builtin hg) hfields hr tokens_signup
    hbegins hfill happly hx).2 rfl hnot
  cases hy.symm.trans hy'
  exact ⟨hfields, r, w, _, hr, horder, hfill, happly, hx, hy, hnot, hfinal fun t ht _ =>
    Entity.confined_of_words tokens_signup ht (hwords t ht)⟩

end Preparation

end FieldPipeline
