import FieldPipeline.Proofs.Preparation.Checking
import FieldPipeline.Proofs.Preparation.Deriving
import FieldPipeline.Proofs.Routine.Conservation
import FieldPipeline.Proofs.Routine.Keeping
import FieldPipeline.Proofs.Routine.Reaching

/-!
A routine computes the pipeline of each field.  Its uses are sorted, merged, grouped, guarded and
put between those of other fields; all the same, a field with a value ends with what its uses make
of the value one after the other, in the order of their declaration.
-/

namespace FieldPipeline

open Run

namespace Token

/-- What a use makes of a value of its field, over a record.  A validator gives the value itself
if it accepts it, and an activator leaves a field alone that has a value. -/
def work (entity : String) (t : Token) (around : Record) (v : Value) : Run Value :=
  match t.kind with
  | .validator => do
    let accepted ← t.call.invoke entity t.target (around.put t.target v) [v]
    if accepted.isTrue then pure v
    else Run.reject entity (.checkFailed t.target t.call.modifier.name)
  | .processor => t.call.invoke entity t.target (around.put t.target v) [v]
  | .activator => pure v

structure Turn where
  token : Token
  around : Record
  session : Session

def Turn.result (entity : String) (turn : Turn) (v : Value) : Except Failure Value :=
  (exec (turn.token.work entity turn.around v) turn.session).1

def pipeline (entity : String) (turns : List Turn) (v : Value) : Except Failure Value :=
  turns.foldlM (fun v turn => turn.result entity v) v

/-- Whether a record shows a use the same as another one does in the fields to which the use
refers, and in those on which no use works. -/
def Sees (ts : List Token) (t : Token) (final around : Record) : Prop :=
  ∀ name, name ≠ t.target → (name ∈ t.references ∨ ∀ t' ∈ ts, t'.target ≠ name) →
    around.get? name = final.get? name

variable {entity : String}

theorem pipeline_cons (turn : Turn) (turns : List Turn) (v : Value) :
    pipeline entity (turn :: turns) v = turn.result entity v >>= pipeline entity turns := rfl

theorem pipeline_append (turns turns' : List Turn) (v : Value) :
    pipeline entity (turns ++ turns') v = pipeline entity turns v >>= pipeline entity turns' :=
  List.foldlM_append

theorem pipeline_append_of_ok {turns turns' : List Turn} {v w : Value}
    (h : pipeline entity turns v = .ok w) :
    pipeline entity (turns ++ turns') v = pipeline entity turns' w := by
  rw [pipeline_append, h]
  rfl

theorem exists_turns_of_activators {tokens : List Token} (h : ∀ t ∈ tokens, t.kind = .activator)
    (around : Record) (s : Session) (v : Value) :
    ∃ turns : List Turn, turns.map (·.token) = tokens ∧ (∀ turn ∈ turns, turn.around = around) ∧
      pipeline entity turns v = .ok v := by
  induction tokens with
  | nil => exact ⟨[], rfl, by simp, rfl⟩
  | cons t tokens ih =>
      rw [List.forall_mem_cons] at h
      obtain ⟨turns, hturns, haround, hvalue⟩ := ih h.2
      have hresult : Turn.result entity ⟨t, around, s⟩ v = .ok v := by
        simp only [Turn.result, work, h.1]
        rfl
      refine ⟨⟨t, around, s⟩ :: turns, by rw [List.map_cons, hturns],
        List.forall_mem_cons.mpr ⟨rfl, haround⟩, ?_⟩
      rw [pipeline_cons, hresult]
      exact hvalue

end Token

namespace Operation

variable {entity target : String} {tokens : List Token}

theorem exists_turns_of_validate
    (htokens : ∀ t ∈ tokens, t.kind = .validator ∧ t.target = target) {scope : Record} {v : Value}
    (hscope : scope.put target v = scope) {s s' : Session}
    (h : exec (validate entity target scope v (tokens.map (·.call))) s = (.ok (), s')) :
    ∃ turns : List Token.Turn, turns.map (·.token) = tokens ∧
      (∀ turn ∈ turns, turn.around = scope) ∧ Token.pipeline entity turns v = .ok v := by
  induction tokens generalizing s with
  | nil => exact ⟨[], rfl, by simp, rfl⟩
  | cons t tokens ih =>
      rw [List.forall_mem_cons] at htokens
      obtain ⟨⟨hkind, rfl⟩, htokens⟩ := htokens
      rw [List.map_cons, validate, exec_bind_eq_ok] at h
      obtain ⟨accepted, s₁, hfirst, h⟩ := h
      by_cases htrue : accepted.isTrue = true
      · rw [if_pos htrue] at h
        obtain ⟨turns, hturns, haround, hvalue⟩ := ih htokens h
        have hresult : Token.Turn.result entity ⟨t, scope, s⟩ v = .ok v := by
          simp only [Token.Turn.result, Token.work, hkind, hscope]
          rw [exec_bind_of_ok hfirst, if_pos htrue]
          rfl
        refine ⟨⟨t, scope, s⟩ :: turns, by rw [List.map_cons, hturns],
          List.forall_mem_cons.mpr ⟨rfl, haround⟩, ?_⟩
        rw [Token.pipeline_cons, hresult]
        exact hvalue
      · rw [if_neg htrue] at h
        cases h

theorem exists_turns_of_process
    (htokens : ∀ t ∈ tokens, t.kind = .processor ∧ t.target = target) {around : Record}
    {v w : Value} {s s' : Session}
    (h : exec (process entity target (around.put target v) v (tokens.map (·.call))) s =
      (.ok w, s')) :
    ∃ turns : List Token.Turn, turns.map (·.token) = tokens ∧
      (∀ turn ∈ turns, turn.around = around) ∧ Token.pipeline entity turns v = .ok w := by
  induction tokens generalizing v s with
  | nil =>
      cases h
      exact ⟨[], rfl, by simp, rfl⟩
  | cons t tokens ih =>
      rw [List.forall_mem_cons] at htokens
      obtain ⟨⟨hkind, rfl⟩, htokens⟩ := htokens
      rw [List.map_cons, process, exec_bind_eq_ok] at h
      obtain ⟨u, s₁, hfirst, h⟩ := h
      rw [Record.put_put_self] at h
      obtain ⟨turns, hturns, haround, hvalue⟩ := ih htokens h
      have hresult : Token.Turn.result entity ⟨t, around, s⟩ v = .ok u := by
        simp only [Token.Turn.result, Token.work, hkind]
        rw [hfirst]
      refine ⟨⟨t, around, s⟩ :: turns, by rw [List.map_cons, hturns],
        List.forall_mem_cons.mpr ⟨rfl, haround⟩, ?_⟩
      rw [Token.pipeline_cons, hresult]
      exact hvalue

theorem process_append_singleton {scope : Record} {v w : Value} {calls : List Call} {c : Call}
    {s s' : Session}
    (h : exec (process entity target scope v (calls ++ [c])) s = (.ok w, s')) : ∃ u s₁,
      exec (process entity target scope v calls) s = (.ok u, s₁) ∧
      exec (c.invoke entity target (if calls.isEmpty then scope else scope.put target u) [u]) s₁ =
        (.ok w, s') := by
  induction calls generalizing scope v s with
  | nil =>
      rw [List.nil_append, process, exec_bind_eq_ok] at h
      obtain ⟨u, s₁, hc, h⟩ := h
      cases h
      exact ⟨v, s, rfl, hc⟩
  | cons first calls ih =>
      rw [List.cons_append, process, exec_bind_eq_ok] at h
      obtain ⟨u, s₁, hfirst, h⟩ := h
      obtain ⟨u', s₂, hcalls, hc⟩ := ih h
      refine ⟨u', s₂, ?_, ?_⟩
      · rw [process, exec_bind_of_ok hfirst]
        exact hcalls
      · cases calls with
        | nil =>
            cases hcalls
            simpa using hc
        | cons _ _ => simpa using hc

theorem exists_reaches_of_process {o : Operation} (hkind : o.kind = .processor)
    (hcalls : o.calls ≠ []) {s s' : Session} {w : Value}
    (h : exec (process entity o.target s.context.scope (s.context.latest.getOrNull o.target)
      o.calls) s = (.ok w, s')) : ∃ c scope values u, o.Reaches entity s c scope values u ∧
      (exec (c.invoke entity o.target scope values) u).1 = .ok w := by
  rcases List.eq_nil_or_concat o.calls with hnil | ⟨before, c, hconcat⟩
  · exact absurd hnil hcalls
  · rw [List.concat_eq_append] at hconcat
    rw [hconcat] at h
    obtain ⟨v, u, hbefore, hlast⟩ := process_append_singleton h
    exact ⟨c, _, _, u, .processor before [] v u hkind hconcat hbefore, by rw [hlast]⟩

theorem exists_turns_of_runCalls {o : Operation} (hof : IsOf tokens o)
    (hkind : o.kind ≠ .activator) (hdraws : ∀ c ∈ o.calls, c.modifier.Draws)
    {s s' : Session} (hs : s.context.latest.names.Nodup) {v : Value}
    (hv : s.context.latest.get? o.target = some v)
    (h : exec (runCalls entity o.target o.kind o.calls) s = (.ok (), s')) :
    ∃ (turns : List Token.Turn) (w : Value), s'.context.latest.get? o.target = some w ∧
      turns.map (·.token) = tokens ∧ (∀ turn ∈ turns, turn.around = s.context.scope) ∧
      Token.pipeline entity turns v = .ok w ∧
      (w = v ∨ (o.kind = .processor ∧ ∃ u, exec (process entity o.target s.context.scope
        (s.context.latest.getOrNull o.target) o.calls) s = (.ok w, u))) := by
  have hvalue : s.context.latest.getOrNull o.target = v := by simp [Record.getOrNull, hv]
  have hscope : s.context.scope.put o.target v = s.context.scope := by
    refine Record.put_of_get? ?_
    rw [Context.get?_scope hs, Context.lookUp?_of_has (Record.has_of_get?_eq_some hv), hv]
  have huniform : ∀ kind, o.kind = kind → ∀ t ∈ tokens, t.kind = kind ∧ t.target = o.target := by
    rintro kind rfl
    exact hof.uniform
  cases hcase : o.kind with
  | activator => exact absurd hcase hkind
  | validator =>
      rw [hcase, exec_runCalls_validator, hvalue] at h
      have hcontext := (@draws_validate entity o.target o.calls hdraws s.context.scope v).context_eq
        s
      rw [h] at hcontext
      change s'.context = s.context at hcontext
      rw [hof.calls_eq] at h
      obtain ⟨turns, hturns, haround, hresult⟩ :=
        exists_turns_of_validate (huniform _ hcase) hscope h
      exact ⟨turns, v, hcontext ▸ hv, hturns, haround, hresult, .inl rfl⟩
  | processor =>
      rw [hcase, exec_runCalls_processor, exec_bind_eq_ok] at h
      obtain ⟨w, u, hprocess, h⟩ := h
      cases h
      have hturns := hprocess
      rw [hvalue, hof.calls_eq, ← hscope] at hturns
      obtain ⟨turns, hturns, haround, hresult⟩ :=
        exists_turns_of_process (huniform _ hcase) hturns
      exact ⟨turns, w, Record.get?_put_self _ _ _, hturns, haround, hresult,
        .inr ⟨rfl, u, hprocess⟩⟩

end Operation

namespace Group

variable {e : Entity} {g : Group} {s t : Session} {v : Value}

theorem runs_of_get? (hrequire : g.requireTarget = true)
    (hv : s.context.latest.get? g.target = some v) (hnonnull : v.isNull = false)
    (h : exec (g.apply e) s = (.ok (), t)) : g.verdict e s.context = .run ∧
      g.missing s.context = [] ∧
      exec (g.operations.forM fun o => Operation.runCalls e.name g.target o.kind o.calls) s =
        (.ok (), t) := by
  have hverdict : g.verdict e s.context = .run := by
    rw [verdict_of_requireTarget hrequire, hv]
    simp [hnonnull]
  have hmissing : g.missing s.context = [] := by
    unfold apply at h
    rw [exec_bind_of_ok (exec_context s), hverdict] at h
    dsimp only at h
    split at h
    · assumption
    · cases h
  exact ⟨hverdict, hmissing, by rwa [exec_apply_of_run hverdict hmissing] at h⟩

theorem exec_apply_of_null (hv : s.context.latest.get? g.target = some v)
    (hnull : v.isNull = true) : exec (g.apply e) s = (.ok (), s) := by
  cases hrequire : g.requireTarget with
  | false => exact exec_apply_of_has hrequire (Record.has_of_get?_eq_some hv)
  | true =>
      have hverdict : g.verdict e s.context = .skip := by
        rw [verdict_of_requireTarget hrequire, hv]
        simp [hnull]
      unfold apply
      rw [exec_bind_of_ok (exec_context s), hverdict]
      rfl

theorem uniform_of_isOf {chunks : List (List Token)} (hholds : ∀ o ∈ g.operations, g.Holds o)
    (hchunks : List.Forall₂ (fun chunk o => Operation.IsOf chunk o) chunks g.operations) :
    ∀ t ∈ chunks.flatten, t.target = g.target ∧ (t.kind ≠ .activator ↔ g.requireTarget = true) := by
  intro t ht
  obtain ⟨chunk, hchunk, ht⟩ := List.mem_flatten.mp ht
  obtain ⟨o, ho, hof⟩ := exists_of_mem_forall₂ hchunks.flip hchunk
  obtain ⟨hkind, htarget⟩ := hof.uniform t ht
  rw [hkind, htarget, (hholds o ho).target_eq, ← Operation.requiresTarget_iff,
    (hholds o ho).requiresTarget_eq]
  exact ⟨rfl, Iff.rfl⟩

end Group

namespace Routine

/-- Whether a processor gives null for a field while a routine is applied in a session. -/
def Nullifies (e : Entity) (r : Routine) (s : Session) (field : String) : Prop :=
  ∃ o t c scope values u v, r.Starts e s o t ∧ o.target = field ∧ o.kind = .processor ∧
    o.Reaches e.name t c scope values u ∧
    (exec (c.invoke e.name field scope values) u).1 = .ok v ∧ v.isNull = true

/-- Whether a turn is taken while a routine is applied in a session: its operation starts, and its
record is the one that is there then. -/
def Takes (e : Entity) (r : Routine) (s : Session) (turn : Token.Turn) : Prop :=
  ∃ o t, r.Starts e s o t ∧ turn.around = t.context.scope ∧ turn.token.target = o.target ∧
    ∀ name ∈ turn.token.references, name ∈ o.references

variable {e : Entity} {r : Routine} {s : Session}

theorem get?_of_null {groups : List Group}
    (hdraws : ∀ g ∈ groups, ∀ o ∈ g.operations, ∀ c ∈ o.calls, c.modifier.Draws) {field : String}
    {v : Value} (hnull : v.isNull = true) {t u : Session}
    (hv : t.context.latest.get? field = some v)
    (h : exec (groups.forM (Group.apply e)) t = (.ok (), u)) :
    u.context.latest.get? field = some v := by
  induction groups generalizing t with
  | nil =>
      cases h
      exact hv
  | cons g groups ih =>
      rw [List.forall_mem_cons] at hdraws
      rw [exec_forM_cons, exec_bind_eq_ok] at h
      obtain ⟨_, t₁, hfirst, h⟩ := h
      refine ih hdraws.2 ?_ h
      by_cases hfield : field = g.target
      · subst hfield
        rw [Group.exec_apply_of_null hv hnull] at hfirst
        cases hfirst
        exact hv
      · rw [((Group.writesOnly_apply hdraws.1).writes hfirst).latest field hfield, hv]

section Turns

variable (hdraws : r.Draws) (hholds : ∀ g ∈ r.groups, ∀ o ∈ g.operations, g.Holds o)
  (hcalls : ∀ g ∈ r.groups, ∀ o ∈ g.operations, o.calls ≠ [])
  (hs : s.context.latest.names.Nodup)

include hdraws hholds hcalls hs

theorem exists_turns_of_operations {before after : List Group} {g : Group}
    (hgroups : r.groups = before ++ g :: after) (hrequire : g.requireTarget = true) {u : Session}
    (hbefore : exec (before.forM (Group.apply e)) s = (.ok (), u))
    (hverdict : g.verdict e u.context = .run) (hmissing : g.missing u.context = [])
    (hnull : ¬r.Nullifies e s g.target) {done rest : List Operation}
    (hoperations : g.operations = done ++ rest) {chunks : List (List Token)}
    (hchunks : List.Forall₂ (fun chunk o => Operation.IsOf chunk o) chunks rest) {t t' : Session}
    (hdone : exec (done.forM fun o => Operation.runCalls e.name g.target o.kind o.calls) u =
      (.ok (), t))
    (hrest : exec (rest.forM fun o => Operation.runCalls e.name g.target o.kind o.calls) t =
      (.ok (), t')) {v : Value} (hv : t.context.latest.get? g.target = some v)
    (hnonnull : v.isNull = false) :
    ∃ (turns : List Token.Turn) (w : Value), t'.context.latest.get? g.target = some w ∧
      w.isNull = false ∧ turns.map (·.token) = chunks.flatten ∧
      (∀ turn ∈ turns, r.Takes e s turn) ∧ Token.pipeline e.name turns v = .ok w := by
  have hg : g ∈ r.groups := by simp [hgroups]
  -- over the operations that are left; the value before them is what those done have made
  induction hchunks generalizing done t v with
  | nil =>
      cases hrest
      exact ⟨[], v, hv, hnonnull, rfl, by simp, rfl⟩
  | @cons chunk o chunks rest hof hchunks ih =>
      have ho : o ∈ g.operations := by simp [hoperations]
      have hhold := hholds g hg o ho
      have hstarts : r.Starts e s o t :=
        ⟨before, g, after, done, rest, u, hgroups, hbefore, hverdict, hmissing, hoperations, hdone⟩
      have hkind : o.kind ≠ .activator := by
        rw [← Operation.requiresTarget_iff, hhold.requiresTarget_eq, hrequire]
      have ht : t.context.latest.names.Nodup := by
        have hnodup := ((writesOnly_groups fun g' hg' => hdraws g' (by simp [hgroups, hg'])).writes
          hbefore).nodup hs
        exact ((Operation.writesOnly_forM e.name g.target fun o' ho' =>
          hdraws g hg o' (by simp [hoperations, ho'])).writes hdone).nodup hnodup
      rw [exec_forM_cons, exec_bind_eq_ok] at hrest
      obtain ⟨_, t₁, hfirst, hrest⟩ := hrest
      rw [← hhold.target_eq] at hv hfirst
      obtain ⟨turns, w, hw, hturns, haround, hresult, hsource⟩ :=
        Operation.exists_turns_of_runCalls hof hkind (hdraws g hg o ho) ht hv hfirst
      have hwnull : w.isNull = false := by
        rcases hsource with rfl | ⟨hprocessor, _, hprocess⟩
        · exact hnonnull
        · obtain ⟨c, scope, values, u', hreaches, hinvoke⟩ :=
            Operation.exists_reaches_of_process hprocessor (hcalls g hg o ho) hprocess
          by_contra hne
          exact hnull ⟨o, t, c, scope, values, u', w, hstarts, hhold.target_eq, hprocessor,
            hreaches, hhold.target_eq ▸ hinvoke, by simpa using hne⟩
      have hdone' : exec ((done ++ [o]).forM fun o =>
          Operation.runCalls e.name g.target o.kind o.calls) u = (.ok (), t₁) := by
        rw [exec_forM_append, exec_bind_of_ok hdone, exec_forM_cons, ← hhold.target_eq,
          exec_bind_of_ok hfirst]
        rfl
      obtain ⟨turns', w', hw', hnull', hturns', htakes', hresult'⟩ :=
        ih (by rw [hoperations, List.append_assoc]; rfl) hdone' hrest (hhold.target_eq ▸ hw) hwnull
      refine ⟨turns ++ turns', w', hw', hnull', ?_, ?_, ?_⟩
      · rw [List.map_append, hturns, hturns', List.flatten_cons]
      · intro turn hturn
        rcases List.mem_append.mp hturn with hturn | hturn
        · have htoken : turn.token ∈ chunk := hturns ▸ List.mem_map_of_mem hturn
          exact ⟨o, t, hstarts, haround turn hturn, (hof.uniform _ htoken).2,
            fun name hname => (hof.mem_references_iff name).mpr ⟨_, htoken, hname⟩⟩
        · exact htakes' turn hturn
      · rw [Token.pipeline_append_of_ok hresult, hresult']

theorem exists_turns_of_group {field : String} (hnull : ¬r.Nullifies e s field)
    {before after : List Group} {g : Group} (hgroups : r.groups = before ++ g :: after)
    {chunks : List (List Token)}
    (hchunks : List.Forall₂ (fun chunk o => Operation.IsOf chunk o) chunks g.operations)
    {t u : Session} (hbefore : exec (before.forM (Group.apply e)) s = (.ok (), t))
    (happly : exec (g.apply e) t = (.ok (), u)) {v : Value}
    (hv : t.context.latest.get? field = some v) (hnonnull : v.isNull = false) (final : Record) :
    ∃ (turns : List Token.Turn) (w : Value), u.context.latest.get? field = some w ∧
      w.isNull = false ∧
      turns.map (·.token) = chunks.flatten.filter (·.target = field) ∧
      (∀ turn ∈ turns, r.Takes e s turn ∨ turn.around = final) ∧
      Token.pipeline e.name turns v = .ok w := by
  have hg : g ∈ r.groups := by simp [hgroups]
  have huniform := Group.uniform_of_isOf (hholds g hg) hchunks
  by_cases hfield : field = g.target
  · subst hfield
    have hall : chunks.flatten.filter (·.target = g.target) = chunks.flatten :=
      List.filter_eq_self.mpr fun t ht => by simpa using (huniform t ht).1
    rw [hall]
    cases hrequire : g.requireTarget with
    | false =>
        rw [Group.exec_apply_of_has hrequire (Record.has_of_get?_eq_some hv)] at happly
        cases happly
        obtain ⟨turns, hturns, haround, hresult⟩ := Token.exists_turns_of_activators
          (fun t ht => not_not.mp (by simpa [hrequire] using (huniform t ht).2)) final t v
        exact ⟨turns, v, hv, hnonnull, hturns, fun turn hturn => .inr (haround turn hturn),
          hresult⟩
    | true =>
        obtain ⟨hverdict, hmissing, hoperations⟩ :=
          Group.runs_of_get? hrequire hv hnonnull happly
        obtain ⟨turns, w, hw, hwnull, hturns, htakes, hresult⟩ :=
          exists_turns_of_operations hdraws hholds hcalls hs hgroups hrequire hbefore hverdict
            hmissing hnull (List.nil_append g.operations).symm hchunks rfl hoperations hv hnonnull
        exact ⟨turns, w, hw, hwnull, hturns, fun turn hturn => .inl (htakes turn hturn), hresult⟩
  · have hnone : chunks.flatten.filter (·.target = field) = [] :=
      List.filter_eq_nil_iff.mpr fun t ht => by
        simpa [(huniform t ht).1] using Ne.symm hfield
    refine ⟨[], v, ?_, hnonnull, hnone.symm, by simp, rfl⟩
    rw [((Group.writesOnly_apply (hdraws g hg)).writes happly).latest field hfield, hv]

theorem exists_turns_of_groups {field : String} (hnull : ¬r.Nullifies e s field)
    {before after : List Group} (hgroups : r.groups = before ++ after)
    {chunks : List (List Token)}
    (hchunks : List.Forall₂ (fun chunk o => Operation.IsOf chunk o) chunks
      (after.flatMap (·.operations))) {t u : Session}
    (hbefore : exec (before.forM (Group.apply e)) s = (.ok (), t))
    (hafter : exec (after.forM (Group.apply e)) t = (.ok (), u)) {v : Value}
    (hv : t.context.latest.get? field = some v) (hnonnull : v.isNull = false) :
    ∃ (turns : List Token.Turn) (w : Value), u.context.latest.get? field = some w ∧
      w.isNull = false ∧
      turns.map (·.token) = chunks.flatten.filter (·.target = field) ∧
      (∀ turn ∈ turns, r.Takes e s turn ∨ turn.around = u.context.scope) ∧
      Token.pipeline e.name turns v = .ok w := by
  -- over the groups that are left, of which each takes its own operations off the chunks
  induction after generalizing before chunks t v with
  | nil =>
      cases hafter
      cases hchunks
      exact ⟨[], v, hv, hnonnull, rfl, by simp, rfl⟩
  | cons g after ih =>
      rw [List.flatMap_cons] at hchunks
      have hmine := List.forall₂_take_append _ _ _ hchunks
      have hothers := List.forall₂_drop_append _ _ _ hchunks
      rw [exec_forM_cons, exec_bind_eq_ok] at hafter
      obtain ⟨_, t₁, happly, hafter⟩ := hafter
      have hbefore' : exec ((before ++ [g]).forM (Group.apply e)) s = (.ok (), t₁) := by
        rw [exec_forM_append, exec_bind_of_ok hbefore, exec_forM_cons, exec_bind_of_ok happly]
        rfl
      obtain ⟨turns, w, hw, hwnull, hturns, htakes, hresult⟩ := exists_turns_of_group hdraws hholds
        hcalls hs hnull hgroups hmine hbefore happly hv hnonnull u.context.scope
      obtain ⟨turns', w', hw', hwnull', hturns', htakes', hresult'⟩ :=
        ih (by simp [hgroups]) hothers hbefore' hafter hw hwnull
      refine ⟨turns ++ turns', w', hw', hwnull', ?_, ?_, ?_⟩
      · rw [List.map_append, hturns, hturns', ← List.filter_append, ← List.flatten_append,
          List.take_append_drop]
      · intro turn hturn
        exact (List.mem_append.mp hturn).elim (htakes turn) (htakes' turn)
      · rw [Token.pipeline_append_of_ok hresult, hresult']

end Turns

end Routine

end FieldPipeline
