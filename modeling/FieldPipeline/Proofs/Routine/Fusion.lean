import Mathlib.Data.List.Induction
import FieldPipeline.Proofs.Effect
import FieldPipeline.Proofs.Preparation.Application

/-!
Several calls made as one operation, and made one by one.  For validators and processors it is
the same.  Of activators one operation makes the last call that applies; made one by one, all
calls that apply are made, and the last of them counts.
-/

namespace FieldPipeline

open Run

namespace Session

theorem scope_write {s : Session} (h : s.context.latest.names.Nodup) (name : String) (v : Value) :
    (s.write name v).context.scope = s.context.scope.put name v :=
  Record.update_put h _ _ _

end Session

namespace Operation

variable {entity target : String} {calls : List Call}

theorem validate_append (scope : Record) (v : Value) (l₁ l₂ : List Call) :
    validate entity target scope v (l₁ ++ l₂) =
      validate entity target scope v l₁ >>= fun _ => validate entity target scope v l₂ := by
  induction l₁ with
  | nil => exact (pure_bind _ _).symm
  | cons c l₁ ih =>
      simp only [List.cons_append, validate, bind_assoc]
      congr 1
      funext accepted
      by_cases h : accepted.isTrue = true
      · simp only [h, if_true, ih]
      · simp only [h]
        rfl

theorem exec_runCalls_validator (calls : List Call) (s : Session) :
    exec (runCalls entity target .validator calls) s =
      exec (validate entity target s.context.scope (s.context.latest.getOrNull target) calls) s :=
  exec_bind_of_ok (exec_context s) _

theorem exec_runCalls_processor (calls : List Call) (s : Session) :
    exec (runCalls entity target .processor calls) s =
      exec (process entity target s.context.scope (s.context.latest.getOrNull target) calls >>=
        setLatest target) s :=
  exec_bind_of_ok (exec_context s) _

theorem exec_runCalls_activator (calls : List Call) (s : Session) :
    exec (runCalls entity target .activator calls) s =
      exec (derive? entity target s.context.scope calls.reverse >>= fun
        | some v => setLatest target v
        | none => pure ()) s :=
  exec_bind_of_ok (exec_context s) _

theorem exec_validators_cons {c : Call} (hc : c.modifier.Draws) (s : Session) :
    exec (runCalls entity target .validator (c :: calls)) s =
      exec (runCalls entity target .validator [c] >>= fun _ =>
        runCalls entity target .validator calls) s := by
  have hfirst : ∀ c' ∈ [c], Modifier.Draws (Call.modifier c') := by simpa using hc
  have hcontext := (@draws_validate entity target [c] hfirst s.context.scope
    (s.context.latest.getOrNull target)).context_eq s
  rw [exec_runCalls_validator, ← List.singleton_append, validate_append, exec_bind, exec_bind,
    exec_runCalls_validator]
  rcases h : exec (validate entity target s.context.scope
    (s.context.latest.getOrNull target) [c]) s with ⟨_ | _, t⟩
  · rfl
  · rw [h] at hcontext
    change t.context = s.context at hcontext
    simp only [exec_runCalls_validator, hcontext]

theorem coincide_processors_cons {c : Call} (hc : c.modifier.Draws)
    (hcalls : ∀ c ∈ calls, c.modifier.Draws) {s : Session}
    (hs : s.context.latest.names.Nodup) :
    Coincide (exec (runCalls entity target .processor (c :: calls)) s)
      (exec (runCalls entity target .processor [c] >>= fun _ =>
        runCalls entity target .processor calls) s) := by
  rw [exec_runCalls_processor, exec_bind (runCalls _ _ _ _), exec_runCalls_processor]
  simp only [process, bind_assoc, bind_pure]
  rw [exec_bind, exec_bind]
  have hcontext := (c.draws_invoke hc entity target s.context.scope
    [s.context.latest.getOrNull target]).context_eq s
  rcases h : exec (c.invoke entity target s.context.scope [s.context.latest.getOrNull target]) s
    with ⟨e | v, t⟩
  · exact .refl _
  · rw [h] at hcontext
    have hscope : (t.write target v).context.scope = s.context.scope.put target v := by
      rw [Session.scope_write (hcontext ▸ hs), hcontext]
    have hvalue : (t.write target v).context.latest.getOrNull target = v := by
      simp [Session.write, Record.getOrNull]
    -- the other calls do not notice that the first result is written down already
    have hlater := (@draws_process entity target calls hcalls
      (s.context.scope.put target v) v).exec_withContext t (t.write target v).context
    change exec _ (t.write target v) = _ at hlater
    simp only [exec_setLatest, exec_runCalls_processor, hscope, hvalue]
    rw [exec_bind, exec_bind, hlater]
    have hcontext' := (@draws_process entity target calls hcalls
      (s.context.scope.put target v) v).context_eq t
    rcases h' : exec (process entity target (s.context.scope.put target v) v calls) t
      with ⟨e | w, u⟩
    · exact .inr ⟨e, u, _, rfl, rfl⟩
    · rw [h'] at hcontext'
      refine .inl ?_
      simp only [exec_setLatest, Session.write, ← hcontext', Record.put_put_self]

theorem coincide_runCalls_cons {kind : ModifierKind} (hkind : kind ≠ .activator) {c : Call}
    (hc : c.modifier.Draws) (hcalls : ∀ c ∈ calls, c.modifier.Draws) {s : Session}
    (hs : s.context.latest.names.Nodup) :
    Coincide (exec (runCalls entity target kind (c :: calls)) s)
      (exec (runCalls entity target kind [c] >>= fun _ =>
        runCalls entity target kind calls) s) := by
  cases kind with
  | validator => exact .inl (exec_validators_cons hc s)
  | processor => exact coincide_processors_cons hc hcalls hs
  | activator => exact absurd rfl hkind

theorem coincide_runCalls_forM {kind : ModifierKind} (hkind : kind ≠ .activator)
    (hcalls : ∀ c ∈ calls, c.modifier.Draws) (hne : calls ≠ []) {s : Session}
    (hs : s.context.latest.names.Nodup) :
    Coincide (exec (runCalls entity target kind calls) s)
      (exec (calls.forM fun c => runCalls entity target kind [c]) s) := by
  induction calls generalizing s with
  | nil => exact absurd rfl hne
  | cons c calls ih =>
      have hc := hcalls c (by simp)
      have hrest : ∀ c ∈ calls, c.modifier.Draws := fun c hc => hcalls c (by simp [hc])
      cases calls with
      | nil => exact .inl (congrArg (fun x => exec x s) (bind_pure _).symm)
      | cons c' calls =>
          refine (coincide_runCalls_cons hkind hc hrest hs).trans ?_
          rw [exec_forM_cons]
          refine .bind (.refl _) fun _ t ht => ih hrest (by simp) ?_
          have hwrites := @writesOnly_runCalls entity target [c] kind (by simpa using hc) s
          rw [ht] at hwrites
          exact hwrites.nodup hs

theorem exec_runCalls_nil {kind : ModifierKind} {s : Session}
    (htarget : s.context.latest.has target = true) :
    exec (runCalls entity target kind []) s = (.ok (), s) := by
  cases kind with
  | validator => exact exec_runCalls_validator [] s
  | activator => exact exec_runCalls_activator [] s
  | processor =>
      obtain ⟨v, hv⟩ := Option.isSome_iff_exists.mp htarget
      rw [exec_runCalls_processor, process, pure_bind, exec_setLatest]
      simp only [Session.write, Record.getOrNull, hv, Option.getD_some, Record.put_of_get? hv]

/-- It makes no difference whether validators, or processors, are called on a value in one
operation or in an operation each: both fail for the same reason, or both succeed and leave the
same behind.  The modifiers change nothing, and look at no more than their arguments, the record
that they are shown and the sources. -/
theorem runCalls_eq_forM {kind : ModifierKind} (hkind : kind ≠ .activator)
    (hcalls : ∀ c ∈ calls, c.modifier.Draws) {s : Session} (hs : s.context.latest.names.Nodup)
    (htarget : s.context.latest.has target = true) :
    (exec (runCalls entity target kind calls) s).1 =
        (exec (calls.forM fun c => runCalls entity target kind [c]) s).1 ∧
      ((exec (runCalls entity target kind calls) s).1 = .ok () →
        (exec (runCalls entity target kind calls) s).2 =
          (exec (calls.forM fun c => runCalls entity target kind [c]) s).2) := by
  have hcoincide : Coincide (exec (runCalls entity target kind calls) s)
      (exec (calls.forM fun c => runCalls entity target kind [c]) s) := by
    cases calls with
    | nil => exact .inl (exec_runCalls_nil htarget)
    | cons c calls => exact coincide_runCalls_forM hkind hcalls (by simp) hs
  exact ⟨hcoincide.fst_eq, hcoincide.snd_eq⟩

def billCalls : List Call := [
  { modifier := Modifier.Processor.transform, args := [.text "value * 2"] },
  { modifier := Modifier.Processor.transform, args := [.text "total + fee"] }]

def bill : Session where
  settings := {}
  sources := .still
  context := {
    latest := [("total", .int 3)]
    existing := some [("total", .int 1), ("fee", .int 10)] }

theorem total_of_bill : (match exec (runCalls "bill" "total" .processor billCalls) bill with
    | (.ok (), t) =>
        match t.context.latest.get? "total" with
        | some (.int n) => decide (n = 16)
        | _ => false
    | _ => false) = true := by
  decide +kernel

theorem bill_runCalls_eq_forM : (∀ c ∈ billCalls, c.modifier.Draws) ∧
    bill.context.latest.names.Nodup ∧ bill.context.latest.has "total" = true ∧
    ∃ t, exec (runCalls "bill" "total" .processor billCalls) bill = (.ok (), t) ∧
      exec (billCalls.forM fun c => runCalls "bill" "total" .processor [c]) bill = (.ok (), t) ∧
      t.context.latest.get? "total" = some (.int 16) := by
  have hdraws : ∀ c ∈ billCalls, c.modifier.Draws := by
    simp only [billCalls, List.forall_mem_cons]
    exact ⟨Modifier.Processor.draws_transform, Modifier.Processor.draws_transform, by simp⟩
  have hnodup : bill.context.latest.names.Nodup := by decide
  have htarget : bill.context.latest.has "total" = true := rfl
  obtain ⟨hfst, hsnd⟩ :=
    @runCalls_eq_forM "bill" "total" billCalls .processor (by decide) hdraws bill hnodup htarget
  have htotal := total_of_bill
  split at htotal
  · rename_i t hfused
    rw [hfused] at hfst hsnd
    split at htotal
    · rename_i n hn
      exact ⟨hdraws, hnodup, htarget, t, hfused, Prod.ext hfst.symm (hsnd rfl).symm,
        by rw [hn, of_decide_eq_true htotal]⟩
    · cases htotal
  · cases htotal

end Operation

namespace Call

def BlindTo (entity target : String) (c : Call) : Prop :=
  ∀ scope v, c.applies entity target (scope.put target v) = c.applies entity target scope ∧
    c.invoke entity target (scope.put target v) [] = c.invoke entity target scope []

def Yields (entity target : String) (scope : Record) (c : Call) : Prop :=
  c.applies entity target scope = .ok false ∨ (c.applies entity target scope = .ok true ∧
    ∃ v, ∀ s, exec (c.invoke entity target scope []) s = (.ok v, s))

/-- Whether activators on a field may as well be called one by one: none sees what those before
it derive, and where it applies they are not missed. -/
def Layered (entity target : String) (calls : List Call) : Prop :=
  calls.Pairwise fun c later => later.BlindTo entity target ∧
    ∀ scope, later.applies entity target scope = .ok true → c.Yields entity target scope

end Call

namespace Operation

variable {entity target : String} {calls : List Call}

theorem exec_runCalls_one (c : Call) (s : Session) :
    exec (runCalls entity target .activator [c]) s =
      match c.applies entity target s.context.scope with
      | .ok true => exec (c.invoke entity target s.context.scope [] >>= setLatest target) s
      | .ok false => (.ok (), s)
      | .error e => (.error e, s) := by
  rw [exec_runCalls_activator]
  simp only [List.reverse_singleton, derive?, bind_assoc]
  rw [exec_bind, exec_ofExcept]
  rcases c.applies entity target s.context.scope with e | _ | _
  · rfl
  · rfl
  · simp only [if_true, bind_assoc, pure_bind]

def UpTo (target : String) (c c' : Context) : Prop :=
  c' = c ∨ ∃ v, c' = { c with latest := c.latest.put target v }

theorem UpTo.write {c : Context} {t : Session} (h : UpTo target c t.context) (v : Value) :
    t.write target v = { t with context := { c with latest := c.latest.put target v } } := by
  rcases h with h | ⟨w, h⟩
  · simp [Session.write, h]
  · simp [Session.write, h]

theorem UpTo.blind {c c' : Context} (hc : c.latest.names.Nodup) (h : UpTo target c c') {call : Call}
    (hblind : call.BlindTo entity target) :
    call.applies entity target c'.scope = call.applies entity target c.scope ∧
      call.invoke entity target c'.scope [] = call.invoke entity target c.scope [] := by
  rcases h with rfl | ⟨w, rfl⟩
  · exact ⟨rfl, rfl⟩
  · have hscope : Context.scope { c with latest := c.latest.put target w } =
        c.scope.put target w := Record.update_put hc _ _ _
    rw [hscope]
    exact hblind _ _

theorem upTo_of_forM (hcalls : ∀ c ∈ calls, c.modifier.Draws) {c : Context} {s t : Session}
    (hs : UpTo target c s.context)
    (h : exec (calls.forM fun c => runCalls entity target .activator [c]) s = (.ok (), t)) :
    UpTo target c t.context := by
  refine exec_forM_ok_induct (P := fun s => UpTo target c s.context) ?_ hs h
  intro call hcall s t hs h
  rw [exec_runCalls_one] at h
  split at h
  · rw [exec_bind_eq_ok] at h
    obtain ⟨v, u, hinvoke, h⟩ := h
    have hcontext := (call.draws_invoke (hcalls call hcall) entity target s.context.scope
      []).context_eq s
    rw [hinvoke] at hcontext
    change u.context = s.context at hcontext
    rw [exec_setLatest, UpTo.write (hcontext ▸ hs)] at h
    cases h
    exact .inr ⟨v, rfl⟩
  · cases h
    exact hs
  · cases h

theorem exec_forM_of_blind {s : Session} (hs : s.context.latest.names.Nodup)
    (hblind : ∀ c ∈ calls, c.BlindTo entity target)
    (hyields : ∀ c ∈ calls, c.Yields entity target s.context.scope) {c : Context}
    (hc : UpTo target s.context c) :
    ∃ c', UpTo target s.context c' ∧
      exec (calls.forM fun c => runCalls entity target .activator [c]) { s with context := c } =
        (.ok (), { s with context := c' }) := by
  induction calls generalizing c with
  | nil => exact ⟨c, hc, rfl⟩
  | cons call calls ih =>
      obtain ⟨happlies, hinvoke⟩ := hc.blind hs (hblind call (by simp))
      have hrest := fun c' => @ih (fun c hc => hblind c (by simp [hc]))
        (fun c hc => hyields c (by simp [hc])) c'
      rcases hyields call (by simp) with hcall | ⟨hcall, v, hv⟩
      · have hone : exec (runCalls entity target .activator [call]) { s with context := c } =
            (.ok (), { s with context := c }) := by
          rw [exec_runCalls_one, happlies, hcall]
        obtain ⟨c', hc', hexec⟩ := hrest c hc
        exact ⟨c', hc', by rw [exec_forM_cons, exec_bind_of_ok hone, hexec]⟩
      · have hone : exec (runCalls entity target .activator [call]) { s with context := c } =
            (.ok (), s.write target v) := by
          rw [exec_runCalls_one, happlies, hcall, hinvoke]
          dsimp only
          rw [exec_bind_of_ok (hv _), exec_setLatest, UpTo.write hc]
          rfl
        obtain ⟨c', hc', hexec⟩ := hrest _ (.inr ⟨v, rfl⟩)
        exact ⟨c', hc', by rw [exec_forM_cons, exec_bind_of_ok hone]; exact hexec⟩

theorem exec_forM_of_yields {s : Session} (hs : s.context.latest.names.Nodup)
    (hblind : calls.Pairwise fun _ later => later.BlindTo entity target)
    (hyields : ∀ c ∈ calls, c.Yields entity target s.context.scope) :
    ∃ c, UpTo target s.context c ∧
      exec (calls.forM fun c => runCalls entity target .activator [c]) s =
        (.ok (), { s with context := c }) := by
  cases calls with
  | nil => exact ⟨s.context, .inl rfl, rfl⟩
  | cons call calls =>
      rw [List.pairwise_cons] at hblind
      have hrest := fun c' => @exec_forM_of_blind entity target calls s hs hblind.1
        (fun c hc => hyields c (by simp [hc])) c'
      rcases hyields call (by simp) with hcall | ⟨hcall, v, hv⟩
      · have hone : exec (runCalls entity target .activator [call]) s = (.ok (), s) := by
          rw [exec_runCalls_one, hcall]
        obtain ⟨c, hc, hexec⟩ := hrest s.context (.inl rfl)
        exact ⟨c, hc, by rw [exec_forM_cons, exec_bind_of_ok hone]; exact hexec⟩
      · have hone : exec (runCalls entity target .activator [call]) s =
            (.ok (), s.write target v) := by
          rw [exec_runCalls_one, hcall]
          dsimp only
          rw [exec_bind_of_ok (hv _), exec_setLatest]
        obtain ⟨c, hc, hexec⟩ := hrest _ (.inr ⟨v, rfl⟩)
        exact ⟨c, hc, by rw [exec_forM_cons, exec_bind_of_ok hone]; exact hexec⟩

theorem exec_forM_singleton_of_blind {s t : Session} (hs : s.context.latest.names.Nodup)
    {call : Call} (hblind : call.BlindTo entity target)
    (ht : UpTo target s.context t.context) :
    exec ([call].forM fun c => runCalls entity target .activator [c]) t =
      match call.applies entity target s.context.scope with
      | .ok true => exec (call.invoke entity target s.context.scope [] >>= setLatest target) t
      | .ok false => (.ok (), t)
      | .error e => (.error e, t) := by
  obtain ⟨happlies, hinvoke⟩ := ht.blind hs hblind
  change exec (runCalls entity target .activator [call] >>= fun _ => pure ()) t = _
  rw [bind_pure_unit, exec_runCalls_one, happlies, hinvoke]

theorem agree_invoke_of_upTo {call : Call} (hcall : call.modifier.Draws) {s : Session}
    {c : Context} (hc : UpTo target s.context c) :
    Agree (exec (call.invoke entity target s.context.scope [] >>= setLatest target) s)
      (exec (call.invoke entity target s.context.scope [] >>= setLatest target)
        { s with context := c }) := by
  have hdraws := call.draws_invoke hcall entity target s.context.scope []
  have hcontext := hdraws.context_eq s
  rw [exec_bind, exec_bind, hdraws.exec_withContext s c]
  rcases h : exec (call.invoke entity target s.context.scope []) s with ⟨e | v, t⟩
  · exact .of_errors rfl rfl
  · rw [h] at hcontext
    change t.context = s.context at hcontext
    have hwrite := @UpTo.write target s.context { t with context := c } hc v
    apply Agree.of_eq
    simp only [exec_setLatest, hwrite]
    simp only [Session.write, hcontext]

theorem agree_activators_forM (hcalls : ∀ c ∈ calls, c.modifier.Draws)
    (hlayered : Call.Layered entity target calls) {s : Session}
    (hs : s.context.latest.names.Nodup) :
    Agree (exec (runCalls entity target .activator calls) s)
      (exec (calls.forM fun c => runCalls entity target .activator [c]) s) := by
  -- the last call is tried first, and only when it does not apply do those before it count
  induction calls using List.reverseRecOn with
  | nil => exact .refl _
  | append_singleton calls call ih =>
      unfold Call.Layered at hlayered
      rw [List.pairwise_append] at hlayered
      obtain ⟨hinner, _, hlater⟩ := hlayered
      have hcalls' : ∀ c ∈ calls, c.modifier.Draws := fun c hc => hcalls c (by simp [hc])
      have hcall : call.modifier.Draws := hcalls call (by simp)
      cases calls with
      | nil => exact .of_eq (congrArg (fun x => exec x s) (bind_pure _).symm)
      | cons first calls =>
          generalize hbefore : first :: calls = before at *
          have hblind : call.BlindTo entity target :=
            (hlater first (by simp [← hbefore]) call (by simp)).1
          rw [exec_runCalls_activator, List.reverse_append, List.reverse_singleton,
            List.singleton_append, derive?, bind_assoc, exec_bind, exec_ofExcept, exec_forM_append]
          have hlast := fun t => @exec_forM_singleton_of_blind entity target s t hs call hblind
          have hupTo := fun t => @upTo_of_forM entity target before hcalls' s.context s t (.inl rfl)
          cases happlies : call.applies entity target s.context.scope with
          | error e =>
              rw [happlies] at hlast
              rw [exec_bind]
              rcases hfirst : exec (before.forM fun c => runCalls entity target .activator [c]) s
                with ⟨e' | _, t⟩
              · exact .of_errors rfl rfl
              · dsimp only
                rw [hlast t (hupTo t hfirst)]
                exact .of_errors rfl rfl
          | ok holds =>
              rw [happlies] at hlast
              cases holds with
              | false =>
                  refine .trans (.of_eq ?_) ((ih hcalls' hinner).trans (.of_eq ?_))
                  · rw [exec_runCalls_activator]
                    rfl
                  · rw [exec_bind]
                    rcases hfirst : exec (before.forM fun c =>
                      runCalls entity target .activator [c]) s with ⟨e' | _, t⟩
                    · rfl
                    · exact (hlast t (hupTo t hfirst)).symm
              | true =>
                  obtain ⟨c, hc, hfirst⟩ := exec_forM_of_yields hs (hinner.imp fun h => h.1)
                    fun c hc => (hlater c hc call (by simp)).2 _ happlies
                  rw [exec_bind_of_ok hfirst, hlast _ hc]
                  simp only [if_true, bind_assoc, pure_bind]
                  exact agree_invoke_of_upTo hcall hc

end Operation

end FieldPipeline
