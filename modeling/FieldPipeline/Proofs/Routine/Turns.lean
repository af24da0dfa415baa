import FieldPipeline.Preparation.Application
import FieldPipeline.Proofs.Routine.Grouping
import FieldPipeline.Proofs.Session

/-!
Applying a routine one operation at a time.  An operation under the guard of the one before it
runs if that one did; under another guard, that guard is asked.
-/

namespace FieldPipeline

def Group.answer (e : Entity) (c : Context) (g : Group) : Except Failure Bool :=
  match g.verdict e c with
  | .skip => .ok false
  | .demandTarget => .error (.rejected ⟨some e.name, .dependencyChanged g.target⟩)
  | .run =>
    match g.missing c with
    | [] => .ok true
    | missing => .error (.rejected ⟨some e.name, .dependencyMissing g.target missing⟩)

def Group.admits (e : Entity) (g : Group) : Run Bool := do
  Run.ofExcept (g.answer e (← Run.context))

@[simp] theorem Group.exec_admits (e : Entity) (g : Group) (s : Session) :
    exec (g.admits e) s = (g.answer e s.context, s) := by
  unfold admits
  rw [exec_bind_of_ok (Run.exec_context s), Run.exec_ofExcept]

theorem Group.apply_eq (e : Entity) (g : Group) :
    g.apply e = g.admits e >>= fun admitted =>
      if admitted then g.operations.forM fun o => Operation.runCalls e.name g.target o.kind o.calls
      else pure () := by
  unfold apply admits answer
  rw [bind_assoc]
  congr 1
  funext c
  cases g.verdict e c with
  | skip => rfl
  | demandTarget => rfl
  | run =>
      cases g.missing c with
      | nil => rfl
      | cons name missing => rfl

theorem Group.answer_congr (e : Entity) (c : Context) {g g' : Group}
    (htarget : g.target = g'.target) (hfields : g.requiredFields = g'.requiredFields)
    (hrequire : g.requireTarget = g'.requireTarget) : g.answer e c = g'.answer e c := by
  simp only [answer, verdict, missing, htarget, hfields, hrequire]

theorem Group.admits_congr (e : Entity) {g g' : Group} (htarget : g.target = g'.target)
    (hfields : g.requiredFields = g'.requiredFields)
    (hrequire : g.requireTarget = g'.requireTarget) : g.admits e = g'.admits e := by
  simp only [admits, answer_congr e _ htarget hfields hrequire]

namespace Operation

def alone (o : Operation) : Group where
  target := o.target
  requiredFields := o.references
  requireTarget := o.requiresTarget
  operations := [o]

def run (e : Entity) (o : Operation) : Run Unit :=
  runCalls e.name o.target o.kind o.calls

def runAll (e : Entity) (admitted : Bool) (operations : List Operation) : Run Unit :=
  if admitted then operations.forM (run e) else pure ()

def admitsAfter (e : Entity) (before : Option (Operation × Bool)) (o : Operation) : Run Bool :=
  match before with
  | some (previous, ran) => if previous.sameGuard o then pure ran else o.alone.admits e
  | none => o.alone.admits e

def inTurn (e : Entity) : Option (Operation × Bool) → List Operation → Run Unit
  | _, [] => pure ()
  | before, o :: rest => do
    let admitted ← o.admitsAfter e before
    runAll e admitted [o]
    inTurn e (some (o, admitted)) rest

theorem runAll_append (e : Entity) (admitted : Bool) (l₁ l₂ : List Operation) :
    runAll e admitted (l₁ ++ l₂) = runAll e admitted l₁ >>= fun _ => runAll e admitted l₂ := by
  cases admitted with
  | false => exact (pure_bind _ _).symm
  | true => exact List.forM_append

theorem inTurn_chain (e : Entity) {previous : Operation} {chunk : List Operation}
    (hchain : (previous :: chunk).IsChain fun o other => o.sameGuard other = true) (ran : Bool)
    (rest : List Operation) :
    inTurn e (some (previous, ran)) (chunk ++ rest) = runAll e ran chunk >>= fun _ =>
      inTurn e (some ((previous :: chunk).getLast (by simp), ran)) rest := by
  induction chunk generalizing previous with
  | nil => cases ran <;> exact (pure_bind _ _).symm
  | cons o chunk ih =>
      rw [List.isChain_cons_cons] at hchain
      have hadmits : o.admitsAfter e (some (previous, ran)) = pure ran := by
        simp [admitsAfter, hchain.1]
      have hsplit : runAll e ran (o :: chunk) = runAll e ran [o] >>= fun _ => runAll e ran chunk :=
        runAll_append e ran [o] chunk
      simp only [List.cons_append, inTurn, hadmits, pure_bind, ih hchain.2, hsplit, bind_assoc]
      rfl

end Operation

namespace Group

theorem apply_of_ofOperations? (e : Entity) {chunk : List Operation} {g : Group}
    (hchain : chunk.IsChain fun o other => o.sameGuard other = true)
    (hg : ofOperations? chunk = some g) :
    g.apply e = g.admits e >>= fun admitted => Operation.runAll e admitted chunk := by
  obtain ⟨hoperations, hholds⟩ := holds_of_ofOperations? hchain hg
  rw [apply_eq, hoperations]
  congr 1
  funext admitted
  cases admitted with
  | false => rfl
  | true =>
      refine forM_congr fun o' ho' => ?_
      rw [← (hholds o' ho').target_eq]
      rfl

/-- Chunks under one guard each, of which no two neighbours have the same guard, are groups whose
operations run in turn. -/
theorem forM_ofOperations? (e : Entity) (chunks : List (List Operation))
    (before : Option (Operation × Bool)) (hnil : [] ∉ chunks)
    (hchain : ∀ m ∈ chunks, m.IsChain fun o other => o.sameGuard other = true)
    (hboundary : chunks.IsChain fun m m' =>
      ∃ hm hm', (m.getLast hm).sameGuard (m'.head hm') = false)
    (hfirst : ∀ o ∈ chunks.flatten.head?, o.admitsAfter e before = o.alone.admits e) :
    (chunks.filterMap ofOperations?).forM (Group.apply e) =
      Operation.inTurn e before chunks.flatten := by
  -- a chunk asks its guard anew since the last operation before it had another one
  induction chunks generalizing before with
  | nil => rfl
  | cons chunk chunks ih =>
      rw [List.mem_cons, not_or] at hnil
      cases chunk with
      | nil => exact absurd rfl hnil.1
      | cons o chunk =>
          have hmine := hchain (o :: chunk) (by simp)
          obtain ⟨g, hg⟩ : ∃ g, ofOperations? (o :: chunk) = some g := ⟨_, rfl⟩
          have hadmits : o.admitsAfter e before = g.admits e := by
            rw [hfirst o (by simp)]
            obtain ⟨htarget, hfields, hrequire⟩ :=
              (holds_of_ofOperations? hmine hg).2 o (by simp)
            exact admits_congr e htarget hfields hrequire
          have hrest : ∀ admitted, (chunks.filterMap ofOperations?).forM (Group.apply e) =
              Operation.inTurn e (some ((o :: chunk).getLast (by simp), admitted))
                chunks.flatten := by
            intro admitted
            refine ih _ hnil.2 (fun m hm => hchain m (List.mem_cons_of_mem _ hm))
              hboundary.tail ?_
            cases chunks with
            | nil => simp
            | cons next chunks =>
                obtain ⟨_, hnext, hguard⟩ := (List.isChain_cons_cons.mp hboundary).1
                cases next with
                | nil => exact absurd rfl hnext
                | cons o' next =>
                    intro o'' ho''
                    cases ho''
                    simp only [List.head_cons] at hguard
                    simp [Operation.admitsAfter, hguard]
          have hchunk : ∀ admitted, Operation.runAll e admitted (o :: chunk) =
              Operation.runAll e admitted [o] >>= fun _ => Operation.runAll e admitted chunk :=
            fun admitted => Operation.runAll_append e admitted [o] chunk
          rw [List.filterMap_cons_some hg]
          change g.apply e >>= (fun _ => (chunks.filterMap ofOperations?).forM _) = _
          simp only [apply_of_ofOperations? e hmine hg, List.flatten_cons, List.cons_append,
            Operation.inTurn, hadmits, Operation.inTurn_chain e hmine, ← hrest, hchunk, bind_assoc]

theorem forM_ofOrder (e : Entity) (operations : List Operation) :
    (ofOrder operations).forM (Group.apply e) = Operation.inTurn e none operations := by
  rw [ofOrder, forM_ofOperations? e _ none (List.nil_notMem_splitBy _ _)
    (fun m hm => List.isChain_of_mem_splitBy hm) (List.isChain_getLast_head_splitBy _ _)
    (fun _ _ => rfl), List.flatten_splitBy]

end Group

end FieldPipeline
