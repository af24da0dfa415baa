import FieldPipeline.Proofs.Expression.Refusing
import FieldPipeline.Proofs.Routine.Circularity
import FieldPipeline.Routine.Compilation

/-!
Compiling many entities.  What is wrong with the declaration of one is noted under its name and
touches no other.  Only an expression that is too deep to be checked stops them all.  Where entities
share a name, what is known under it is what the last of them comes to.
-/

namespace FieldPipeline

/-! ### How an entity can fail -/

/-- Whether a text is one of the expressions of a use. -/
def PlacedUse.Holds (table : ModifierTable) (u : PlacedUse) (text : String) : Prop :=
  ∃ m texts, Token.modifierFor table u.use u.field = .ok m ∧
    Token.expressions u.use m.kind u.field m.expressionArgs = .ok texts ∧ text ∈ texts

/-- Whether a failure is a fault of the declaration of an entity, or the depth of one of some
expressions. -/
inductive Failure.Blames (entity : String) (holds : String → Prop) : Failure → Prop where
  | declaration (fault : DeclarationFault) : Blames entity holds (.declaration ⟨some entity, fault⟩)
  | tooDeep {text : String} (htext : holds text) (hdeep : Expression.TooDeep text) :
      Blames entity holds (.fault .tooDeep)

theorem Failure.Blames.mono {entity : String} {holds holds' : String → Prop} {f : Failure}
    (h : f.Blames entity holds) (himp : ∀ text, holds text → holds' text) :
    f.Blames entity holds' := by
  cases h with
  | declaration fault => exact .declaration fault
  | tooDeep htext hdeep => exact .tooDeep (himp _ htext) hdeep

namespace Token

variable {table : ModifierTable} {e : Entity} {target : String} {u : ModifierUse} {f : Failure}

theorem readBy_error {entity text : String} (h : readBy entity u target text = .error f) :
    f.Blames entity (· = text) := by
  unfold readBy at h
  split at h
  · rename_i fault hproblem
    cases h
    obtain ⟨rfl, hdeep⟩ := Expression.tooDeep_of_problem? hproblem
    exact .tooDeep rfl hdeep
  · cases h
    exact .declaration _
  · rename_i hproblem
    obtain ⟨names, hnames⟩ := Expression.exists_references_of_problem?_eq_none hproblem
    rw [hnames] at h
    cases h

theorem ofUse_error {position : Nat} (h : ofUse table e target position u = .error f) :
    f.Blames e.name (PlacedUse.Holds table ⟨target, position, u⟩) := by
  simp only [ofUse, bind_eq_error, mapError_eq_error, mapError_eq_ok] at h
  rcases h with ⟨fault, _, rfl⟩ | ⟨m, hm, h⟩
  · exact .declaration fault
  · split at h
    · cases h
      exact .declaration _
    · simp only [bind_eq_error, mapError_eq_error, mapError_eq_ok] at h
      rcases h with ⟨fault, _, rfl⟩ | ⟨texts, htexts, h | ⟨read, _, h⟩⟩
      · exact .declaration fault
      · obtain ⟨text, hmem, hread⟩ := exists_of_mapM_error h
        refine (readBy_error hread).mono ?_
        rintro _ rfl
        exact ⟨m, texts, hm, htexts, hmem⟩
      · split at h
        · cases h
          exact .declaration _
        · cases h

theorem ofUses_error {first : Nat} {us : List ModifierUse}
    (h : ofUses table e target first us = .error f) :
    ∃ u ∈ us.zipIdx first, ofUse table e target u.2 u.1 = .error f := by
  induction us generalizing first with
  | nil => cases h
  | cons u us ih =>
      simp only [ofUses, bind_eq_error] at h
      rcases h with h | ⟨_, _, h | ⟨_, _, h⟩⟩
      · exact ⟨(u, first), by simp, h⟩
      · obtain ⟨u', hu', hof⟩ := ih h
        exact ⟨u', List.mem_cons_of_mem _ hu', hof⟩
      · cases h

end Token

namespace Entity

variable {table : ModifierTable} {merging : Bool} {e : Entity} {f : Failure}

theorem tokens_error (h : e.tokens table = .error f) :
    f.Blames e.name fun text => ∃ u ∈ e.uses, u.Holds table text := by
  simp only [tokens, bind_eq_error] at h
  rcases h with h | ⟨_, _, h⟩
  · obtain ⟨field, hfield, hof⟩ := exists_of_mapM_error h
    obtain ⟨u, hu, hof⟩ := Token.ofUses_error hof
    refine (Token.ofUse_error hof).mono fun text hholds => ⟨_, ?_, hholds⟩
    exact List.mem_flatMap.mpr ⟨field, hfield, List.mem_map_of_mem hu⟩
  · cases h

theorem compile_error (hfields : e.fieldNames.Nodup)
    (h : e.compile ModifierTable.builtin merging = .error f) :
    f.Blames e.name fun text => ∃ u ∈ e.uses, u.Holds ModifierTable.builtin text := by
  unfold compile at h
  rcases bind_eq_error.mp h with htokens | ⟨ts, hts, h⟩
  · exact tokens_error htokens
  · have hids : (ts.map (·.id)).Nodup :=
      List.pairwise_map.mpr (ids_tokens ModifierTable.notMem_tilde_builtin hts hfields)
    have hspec := Token.sort_graph_spec hids (fun _ => notSelf_of_mem_tokens hts)
      (positions_tokens hts hfields)
    unfold Routine.ofTokens at h
    rcases hspec with ⟨order, hsort, _⟩ | ⟨waiting, hsort, _⟩
    · rw [hsort] at h
      cases h
    · rw [hsort] at h
      cases h
      exact .declaration _

end Entity

/-! ### Many entities -/

namespace Compilation

variable {table : ModifierTable} {merging : Bool} {es : List Entity} {e : Entity} {c : Compilation}

theorem enter_of_notMem {α : Type} {name : String} {l : List (String × α)} (a : α)
    (h : name ∉ l.map Prod.fst) : enter name a l = l ++ [(name, a)] := by
  induction l with
  | nil => rfl
  | cons entry l ih =>
      rw [List.map_cons, List.mem_cons, not_or] at h
      rw [enter, if_neg (Ne.symm h.1), ih h.2, List.cons_append]

/-- Whether entities have been compiled each for itself: one that can be compiled alone has its
routine, any other has what is then wrong with its declaration, and each name stands once. -/
structure Isolates (table : ModifierTable) (merging : Bool) (es : List Entity) (c : Compilation) :
    Prop where
  names : (c.routines.map Prod.fst ++ c.errors.map Prod.fst).Perm (es.map (·.name))
  routine_iff : ∀ e ∈ es, ∀ r, (e.name, r) ∈ c.routines ↔ e.compile table merging = .ok r
  error_iff : ∀ e ∈ es, ∀ error, (e.name, error) ∈ c.errors ↔
    e.compile table merging = .error (.declaration error)

theorem mem_append_singleton_iff {α : Type} {P : Entity → α → Prop} {l : List (String × α)} {a : α}
    (h : ∀ e' ∈ es, ∀ a', (e'.name, a') ∈ l ↔ P e' a') (hnew : e.name ∉ es.map (·.name))
    (hfree : e.name ∉ l.map Prod.fst) (ha : ∀ a', P e a' ↔ a' = a) :
    ∀ e' ∈ es ++ [e], ∀ a', (e'.name, a') ∈ l ++ [(e.name, a)] ↔ P e' a' := by
  grind

theorem mem_iff_of_none {α : Type} {P : Entity → α → Prop} {l : List (String × α)}
    (h : ∀ e' ∈ es, ∀ a', (e'.name, a') ∈ l ↔ P e' a')
    (hfree : e.name ∉ l.map Prod.fst) (hnone : ∀ a', ¬P e a') :
    ∀ e' ∈ es ++ [e], ∀ a', (e'.name, a') ∈ l ↔ P e' a' := by
  grind

namespace Isolates

theorem nil : Isolates table merging [] {} where
  names := .nil
  routine_iff := by simp
  error_iff := by simp

theorem addRoutine (h : Isolates table merging es c) (hnew : e.name ∉ es.map (·.name))
    {r : Routine} (hr : e.compile table merging = .ok r) :
    Isolates table merging (es ++ [e]) (c.addRoutine e.name r) := by
  have hroutine : e.name ∉ c.routines.map Prod.fst := fun hmem =>
    hnew (h.names.subset (List.mem_append_left _ hmem))
  have herror : e.name ∉ c.errors.map Prod.fst := fun hmem =>
    hnew (h.names.subset (List.mem_append_right _ hmem))
  have hroutines : (c.addRoutine e.name r).routines = c.routines ++ [(e.name, r)] :=
    enter_of_notMem r hroutine
  constructor
  · rw [hroutines, List.map_append, List.map_append, List.append_assoc]
    refine (List.perm_append_comm.append_left _).trans ?_
    rw [← List.append_assoc]
    exact h.names.append_right _
  · rw [hroutines]
    exact mem_append_singleton_iff h.routine_iff hnew hroutine (by simp [hr, eq_comm])
  · exact mem_iff_of_none h.error_iff herror (by simp [hr])

theorem addError (h : Isolates table merging es c) (hnew : e.name ∉ es.map (·.name))
    {error : DeclarationError} (herror : e.compile table merging = .error (.declaration error)) :
    Isolates table merging (es ++ [e]) (c.addError e.name error) := by
  have hroutine : e.name ∉ c.routines.map Prod.fst := fun hmem =>
    hnew (h.names.subset (List.mem_append_left _ hmem))
  have hfree : e.name ∉ c.errors.map Prod.fst := fun hmem =>
    hnew (h.names.subset (List.mem_append_right _ hmem))
  have herrors : (c.addError e.name error).errors = c.errors ++ [(e.name, error)] :=
    enter_of_notMem error hfree
  constructor
  · rw [herrors, List.map_append, List.map_append, ← List.append_assoc]
    exact h.names.append_right _
  · exact mem_iff_of_none h.routine_iff hroutine (by simp [herror])
  · rw [herrors]
    exact mem_append_singleton_iff h.error_iff hnew hfree (by simp [herror, eq_comm])

end Isolates

theorem ofEntities_append_singleton (table : ModifierTable) (merging : Bool) (es : List Entity)
    (e : Entity) : ofEntities table merging (es ++ [e]) =
      ofEntities table merging es >>= fun c => add table merging c e := by
  simp [ofEntities]

/-- Entities are compiled each for itself, whatever the others are and however they are ordered,
unless an expression of one of them is so deep that it cannot be checked. -/
theorem isolates_or_tooDeep (merging : Bool) (es : List Entity)
    (hfields : ∀ e ∈ es, e.fieldNames.Nodup) (hnames : (es.map (·.name)).Nodup) :
    (∃ c, ofEntities ModifierTable.builtin merging es = .ok c ∧
      Isolates ModifierTable.builtin merging es c) ∨
    ofEntities ModifierTable.builtin merging es = .error (.fault .tooDeep) ∧
      ∃ e ∈ es, e.compile ModifierTable.builtin merging = .error (.fault .tooDeep) ∧
        ∃ u ∈ e.uses, ∃ text, u.Holds ModifierTable.builtin text ∧ Expression.TooDeep text := by
  induction es using List.reverseRecOn with
  | nil => exact .inl ⟨_, rfl, .nil⟩
  | append_singleton es e ih =>
      rw [List.map_append, List.nodup_append] at hnames
      have hnew : e.name ∉ es.map (·.name) := fun hmem => hnames.2.2 _ hmem e.name (by simp) rfl
      have hbefore := ih (fun e' he' => hfields e' (List.mem_append_left _ he')) hnames.1
      rw [ofEntities_append_singleton]
      rcases hbefore with ⟨c, hc, hisolates⟩ | ⟨hdeep, e', he', hrest⟩
      · rw [hc]
        change (∃ c', add ModifierTable.builtin merging c e = .ok c' ∧ _) ∨
          add ModifierTable.builtin merging c e = _ ∧ _
        unfold add
        cases hcompile : e.compile ModifierTable.builtin merging with
        | ok r => exact .inl ⟨_, rfl, hisolates.addRoutine hnew hcompile⟩
        | error f =>
            cases Entity.compile_error (hfields e (by simp)) hcompile with
            | declaration fault => exact .inl ⟨_, rfl, hisolates.addError hnew hcompile⟩
            | tooDeep htext hdeep =>
                obtain ⟨u, hu, hholds⟩ := htext
                exact .inr ⟨rfl, e, by simp, hcompile, u, hu, _, hholds, hdeep⟩
      · rw [hdeep]
        exact .inr ⟨rfl, e', List.mem_append_left _ he', hrest⟩

def stock : Entity where
  name := "stock"
  fields := [
    { name := "count", type := "integer", modifiers := [
      { kind := "Processor", name := "transform", args := [.text "max(value, least)"] }] },
    { name := "least", type := "integer" }]

theorem isolates_stock_invoice : ∃ c r error,
    ofEntities ModifierTable.builtin true [stock, Entity.invoice] = .ok c ∧
      stock.compile ModifierTable.builtin true = .ok r ∧ ("stock", r) ∈ c.routines ∧
      Entity.invoice.compile ModifierTable.builtin true = .error (.declaration error) ∧
      ("invoice", error) ∈ c.errors := by
  have hok : (stock.compile ModifierTable.builtin true).isOk = true := by decide +kernel
  obtain ⟨r, hr⟩ : ∃ r, stock.compile ModifierTable.builtin true = .ok r := by
    cases hstock : stock.compile ModifierTable.builtin true with
    | ok r => exact ⟨r, rfl⟩
    | error f =>
        rw [hstock] at hok
        cases hok
  have herror : Entity.invoice.compile ModifierTable.builtin true = .error (.declaration
      ⟨some "invoice", .circular
        ["label~0:copy", "label~1:upper", "tax~0:copy", "total~0:concat", "total~1:trim"]
        ["label", "tax", "total"]⟩) := rfl
  have hfields : ∀ e ∈ [stock, Entity.invoice], e.fieldNames.Nodup := by decide
  rcases isolates_or_tooDeep true _ hfields (by decide) with
    ⟨c, hc, hisolates⟩ | ⟨_, e, he, hdeep, _⟩
  · refine ⟨c, r, _, hc, hr, (hisolates.routine_iff stock (by simp) r).mpr hr, herror, ?_⟩
    exact (hisolates.error_iff Entity.invoice (by simp) _).mpr herror
  · rcases List.mem_pair.mp he with rfl | rfl
    · cases hr.symm.trans hdeep
    · cases herror.symm.trans hdeep

end Compilation

/-! ### Entities that may share names -/

namespace Entity

def routine? (table : ModifierTable) (merging : Bool) (e : Entity) : Option (String × Routine) :=
  match e.compile table merging with
  | .ok r => some (e.name, r)
  | .error _ => none

def refusal? (table : ModifierTable) (merging : Bool) (e : Entity) :
    Option (String × DeclarationError) :=
  match e.compile table merging with
  | .error (.declaration error) => some (e.name, error)
  | _ => none

def Breaks (table : ModifierTable) (merging : Bool) (e : Entity) : Prop :=
  ∃ f, e.compile table merging = .error f ∧ ∀ error, f ≠ .declaration error

end Entity

namespace Compilation

variable {α : Type}

/-- The entries that are left when they are written one by one: of those with one name, the last
one in the place of the first. -/
def latest (entries : List (String × α)) : List (String × α) :=
  entries.foldl (fun acc entry => enter entry.1 entry.2 acc) []

theorem latest_append_singleton (entries : List (String × α)) (name : String) (a : α) :
    latest (entries ++ [(name, a)]) = enter name a (latest entries) := by
  simp [latest]

theorem names_enter (name : String) (a : α) (entries : List (String × α)) :
    (enter name a entries).map Prod.fst =
      if name ∈ entries.map Prod.fst then entries.map Prod.fst
      else entries.map Prod.fst ++ [name] := by
  induction entries with
  | nil => rfl
  | cons entry entries ih =>
      rw [enter]
      by_cases h : entry.1 = name
      · simp [h]
      · rw [if_neg h, List.map_cons, List.map_cons, ih]
        split <;> simp_all [eq_comm]

theorem names_latest (entries : List (String × α)) :
    (latest entries).map Prod.fst = Token.firstOccurrences (entries.map Prod.fst) := by
  induction entries using List.reverseRecOn with
  | nil => rfl
  | append_singleton entries entry ih =>
      rw [latest_append_singleton, names_enter, ih, List.map_append, List.map_singleton,
        Token.firstOccurrences_append_singleton]

theorem mem_names_latest {entries : List (String × α)} {name : String} :
    name ∈ (latest entries).map Prod.fst ↔ name ∈ entries.map Prod.fst := by
  rw [names_latest, Token.mem_firstOccurrences]

theorem latest_eq_nil_iff {entries : List (String × α)} : latest entries = [] ↔ entries = [] := by
  rw [← List.map_eq_nil_iff, ← List.map_eq_nil_iff (l := entries), List.eq_nil_iff_forall_not_mem,
    List.eq_nil_iff_forall_not_mem]
  exact forall_congr' fun name => not_congr mem_names_latest

theorem latest_of_nodup {entries : List (String × α)} (h : (entries.map Prod.fst).Nodup) :
    latest entries = entries := by
  induction entries using List.reverseRecOn with
  | nil => rfl
  | append_singleton entries entry ih =>
      rw [List.map_append, List.nodup_append] at h
      rw [latest_append_singleton, ih h.1]
      refine enter_of_notMem _ fun hmem => ?_
      exact h.2.2 _ hmem entry.1 (by simp) rfl

theorem length_latest_eq_iff {entries : List (String × α)} :
    (latest entries).length = entries.length ↔ (entries.map Prod.fst).Nodup := by
  constructor
  · intro h
    have hpart := Token.firstOccurrences_sublist (entries.map Prod.fst)
    have hlength : (Token.firstOccurrences (entries.map Prod.fst)).length =
        (entries.map Prod.fst).length := by
      rw [← names_latest, List.length_map, List.length_map, h]
    exact hpart.eq_of_length hlength ▸ Token.nodup_firstOccurrences _
  · exact fun h => congrArg List.length (latest_of_nodup h)

theorem add_cases (table : ModifierTable) (merging : Bool) (e : Entity) {c : Compilation}
    {routines : List (String × Routine)} {errors : List (String × DeclarationError)}
    (hroutines : c.routines = latest routines) (herrors : c.errors = latest errors) :
    (e.Breaks table merging ∧ ∃ f, add table merging c e = .error f) ∨
      ¬e.Breaks table merging ∧ ∃ c', add table merging c e = .ok c' ∧
        c'.routines = latest (routines ++ (e.routine? table merging).toList) ∧
        c'.errors = latest (errors ++ (e.refusal? table merging).toList) := by
  unfold add Entity.routine? Entity.refusal?
  cases hcompile : e.compile table merging with
  | ok r =>
      refine .inr ⟨?_, _, rfl, ?_, ?_⟩
      · rintro ⟨f, hf, _⟩
        cases hcompile.symm.trans hf
      · simp [latest_append_singleton, addRoutine, hroutines]
      · simp [addRoutine, herrors]
  | error f =>
      cases f with
      | declaration error =>
          refine .inr ⟨?_, _, rfl, ?_, ?_⟩
          · rintro ⟨f, hf, hother⟩
            cases hcompile.symm.trans hf
            exact hother error rfl
          · simp [addError, hroutines]
          · simp [latest_append_singleton, addError, herrors]
      | _ => exact .inl ⟨⟨_, hcompile, nofun⟩, _, rfl⟩

theorem ofEntities_cases (table : ModifierTable) (merging : Bool) (es : List Entity) :
    ((∃ e ∈ es, e.Breaks table merging) ∧ ∃ f, ofEntities table merging es = .error f) ∨
      (∀ e ∈ es, ¬e.Breaks table merging) ∧ ∃ c, ofEntities table merging es = .ok c ∧
        c.routines = latest (es.filterMap (Entity.routine? table merging)) ∧
        c.errors = latest (es.filterMap (Entity.refusal? table merging)) := by
  induction es using List.reverseRecOn with
  | nil => exact .inr ⟨by simp, {}, rfl, rfl, rfl⟩
  | append_singleton es e ih =>
      rw [ofEntities_append_singleton]
      rcases ih with ⟨⟨e', he', hbreaks⟩, f, hf⟩ | ⟨hnone, c, hc, hroutines, herrors⟩
      · exact .inl ⟨⟨e', by simp [he'], hbreaks⟩, f, by rw [hf]; rfl⟩
      have hone : ∀ {β : Type} (g : Entity → Option β), [e].filterMap g = (g e).toList := by
        intro β g
        cases h : g e <;> simp [h]
      rw [hc, List.filterMap_append, List.filterMap_append, hone, hone]
      rcases add_cases table merging e hroutines herrors with
        ⟨hbreaks, hf⟩ | ⟨hsound, hadd⟩
      · exact .inl ⟨⟨e, by simp, hbreaks⟩, hf⟩
      · refine .inr ⟨fun e' he' => ?_, hadd⟩
        rcases List.mem_append.mp he' with he' | he'
        · exact hnone e' he'
        · exact List.mem_singleton.mp he' ▸ hsound

end Compilation

end FieldPipeline
