import FieldPipeline.Proofs.Preparation.Course
import FieldPipeline.Proofs.Routine.Merging
import FieldPipeline.Proofs.Routine.Settling

/-!
Preparing values with a merged routine and with one that is not merged.
-/

namespace FieldPipeline

open Run

namespace Preparation

def wantsFormer (e : Entity) (raw : Record) (g : Group) : Bool :=
  runsOn (changing e raw) g && dependsOnFormer e raw g

theorem wantsFormer_congr (e : Entity) (raw : Record) {g g' : Group}
    (htarget : g.target = g'.target) (hfields : g.requiredFields = g'.requiredFields)
    (hrequire : g.requireTarget = g'.requireTarget) :
    wantsFormer e raw g = wantsFormer e raw g' := by
  simp only [wantsFormer, runsOn, dependsOnFormer, htarget, hfields, hrequire]

theorem any_wantsFormer_ofOrder (e : Entity) (raw : Record) (operations : List Operation) :
    (Group.ofOrder operations).any (wantsFormer e raw) =
      operations.any fun o => wantsFormer e raw o.alone := by
  rw [Bool.eq_iff_iff, List.any_eq_true, List.any_eq_true]
  constructor
  · rintro ⟨g, hg, hwants⟩
    obtain ⟨o, ho⟩ := List.exists_mem_of_ne_nil _ (Group.operations_ne_nil hg)
    obtain ⟨htarget, hfields, hrequire⟩ := Group.holds_of_mem_ofOrder hg ho
    refine ⟨o, Group.mem_of_mem_ofOrder hg ho, ?_⟩
    rw [← hwants]
    exact wantsFormer_congr e raw htarget hfields hrequire
  · rintro ⟨o, ho, hwants⟩
    rw [← Group.flatMap_operations_ofOrder operations, List.mem_flatMap] at ho
    obtain ⟨g, hg, ho⟩ := ho
    obtain ⟨htarget, hfields, hrequire⟩ := Group.holds_of_mem_ofOrder hg ho
    refine ⟨g, hg, ?_⟩
    rw [← hwants]
    exact (wantsFormer_congr e raw htarget hfields hrequire).symm

theorem wantsFormer_of_requiresTarget {e : Entity} {raw : Record} {o : Operation}
    (h : o.requiresTarget = true) : wantsFormer e raw o.alone = true ↔
      (changing e raw).contains o.target = true ∧ ∃ name ∈ o.references, raw.has name = false := by
  unfold wantsFormer runsOn dependsOnFormer Operation.alone
  simp [h]

theorem wantsFormer_fuse {e : Entity} {keeps : String → Prop} {t : Token} {rest : List Token}
    (h : Operation.Fusible e keeps t rest) (raw : Record) :
    wantsFormer e raw (Operation.fuse t rest).alone =
      (t :: rest).any fun t' => wantsFormer e raw (Operation.fuse t' []).alone := by
  rw [Bool.eq_iff_iff, List.any_eq_true]
  rcases h.references with hreferences | ⟨hkind, _⟩
  · have hsame : ∀ t' ∈ t :: rest, wantsFormer e raw (Operation.fuse t rest).alone =
        wantsFormer e raw (Operation.fuse t' []).alone := by
      intro t' ht'
      obtain ⟨htarget, hfields, hrequires⟩ :=
        Operation.sameGuard_iff.mp (h.sameGuard hreferences ht')
      exact wantsFormer_congr e raw htarget hfields hrequires
    constructor
    · intro hwants
      exact ⟨t, by simp, hsame t (by simp) ▸ hwants⟩
    · rintro ⟨t', ht', hwants⟩
      rwa [hsame t' ht']
  · have hrequires : ∀ t' rest', t'.kind = t.kind →
        (Operation.fuse t' rest').requiresTarget = true :=
      fun t' rest' hsame => Operation.requiresTarget_iff.mpr fun hk => hkind (hsame.symm.trans hk)
    rw [wantsFormer_of_requiresTarget (hrequires t rest rfl)]
    simp only [Operation.mem_references_fuse]
    constructor
    · rintro ⟨hchanging, name, ⟨t', ht', hname⟩, hraw⟩
      obtain ⟨htarget, hkind'⟩ := h.uniform t' ht'
      refine ⟨t', ht', (wantsFormer_of_requiresTarget (hrequires t' [] hkind')).mpr ⟨?_, name, ?_,
        hraw⟩⟩
      · change (changing e raw).contains t'.target = true
        rw [htarget]
        exact hchanging
      · exact (Operation.mem_references_fuse t' [] name).mpr ⟨t', by simp, hname⟩
    · rintro ⟨t', ht', hwants⟩
      obtain ⟨htarget, hkind'⟩ := h.uniform t' ht'
      obtain ⟨hchanging, name, hname, hraw⟩ :=
        (wantsFormer_of_requiresTarget (hrequires t' [] hkind')).mp hwants
      obtain ⟨t'', ht'', hname⟩ := (Operation.mem_references_fuse t' [] name).mp hname
      rw [List.mem_singleton] at ht''
      rw [ht''] at hname
      change (changing e raw).contains t'.target = true at hchanging
      rw [htarget] at hchanging
      exact ⟨hchanging, name, ⟨t', ht', hname⟩, hraw⟩

variable {e : Entity} {ts : List Token}

theorem needsFormer_merged (h : Token.Mergeable e.name ts)
    (hdraws : ∀ t ∈ ts, t.call.modifier.Draws) (features : List Feature) (raw : Record) :
    needsFormer features e (Routine.ofOrder e.name true ts) raw =
      needsFormer features e (Routine.ofOrder e.name false ts) raw := by
  have hchains : ∀ chains : List (List Token),
      (∀ chain ∈ chains, ∃ t rest, chain = t :: rest ∧
        Operation.Fusible e (Token.KeepsField e.name ts) t rest) →
      ((chains.filterMap Operation.ofTokens?).any fun o => wantsFormer e raw o.alone) =
        (chains.flatten.map fun t => Operation.fuse t []).any
          fun o => wantsFormer e raw o.alone := by
    intro chains hfusible
    induction chains with
    | nil => rfl
    | cons chain chains ih =>
        obtain ⟨t, rest, rfl, h⟩ := hfusible chain (by simp)
        have hcons : ((t :: rest) :: chains).filterMap Operation.ofTokens? =
            Operation.fuse t rest :: chains.filterMap Operation.ofTokens? :=
          List.filterMap_cons_some rfl
        rw [hcons, List.any_cons, wantsFormer_fuse h, List.flatten_cons, List.map_append,
          List.any_append, List.any_map,
          ih fun chain hchain => hfusible chain (List.mem_cons_of_mem _ hchain)]
        rfl
  have hgroups : (Routine.ofOrder e.name true ts).groups.any (wantsFormer e raw) =
      (Routine.ofOrder e.name false ts).groups.any (wantsFormer e raw) := by
    simp only [Routine.ofOrder]
    rw [any_wantsFormer_ofOrder, any_wantsFormer_ofOrder, Operation.ofOrder_true,
      Operation.ofOrder_false, hchains _ fun _ hchain => h.fusible hdraws hchain,
      List.flatten_splitBy]
  unfold needsFormer
  change (if touchesWriteOnce e raw = true then _ else
    if (Routine.ofOrder e.name true ts).groups.any (wantsFormer e raw) = true then _ else _) = _
  rw [hgroups]
  rfl

theorem agree_later {equipment : Equipment} {mode : Mode} (h : Token.Mergeable e.name ts)
    (hdraws : ∀ t ∈ ts, t.call.modifier.Draws)
    (hgenerators : ∀ g ∈ equipment.generators, g.Draws) {s : Session}
    (hs : s.context.latest.names.Nodup) :
    Agree (exec (later equipment e (Routine.ofOrder e.name true ts) mode) s)
      (exec (later equipment e (Routine.ofOrder e.name false ts) mode) s) := by
  unfold later
  rw [exec_bind_of_ok (exec_reach _ _), exec_bind_of_ok (exec_reach _ _)]
  refine .bind (.refl _) fun _ t ht _ => ?_
  have hnodup := @nodup_fill equipment e mode hgenerators (s.atPoint .perFieldFill) hs
  rw [ht] at hnodup
  rw [exec_bind_of_ok (exec_reach _ _), exec_bind_of_ok (exec_reach _ _)]
  exact .bind (Routine.agree_apply h hdraws hnodup) fun _ _ _ _ => .refl _

theorem agree_steps {equipment : Equipment} {mode : Mode} (h : Token.Mergeable e.name ts)
    (hdraws : ∀ t ∈ ts, t.call.modifier.Draws)
    (hgenerators : ∀ g ∈ equipment.generators, g.Draws) {s : Session}
    (hs : s.context.latest.names.Nodup) :
    Agree (exec (steps equipment e (Routine.ofOrder e.name true ts) mode) s)
      (exec (steps equipment e (Routine.ofOrder e.name false ts) mode) s) := by
  cases mode with
  | create =>
      rw [steps_create, steps_create]
      exact agree_later h hdraws hgenerators hs
  | update =>
      rw [steps_update, steps_update, exec_bind_of_ok (exec_reach _ _),
        exec_bind_of_ok (exec_reach _ _)]
      have hidentify : identify equipment e (Routine.ofOrder e.name true ts) =
          identify equipment e (Routine.ofOrder e.name false ts) := by
        unfold identify
        simp only [needsFormer_merged h hdraws]
      rw [hidentify]
      refine .bind (.refl _) fun _ t ht _ => agree_later h hdraws hgenerators ?_
      have hlatest := (@identifies_identify equipment e (Routine.ofOrder e.name false ts)
        (s.atPoint .resolveExisting)).latest
      rw [ht] at hlatest
      exact hlatest ▸ hs

end Preparation

/-- Whether it makes no difference for an entity if its tokens are merged. -/
def Entity.Mergeable (table : ModifierTable) (e : Entity) : Prop :=
  ∀ ts order, e.tokens table = .ok ts → (Token.graph ts).sort = .ok order →
    Token.Mergeable e.name (order.filterMap (Token.withId? ts))

/-- With the merged routine and with the one that is not merged, a preparation gives the same
values, or fails both times. -/
theorem Entity.agree_prepare {table : ModifierTable} {equipment : Equipment} {e : Entity}
    {merged single : Routine} (htable : ∀ m ∈ table, m.Draws)
    (hgenerators : ∀ g ∈ equipment.generators, g.Draws)
    (hmerged : e.compile table true = .ok merged) (hsingle : e.compile table false = .ok single)
    (h : e.Mergeable table) (mode : Mode) (s : Session) :
    Agree (exec (prepare equipment e merged mode) s)
      (exec (prepare equipment e single mode) s) := by
  obtain ⟨ts, order, hts, horder, rfl⟩ := compile_ok hmerged
  obtain ⟨ts', order', hts', horder', rfl⟩ := compile_ok hsingle
  rw [hts] at hts'
  cases hts'
  rw [horder] at horder'
  cases horder'
  have hdraws : ∀ t ∈ order.filterMap (Token.withId? ts), t.call.modifier.Draws := by
    intro t ht
    obtain ⟨id, _, hid⟩ := List.mem_filterMap.mp ht
    obtain ⟨target, position, u, hof⟩ :=
      isOfUse_of_mem_tokens hts (List.mem_of_find?_eq_some hid)
    exact htable _ hof.registered
  have hempty : (s.begun mode).context.latest.names.Nodup := List.nodup_nil
  have hagree := @Preparation.agree_steps e _ equipment mode (h ts order hts horder) hdraws
    hgenerators _ hempty
  rw [Preparation.exec_prepare, Preparation.exec_prepare]
  rcases hagree with ⟨_, t, hm, hs⟩ | ⟨⟨f, t, hm⟩, f', t', hs⟩
  · rw [hm, hs]
    exact .refl _
  · rw [hm, hs]
    exact .of_errors rfl rfl

namespace Entity

theorem badge_tokens : badge.tokens ModifierTable.builtin = .ok [
    { id := "label~0:copy", kind := .activator, target := "label", references := ["title"],
      chainable := true, position := 0,
      call := {
        modifier := Modifier.Activator.of "copy" Modifier.Activator.argument
        args := [.fieldRef "title"] } },
    { id := "title~0:trim", kind := .processor, target := "title", references := [],
      chainable := true, position := 0,
      call := { modifier := Modifier.Processor.of "trim" (Modifier.Processor.onText Text.strip) } },
    { id := "title~1:upper", kind := .processor, target := "title", references := [],
      chainable := true, position := 1,
      call := {
        modifier := Modifier.Processor.of "upper" (Modifier.Processor.onText Text.upper) } }] :=
  rfl

theorem badge_mergeable : badge.Mergeable ModifierTable.builtin := by
  intro ts order hts horder
  rw [badge_tokens] at hts
  cases hts
  have hsort : (["title~0:trim", "title~1:upper", "label~0:copy"] : List String) = order :=
    Except.ok.inj horder
  subst hsort
  apply Token.mergeable_of_alike
  decide

theorem badge_agree_prepare : ∃ merged single,
    badge.compile ModifierTable.builtin true = .ok merged ∧
      badge.compile ModifierTable.builtin false = .ok single ∧
      (merged.groups.map (·.operations.length), single.groups.map (·.operations.length)) =
        ([1, 1], [2, 1]) ∧
      ∀ mode s, Agree (exec (prepare {} badge merged mode) s)
        (exec (prepare {} badge single mode) s) := by
  refine ⟨_, _, rfl, rfl, rfl, fun mode s => ?_⟩
  exact agree_prepare (fun m hm => ModifierTable.draws_builtin hm)
    (fun g hg => Generator.draws_of_mem_builtin hg) rfl rfl badge_mergeable mode s

def nickname : Entity where
  name := "nickname"
  fields := [{ name := "given" }, { name := "chosen" },
    { name := "shown", optional := true, modifiers := [
      { kind := "Activator", name := "copy", args := [.fieldRef "given"] },
      { kind := "Activator", name := "copy", args := [.fieldRef "chosen"] }] }]

/-- Activators that ask for different fields miss one another when they are not merged: the first
one counts, not the last. -/
theorem nickname_apply_ne : ∃ merged single,
    nickname.compile ModifierTable.builtin true = .ok merged ∧
      nickname.compile ModifierTable.builtin false = .ok single ∧
      ∀ s, s.context.latest = [("given", .text "Ann"), ("chosen", .text "Nan")] →
        s.context.existing = none → s.context.mode = some .create →
        (exec (merged.apply nickname) s).2.context.latest.get? "shown" = some (.text "Nan") ∧
        (exec (single.apply nickname) s).2.context.latest.get? "shown" = some (.text "Ann") := by
  refine ⟨_, _, rfl, rfl, fun s hlatest hexisting hmode => ?_⟩
  obtain ⟨settings, sources, readings, log, warnings, store, context⟩ := s
  obtain ⟨raw, latest, existing, locale, transaction, condition, mode, progress⟩ := context
  subst hlatest hexisting hmode
  exact ⟨rfl, rfl⟩

end Entity

end FieldPipeline
