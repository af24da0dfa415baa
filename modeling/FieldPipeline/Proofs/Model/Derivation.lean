import FieldPipeline.Proofs.Model.Request
import FieldPipeline.Proofs.Preparation.Deriving
import FieldPipeline.Proofs.Routine.Token

/-!
What a creation derives for a field whose uses are all activators.  Uses that could be one
operation are one only as far as they stand together in the routine, and what the first of them
derives hides the field from those that come after a break.
-/

namespace FieldPipeline

open Run Preparation

theorem Entity.get?_runRules {e : Entity} (h : e.Sound) {name : String}
    (hunstamped : ∀ u ∈ e.features, u.name = Feature.stateTracking.name → ∀ state,
      name ≠ Feature.StateTracking.stampName
        (Feature.StateTracking.tracked u.options).plain state) (point : RulePoint) (s : Session) :
    (exec (e.runRules (Feature.rulesOf Feature.builtin) point) s).2.context.latest.get? name =
      s.context.latest.get? name := by
  refine exec_forM_induct (P := fun t : Session =>
    t.context.latest.get? name = s.context.latest.get? name) (fun u hu t ht => ?_) rfl
  rw [FeatureUse.exec_runRules (h.known u hu)]
  refine ((Feature.writes_work u.name point ⟨u, e⟩ t).latest name ?_).trans ht
  rintro ⟨htracking, hstamped⟩
  obtain ⟨_, hstamp, _⟩ := Feature.StateTracking.of_stamped? hstamped
  exact hunstamped u hu htracking _ hstamp

namespace Model

/-- Whether all uses on a field are activators that may be merged, and the values of the field
come from them alone.  Words of the language that they look up are no fields to be worked on. -/
structure DerivesOnly (m : Model) (ts : List Token) (target : String) : Prop where
  tokens_eq : m.entity.tokens m.table = .ok ts
  activators : ∀ t ∈ ts, t.target = target → t.kind = .activator ∧ t.chainable = true
  formulas : ∀ t ∈ ts, t.target = target → t.call.modifier.ReadsFormulas
  words : ∀ t ∈ ts, t.target = target → ∀ name ∈ t.call.reads, Expression.IsWord name →
    ∀ t' ∈ ts, t'.target ≠ name
  unstamped : ∀ u ∈ m.entity.features, u.name = Feature.stateTracking.name → ∀ state,
    target ≠ Feature.StateTracking.stampName (Feature.StateTracking.tracked u.options).plain state

variable {m : Model} {ts : List Token} {target : String} {r : Routine}

theorem DerivesOnly.joins (h : m.DerivesOnly ts target) : ∀ t ∈ ts, ∀ t' ∈ ts,
    t.target = target → t'.target = target → t.joins t' = true := by
  intro t ht t' ht' htarget htarget'
  obtain ⟨hkind, hchainable⟩ := h.activators t ht htarget
  obtain ⟨hkind', hchainable'⟩ := h.activators t' ht' htarget'
  simp [Token.joins, hkind, hkind', hchainable, hchainable', htarget, htarget']

theorem DerivesOnly.activates (h : m.DerivesOnly ts target) (hregular : m.Regular)
    (hmerges : m.mergesChains = true) (hr : m.routine = .ok r) {g : Group} (hg : g ∈ r.groups)
    (htarget : g.target = target) :
    g.Activates fun name => ∀ t ∈ ts, t.target ≠ name := by
  have hcompile : m.entity.compile m.table true = .ok r := hmerges ▸ hr
  obtain ⟨o, hoperations, hholds, hne, hcalls⟩ := Entity.single_of_compile hregular.named
    hregular.sound.distinct hcompile h.tokens_eq h.joins hg htarget
  have hmine : ∀ o' ∈ g.operations, ∀ c ∈ o'.calls, ∃ t ∈ ts, t.target = target ∧ t.call = c ∧
      o.Makes t := by
    intro o' ho' c hc
    rw [hoperations, List.mem_singleton] at ho'
    subst ho'
    obtain ⟨t, ht, hcall, hmakes⟩ := hcalls c hc
    exact ⟨t, ht, hmakes.target_eq.symm.trans (hholds.target_eq.trans htarget), hcall, hmakes⟩
  have ho : o ∈ g.operations := by simp [hoperations]
  have hkind : o.kind = .activator := by
    obtain ⟨c, hc⟩ := List.exists_mem_of_ne_nil _ hne
    obtain ⟨t, ht, hfield, _, hmakes⟩ := hmine o ho c hc
    rw [hmakes.kind_eq]
    exact (h.activators t ht hfield).1
  refine ⟨?_, ⟨o, hoperations, hkind⟩, ?_, ?_, ?_⟩
  · rw [← hholds.requiresTarget_eq, Operation.requiresTarget, hkind]
    rfl
  · intro o' ho' c hc
    obtain ⟨t, ht, hfield, rfl, _⟩ := hmine o' ho' c hc
    obtain ⟨_, _, _, hof⟩ := Entity.isOfUse_of_mem_tokens h.tokens_eq ht
    rw [← hof.kind_eq]
    exact (h.activators t ht hfield).1
  · intro o' ho' c hc
    obtain ⟨t, ht, hfield, rfl, _⟩ := hmine o' ho' c hc
    obtain ⟨_, _, _, hof⟩ := Entity.isOfUse_of_mem_tokens h.tokens_eq ht
    exact ⟨h.formulas t ht hfield, hof.literal⟩
  · intro o' ho' c hc name hname
    obtain ⟨t, ht, hfield, rfl, hmakes⟩ := hmine o' ho' c hc
    rcases Entity.reads_of_mem_tokens h.tokens_eq ht hname with hread | hsame | hword
    · exact .inl (hholds.references_eq ▸ hmakes.reads name hread)
    · exact .inr (.inl (by rw [hsame, hfield, htarget]))
    · exact .inr (.inr (h.words t ht hfield name hname hword))

theorem derive_apply (hregular : m.Regular) (hmerges : m.mergesChains = true)
    (hr : m.routine = .ok r) (h : m.DerivesOnly ts target) {v w : Session}
    (hnodup : v.context.latest.names.Nodup) (hmode : v.context.mode = some .create)
    (habsent : v.context.latest.has target = false)
    (happly : exec (r.apply m.entity) v = (.ok (), w)) :
    Call.Derive m.entity.name target w (Group.stretches target r.groups)
      (w.context.latest.get? target) := by
  -- the fields that are free for all are those that no use works on
  refine Routine.derive_groups (hregular.draws hr)
    (Entity.pairwise_groups_of_compile hregular.named hregular.sound.distinct hr) ?_
    (fun g hg => h.activates hregular hmerges hr hg) hnodup hmode habsent happly
  intro g hg hfree
  obtain ⟨t, ht, htarget⟩ := Entity.exists_token_of_mem_groups hregular.named
    hregular.sound.distinct hr h.tokens_eq hg
  exact hfree t ht htarget

/-- A creation that leaves such a field without a first value gives it the value of the activator
that prevails over the values settled by the routine: the last that applies in its stretch, while
none applies in an earlier stretch.  When no activator applies, the field gets no value.  In
particular, the last activator that applies counts when nothing comes between them. -/
theorem derive_prepare (hregular : m.Regular) (hmerges : m.mergesChains = true)
    (hr : m.routine = .ok r) (h : m.DerivesOnly ts target) {s v u : Session} {values : Record}
    (hfill : exec (fill m.equipment m.entity .create) ((s.begun .create).atPoint .perFieldFill) =
      (.ok (), v)) (habsent : v.context.latest.has target = false)
    (hprepare : exec (prepare m.equipment m.entity r .create) s = (.ok values, u)) :
    (Group.stretches target r.groups).flatten = (ts.filter (·.target = target)).map (·.call) ∧
    ∃ w, exec (r.apply m.entity) (v.atPoint .applyRoutine) = (.ok (), w) ∧
      Call.Derive m.entity.name target w (Group.stretches target r.groups) (values.get? target) ∧
      ((Group.stretches target r.groups).length ≤ 1 →
        Call.Derive m.entity.name target w [(ts.filter (·.target = target)).map (·.call)]
          (values.get? target)) := by
  have hcalls := Entity.flatten_stretches_of_compile hregular.named hregular.sound.distinct hr
    h.tokens_eq target
  obtain ⟨_, t, rfl, hlater, rfl, rfl⟩ := exec_prepare_ok hprepare
  obtain ⟨v', w, x, hfill', happly, hrules, hrules'⟩ := exec_later_ok hlater
  rw [hfill] at hfill'
  cases hfill'
  rw [hregular.rules] at hrules hrules'
  have hwrites := (@writesOnly_fill m.equipment m.entity .create hregular.generators).writes hfill
  have hderive := derive_apply hregular hmerges hr h (v := v.atPoint .applyRoutine)
    (hwrites.nodup List.nodup_nil) hwrites.mode habsent happly
  have hkept : t.context.latest.get? target = w.context.latest.get? target := by
    have hfirst := Entity.get?_runRules hregular.sound h.unstamped .postDataValidation
      (w.atPoint .postValidation)
    have hlast := Entity.get?_runRules hregular.sound h.unstamped (lastCheck .create) x
    rw [hrules] at hfirst
    rw [hrules'] at hlast
    exact hlast.trans hfirst
  rw [← hkept] at hderive
  exact ⟨hcalls, w, happly, hderive, fun hone => hcalls ▸ hderive.flatten hone⟩

/-- A member whose tier is the level that was given, or else a basic one.  The check of the level
comes between the two activators. -/
def member : Model where
  entity := {
    name := "member"
    fields := [
      { name := "tier", optional := true, displayName := "tier", modifiers := [
        { kind := "Activator", name := "constant", args := [.text "basic"] },
        { kind := "Activator", name := "copy", args := [.fieldRef "level"] }] },
      { name := "level", displayName := "level", modifiers := [
        { kind := "Validator", name := "not_empty" }] }] }

def memberDeclaration : Declaration where
  name := "member"
  fields := [
    { name := "tier", optional := true, modifiers := [
      { kind := "Activator", name := "constant", args := [.text "basic"] },
      { kind := "Activator", name := "copy", args := [.fieldRef "level"] }] },
    { name := "level", modifiers := [{ kind := "Validator", name := "not_empty" }] }]

theorem member_plain : member.Plain :=
  ⟨⟨memberDeclaration, rfl⟩, rfl, rfl⟩

def memberTokens : List Token := [
  { id := "tier~0:constant", kind := .activator, target := "tier", references := [],
    chainable := true, position := 0,
    call := {
      modifier := Modifier.Activator.of "constant" Modifier.Activator.argument
      args := [.text "basic"] } },
  { id := "tier~1:copy", kind := .activator, target := "tier", references := ["level"],
    chainable := true, position := 1,
    call := {
      modifier := Modifier.Activator.of "copy" Modifier.Activator.argument
      args := [.fieldRef "level"] } },
  { id := "level~0:not_empty", kind := .validator, target := "level", references := [],
    chainable := true, position := 0,
    call := { modifier := Modifier.Validator.of "not_empty" Modifier.Validator.notEmpty } }]

theorem member_derivesOnly : member.DerivesOnly memberTokens "tier" where
  tokens_eq := rfl
  activators := by decide
  formulas := by
    intro t ht _
    have htokens : member.entity.tokens ModifierTable.builtin = .ok memberTokens := rfl
    obtain ⟨_, _, _, hof⟩ := Entity.isOfUse_of_mem_tokens htokens ht
    exact ModifierTable.readsFormulas_builtin _ hof.registered
  words := by decide
  unstamped := fun _ hu => by cases hu

def newMember : Session :=
  { still Store.empty with context := { raw := [("level", .text "gold")] } }

theorem member_derive_prepare : ∃ r v u, member.Regular ∧ member.routine = .ok r ∧
    member.DerivesOnly memberTokens "tier" ∧
    exec (fill member.equipment member.entity .create)
      ((newMember.begun .create).atPoint .perFieldFill) = (.ok (), v) ∧
    v.context.latest.has "tier" = false ∧
    exec (prepare member.equipment member.entity r .create) newMember =
      (.ok [("level", .text "gold"), ("tier", .text "basic")], u) ∧
    (Group.stretches "tier" r.groups).map List.length = [1, 1] ∧
    ∃ w, exec (r.apply member.entity) (v.atPoint .applyRoutine) = (.ok (), w) ∧
      Call.Derive "member" "tier" w (Group.stretches "tier" r.groups) (some (.text "basic")) := by
  obtain ⟨r, hr, v, hfill, habsent, u, hprepare, hlengths⟩ : ∃ r, member.routine = .ok r ∧
      ∃ v, exec (fill member.equipment member.entity .create)
        ((newMember.begun .create).atPoint .perFieldFill) = (.ok (), v) ∧
      v.context.latest.has "tier" = false ∧
      ∃ u, exec (prepare member.equipment member.entity r .create) newMember =
        (.ok [("level", .text "gold"), ("tier", .text "basic")], u) ∧
      (Group.stretches "tier" r.groups).map List.length = [1, 1] :=
    ⟨_, rfl, _, rfl, rfl, _, rfl, rfl⟩
  obtain ⟨_, w, happly, hderive, _⟩ :=
    derive_prepare member_plain.regular rfl hr member_derivesOnly hfill habsent hprepare
  exact ⟨r, v, u, member_plain.regular, hr, member_derivesOnly, hfill, habsent, hprepare, hlengths,
    w, happly, hderive⟩

/-- If all activators of the tier were one stretch, it would be the level. -/
theorem member_not_derive {w : Session}
    (hlevel : (w.context.scopeWithout "tier").get? "level" = some (.text "gold")) :
    ¬Call.Derive "member" "tier" w [(memberTokens.filter (·.target = "tier")).map (·.call)]
      (some (.text "basic")) := by
  rintro ⟨c, hprevails, _, hvalue⟩
  obtain ⟨pre, post, hcalls, hpost, _⟩ := hprevails.of_single
  have hlast := congrArg List.getLast? hcalls
  rcases List.eq_nil_or_concat post with rfl | ⟨post, c', rfl⟩
  · rw [List.getLast?_concat] at hlast
    cases hlast
    have hgold : .ok ((w.context.scopeWithout "tier").getOrNull "level") =
        (.ok (.text "basic") : Except Failure Value) :=
      hvalue
    rw [Record.getOrNull, hlevel] at hgold
    exact absurd (Value.text.inj (Except.ok.inj hgold)) (by decide)
  · rw [List.concat_eq_append, ← List.cons_append, ← List.append_assoc,
      List.getLast?_concat] at hlast
    have hnot := hpost c' (by simp)
    cases hlast
    cases hnot

end Model

end FieldPipeline
