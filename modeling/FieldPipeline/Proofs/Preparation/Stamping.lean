import FieldPipeline.Proofs.Preparation.Rules
import FieldPipeline.Proofs.Preparation.Requiring

/-!
The times of states among the values of an operation.  Whatever gives a tracked field its state, the
stamping comes after it: the time of the state is written, or the record has it already.  And no
operation makes the time of a listed state null.
-/

namespace FieldPipeline

open Run Feature.StateTracking

theorem Record.getOrNull_put (r : Record) (key name : String) (v : Value) :
    (r.put key v).getOrNull name = if key = name then v else r.getOrNull name := by
  unfold getOrNull
  rw [get?_put]
  split <;> rfl

theorem Feature.StateTracking.stampName_ne (field state : String) :
    stampName field state ≠ field := by
  intro h
  have hlength := congrArg String.length h
  simp only [stampName, String.length_append] at hlength
  have hend : "_timestamp".length = 10 := rfl
  omega

/-- Whether a field has the states that a use of a feature tracks, and no later use takes the field
for the time of a state. -/
structure Entity.TracksLast (e : Entity) (u : FeatureUse) (f : Field) : Prop where
  tracks : e.Tracks u.options f
  named : u.name = Feature.stateTracking.name
  last : ∃ before after, e.features = before ++ u :: after ∧
    ∀ v ∈ after, v.name = Feature.stateTracking.name →
      ∀ state, f.name ≠ stampName (tracked v.options).plain state

variable {e : Entity} {u : FeatureUse} {f : Field} {s t : Session}

theorem Entity.Tracks.plain_tracked {options : Value} (h : e.Tracks options f) :
    (Feature.StateTracking.tracked options).plain = f.name := by
  rw [h.tracked]
  rfl

theorem FeatureUse.state_of_runRules (h : e.Sound) (hu : u ∈ e.features)
    (htracks : e.Tracks u.options f)
    (hexec : exec (u.runRules (Feature.rulesOf Feature.builtin) e .postDataValidation) s =
      (.ok (), t)) :
    t.context.latest.getOrNull f.name = s.context.latest.getOrNull f.name := by
  rcases stamps_of_runRules h hu hexec with ⟨rfl, -⟩ | ⟨-, stamp, v, hstamped, -, hlatest⟩
  · rfl
  · obtain ⟨_, rfl, -⟩ := of_stamped? hstamped
    rw [htracks.plain_tracked] at hlatest
    rw [hlatest, Record.getOrNull_put, if_neg (stampName_ne _ _)]

theorem FeatureUse.accompanies_of_runRules (h : e.Sound) (hu : u ∈ e.features)
    (hname : u.name = Feature.stateTracking.name) (htracks : e.Tracks u.options f)
    (hstate : (s.context.latest.getOrNull f.name).isNull = false)
    (hexec : exec (u.runRules (Feature.rulesOf Feature.builtin) e .postDataValidation) s =
      (.ok (), t)) :
    (t.context.latest.getOrNull
        (stampName f.name (s.context.latest.getOrNull f.name).plain)).isNull = false ∨
      (s.context.former
        (stampName f.name (s.context.latest.getOrNull f.name).plain)).isNull = false := by
  rcases stamps_of_runRules h hu hexec with ⟨rfl, hnone⟩ | ⟨-, stamp, v, hstamped, hv, hlatest⟩
  · right
    have hnone := hnone hname
    unfold stamped? at hnone
    simp only [htracks.plain_tracked, hstate, Bool.false_eq_true, if_false] at hnone
    split at hnone
    · cases hnone
    · rename_i hwanted
      simp only [Bool.or_eq_true, not_or, Bool.not_eq_true] at hwanted
      exact hwanted.2
  · left
    obtain ⟨_, rfl, -⟩ := of_stamped? hstamped
    rw [htracks.plain_tracked] at hlatest
    rw [hlatest, Record.getOrNull_put, if_pos rfl]
    exact hv

theorem FeatureUse.kept_of_forM_runRules (h : e.Sound) {us : List FeatureUse}
    (hus : ∀ v ∈ us, v ∈ e.features) (hother : ∀ v ∈ us, v.name = Feature.stateTracking.name →
      ∀ state, f.name ≠ stampName (tracked v.options).plain state)
    (hexec : exec (us.forM
      (FeatureUse.runRules (Feature.rulesOf Feature.builtin) e .postDataValidation)) s =
        (.ok (), t)) :
    t.context.latest.getOrNull f.name = s.context.latest.getOrNull f.name ∧
      ∀ name, (s.context.latest.getOrNull name).isNull = false →
        (t.context.latest.getOrNull name).isNull = false := by
  refine exec_forM_ok_induct (P := fun t : Session =>
    t.context.latest.getOrNull f.name = s.context.latest.getOrNull f.name ∧
      ∀ name, (s.context.latest.getOrNull name).isNull = false →
        (t.context.latest.getOrNull name).isNull = false)
    (fun v hv s' t' hs' hexec' => ?_) ⟨rfl, fun _ => id⟩ hexec
  rcases stamps_of_runRules h (hus v hv) hexec' with
    ⟨rfl, -⟩ | ⟨hname, stamp, value, hstamped, hvalue, hlatest⟩
  · exact hs'
  · obtain ⟨_, rfl, -⟩ := of_stamped? hstamped
    rw [hlatest]
    refine ⟨?_, fun name hname' => ?_⟩
    · rw [Record.getOrNull_put, if_neg (hother v hv hname _).symm]
      exact hs'.1
    · rw [Record.getOrNull_put]
      split
      · exact hvalue
      · exact hs'.2 name hname'

theorem Entity.TracksLast.accompanies (hlast : e.TracksLast u f) (h : e.Sound)
    (hexec : exec (e.runRules (Feature.rulesOf Feature.builtin) .postDataValidation) s =
      (.ok (), t)) (hstate : (t.context.latest.getOrNull f.name).isNull = false) :
    (t.context.latest.getOrNull
        (stampName f.name (t.context.latest.getOrNull f.name).plain)).isNull = false ∨
      (t.context.former
        (stampName f.name (t.context.latest.getOrNull f.name).plain)).isNull = false := by
  obtain ⟨before, after, hfeatures, hother⟩ := hlast.last
  unfold Entity.runRules at hexec
  rw [hfeatures] at hexec
  obtain ⟨v, w, hbefore, hturn, hafter⟩ := exec_forM_ok_split hexec
  have hus : ∀ u' ∈ u :: after, u' ∈ e.features := fun u' hu' => by
    rw [hfeatures]
    exact List.mem_append_right before hu'
  have hformer : t.context.existing = v.context.existing := by
    refine ((e.writesOnly_forM_runRules h .postDataValidation hus).writes
      (s := v) (t := t) (a := .ok ()) ?_).existing
    rw [exec_forM_cons, exec_bind_of_ok hturn]
    exact hafter
  obtain ⟨hkept, hgrows⟩ := FeatureUse.kept_of_forM_runRules h
    (fun u' hu' => hus u' (List.mem_cons_of_mem u hu')) hother hafter
  rw [hkept] at hstate ⊢
  have hseen := FeatureUse.state_of_runRules h (hus u (by simp)) hlast.tracks hturn
  rw [hseen] at hstate ⊢
  have hdone := FeatureUse.accompanies_of_runRules h (hus u (by simp)) hlast.named hlast.tracks
    hstate hturn
  refine hdone.imp (hgrows _) fun hnull => ?_
  unfold Context.former at hnull ⊢
  rwa [hformer]

namespace Preparation

variable {equipment : Equipment} {r : Routine} {mode : Mode} {values : Record}

/-- When the values of an operation hold a tracked state, they hold its time, or the record before
the operation does. -/
theorem accompanies_of_prepare (hlast : e.TracksLast u f) (h : e.Sound)
    (hrules : equipment.rules = Feature.rulesOf Feature.builtin)
    (hprepare : exec (prepare equipment e r mode) s = (.ok values, t))
    (hstate : (values.getOrNull f.name).isNull = false) :
    (values.getOrNull (stampName f.name (values.getOrNull f.name).plain)).isNull = false ∨
      (t.context.former (stampName f.name (values.getOrNull f.name).plain)).isNull = false := by
  obtain ⟨v, w, hbegins, hlater, rfl, rfl⟩ := exec_prepare_ok hprepare
  obtain ⟨filled, applied, stamped, hfill, happly, hstamp, hcheck⟩ := exec_later_ok hlater
  rw [hrules] at hstamp hcheck
  obtain ⟨rfl, -⟩ := e.exec_lastChecks_ok h mode (fun _ => id) hcheck
  exact hlast.accompanies (t := w) h hstamp hstate

theorem not_nullAt_stampName {d : Declaration} {merging hasStore : Bool}
    (hlink : d.link ⟨Feature.builtin, Generator.builtin⟩ = .ok e)
    (hr : e.compile ModifierTable.builtin merging = .ok r) (hlast : e.TracksLast u f)
    (hprepare : exec (prepare { hasStore } e r mode) s = (.ok values, t)) {state : String}
    (hstate : state ∈ f.values.getD []) : ¬values.NullAt (stampName f.name state) := by
  obtain ⟨before, after, hfeatures, -⟩ := hlast.last
  obtain ⟨f', hf', htracked, hstamps⟩ :=
    d.stamps_of_link rfl hlink (u := u) (by simp [hfeatures]) hlast.named
  have hsame : f' = f := by
    refine List.inj_on_of_nodup_map (d.sound_of_link rfl hlink).distinct hf' hlast.tracks.mem ?_
    rw [hlast.tracks.tracked] at htracked
    exact (Value.text.inj htracked).symm
  subst hsame
  obtain ⟨g, hg, hlike⟩ := hstamps state hstate
  have hname : (Linking.linkedField g).name = stampName f'.name state := hlike.name
  intro hnull
  rw [← hname] at hnull
  have hvoids := voids_of_nullAt hlink hr hprepare hg (.inr hlike.readOnly) hnull
  rcases hvoids.modified hlink hr hg with ⟨hdefault, -⟩ | hmodifiers
  · exact absurd (hlike.hasDefault.symm.trans hdefault) (by simp [stampField,
      FieldDeclaration.hasDefault])
  · exact hmodifiers hlike.modifiers

end Preparation

end FieldPipeline
