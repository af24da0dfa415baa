import Mathlib.Data.List.Nodup
import FieldPipeline.Proofs.Routine.Ordering

/-!
Which entities have no order.  The graph of the tokens has a cycle where fields read one another in
a circle, whatever stands between the uses on a field, and the tokens that wait for a cycle are
found on the fields that such a circle reaches.
-/

namespace FieldPipeline

open Relation (TransGen ReflTransGen)

theorem sublist_of_idxOf {α : Type} [BEq α] [LawfulBEq α] {l names : List α}
    (hmem : ∀ a ∈ l, a ∈ names) (h : l.Pairwise fun a b => names.idxOf a < names.idxOf b) :
    l.Sublist names := by
  have hlt : ∀ a ∈ l, names.idxOf a < names.length := fun a ha =>
    List.idxOf_lt_length_of_mem (hmem a ha)
  let places : List (Fin names.length) := l.pmap (fun a ha => ⟨names.idxOf a, ha⟩) hlt
  have hplaces : places.Pairwise (· < ·) := h.pmap hlt fun _ _ _ _ hab => hab
  have hback : places.map (fun i => names[i]) = l := by
    simp [places, List.map_pmap]
  exact hback ▸ List.map_getElem_sublist hplaces

namespace Token

/-! ### Each name once -/

theorem firstOccurrences_append_singleton (names : List String) (n : String) :
    firstOccurrences (names ++ [n]) =
      if n ∈ firstOccurrences names then firstOccurrences names
      else firstOccurrences names ++ [n] := by
  simp [firstOccurrences]

theorem mem_firstOccurrences {names : List String} {n : String} :
    n ∈ firstOccurrences names ↔ n ∈ names := by
  induction names using List.reverseRecOn with
  | nil => rfl
  | append_singleton names m ih =>
      rw [firstOccurrences_append_singleton]
      split <;> grind

theorem nodup_firstOccurrences (names : List String) : (firstOccurrences names).Nodup := by
  induction names using List.reverseRecOn with
  | nil => exact List.nodup_nil
  | append_singleton names m ih =>
      rw [firstOccurrences_append_singleton]
      split
      · exact ih
      · rename_i hnew
        exact List.nodup_append.mpr ⟨ih, List.nodup_singleton m, by grind⟩

theorem firstOccurrences_sublist (names : List String) :
    (firstOccurrences names).Sublist names := by
  induction names using List.reverseRecOn with
  | nil => exact List.Sublist.refl _
  | append_singleton names m ih =>
      rw [firstOccurrences_append_singleton]
      split
      · exact ih.trans (List.sublist_append_left _ _)
      · exact ih.append_right [m]

/-! ### The edges between tokens -/

/-- A graph that has some tokens for nodes, in their order, and edges only from tokens to those
that they precede. -/
structure Traces (ts : List Token) (g : Graph String) : Prop where
  nodes_eq : g.nodes = ts.map (·.id)
  precedes : ∀ n d, g.Needs n d → ∃ t ∈ ts, ∃ t' ∈ ts, t.id = d ∧ t'.id = n ∧ t.Precedes t'

namespace Traces

variable {ts : List Token} {g : Graph String}

theorem register (h : Traces ts g) {t : Token} (hnew : ∀ t' ∈ ts, t.id ≠ t'.id) :
    Traces (ts ++ [t]) (g.register t.id) where
  nodes_eq := by
    have hunknown : g.isRegistered t.id = false := by
      rw [Graph.isRegistered_eq_contains, h.nodes_eq]
      simpa using fun t' ht' hid => hnew t' ht' hid.symm
    have hnodes : (g.register t.id).nodes = g.nodes ++ [t.id] := by
      simp [Graph.register, hunknown, Graph.nodes]
    rw [hnodes, h.nodes_eq, List.map_append, List.map_singleton]
  precedes n d hneeds := by
    rw [Graph.needs_iff_mem, Graph.dependenciesOf_register, ← Graph.needs_iff_mem] at hneeds
    obtain ⟨t', ht', t'', ht'', hids⟩ := h.precedes n d hneeds
    exact ⟨t', List.mem_append_left _ ht', t'', List.mem_append_left _ ht'', hids⟩

theorem addEdges (h : Traces ts g) {t t' : Token} (ht : t ∈ ts) (ht' : t' ∈ ts)
    (hne : t'.id ≠ t.id) (hprecedes : t.Precedes t') :
    Traces ts (g.addEdges t.id [t'.id]).1 where
  nodes_eq := by
    have hknown : ∀ u ∈ ts, g.register u.id = g := by
      intro u hu
      have hregistered : g.isRegistered u.id = true := by
        rw [Graph.isRegistered_eq_contains, h.nodes_eq]
        simpa using ⟨u, hu, rfl⟩
      rw [Graph.register, if_pos hregistered]
    rw [Graph.addEdges_singleton rfl rfl (by simpa using hne), Graph.nodes_link, hknown t ht,
      hknown t' ht', h.nodes_eq]
  precedes n d hneeds := by
    rw [Graph.needs_iff_mem, Graph.mem_dependenciesOf_addEdges rfl rfl hne] at hneeds
    rcases hneeds with ⟨rfl, rfl⟩ | hneeds
    · exact ⟨t, ht, t', ht', rfl, rfl, hprecedes⟩
    · exact h.precedes n d (Graph.needs_iff_mem.mpr hneeds)

end Traces

theorem traces_chained {before rest : List Token} {g : Graph String} (h : Traces before g)
    (hids : ((before ++ rest).map (·.id)).Nodup)
    (hpositions : (before ++ rest).Pairwise fun t t' =>
      t.target = t'.target → t.position < t'.position) :
    Traces (before ++ rest) (chained before g rest) := by
  induction rest generalizing before g with
  | nil => simpa [chained] using h
  | cons t rest ih =>
      have hnew : ∀ t' ∈ before, t.id ≠ t'.id := by
        intro t' ht' hid
        rw [List.map_append, List.map_cons, List.nodup_append] at hids
        exact hids.2.2 t'.id (List.mem_map_of_mem ht') t.id (by simp) hid.symm
      have hearlier : ∀ t' ∈ before, t'.target = t.target → t'.position < t.position := by
        intro t' ht'
        exact (List.pairwise_append.mp hpositions).2.2 t' ht' t (by simp)
      rw [List.append_cons] at hids hpositions ⊢
      refine ih ?_ hids hpositions
      cases hlast : lastOn? before t.target with
      | none => exact h.register hnew
      | some previous =>
          obtain ⟨hmem, htarget⟩ := lastOn?_eq_some hlast
          exact (h.register hnew).addEdges (by simp [hmem]) (by simp) (hnew previous hmem)
            (.inl ⟨htarget, hearlier previous hmem htarget⟩)

theorem traces_addReads {ts : List Token} {g : Graph String} {t : Token} (h : Traces ts g)
    (ht : t ∈ ts) (hids : (ts.map (·.id)).Nodup) (hself : t.target ∉ t.references) :
    Traces ts (addReads ts g t) := by
  refine List.foldlRecOn t.references _ h fun g h field hfield => ?_
  cases hlast : lastOn? ts field with
  | none => exact h
  | some last =>
      obtain ⟨hmem, rfl⟩ := lastOn?_eq_some hlast
      have hne : t.id ≠ last.id := fun hid =>
        hself (List.inj_on_of_nodup_map hids ht hmem hid ▸ hfield)
      exact h.addEdges hmem ht hne (.inr hfield)

theorem traces_graph {ts : List Token} (hids : (ts.map (·.id)).Nodup)
    (hself : ∀ t ∈ ts, t.target ∉ t.references)
    (hpositions : ts.Pairwise fun t t' => t.target = t'.target → t.position < t'.position) :
    Traces ts (graph ts) := by
  have hempty : Traces [] Graph.empty := ⟨rfl, fun n d hneeds => by cases hneeds⟩
  refine List.foldlRecOn ts (addReads ts) ?_ fun g h t ht =>
    traces_addReads h ht hids (hself t ht)
  simpa using traces_chained hempty (by simpa using hids) (by simpa using hpositions)

/-! ### Fields that read one another -/

def Feeds (ts : List Token) (field reader : String) : Prop :=
  (∃ t ∈ ts, t.target = field) ∧ ∃ t ∈ ts, t.target = reader ∧ field ∈ t.references

/-- Whether a field lies in a circle, or behind one. -/
def Circular (ts : List Token) (field : String) : Prop :=
  ∃ f, TransGen (Feeds ts) f f ∧ ReflTransGen (Feeds ts) f field

section Graph

variable {ts : List Token} {g : Graph String} {t t' : Token}

theorem Traces.feeds_of_needs (h : Traces ts g) (hids : (ts.map (·.id)).Nodup) (ht : t ∈ ts)
    (ht' : t' ∈ ts) (hneeds : TransGen g.Needs t'.id t.id) :
    (t.target = t'.target ∧ t.position < t'.position) ∨
      TransGen (Feeds ts) t.target t'.target := by
  have hstep : ∀ n d, g.Needs n d → ∀ t ∈ ts, ∀ t' ∈ ts, t.id = d → t'.id = n →
      (t.target = t'.target ∧ t.position < t'.position) ∨ Feeds ts t.target t'.target := by
    intro n d hneeds t ht t' ht' hd hn
    obtain ⟨u, hu, u', hu', hid, hid', hprecedes⟩ := h.precedes n d hneeds
    cases List.inj_on_of_nodup_map hids hu ht (hid.trans hd.symm)
    cases List.inj_on_of_nodup_map hids hu' ht' (hid'.trans hn.symm)
    exact hprecedes.imp_right fun hread => ⟨⟨t, ht, rfl⟩, t', ht', rfl, hread⟩
  generalize hd : t.id = d at hneeds
  induction hneeds generalizing t with
  | single hneeds => exact (hstep _ _ hneeds t ht t' ht' hd rfl).imp_right .single
  | tail _ hneeds ih =>
      obtain ⟨_, _, u, hu, _, hid, _⟩ := h.precedes _ _ hneeds
      rcases hstep _ _ hneeds t ht u hu hd hid with ⟨htarget, hposition⟩ | hfeeds
      · rcases ih hu hid with ⟨htarget', hposition'⟩ | hpath
        · exact .inl ⟨htarget.trans htarget', hposition.trans hposition'⟩
        · exact .inr (htarget ▸ hpath)
      · rcases ih hu hid with ⟨htarget', _⟩ | hpath
        · exact .inr (.single (htarget' ▸ hfeeds))
        · exact .inr (.head hfeeds hpath)

theorem Traces.circular_of_stuck (h : Traces ts g) (hids : (ts.map (·.id)).Nodup) (ht : t ∈ ts)
    (hstuck : g.Stuck t.id) : Circular ts t.target := by
  obtain ⟨m, hpath, hcycle⟩ := hstuck
  obtain ⟨d, hneeds, _⟩ := TransGen.head'_iff.mp hcycle
  obtain ⟨_, _, u, hu, _, rfl, _⟩ := h.precedes m d hneeds
  refine ⟨u.target, ?_, ?_⟩
  · rcases h.feeds_of_needs hids hu hu hcycle with ⟨_, hlt⟩ | hfeeds
    · omega
    · exact hfeeds
  · rcases Relation.reflTransGen_iff_eq_or_transGen.mp hpath with hid | hpath
    · rw [List.inj_on_of_nodup_map hids hu ht hid]
    · rcases h.feeds_of_needs hids hu ht hpath with ⟨htarget, _⟩ | hfeeds
      · rw [htarget]
      · exact hfeeds.to_reflTransGen

theorem Chained.needs_of_feeds (h : Chained ts g) (hlinked : ∀ t ∈ ts, ReadsLinked ts g t)
    {f f' : String} (hpath : TransGen (Feeds ts) f f') {last last' : Token}
    (hlast : lastOn? ts f = some last) (hlast' : lastOn? ts f' = some last') :
    TransGen g.Needs last'.id last.id := by
  have hstep : ∀ f f' last last', Feeds ts f f' → lastOn? ts f = some last →
      lastOn? ts f' = some last' → TransGen g.Needs last'.id last.id := by
    rintro f f' last last' ⟨_, t, ht, rfl, hread⟩ hlast hlast'
    have hedge := Graph.needs_iff_mem.mpr (hlinked t ht f hread last hlast)
    exact .tail' (needs_of_lastOn? h (List.append_nil ts).symm ht hlast') hedge
  induction hpath generalizing last' with
  | single hfeeds => exact hstep _ _ _ _ hfeeds hlast hlast'
  | tail _ hfeeds ih =>
      obtain ⟨t, ht, rfl⟩ := hfeeds.1
      obtain ⟨between, hbetween⟩ := exists_lastOn? ht
      exact (hstep _ _ _ _ hfeeds hbetween hlast').trans (ih hbetween)

theorem Chained.stuck_of_circular (h : Chained ts g) (hlinked : ∀ t ∈ ts, ReadsLinked ts g t)
    (ht : t ∈ ts) (hcircular : Circular ts t.target) :
    ∃ last ∈ ts, last.target = t.target ∧ g.Stuck last.id := by
  obtain ⟨f, hcycle, hpath⟩ := hcircular
  obtain ⟨last, hlast⟩ := exists_lastOn? ht
  obtain ⟨hmem, htarget⟩ := lastOn?_eq_some hlast
  refine ⟨last, hmem, htarget, ?_⟩
  obtain ⟨_, ⟨⟨u, hu, rfl⟩, _⟩, _⟩ := TransGen.head'_iff.mp hcycle
  obtain ⟨first, hfirst⟩ := exists_lastOn? hu
  refine ⟨first.id, ?_, h.needs_of_feeds hlinked hcycle hfirst hfirst⟩
  rcases Relation.reflTransGen_iff_eq_or_transGen.mp hpath with heq | hpath
  · rw [← heq, hlast] at hfirst
    cases hfirst
    exact .refl
  · exact (h.needs_of_feeds hlinked hpath hfirst hlast).to_reflTransGen

end Graph

theorem exists_target_of_circular {ts : List Token} {f : String} (h : Circular ts f) :
    ∃ t ∈ ts, t.target = f := by
  obtain ⟨f', hcycle, hpath⟩ := h
  obtain ⟨_, _, _, t, ht, htarget, _⟩ := TransGen.tail'_iff.mp (hcycle.trans_left hpath)
  exact ⟨t, ht, htarget⟩

theorem sort_graph_spec {ts : List Token} (hids : (ts.map (·.id)).Nodup)
    (hself : ∀ t ∈ ts, t.target ∉ t.references)
    (hpositions : ts.Pairwise fun t t' => t.target = t'.target → t.position < t'.position) :
    (∃ order, (graph ts).sort = .ok order ∧ ∀ f, ¬Circular ts f) ∨
      ∃ waiting, (graph ts).sort = .error (.circular waiting) ∧ (∃ f, Circular ts f) ∧
        (waiting.filterMap (withId? ts)).Sublist ts ∧
        ∀ f, f ∈ (waiting.filterMap (withId? ts)).map (·.target) ↔ Circular ts f := by
  have htraces := traces_graph hids hself hpositions
  obtain ⟨hchained, hlinked⟩ := graph_spec hids hself
  rcases (sound_graph ts).sort_spec with
    ⟨order, hsort, _, hacyclic⟩ | ⟨waiting, hsort, hwaits, hcyclic⟩
  · refine .inl ⟨order, hsort, fun f hcircular => ?_⟩
    obtain ⟨t, ht, rfl⟩ := exists_target_of_circular hcircular
    obtain ⟨_, _, _, m, _, hcycle⟩ := hchained.stuck_of_circular hlinked ht hcircular
    exact hacyclic m hcycle
  · have hmem : ∀ t ∈ ts, t.id ∈ waiting ↔ (graph ts).Stuck t.id := fun t ht =>
      hwaits.stuck t.id (htraces.nodes_eq ▸ List.mem_map_of_mem ht)
    refine .inr ⟨waiting, hsort, ?_, ?_, fun f => ?_⟩
    · obtain ⟨n, hcycle⟩ := not_forall_not.mp hcyclic
      obtain ⟨d, hneeds, _⟩ := TransGen.head'_iff.mp hcycle
      obtain ⟨_, _, t, ht, _, rfl, _⟩ := htraces.precedes n d hneeds
      exact ⟨t.target, htraces.circular_of_stuck hids ht ⟨t.id, .refl, hcycle⟩⟩
    · have hall : (ts.map (·.id)).filterMap (withId? ts) = ts := by
        rw [List.filterMap_map]
        refine (List.filterMap_congr fun t ht => ?_).trans List.filterMap_some
        exact (withId?_eq_some_iff hids).mpr ⟨ht, rfl⟩
      have hpart := hwaits.sublist.filterMap (withId? ts)
      rwa [htraces.nodes_eq, hall] at hpart
    · simp only [List.mem_map, List.mem_filterMap, withId?_eq_some_iff hids]
      constructor
      · rintro ⟨t, ⟨_, hwaiting, ht, rfl⟩, rfl⟩
        exact htraces.circular_of_stuck hids ht ((hmem t ht).mp hwaiting)
      · intro hcircular
        obtain ⟨t, ht, rfl⟩ := exists_target_of_circular hcircular
        obtain ⟨last, hlast, htarget, hstuck⟩ := hchained.stuck_of_circular hlinked ht hcircular
        exact ⟨last, ⟨last.id, (hmem last hlast).mpr hstuck, hlast, rfl⟩, htarget⟩

end Token

namespace PlacedUse

def RefersTo (table : ModifierTable) (e : Entity) (u : PlacedUse) (field : String) : Prop :=
  ∃ t, Token.ofUse table e u.field u.place u.use = .ok t ∧ field ∈ t.references

end PlacedUse

namespace Entity

variable {table : ModifierTable} {merging : Bool} {e : Entity} {ts : List Token}

def Feeds (table : ModifierTable) (e : Entity) (field reader : String) : Prop :=
  (∃ u ∈ e.uses, u.field = field) ∧ ∃ u ∈ e.uses, u.field = reader ∧ u.RefersTo table e field

theorem feeds_eq (hts : e.tokens table = .ok ts) : Token.Feeds ts = e.Feeds table := by
  have huses := forall₂_uses hts
  funext field reader
  apply propext
  constructor
  · rintro ⟨⟨t, ht, rfl⟩, t', ht', rfl, hread⟩
    obtain ⟨u, hu, hof⟩ := exists_of_mem_forall₂ huses ht
    obtain ⟨u', hu', hof'⟩ := exists_of_mem_forall₂ huses ht'
    exact ⟨⟨u, hu, (Token.isOfUse_of_ofUse hof).target_eq.symm⟩, u', hu',
      (Token.isOfUse_of_ofUse hof').target_eq.symm, t', hof', hread⟩
  · rintro ⟨⟨u, hu, rfl⟩, u', hu', rfl, t', hof', hread⟩
    obtain ⟨t, ht, hof⟩ := exists_of_mem_forall₂ huses.flip hu
    obtain ⟨t'', ht'', hof''⟩ := exists_of_mem_forall₂ huses.flip hu'
    cases hof''.symm.trans hof'
    exact ⟨⟨t, ht, (Token.isOfUse_of_ofUse hof).target_eq⟩, t', ht'',
      (Token.isOfUse_of_ofUse hof').target_eq, hread⟩

theorem pairwise_uses (hfields : e.fieldNames.Nodup) :
    (e.uses.map (·.field)).Pairwise fun f f' => e.fieldNames.idxOf f ≤ e.fieldNames.idxOf f' := by
  have hnames : e.fields.Pairwise fun f f' =>
      e.fieldNames.idxOf f.name < e.fieldNames.idxOf f'.name := by
    rw [List.pairwise_iff_getElem]
    intro i j hi hj hij
    have hplace : ∀ k (hk : k < e.fields.length), e.fieldNames.idxOf e.fields[k].name = k := by
      intro k hk
      simpa [fieldNames] using hfields.idxOf_getElem k (by simpa [fieldNames] using hk)
    rwa [hplace i hi, hplace j hj]
  rw [List.pairwise_map, uses, List.pairwise_flatMap]
  constructor
  · intro f _
    exact List.pairwise_map.mpr (List.pairwise_of_forall fun _ _ => Nat.le_refl _)
  · refine hnames.imp fun hlt u hu u' hu' => ?_
    obtain ⟨_, _, rfl⟩ := List.mem_map.mp hu
    obtain ⟨_, _, rfl⟩ := List.mem_map.mp hu'
    exact Nat.le_of_lt hlt

theorem map_target_tokens (hts : e.tokens table = .ok ts) :
    ts.map (·.target) = e.uses.map (·.field) := by
  have huses := forall₂_uses hts
  clear hts
  generalize e.uses = us at huses
  induction huses with
  | nil => rfl
  | cons hof _ ih => rw [List.map_cons, List.map_cons, ih, (Token.isOfUse_of_ofUse hof).target_eq]

def RefusedAsCircular (table : ModifierTable) (merging : Bool) (e : Entity)
    (nodes fields : List String) : Prop :=
  e.compile table merging = .error (.declaration ⟨some e.name, .circular nodes fields⟩)

theorem sublist_fieldNames (hts : e.tokens table = .ok ts) (hfields : e.fieldNames.Nodup)
    {waiting : List Token} (hwaiting : waiting.Sublist ts) :
    (Token.firstOccurrences (waiting.map (·.target))).Sublist e.fieldNames := by
  have hpart : (Token.firstOccurrences (waiting.map (·.target))).Sublist (e.uses.map (·.field)) :=
    (Token.firstOccurrences_sublist _).trans (map_target_tokens hts ▸ hwaiting.map _)
  have hmem : ∀ f ∈ e.uses.map (·.field), f ∈ e.fieldNames := by
    simp only [List.mem_map, uses, List.mem_flatMap, fieldNames]
    rintro _ ⟨_, ⟨f, hf, _, _, rfl⟩, rfl⟩
    exact ⟨f, hf, rfl⟩
  refine sublist_of_idxOf (fun f hf => hmem f (hpart.subset hf)) ?_
  have hle := (pairwise_uses hfields).sublist hpart
  refine (hle.and (Token.nodup_firstOccurrences _)).imp_of_mem ?_
  intro a b ha hb hab
  refine Nat.lt_of_le_of_ne hab.1 fun heq => hab.2 ?_
  exact (List.idxOf_inj (hmem a (hpart.subset ha))).mp heq

/-- An entity is refused as circular exactly when some of its fields refer to one another in a
circle, and what is named then are the fields that such a circle holds or reaches. -/
theorem compile_circular_iff (hfields : e.fieldNames.Nodup)
    (hts : e.tokens ModifierTable.builtin = .ok ts) :
    ((∃ nodes fields, e.RefusedAsCircular ModifierTable.builtin merging nodes fields) ↔
      ∃ f, TransGen (e.Feeds ModifierTable.builtin) f f) ∧
    (∀ nodes fields, e.RefusedAsCircular ModifierTable.builtin merging nodes fields →
      fields.Sublist e.fieldNames ∧ fields.Nodup ∧ ∀ f, f ∈ fields ↔
        ∃ f', TransGen (e.Feeds ModifierTable.builtin) f' f' ∧
          ReflTransGen (e.Feeds ModifierTable.builtin) f' f) ∧
    ((∀ f, ¬TransGen (e.Feeds ModifierTable.builtin) f f) →
      ∃ r, e.compile ModifierTable.builtin merging = .ok r) := by
  have hids : (ts.map (·.id)).Nodup :=
    List.pairwise_map.mpr (ids_tokens ModifierTable.notMem_tilde_builtin hts hfields)
  have hcompile : e.compile ModifierTable.builtin merging = Routine.ofTokens e.name merging ts := by
    rw [compile, hts]
    rfl
  have hspec := Token.sort_graph_spec hids (fun _ => notSelf_of_mem_tokens hts)
    (positions_tokens hts hfields)
  simp only [RefusedAsCircular, hcompile, Routine.ofTokens, ← feeds_eq hts]
  rcases hspec with ⟨order, hsort, hnone⟩ | ⟨waiting, hsort, ⟨f, hcircular⟩, hpart, hmem⟩
  · have hacyclic : ∀ f, ¬TransGen (Token.Feeds ts) f f := fun f hf => hnone f ⟨f, hf, .refl⟩
    rw [hsort]
    refine ⟨⟨by simp, fun hcycle => hcycle.elim fun f hf => absurd hf (hacyclic f)⟩, by simp,
      fun _ => ⟨_, rfl⟩⟩
  · obtain ⟨f', hcycle, _⟩ := hcircular
    rw [hsort]
    refine ⟨⟨fun _ => ⟨f', hcycle⟩, fun _ => ⟨_, _, rfl⟩⟩, ?_, fun hacyclic => ?_⟩
    · intro nodes fields h
      cases h
      refine ⟨sublist_fieldNames hts hfields hpart, Token.nodup_firstOccurrences _, fun f => ?_⟩
      rw [Token.mem_firstOccurrences]
      exact hmem f
    · exact absurd hcycle (hacyclic f')

def invoice : Entity where
  name := "invoice"
  fields := [
    { name := "label", modifiers := [
      { kind := "Activator", name := "copy", args := [.fieldRef "total"] },
      { kind := "Processor", name := "upper" }] },
    { name := "net", modifiers := [{ kind := "Validator", name := "min", args := [.int 0] }] },
    { name := "tax", modifiers := [
      { kind := "Activator", name := "copy", args := [.fieldRef "total"] }] },
    { name := "total", modifiers := [
      { kind := "Activator", name := "concat", args := [.fieldRef "net", .fieldRef "tax"] },
      { kind := "Processor", name := "trim" }] }]

theorem invoice_circular : invoice.fieldNames.Nodup ∧
    (∃ ts, invoice.tokens ModifierTable.builtin = .ok ts) ∧
    invoice.RefusedAsCircular ModifierTable.builtin true
      ["label~0:copy", "label~1:upper", "tax~0:copy", "total~0:concat", "total~1:trim"]
      ["label", "tax", "total"] ∧
    ∃ f, TransGen (invoice.Feeds ModifierTable.builtin) f f := by
  have hfields : invoice.fieldNames.Nodup := by decide
  exact ⟨hfields, ⟨_, rfl⟩, rfl,
    (@compile_circular_iff true invoice _ hfields rfl).1.mp ⟨_, _, rfl⟩⟩

end Entity
end FieldPipeline
