import FieldPipeline.Modifier.Builtin
import FieldPipeline.Proofs.Expression.References
import FieldPipeline.Proofs.Modifier.Reading
import FieldPipeline.Proofs.Sequence
import FieldPipeline.Routine.Token

/-!
The tokens of an entity.  Each carries the field, the place and the name of its use, and reads
other fields only; no two of them have the same identity.  The references of a token are all that
its call reads, besides its own field and the words of the language.
-/

namespace FieldPipeline

namespace Token

theorem modifierFor_ok {table : ModifierTable} {u : ModifierUse} {target : String} {m : Modifier}
    (h : modifierFor table u target = .ok m) : m ∈ table ∧ m.name = u.name := by
  unfold modifierFor at h
  split at h
  · cases h
  · rename_i kind _
    split at h
    · cases h
    · rename_i found
      cases h
      refine ⟨List.mem_of_find?_eq_some found, ?_⟩
      have hfound := List.find?_some found
      simp only [decide_eq_true_eq] at hfound
      exact hfound.2

theorem notMem_readBy {entity : String} {u : ModifierUse} {target text : String}
    {names : List String} (h : readBy entity u target text = .ok names) : target ∉ names := by
  unfold readBy at h
  split at h
  · cases h
  · cases h
  · rw [bind_eq_ok] at h
    obtain ⟨all, _, h⟩ := h
    cases h
    simp

theorem ofUse_ok {table : ModifierTable} {e : Entity} {target : String} {position : Nat}
    {u : ModifierUse} {t : Token} (h : ofUse table e target position u = .ok t) :
    ∃ m texts read, modifierFor table u target = .ok m ∧ target ∉ namedFields u ∧
      expressions u m.kind target m.expressionArgs = .ok texts ∧
      texts.mapM (readBy e.name u target) = .ok read ∧
      (∀ name ∈ namedFields u ++ read.flatten, e.hasField name = true) ∧
      t = {
        id := idOf target position u.name
        kind := m.kind
        target
        references := Expression.sortedNames (namedFields u ++ read.flatten)
        chainable := u.chainable
        call := { modifier := m, args := u.args, condition := u.condition }
        position } := by
  simp only [ofUse, bind_eq_ok, mapError_eq_ok] at h
  obtain ⟨m, hm, h⟩ := h
  split at h
  · rw [bind_eq_ok] at h
    obtain ⟨_, h, _⟩ := h
    cases h
  · rename_i hself
    simp only [bind_eq_ok, mapError_eq_ok] at h
    obtain ⟨texts, htexts, read, hread, h⟩ := h
    split at h
    · rw [bind_eq_ok] at h
      obtain ⟨_, h, _⟩ := h
      cases h
    · rename_i hknown
      cases h
      refine ⟨m, texts, read, hm, by simpa using hself, htexts, hread, ?_, rfl⟩
      simpa only [Bool.not_eq_true', Bool.not_eq_false, List.isEmpty_iff, List.filter_eq_nil_iff]
        using hknown

theorem readBy_eq_ok {entity target text : String} {u : ModifierUse} {names : List String}
    (hproblem : Expression.problem? text = none)
    (hnames : Expression.references text = .ok names) :
    readBy entity u target text = .ok (names.filter (· ≠ target)) := by
  unfold readBy
  rw [hproblem, hnames]
  rfl

theorem ofUse_eq_ok {table : ModifierTable} {e : Entity} {target : String} {position : Nat}
    {u : ModifierUse} {m : Modifier} {texts : List String} {read : List (List String)}
    (hm : modifierFor table u target = .ok m) (hself : (namedFields u).contains target = false)
    (htexts : expressions u m.kind target m.expressionArgs = .ok texts)
    (hread : texts.mapM (readBy e.name u target) = .ok read)
    (hknown : (namedFields u ++ read.flatten).filter (!e.hasField ·) = []) :
    ofUse table e target position u = .ok {
      id := idOf target position u.name
      kind := m.kind
      target
      references := Expression.sortedNames (namedFields u ++ read.flatten)
      chainable := u.chainable
      call := { modifier := m, args := u.args, condition := u.condition }
      position } := by
  let tell (fault : DeclarationFault) : Failure := .declaration ⟨some e.name, fault⟩
  have hm' : (modifierFor table u target).mapError tell = .ok m := mapError_eq_ok.mpr hm
  have htexts' : (expressions u m.kind target m.expressionArgs).mapError tell = .ok texts :=
    mapError_eq_ok.mpr htexts
  unfold ofUse
  simp only [tell] at hm' htexts'
  simp only [hm', htexts', bind, Except.bind, hread, hself, hknown]
  rfl

theorem textArg_of_expressions {u : ModifierUse} {kind : ModifierKind} {target : String}
    {places : List Nat} {texts : List String}
    (h : expressions u kind target places = .ok texts) :
    ∀ place ∈ places, ∃ text, u.args[place]? = some (.text text) := by
  have hargs : ∃ args, expressionArgs? u places = some args := by
    unfold expressions at h
    cases hargs : expressionArgs? u places with
    | none =>
        rw [hargs] at h
        cases h
    | some args => exact ⟨args, rfl⟩
  obtain ⟨args, hargs⟩ := hargs
  unfold expressionArgs? at hargs
  intro place hplace
  clear h
  induction places generalizing args with
  | nil => cases hplace
  | cons first rest ih =>
      rw [List.mapM_cons] at hargs
      cases hfirst : textArg? u first with
      | none =>
          rw [hfirst] at hargs
          cases hargs
      | some text =>
          rw [hfirst] at hargs
          cases hrest : rest.mapM (textArg? u) with
          | none =>
              rw [hrest] at hargs
              cases hargs
          | some others =>
              rcases List.mem_cons.mp hplace with rfl | hplace
              · unfold textArg? at hfirst
                split at hfirst
                · cases hfirst
                  exact ⟨text, by assumption⟩
                · cases hfirst
              · exact ih others hrest hplace

structure IsOfUse (table : ModifierTable) (target : String) (position : Nat) (u : ModifierUse)
    (t : Token) : Prop where
  id_eq : t.id = idOf target position u.name
  target_eq : t.target = target
  position_eq : t.position = position
  kind_eq : t.kind = t.call.modifier.kind
  registered : t.call.modifier ∈ table
  name_eq : t.call.modifier.name = u.name
  notSelf : target ∉ t.references
  literal : ∀ place ∈ t.call.modifier.expressionArgs, ∃ text,
    t.call.args[place]? = some (.text text)

theorem isOfUse_of_ofUse {table : ModifierTable} {e : Entity} {target : String} {position : Nat}
    {u : ModifierUse} {t : Token} (h : ofUse table e target position u = .ok t) :
    t.IsOfUse table target position u := by
  obtain ⟨m, texts, read, hm, hself, htexts, hread, _, rfl⟩ := ofUse_ok h
  obtain ⟨hregistered, hname⟩ := modifierFor_ok hm
  refine ⟨rfl, rfl, rfl, rfl, hregistered, hname, ?_, textArg_of_expressions htexts⟩
  rw [Expression.mem_sortedNames, List.mem_append, List.mem_flatten]
  rintro (hnamed | ⟨names, hnames, htarget⟩)
  · exact hself hnamed
  · obtain ⟨text, _, htext⟩ := exists_of_mem_forall₂ (forall₂_of_mapM hread) hnames
    exact notMem_readBy htext htarget

theorem ofUses_ok {table : ModifierTable} {e : Entity} {target : String} {first : Nat}
    {us : List ModifierUse} {ts : List Token} (h : ofUses table e target first us = .ok ts) :
    (∀ t ∈ ts, ∃ u ∈ us, ∃ position, first ≤ position ∧
      ofUse table e target position u = .ok t) ∧
    ts.Pairwise fun t t' => t.position < t'.position := by
  induction us generalizing first ts with
  | nil =>
      cases h
      simp
  | cons u us ih =>
      simp only [ofUses, bind_eq_ok] at h
      obtain ⟨t, ht, rest, hrest, h⟩ := h
      cases h
      obtain ⟨hmade, hpositions⟩ := ih hrest
      constructor
      · intro t' ht'
        rcases List.mem_cons.mp ht' with rfl | ht'
        · exact ⟨u, by simp, first, Nat.le_refl first, ht⟩
        · obtain ⟨u', hu', position, hposition, hof⟩ := hmade t' ht'
          exact ⟨u', by simp [hu'], position, by omega, hof⟩
      · rw [List.pairwise_cons]
        refine ⟨fun t' ht' => ?_, hpositions⟩
        obtain ⟨u', _, position, hposition, hof⟩ := hmade t' ht'
        rw [(isOfUse_of_ofUse ht).position_eq, (isOfUse_of_ofUse hof).position_eq]
        omega

theorem forall₂_of_ofUses {table : ModifierTable} {e : Entity} {target : String} {first : Nat}
    {us : List ModifierUse} {ts : List Token} (h : ofUses table e target first us = .ok ts) :
    List.Forall₂ (fun u t => ofUse table e target u.2 u.1 = .ok t) (us.zipIdx first) ts := by
  induction us generalizing first ts with
  | nil =>
      cases h
      exact .nil
  | cons u us ih =>
      simp only [ofUses, bind_eq_ok] at h
      obtain ⟨t, ht, rest, hrest, h⟩ := h
      cases h
      exact .cons ht (ih hrest)

/-- The parts of an identity can be told from it, since no name of a modifier has a tilde. -/
theorem idOf_inj {target target' name name' : String} {position position' : Nat}
    (hname : '~' ∉ name.toList) (hname' : '~' ∉ name'.toList)
    (h : idOf target position name = idOf target' position' name') :
    target = target' ∧ position = position' := by
  have hdigit : ∀ (n : Nat) (c : Char), c.isDigit = false → c ∉ (toString n).toList := by
    intro n c hc hmem
    rw [Nat.toString_eq_repr, Nat.toList_repr] at hmem
    rw [Nat.isDigit_of_mem_toDigits (by decide) (by decide) hmem] at hc
    cases hc
  have hchars := congrArg String.toList h
  simp only [idOf, String.toList_append, List.append_assoc] at hchars
  have htail : ∀ (n : Nat) (s : String), '~' ∉ s.toList →
      '~' ∉ (toString n).toList ++ (":".toList ++ s.toList) := by
    intro n s hs
    simp only [List.mem_append, not_or]
    exact ⟨hdigit n '~' rfl, by decide, hs⟩
  obtain ⟨htarget, hrest⟩ :=
    append_cons_inj_last (htail position name hname) (htail position' name' hname') hchars
  obtain ⟨hposition, _⟩ :=
    append_cons_inj (hdigit position ':' rfl) (hdigit position' ':' rfl) hrest
  refine ⟨String.toList_inj.mp htarget, ?_⟩
  rw [Nat.toString_eq_repr, Nat.toString_eq_repr, Nat.toList_repr, Nat.toList_repr] at hposition
  rw [← @Nat.ofDigitChars_ten_toDigits position, hposition, Nat.ofDigitChars_ten_toDigits]

end Token

structure PlacedUse where
  field : String
  place : Nat
  use : ModifierUse

namespace Entity

def uses (e : Entity) : List PlacedUse :=
  e.fields.flatMap fun f => f.modifiers.zipIdx.map fun u => ⟨f.name, u.2, u.1⟩

theorem mem_fieldNames (e : Entity) (name : String) :
    name ∈ e.fieldNames ↔ e.hasField name = true := by
  simp [fieldNames, hasField, field?]

variable {table : ModifierTable} {e : Entity} {ts : List Token}

theorem forall₂_uses (h : e.tokens table = .ok ts) : List.Forall₂
    (fun u t => Token.ofUse table e u.field u.place u.use = .ok t) e.uses ts := by
  simp only [tokens, bind_eq_ok] at h
  obtain ⟨rows, hrows, h⟩ := h
  cases h
  rw [uses, ← List.flatMap_id]
  refine List.rel_flatMap (forall₂_of_mapM hrows) fun f row hrow => ?_
  exact List.forall₂_map_left_iff.mpr (Token.forall₂_of_ofUses hrow)

theorem exists_use_of_mem_tokens (h : e.tokens table = .ok ts) {t : Token} (ht : t ∈ ts) :
    ∃ f ∈ e.fields, ∃ u ∈ f.modifiers, ∃ position,
      Token.ofUse table e f.name position u = .ok t := by
  simp only [tokens, bind_eq_ok] at h
  obtain ⟨rows, hrows, h⟩ := h
  cases h
  obtain ⟨row, hrow, ht⟩ := List.mem_flatten.mp ht
  obtain ⟨f, hf, hof⟩ := exists_of_mem_forall₂ (forall₂_of_mapM hrows) hrow
  obtain ⟨u, hu, position, _, hof⟩ := (Token.ofUses_ok hof).1 t ht
  exact ⟨f, hf, u, hu, position, hof⟩

theorem isOfUse_of_mem_tokens (h : e.tokens table = .ok ts) {t : Token} (ht : t ∈ ts) :
    ∃ target position u, t.IsOfUse table target position u := by
  obtain ⟨f, _, u, _, position, hof⟩ := exists_use_of_mem_tokens h ht
  exact ⟨f.name, position, u, Token.isOfUse_of_ofUse hof⟩

theorem notSelf_of_mem_tokens (h : e.tokens table = .ok ts) {t : Token} (ht : t ∈ ts) :
    t.target ∉ t.references := by
  obtain ⟨target, position, u, hof⟩ := isOfUse_of_mem_tokens h ht
  exact hof.target_eq ▸ hof.notSelf

theorem positions_tokens (h : e.tokens table = .ok ts) (hfields : e.fieldNames.Nodup) :
    ts.Pairwise fun t t' => t.target = t'.target → t.position < t'.position := by
  simp only [tokens, bind_eq_ok] at h
  obtain ⟨rows, hrows, h⟩ := h
  cases h
  replace hrows := forall₂_of_mapM hrows
  rw [List.pairwise_flatten]
  constructor
  · intro row hrow
    obtain ⟨f, _, hof⟩ := exists_of_mem_forall₂ hrows hrow
    refine (Token.ofUses_ok hof).2.imp ?_
    intro t t' hlt _
    exact hlt
  · -- tokens of two fields have two targets
    have htargets : ∀ (f : Field) row, Token.ofUses table e f.name 0 f.modifiers = .ok row →
        ∀ t ∈ row, t.target = f.name := by
      intro f row hof t ht
      obtain ⟨u, _, position, _, hof⟩ := (Token.ofUses_ok hof).1 t ht
      exact (Token.isOfUse_of_ofUse hof).target_eq
    unfold fieldNames at hfields
    generalize e.fields = fields at hrows hfields
    induction hrows with
    | nil => exact List.Pairwise.nil
    | @cons f row fields rows hof hrows ih =>
        rw [List.map_cons, List.nodup_cons] at hfields
        rw [List.pairwise_cons]
        refine ⟨?_, ih hfields.2⟩
        intro row' hrow' t ht t' ht' htarget
        obtain ⟨f', hf', hof'⟩ := exists_of_mem_forall₂ hrows hrow'
        rw [htargets f row hof t ht, htargets f' row' hof' t' ht'] at htarget
        exact absurd (htarget ▸ List.mem_map_of_mem hf') hfields.1

/-- Tokens with the same identity have the same field and place, whatever the names of the fields
are. -/
theorem place_of_id_eq (htable : ∀ m ∈ table, '~' ∉ m.name.toList) (h : e.tokens table = .ok ts)
    {t t' : Token} (ht : t ∈ ts) (ht' : t' ∈ ts) (hid : t.id = t'.id) :
    t.target = t'.target ∧ t.position = t'.position := by
  obtain ⟨target, position, u, hof⟩ := isOfUse_of_mem_tokens h ht
  obtain ⟨target', position', u', hof'⟩ := isOfUse_of_mem_tokens h ht'
  rw [hof.id_eq, hof'.id_eq] at hid
  rw [hof.target_eq, hof'.target_eq, hof.position_eq, hof'.position_eq]
  exact Token.idOf_inj (hof.name_eq ▸ htable _ hof.registered)
    (hof'.name_eq ▸ htable _ hof'.registered) hid

theorem ids_tokens (htable : ∀ m ∈ table, '~' ∉ m.name.toList) (h : e.tokens table = .ok ts)
    (hfields : e.fieldNames.Nodup) : ts.Pairwise fun t t' => t.id ≠ t'.id := by
  refine (positions_tokens h hfields).imp_of_mem fun {t t'} ht ht' hpositions hid => ?_
  obtain ⟨htarget, hposition⟩ := place_of_id_eq htable h ht ht' hid
  exact absurd (hpositions htarget) (by omega)

end Entity

namespace ModifierTable

theorem notMem_tilde_builtin : ∀ m ∈ builtin, '~' ∉ m.name.toList := by
  decide

end ModifierTable

/-! ### The references of a token -/

open Expression

namespace Token

variable {entity target : String} {u : ModifierUse}

theorem mem_of_readBy {text name : String} {names : List String}
    (hread : readBy entity u target text = .ok names) (h : name ∈ formulaReads text) :
    name ∈ names ∨ name = target ∨ IsWord name := by
  unfold readBy at hread
  split at hread
  · cases hread
  · cases hread
  · rw [bind_eq_ok] at hread
    obtain ⟨all, hall, hread⟩ := hread
    cases hread
    by_cases htarget : name = target
    · exact .inr (.inl htarget)
    · rcases mem_references_of_mem_formulaReads (mapError_eq_ok.mp hall) h with hmem | hword
      · exact .inl (List.mem_filter.mpr ⟨hmem, by simpa using htarget⟩)
      · exact .inr (.inr hword)

theorem mem_expressions {kind : ModifierKind} {places : List Nat} {texts : List String}
    (h : expressions u kind target places = .ok texts) :
    (∀ place ∈ places, ∀ formula, u.args[place]? = some (.text formula) → formula ∈ texts) ∧
      ∀ condition, u.condition = some condition → condition ∈ texts := by
  unfold expressions at h
  cases hargs : expressionArgs? u places with
  | none =>
      rw [hargs] at h
      cases h
  | some args =>
      have hplaces : ∀ place ∈ places, ∀ formula, u.args[place]? = some (.text formula) →
          formula ∈ args := by
        unfold expressionArgs? at hargs
        clear h
        induction places generalizing args with
        | nil => exact fun place hplace => by cases hplace
        | cons first rest ih =>
            simp only [List.mapM_cons, Option.bind_eq_bind, Option.bind_eq_some_iff,
              Option.pure_def, Option.some.injEq] at hargs
            obtain ⟨text, htext, others, hothers, rfl⟩ := hargs
            intro place hplace formula hformula
            rcases List.mem_cons.mp hplace with rfl | hplace
            · unfold textArg? at htext
              rw [hformula] at htext
              cases htext
              simp
            · exact List.mem_cons_of_mem _ (ih others hothers place hplace formula hformula)
      rw [hargs] at h
      cases hcondition : u.condition with
      | none =>
          rw [hcondition] at h
          cases h
          exact ⟨hplaces, by simp⟩
      | some condition =>
          rw [hcondition] at h
          dsimp only at h
          split at h
          · cases h
            refine ⟨fun place hplace formula hformula => ?_, fun condition' h => ?_⟩
            · exact List.mem_append_left _ (hplaces place hplace formula hformula)
            · cases h
              simp
          · cases h

theorem reads_of_ofUse {table : ModifierTable} {e : Entity} {position : Nat} {t : Token}
    (h : ofUse table e target position u = .ok t) {name : String} (hname : name ∈ t.call.reads) :
    name ∈ t.references ∨ name = t.target ∨ IsWord name := by
  obtain ⟨m, texts, read, _, _, htexts, hread, _, rfl⟩ := ofUse_ok h
  obtain ⟨hplaces, hcondition⟩ := mem_expressions htexts
  have htext : ∀ formula ∈ texts, name ∈ formulaReads formula →
      name ∈ namedFields u ++ read.flatten ∨ name = target ∨ IsWord name := by
    intro formula hformula hreads
    obtain ⟨names, hnames, hof⟩ :=
      exists_of_mem_forall₂ (forall₂_of_mapM hread).flip hformula
    rcases mem_of_readBy hof hreads with hmem | hrest
    · exact .inl (List.mem_append_right _ (List.mem_flatten.mpr ⟨names, hnames, hmem⟩))
    · exact .inr hrest
  dsimp only
  rw [mem_sortedNames]
  unfold Call.reads at hname
  rcases List.mem_append.mp hname with hrefers | hrest
  · exact .inl (List.mem_append_left _ (List.mem_append_left _ hrefers))
  · rcases List.mem_append.mp hrest with hformulas | hcond
    · obtain ⟨place, hplace, hmem⟩ := List.mem_flatMap.mp hformulas
      split at hmem
      · rename_i formula hformula
        exact htext formula (hplaces place hplace formula hformula) (List.mem_filter.mp hmem).1
      · cases hmem
    · dsimp only at hcond
      cases hcase : u.condition with
      | none =>
          rw [hcase] at hcond
          cases hcond
      | some condition =>
          rw [hcase] at hcond
          exact htext condition (hcondition condition hcase) hcond

end Token

/-- What the call of a token reads is its own field, one of the fields to which the token refers,
or a word of the language. -/
theorem Entity.reads_of_mem_tokens {table : ModifierTable} {e : Entity} {ts : List Token}
    (h : e.tokens table = .ok ts) {t : Token} (ht : t ∈ ts) {name : String}
    (hname : name ∈ t.call.reads) : name ∈ t.references ∨ name = t.target ∨ IsWord name := by
  obtain ⟨f, _, u, _, position, hof⟩ := exists_use_of_mem_tokens h ht
  exact Token.reads_of_ofUse hof hname

end FieldPipeline
