import FieldPipeline.Proofs.Declaration.Plain
import FieldPipeline.Proofs.Declaration.Reading

/-!
Saving a declaration and reading it again.  What is saved are those members that are written down;
read again, each gives what it gave before, unless it holds a value that is not plain data.
-/

namespace FieldPipeline

namespace Check

variable {α : Type} {es : Entries} {names given : List String} {members : Record} {name : String}
  {shape : Value → Check α} {v : Value} {a other : α}

theorem mem_present : name ∈ present es names ↔ name ∈ names ∧ (under? name es).isSome = true := by
  unfold present
  exact List.mem_filter

theorem under?_only (given : List String) (members : Record) (name : String) :
    under? name (members.only given).entries =
      if given.contains name then members.get? name else none := by
  rw [Record.under?_entries, Record.get?_only]

theorem orElse_only (hgiven : given = present es names) (hname : name ∈ names)
    (hget : members.get? name = some v) (h : orElse es name shape other = pure a)
    (hshape : shape v = pure a) :
    orElse (members.only given).entries name shape other = pure a := by
  rw [orElse_eq_pure, under?_only, hget]
  rcases orElse_eq_pure.mp h with ⟨u, hu, -⟩ | ⟨hnone, hother⟩
  · have hmem : name ∈ given := by
      rw [hgiven, mem_present, hu]
      exact ⟨hname, rfl⟩
    exact .inl ⟨v, by simp [hmem], hshape⟩
  · have hmem : name ∉ given := by
      rw [hgiven, mem_present, hnone]
      simp
    exact .inr ⟨by simp [hmem], hother⟩

theorem required_only [Inhabited α] (hgiven : given = present es names) (hname : name ∈ names)
    (hget : members.get? name = some v) (h : required es name shape = pure a)
    (hshape : shape v = pure a) : required (members.only given).entries name shape = pure a := by
  obtain ⟨u, hu, -⟩ := required_eq_pure.mp h
  have hmem : name ∈ given := by
    rw [hgiven, mem_present, hu]
    exact ⟨hname, rfl⟩
  rw [required_eq_pure, under?_only, hget]
  exact ⟨v, by simp [hmem], hshape⟩

theorem present_only (hgiven : given = present es names)
    (hnames : ∀ name ∈ names, members.has name = true) :
    given = present (members.only given).entries names := by
  have hsame : ∀ name ∈ names, (under? name (members.only given).entries).isSome =
      (under? name es).isSome := by
    intro name hname
    rw [under?_only]
    cases hes : under? name es with
    | none =>
        have hmem : name ∉ given := by
          rw [hgiven, mem_present, hes]
          simp
        simp [hmem]
    | some u =>
        have hmem : name ∈ given := by
          rw [hgiven, mem_present, hes]
          exact ⟨hname, rfl⟩
        have hhas : (members.get? name).isSome = true := hnames name hname
        simp [hmem, hhas]
  exact hgiven.trans (List.filter_congr fun name hname => (hsame name hname).symm)

/-! What the shapes of members make of the values by which these are saved -/

theorem listOf_text_textList (items : List String) : listOf text (textList items) = pure items := by
  rw [textList, listOf_list_eq_pure, List.forall₂_map_left_iff, List.forall₂_same]
  exact fun _ _ => rfl

theorem optional_optionValue (encode : α → Value) (hshape : ∀ a, shape (encode a) = pure a)
    (hencode : ∀ a, encode a ≠ .null) (a : Option α) :
    optional shape (optionValue encode a) = pure a := by
  cases a with
  | none => rfl
  | some a =>
      have hread : optional shape (encode a) = some <$> shape (encode a) := by
        unfold optional
        split
        · exact absurd ‹_› (hencode a)
        · rfl
      rw [optionValue, hread, hshape]
      rfl

theorem optional_text (s : Option String) : optional text (optionValue .text s) = pure s :=
  optional_optionValue Value.text (fun _ => rfl) (fun _ => nofun) s

theorem optional_wholeNumber (n : Option Int) :
    optional wholeNumber (optionValue .int n) = pure n :=
  optional_optionValue Value.int (fun _ => rfl) (fun _ => nofun) n

theorem optional_texts (items : Option (List String)) :
    optional (listOf text) (optionValue textList items) = pure items :=
  optional_optionValue textList listOf_text_textList (fun _ => nofun) items

def Returns (save : α → Except Fault Value) (shape : Value → Check α) (a : α) : Prop :=
  ∃ w, save a = .ok w ∧ shape w = pure a

theorem forall_returns_iff {save : α → Except Fault Value} {l : List α} :
    (∀ a ∈ l, Returns save shape a) ↔
      ∃ ws, l.mapM save = .ok ws ∧ List.Forall₂ (fun w a => shape w = pure a) ws l := by
  induction l with
  | nil => exact ⟨fun _ => ⟨[], rfl, .nil⟩, fun _ => by simp⟩
  | cons a l ih =>
      rw [List.forall_mem_cons, ih, List.mapM_cons]
      constructor
      · rintro ⟨⟨w, hw, ha⟩, ws, hws, hl⟩
        exact ⟨w :: ws, by rw [hw, hws]; rfl, .cons ha hl⟩
      · rintro ⟨ws, h, hl⟩
        obtain ⟨w, hw, h⟩ := bind_eq_ok.mp h
        obtain ⟨rest, hrest, h⟩ := bind_eq_ok.mp h
        cases h
        cases hl with
        | cons ha hl => exact ⟨⟨w, hw, ha⟩, rest, hrest, hl⟩

theorem returns_or_eq (hmembers : members.names.Nodup) (hgiven : given = present es names)
    (hname : name ∈ names) (hget : members.get? name = some v)
    (h : orElse es name shape other = pure a) {es' : Entries}
    (hsaved : (givenMembers given members).saved = .ok (.dict es'))
    (hagain : orElse es' name shape other = pure a) :
    (∃ w, v.saved = .ok w ∧ shape w = pure a) ∨ other = a := by
  rcases orElse_eq_pure.mp h with ⟨u, hu, -⟩ | ⟨-, hother⟩
  · have hmem : given.contains name = true := by
      rw [List.contains_iff_mem, hgiven, mem_present, hu]
      exact ⟨hname, rfl⟩
    obtain ⟨w, hw, hv⟩ := exists_saved_member hmembers hsaved hget hmem rfl
    refine .inl ⟨w, hv, ?_⟩
    rcases orElse_eq_pure.mp hagain with ⟨w', hw', hshape⟩ | ⟨hnone, -⟩
    · cases hw.symm.trans hw'
      exact hshape
    · cases hw.symm.trans hnone
  · exact .inr hother

theorem isPlain_of_under? (hes : Value.plainEntries es = true) (h : under? name es = some v) :
    v.isPlain = true := by
  obtain ⟨r, rfl, -, hplain⟩ := Value.plainEntries_iff.mp hes
  rw [Record.under?_entries] at h
  exact hplain _ (Record.mem_of_get? h)

theorem isPlain_of_orElse_any (hes : Value.plainEntries es = true) {other a : Value}
    (hother : other.isPlain = true) (h : orElse es name any other = pure a) : a.isPlain = true := by
  rcases orElse_eq_pure.mp h with ⟨v, hv, hread⟩ | ⟨-, rfl⟩
  · cases pure_eq_pure.mp hread
    exact isPlain_of_under? hes hv
  · exact hother

theorem isPlain_of_record {r : Record} (hv : v.isPlain = true) (h : record v = pure r) :
    ∀ e ∈ r, e.2.isPlain = true := by
  cases v with
  | dict es =>
      obtain ⟨r', rfl, hnodup, hplain⟩ := Value.plainEntries_iff.mp hv
      cases pure_eq_pure.mp ((keys_entries hnodup).symm.trans h)
      exact hplain
  | _ => exact absurd h refuse_ne_pure

theorem exists_of_orElse_listOf {as : List α} (h : orElse es name (listOf shape) [] = pure as) :
    ∀ a ∈ as, ∃ v, shape v = pure a ∧ (Value.plainEntries es = true → v.isPlain = true) := by
  intro a ha
  rcases orElse_eq_pure.mp h with ⟨u, hu, hread⟩ | ⟨-, rfl⟩
  · obtain ⟨vs, hvs, hall⟩ := listOf_eq_pure.mp hread
    obtain ⟨v, hv, hshape⟩ := exists_of_mem_forall₂ hall ha
    refine ⟨v, hshape, fun hplain => ?_⟩
    have hu' := isPlain_of_under? hplain hu
    rcases hvs with rfl | rfl | rfl
    · exact Value.allPlain_iff.mp hu' v hv
    · cases hu'
    · cases hu'
  · cases ha

section Parts

variable {save : α → Except Fault Value} {l : List α} {ws : List Value}

theorem isPlain_of_mapM (hsave : ∀ a w, save a = .ok w → w.isPlain = true)
    (h : l.mapM save = .ok ws) : ∀ w ∈ ws, w.isPlain = true := by
  intro w hw
  obtain ⟨a, -, ha⟩ := exists_of_mem_forall₂ (forall₂_of_mapM h) hw
  exact hsave a w ha

theorem all_iff_exists_mapM {plain : α → Bool} (h : orElse es name (listOf shape) [] = pure l)
    (hpart : ∀ v a, shape v = pure a → (Returns save shape a ↔ plain a = true)) :
    l.all plain = true ↔
      ∃ ws, l.mapM save = .ok ws ∧ List.Forall₂ (fun w a => shape w = pure a) ws l := by
  rw [← forall_returns_iff, List.all_eq_true]
  refine forall₂_congr fun a ha => ?_
  obtain ⟨v, hv, -⟩ := exists_of_orElse_listOf h a ha
  exact (hpart v a hv).symm

theorem forall₂_of_orElse_listOf (hmembers : members.names.Nodup)
    (hgiven : given = present es names) (hname : name ∈ names)
    (hget : members.get? name = some (.list ws)) (hplain : ∀ w ∈ ws, w.isPlain = true)
    (hws : l.mapM save = .ok ws) (h : orElse es name (listOf shape) [] = pure l) {es' : Entries}
    (hsaved : (givenMembers given members).saved = .ok (.dict es'))
    (hagain : orElse es' name (listOf shape) [] = pure l) :
    List.Forall₂ (fun w a => shape w = pure a) ws l := by
  rcases returns_or_eq hmembers hgiven hname hget h hsaved hagain with ⟨u, hu, hshape⟩ | hnone
  · rw [Value.saved_of_isPlain (v := .list ws) (Value.allPlain_iff.mpr hplain)] at hu
    cases hu
    exact listOf_list_eq_pure.mp hshape
  · -- Nothing was there and nothing was saved of it.
    rw [← hnone] at hws ⊢
    cases hws
    exact .nil

end Parts

end Check

/-! ### Modifiers -/

namespace Value

def isReference : Value → Bool
  | .dict [(.text "ref", _)] => true
  | _ => false

/-- Whether an argument is read again as it was: it refers to a field, or it is plain data that does
not look as if it did. -/
def isPlainArgument : Value → Bool
  | .fieldRef _ => true
  | v => v.isPlain && !v.isReference

theorem savedAll_eq_mapM (xs : List Value) : savedAll xs = xs.mapM saved := by
  induction xs with
  | nil => rfl
  | cons x xs ih => rw [savedAll, ih, List.mapM_cons]

end Value

theorem readArgument_of_not_isReference {v : Value} (h : v.isReference = false) :
    readArgument v = pure v := by
  unfold readArgument
  split
  · cases h
  · rfl

theorem exists_fieldRef_of_isReference {v x : Value} (h : v.isReference = true)
    (hread : readArgument v = pure x) : ∃ name, x = .fieldRef name := by
  unfold Value.isReference at h
  split at h
  · unfold readArgument at hread
    obtain ⟨name, -, hname⟩ := Check.bind_eq_pure.mp hread
    exact ⟨name, (Check.pure_eq_pure.mp hname).symm⟩
  · cases h

theorem readArguments_eq_pure {vs xs : List Value} :
    readArguments vs = pure xs ↔ List.Forall₂ (fun v x => readArgument v = pure x) vs xs := by
  induction vs generalizing xs with
  | nil =>
      rw [readArguments, Check.pure_eq_pure]
      exact ⟨fun h => h ▸ .nil, fun h => by cases h; rfl⟩
  | cons v vs ih =>
      unfold readArguments
      dsimp only
      rcases hfirst : readArgument v with ⟨x, _ | ⟨issue, issues⟩⟩
      · have hread : readArgument v = pure x := hfirst
        simp only [List.isEmpty_nil, if_true, Check.bind_eq_pure, ih, Check.pure_eq_pure]
        constructor
        · rintro ⟨rest, hrest, rfl⟩
          exact .cons hread hrest
        · intro h
          cases h with
          | cons hx hrest =>
              cases Check.pure_eq_pure.mp (hread.symm.trans hx)
              exact ⟨_, hrest, rfl⟩
      · constructor
        · intro h
          exact absurd h Check.fail_cons_ne_pure
        · intro h
          cases h with
          | cons hx _ => cases hfirst.symm.trans hx

theorem returns_argument_iff {x : Value} :
    Check.Returns Value.saved readArgument x ↔ x.isPlainArgument = true := by
  constructor
  · rintro ⟨w, hw, hread⟩
    cases href : w.isReference with
    | true =>
        obtain ⟨name, rfl⟩ := exists_fieldRef_of_isReference href hread
        rfl
    | false =>
        cases Check.pure_eq_pure.mp ((readArgument_of_not_isReference href).symm.trans hread)
        unfold Value.isPlainArgument
        split
        · rfl
        · rw [Value.isPlain_of_saved hw, href]
          rfl
  · intro h
    unfold Value.isPlainArgument at h
    split at h
    · exact ⟨_, rfl, rfl⟩
    · rw [Bool.and_eq_true, Bool.not_eq_true'] at h
      exact ⟨x, Value.saved_of_isPlain h.1, readArgument_of_not_isReference h.2⟩

theorem isPlainArgument_of_read {v x : Value} (hv : v.isPlain = true)
    (hread : readArgument v = pure x) : x.isPlainArgument = true := by
  cases href : v.isReference with
  | true =>
      obtain ⟨name, rfl⟩ := exists_fieldRef_of_isReference href hread
      rfl
  | false =>
      cases Check.pure_eq_pure.mp ((readArgument_of_not_isReference href).symm.trans hread)
      unfold Value.isPlainArgument
      split
      · rfl
      · rw [hv, href]
        rfl

namespace ModifierUse

variable {m : ModifierUse} {es : Check.Entries}

structure Reads (es : Check.Entries) (m : ModifierUse) : Prop where
  kind : Check.required es "kind" Check.text = pure m.kind
  name : Check.required es "name" Check.text = pure m.name
  args : Check.orElse es "args" argumentsShape [] = pure m.args
  alsoReads : Check.orElse es "field_references" (Check.listOf Check.text) [] = pure m.alsoReads
  condition : Check.orElse es "when" (Check.optional Check.text) none = pure m.condition
  chainable : Check.orElse es "chainable" Check.flag true = pure m.chainable
  given : m.given = Check.present es members

theorem ofEntries_eq_pure : ofEntries es = pure m ↔ m.Reads es := by
  simp only [ofEntries, Check.bind_eq_pure, Check.pure_eq_pure]
  constructor
  · rintro ⟨_, hkind, _, hname, _, hargs, _, hreads, _, hwhen, _, hchainable, rfl⟩
    exact ⟨hkind, hname, hargs, hreads, hwhen, hchainable, rfl⟩
  · intro h
    exact ⟨_, h.kind, _, h.name, _, h.args, _, h.alsoReads, _, h.condition, _, h.chainable,
      by rw [← h.given]⟩

def isPlain (m : ModifierUse) : Bool :=
  m.args.all Value.isPlainArgument

theorem nodup_names_toRecord (m : ModifierUse) : m.toRecord.names.Nodup := by
  change members.Nodup
  decide

theorem returns_iff {v : Value} (h : Check.mapping ofEntries v = pure m) :
    Check.Returns toData (Check.mapping ofEntries) m ↔ m.isPlain = true := by
  obtain ⟨es, rfl, hes⟩ := Check.mapping_eq_pure.mp h
  have hreads := ofEntries_eq_pure.mp hes
  have hargs : m.isPlain = true ↔ ∃ ws, Value.savedAll m.args = .ok ws ∧
      List.Forall₂ (fun w x => readArgument w = pure x) ws m.args := by
    rw [Value.savedAll_eq_mapM, ← Check.forall_returns_iff, isPlain, List.all_eq_true]
    exact forall₂_congr fun x _ => returns_argument_iff.symm
  rw [hargs]
  constructor
  · rintro ⟨w, hw, hagain⟩
    obtain ⟨es', rfl, hes'⟩ := Check.mapping_eq_pure.mp hagain
    rcases Check.returns_or_eq m.nodup_names_toRecord hreads.given (by decide) rfl hreads.args hw
      (ofEntries_eq_pure.mp hes').args with ⟨u, hu, hshape⟩ | hnone
    · obtain ⟨ws, hws, hlist⟩ := bind_eq_ok.mp hu
      cases hlist
      exact ⟨ws, hws, readArguments_eq_pure.mp hshape⟩
    · rw [← hnone]
      exact ⟨[], rfl, .nil⟩
  · rintro ⟨ws, hws, hread⟩
    let members' : Record := { m with args := ws }.toRecord
    have hsaved : m.toRecord.Saved members' :=
      .cons ⟨rfl, rfl⟩ <| .cons ⟨rfl, rfl⟩ <| .cons ⟨rfl, by rw [Value.saved, hws]; rfl⟩ <|
        .cons ⟨rfl, Value.saved_of_isPlain (Value.isPlain_textList _)⟩ <|
        .cons ⟨rfl, Value.saved_of_isPlain (Value.isPlain_optionValue (fun _ => rfl) _)⟩ <|
        .cons ⟨rfl, rfl⟩ .nil
    refine ⟨_, saved_givenMembers m.nodup_names_toRecord hsaved m.given, ?_⟩
    refine Check.mapping_eq_pure.mpr ⟨_, rfl, ofEntries_eq_pure.mpr ?_⟩
    have hgiven := hreads.given
    exact {
      kind := Check.required_only hgiven (by decide) rfl hreads.kind rfl
      name := Check.required_only hgiven (by decide) rfl hreads.name rfl
      args := Check.orElse_only hgiven (by decide) rfl hreads.args
        (readArguments_eq_pure.mpr hread)
      alsoReads := Check.orElse_only hgiven (by decide) rfl hreads.alsoReads
        (Check.listOf_text_textList _)
      condition := Check.orElse_only hgiven (by decide) rfl hreads.condition
        (Check.optional_text _)
      chainable := Check.orElse_only hgiven (by decide) rfl hreads.chainable rfl
      given := Check.present_only hgiven fun name hname =>
        (Record.has_eq_true_iff_mem_names members' name).mpr hname }

theorem isPlain_toData (m : ModifierUse) (w : Value) (h : m.toData = .ok w) : w.isPlain = true :=
  Value.isPlain_of_saved h

theorem isPlain_of_mapping {v : Value} (hv : v.isPlain = true)
    (h : Check.mapping ofEntries v = pure m) : m.isPlain = true := by
  obtain ⟨es, rfl, hes⟩ := Check.mapping_eq_pure.mp h
  refine List.all_eq_true.mpr fun x hx => ?_
  rcases Check.orElse_eq_pure.mp (ofEntries_eq_pure.mp hes).args with ⟨u, hu, hread⟩ | ⟨-, hnone⟩
  · have hplain := Check.isPlain_of_under? hv hu
    cases u with
    | list xs =>
        obtain ⟨y, hy, hxy⟩ := exists_of_mem_forall₂ (readArguments_eq_pure.mp hread) hx
        exact isPlainArgument_of_read (Value.allPlain_iff.mp hplain y hy) hxy
    | tuple | set => cases hplain
    | _ => exact absurd hread Check.refuse_ne_pure
  · rw [← hnone] at hx
    cases hx

end ModifierUse

/-! ### Fields -/

namespace FieldDeclaration

variable {f : FieldDeclaration} {es : Check.Entries}

open Check in
structure Reads (es : Entries) (f : FieldDeclaration) : Prop where
  name : required es "name" text = pure f.name
  type : orElse es "type" text "text" = pure f.type
  optional : orElse es "optional" flag false = pure f.optional
  readOnly : orElse es "read_only" flag false = pure f.readOnly
  writeOnce : orElse es "write_once" flag false = pure f.writeOnce
  auto : orElse es "auto" flag false = pure f.auto
  forceUpdate : orElse es "force_update" flag false = pure f.forceUpdate
  updateByStore : orElse es "update_by_db" flag false = pure f.updateByStore
  createByStore : orElse es "create_by_db" flag false = pure f.createByStore
  default : orElse es "default" any .null = pure f.default
  generator : orElse es "generator" (Check.optional text) none = pure f.generator
  generatorOptions : orElse es "generator_options" record [] = pure f.generatorOptions
  maxLength : orElse es "max_length" (Check.optional wholeNumber) none = pure f.maxLength
  fixedLength : orElse es "fixed_length" (Check.optional wholeNumber) none = pure f.fixedLength
  values : orElse es "values" (Check.optional (listOf text)) none = pure f.values
  comment : orElse es "comment" (Check.optional text) none = pure f.comment
  modifiers : orElse es "modifiers" (listOf (mapping ModifierUse.ofEntries)) [] = pure f.modifiers
  given : f.given = present es members

theorem ofEntries_eq_pure : ofEntries es = pure f ↔ f.Reads es := by
  simp only [ofEntries, Check.bind_eq_pure, Check.pure_eq_pure]
  constructor
  · rintro ⟨_, hname, _, htype, _, hoptional, _, hreadOnly, _, hwriteOnce, _, hauto, _, hforce, _,
      hupdate, _, hcreate, _, hdefault, _, hgenerator, _, hoptions, _, hmax, _, hfixed, _, hvalues,
      _, hcomment, _, hmodifiers, rfl⟩
    exact ⟨hname, htype, hoptional, hreadOnly, hwriteOnce, hauto, hforce, hupdate, hcreate,
      hdefault, hgenerator, hoptions, hmax, hfixed, hvalues, hcomment, hmodifiers, rfl⟩
  · intro h
    exact ⟨_, h.name, _, h.type, _, h.optional, _, h.readOnly, _, h.writeOnce, _, h.auto, _,
      h.forceUpdate, _, h.updateByStore, _, h.createByStore, _, h.default, _, h.generator, _,
      h.generatorOptions, _, h.maxLength, _, h.fixedLength, _, h.values, _, h.comment, _,
      h.modifiers, by rw [← h.given]⟩

def isPlain (f : FieldDeclaration) : Bool :=
  f.default.isPlain && f.generatorOptions.all (·.2.isPlain) && f.modifiers.all (·.isPlain)

theorem names_allMembers (ms : List Value) (f : FieldDeclaration) : (f.allMembers ms).names =
    ["name", "type", "optional", "read_only", "write_once", "auto", "force_update",
      "update_by_db", "create_by_db", "default", "has_default", "generator", "generator_options",
      "max_length", "fixed_length", "values", "comment", "modifiers"] := rfl

theorem nodup_names_allMembers (ms : List Value) (f : FieldDeclaration) :
    (f.allMembers ms).names.Nodup := by
  rw [names_allMembers]
  decide

theorem has_allMembers (ms : List Value) (f : FieldDeclaration) :
    ∀ name ∈ members, (f.allMembers ms).has name = true := by
  simp only [Record.has_eq_true_iff_mem_names, names_allMembers]
  decide

theorem isPlain_allMembers (h : f.isPlain = true) {ms : List Value}
    (hms : ∀ w ∈ ms, w.isPlain = true) (hoptions : f.generatorOptions.names.Nodup) :
    ∀ e ∈ f.allMembers ms, e.2.isPlain = true := by
  unfold isPlain at h
  rw [Bool.and_eq_true, Bool.and_eq_true, List.all_eq_true] at h
  have hlist : Value.allPlain ms = true := Value.allPlain_iff.mpr hms
  have hrecord : f.generatorOptions.toValue.isPlain = true :=
    Value.plainEntries_entries.mpr ⟨hoptions, h.1.2⟩
  have htext : ∀ s : Option String, (optionValue .text s).isPlain = true :=
    Value.isPlain_optionValue fun _ => rfl
  have hwhole : ∀ n : Option Int, (optionValue .int n).isPlain = true :=
    Value.isPlain_optionValue fun _ => rfl
  have htexts : (optionValue textList f.values).isPlain = true :=
    Value.isPlain_optionValue Value.isPlain_textList _
  simp only [allMembers, List.forall_mem_cons, List.not_mem_nil, IsEmpty.forall_iff, implies_true,
    and_true, h.1.1, hlist, hrecord, htext, hwhole, htexts, Value.isPlain]

theorem record_toValue {r : Record} (h : r.names.Nodup) : Check.record r.toValue = pure r :=
  Check.keys_entries h

theorem isPlain_toData (f : FieldDeclaration) (w : Value) (h : f.toData = .ok w) :
    w.isPlain = true := by
  obtain ⟨ms, -, hsaved⟩ := bind_eq_ok.mp h
  exact Value.isPlain_of_saved hsaved

theorem isPlain_of_returns (hreads : f.Reads es)
    (h : Check.Returns toData (Check.mapping ofEntries) f) : f.isPlain = true := by
  obtain ⟨w, hw, hagain⟩ := h
  obtain ⟨ms, hms, hsaved⟩ := bind_eq_ok.mp hw
  obtain ⟨es', rfl, hes'⟩ := Check.mapping_eq_pure.mp hagain
  have hreads' := ofEntries_eq_pure.mp hes'
  have hmembers := nodup_names_allMembers ms f
  unfold isPlain
  rw [Bool.and_eq_true, Bool.and_eq_true]
  refine ⟨⟨?_, ?_⟩, ?_⟩
  · rcases Check.returns_or_eq hmembers hreads.given (by decide) rfl hreads.default hsaved
      hreads'.default with ⟨u, hu, hshape⟩ | hnone
    · cases Check.pure_eq_pure.mp hshape
      exact Value.isPlain_of_saved hu
    · rw [← hnone]
      rfl
  · rcases Check.returns_or_eq hmembers hreads.given (by decide) rfl hreads.generatorOptions
      hsaved hreads'.generatorOptions with ⟨u, hu, hshape⟩ | hnone
    · exact List.all_eq_true.mpr (Check.isPlain_of_record (Value.isPlain_of_saved hu) hshape)
    · rw [← hnone]
      rfl
  · refine (Check.all_iff_exists_mapM hreads.modifiers fun _ _ => ModifierUse.returns_iff).mpr ?_
    exact ⟨ms, hms, Check.forall₂_of_orElse_listOf hmembers hreads.given (by decide) rfl
      (Check.isPlain_of_mapM ModifierUse.isPlain_toData hms) hms hreads.modifiers hsaved
      hreads'.modifiers⟩

theorem returns_of_isPlain (hreads : f.Reads es) (hplain : f.isPlain = true) :
    Check.Returns toData (Check.mapping ofEntries) f := by
  have hall := hplain
  unfold isPlain at hall
  rw [Bool.and_eq_true] at hall
  obtain ⟨ms, hms, hread⟩ := (Check.all_iff_exists_mapM hreads.modifiers fun _ _ =>
    ModifierUse.returns_iff).mp hall.2
  have hmodifiers := Check.isPlain_of_mapM ModifierUse.isPlain_toData hms
  have hoptions := Check.nodup_of_orElse_record hreads.generatorOptions
  have hmembers := isPlain_givenMembers (nodup_names_allMembers ms f)
    (isPlain_allMembers hplain hmodifiers hoptions) f.given
  refine ⟨_, bind_eq_ok.mpr ⟨ms, hms, Value.saved_of_isPlain hmembers⟩, ?_⟩
  refine Check.mapping_eq_pure.mpr ⟨_, rfl, ofEntries_eq_pure.mpr ?_⟩
  have hgiven := hreads.given
  exact {
    name := Check.required_only hgiven (by decide) rfl hreads.name rfl
    type := Check.orElse_only hgiven (by decide) rfl hreads.type rfl
    optional := Check.orElse_only hgiven (by decide) rfl hreads.optional rfl
    readOnly := Check.orElse_only hgiven (by decide) rfl hreads.readOnly rfl
    writeOnce := Check.orElse_only hgiven (by decide) rfl hreads.writeOnce rfl
    auto := Check.orElse_only hgiven (by decide) rfl hreads.auto rfl
    forceUpdate := Check.orElse_only hgiven (by decide) rfl hreads.forceUpdate rfl
    updateByStore := Check.orElse_only hgiven (by decide) rfl hreads.updateByStore rfl
    createByStore := Check.orElse_only hgiven (by decide) rfl hreads.createByStore rfl
    default := Check.orElse_only hgiven (by decide) rfl hreads.default rfl
    generator := Check.orElse_only hgiven (by decide) rfl hreads.generator (Check.optional_text _)
    generatorOptions := Check.orElse_only hgiven (by decide) rfl hreads.generatorOptions
      (record_toValue hoptions)
    maxLength := Check.orElse_only hgiven (by decide) rfl hreads.maxLength
      (Check.optional_wholeNumber _)
    fixedLength := Check.orElse_only hgiven (by decide) rfl hreads.fixedLength
      (Check.optional_wholeNumber _)
    values := Check.orElse_only hgiven (by decide) rfl hreads.values (Check.optional_texts _)
    comment := Check.orElse_only hgiven (by decide) rfl hreads.comment (Check.optional_text _)
    modifiers := Check.orElse_only hgiven (by decide) rfl hreads.modifiers
      (Check.listOf_list_eq_pure.mpr hread)
    given := Check.present_only hgiven (has_allMembers ms f) }

theorem returns_iff {v : Value} (h : Check.mapping ofEntries v = pure f) :
    Check.Returns toData (Check.mapping ofEntries) f ↔ f.isPlain = true := by
  obtain ⟨es, rfl, hes⟩ := Check.mapping_eq_pure.mp h
  have hreads := ofEntries_eq_pure.mp hes
  exact ⟨isPlain_of_returns hreads, returns_of_isPlain hreads⟩

theorem isPlain_of_mapping {v : Value} (hv : v.isPlain = true)
    (h : Check.mapping ofEntries v = pure f) : f.isPlain = true := by
  obtain ⟨es, rfl, hes⟩ := Check.mapping_eq_pure.mp h
  have hreads := ofEntries_eq_pure.mp hes
  unfold isPlain
  rw [Bool.and_eq_true, Bool.and_eq_true, List.all_eq_true, List.all_eq_true]
  refine ⟨⟨Check.isPlain_of_orElse_any hv rfl hreads.default, ?_⟩, fun m hm => ?_⟩
  · rcases Check.orElse_eq_pure.mp hreads.generatorOptions with ⟨u, hu, hread⟩ | ⟨-, hnone⟩
    · exact Check.isPlain_of_record (Check.isPlain_of_under? hv hu) hread
    · simp [← hnone]
  · obtain ⟨w, hw, hplain⟩ := Check.exists_of_orElse_listOf hreads.modifiers m hm
    exact ModifierUse.isPlain_of_mapping (hplain hv) hw

end FieldDeclaration

/-! ### Features, indexes and keys -/

namespace FeatureDeclaration

variable {f : FeatureDeclaration} {es : Check.Entries}

structure Reads (es : Check.Entries) (f : FeatureDeclaration) : Prop where
  name : Check.required es "name" Check.text = pure f.name
  options : Check.orElse es "options" Check.any .null = pure f.options
  given : f.given = Check.present es members

theorem ofEntries_eq_pure : ofEntries es = pure f ↔ f.Reads es := by
  simp only [ofEntries, Check.bind_eq_pure, Check.pure_eq_pure]
  constructor
  · rintro ⟨_, hname, _, hoptions, rfl⟩
    exact ⟨hname, hoptions, rfl⟩
  · intro h
    exact ⟨_, h.name, _, h.options, by rw [← h.given]⟩

theorem nodup_names_toRecord (f : FeatureDeclaration) : f.toRecord.names.Nodup := by
  change members.Nodup
  decide

theorem isPlain_toData (f : FeatureDeclaration) (w : Value) (h : f.toData = .ok w) :
    w.isPlain = true :=
  Value.isPlain_of_saved h

theorem returns_iff {v : Value} (h : Check.mapping ofEntries v = pure f) :
    Check.Returns toData (Check.mapping ofEntries) f ↔ f.options.isPlain = true := by
  obtain ⟨es, rfl, hes⟩ := Check.mapping_eq_pure.mp h
  have hreads := ofEntries_eq_pure.mp hes
  constructor
  · rintro ⟨w, hw, hagain⟩
    obtain ⟨es', rfl, hes'⟩ := Check.mapping_eq_pure.mp hagain
    rcases Check.returns_or_eq f.nodup_names_toRecord hreads.given (by decide) rfl hreads.options
      hw (ofEntries_eq_pure.mp hes').options with ⟨u, hu, hshape⟩ | hnone
    · cases Check.pure_eq_pure.mp hshape
      exact Value.isPlain_of_saved hu
    · rw [← hnone]
      rfl
  · intro hplain
    have hmembers : ∀ e ∈ f.toRecord, e.2.isPlain = true :=
      List.forall_mem_cons.mpr ⟨rfl, List.forall_mem_singleton.mpr hplain⟩
    refine ⟨_, Value.saved_of_isPlain (isPlain_givenMembers f.nodup_names_toRecord hmembers
      f.given), Check.mapping_eq_pure.mpr ⟨_, rfl, ofEntries_eq_pure.mpr ?_⟩⟩
    have hgiven := hreads.given
    exact {
      name := Check.required_only hgiven (by decide) rfl hreads.name rfl
      options := Check.orElse_only hgiven (by decide) rfl hreads.options rfl
      given := Check.present_only hgiven fun name hname =>
        (Record.has_eq_true_iff_mem_names f.toRecord name).mpr hname }

end FeatureDeclaration

namespace IndexDeclaration

variable {i : IndexDeclaration} {es : Check.Entries}

structure Reads (es : Check.Entries) (i : IndexDeclaration) : Prop where
  fields : Check.required es "fields" (Check.listOf Check.text) = pure i.fields
  unique : Check.orElse es "unique" Check.flag false = pure i.unique
  given : i.given = Check.present es members

theorem ofEntries_eq_pure : ofEntries es = pure i ↔ i.Reads es := by
  simp only [ofEntries, Check.bind_eq_pure, Check.pure_eq_pure]
  constructor
  · rintro ⟨_, hfields, _, hunique, rfl⟩
    exact ⟨hfields, hunique, rfl⟩
  · intro h
    exact ⟨_, h.fields, _, h.unique, by rw [← h.given]⟩

theorem isPlain_toData (i : IndexDeclaration) : i.toData.isPlain = true := by
  refine isPlain_givenMembers ?_ ?_ i.given
  · change members.Nodup
    decide
  · exact List.forall_mem_cons.mpr
      ⟨Value.isPlain_textList i.fields, List.forall_mem_singleton.mpr rfl⟩

theorem mapping_toData {v : Value} (h : Check.mapping ofEntries v = pure i) :
    Check.mapping ofEntries i.toData = pure i := by
  obtain ⟨es, rfl, hes⟩ := Check.mapping_eq_pure.mp h
  have hreads := ofEntries_eq_pure.mp hes
  have hgiven := hreads.given
  refine Check.mapping_eq_pure.mpr ⟨_, rfl, ofEntries_eq_pure.mpr ?_⟩
  exact {
    fields := Check.required_only hgiven (by decide) rfl hreads.fields
      (Check.listOf_text_textList _)
    unique := Check.orElse_only hgiven (by decide) rfl hreads.unique rfl
    given := Check.present_only hgiven fun name hname =>
      (Record.has_eq_true_iff_mem_names i.toRecord name).mpr hname }

end IndexDeclaration

namespace KeyDeclaration

theorem isPlain_toData (key : KeyDeclaration) : key.toData.isPlain = true := by
  cases key with
  | single name => rfl
  | several names => exact Value.isPlain_textList names

theorem shape_toData (key : KeyDeclaration) : shape key.toData = pure key := by
  cases key with
  | single name => rfl
  | several names =>
      have hread : (Check.listOf Check.text (textList names)).within "list[str]" = pure names :=
        Check.within_eq_pure.mpr (Check.listOf_text_textList names)
      unfold shape toData
      rw [hread]
      rfl

theorem optional_shape (key : Option KeyDeclaration) :
    Check.optional shape (optionValue toData key) = pure key :=
  Check.optional_optionValue toData shape_toData (fun key h => by cases key <;> cases h) key

end KeyDeclaration

/-! ### Declarations -/

namespace Declaration

variable {d : Declaration} {es : Check.Entries}

open Check in
structure Reads (es : Entries) (d : Declaration) : Prop where
  name : required es "name" text = pure d.name
  fields : orElse es "fields" (listOf (mapping FieldDeclaration.ofEntries)) [] = pure d.fields
  features :
    orElse es "features" (listOf (mapping FeatureDeclaration.ofEntries)) [] = pure d.features
  key : orElse es "key" (Check.optional KeyDeclaration.shape) none = pure d.key
  indexes : orElse es "indexes" (listOf (mapping IndexDeclaration.ofEntries)) [] = pure d.indexes
  given : d.given = present es members

theorem ofEntries_eq_pure : ofEntries es = pure d ↔ d.Reads es := by
  simp only [ofEntries, Check.bind_eq_pure, Check.pure_eq_pure]
  constructor
  · rintro ⟨_, hname, _, hfields, _, hfeatures, _, hkey, _, hindexes, rfl⟩
    exact ⟨hname, hfields, hfeatures, hkey, hindexes, rfl⟩
  · intro h
    exact ⟨_, h.name, _, h.fields, _, h.features, _, h.key, _, h.indexes, by rw [← h.given]⟩

def isPlain (d : Declaration) : Bool :=
  d.fields.all (·.isPlain) && d.features.all (·.options.isPlain)

def savedMembers (fields features : List Value) (d : Declaration) : Record := [
  ("name", .text d.name), ("fields", .list fields), ("features", .list features),
  ("key", optionValue KeyDeclaration.toData d.key),
  ("indexes", .list (d.indexes.map (·.toData)))]

theorem toData_eq_ok {w : Value} : d.toData = .ok w ↔ ∃ fields features,
    d.fields.mapM FieldDeclaration.toData = .ok fields ∧
      d.features.mapM FeatureDeclaration.toData = .ok features ∧
        givenMembers d.given (d.savedMembers fields features) = w := by
  unfold toData
  simp only [bind_eq_ok]
  constructor
  · rintro ⟨fields, hfields, features, hfeatures, h⟩
    exact ⟨fields, features, hfields, hfeatures, Except.ok.inj h⟩
  · rintro ⟨fields, features, hfields, hfeatures, rfl⟩
    exact ⟨fields, hfields, features, hfeatures, rfl⟩

theorem nodup_names_savedMembers (fields features : List Value) (d : Declaration) :
    (d.savedMembers fields features).names.Nodup := by
  change members.Nodup
  decide

theorem isPlain_savedMembers {fields features : List Value}
    (hfields : d.fields.mapM FieldDeclaration.toData = .ok fields)
    (hfeatures : d.features.mapM FeatureDeclaration.toData = .ok features) :
    ∀ e ∈ d.savedMembers fields features, e.2.isPlain = true := by
  have hfields' : Value.allPlain fields = true :=
    Value.allPlain_iff.mpr (Check.isPlain_of_mapM FieldDeclaration.isPlain_toData hfields)
  have hfeatures' : Value.allPlain features = true :=
    Value.allPlain_iff.mpr (Check.isPlain_of_mapM FeatureDeclaration.isPlain_toData hfeatures)
  have hkey : (optionValue KeyDeclaration.toData d.key).isPlain = true :=
    Value.isPlain_optionValue KeyDeclaration.isPlain_toData _
  have hindexes : Value.allPlain (d.indexes.map (·.toData)) = true := by
    refine Value.allPlain_iff.mpr fun w hw => ?_
    obtain ⟨i, -, rfl⟩ := List.mem_map.mp hw
    exact i.isPlain_toData
  simp only [savedMembers, List.forall_mem_cons, List.not_mem_nil, IsEmpty.forall_iff,
    implies_true, and_true, hkey, hfields', hfeatures', hindexes, Value.isPlain]

theorem isPlain_toData {w : Value} (h : d.toData = .ok w) : w.isPlain = true := by
  obtain ⟨fields, features, hfields, hfeatures, rfl⟩ := toData_eq_ok.mp h
  exact isPlain_givenMembers (nodup_names_savedMembers _ _ d)
    (isPlain_savedMembers hfields hfeatures) d.given

theorem isPlain_of_returns (hreads : d.Reads es)
    (h : Check.Returns toData (Check.mapping ofEntries) d) : d.isPlain = true := by
  obtain ⟨w, hw, hagain⟩ := h
  obtain ⟨fields, features, hfields, hfeatures, rfl⟩ := toData_eq_ok.mp hw
  have hreads' := ofEntries_eq_pure.mp hagain
  have hmembers := nodup_names_savedMembers fields features d
  have hsaved := Value.saved_of_isPlain (isPlain_toData hw)
  unfold isPlain
  rw [Bool.and_eq_true, Check.all_iff_exists_mapM hreads.fields fun _ _ =>
      FieldDeclaration.returns_iff,
    Check.all_iff_exists_mapM hreads.features fun _ _ => FeatureDeclaration.returns_iff]
  refine ⟨⟨fields, hfields, ?_⟩, ⟨features, hfeatures, ?_⟩⟩
  · exact Check.forall₂_of_orElse_listOf hmembers hreads.given (by decide) rfl
      (Check.isPlain_of_mapM FieldDeclaration.isPlain_toData hfields) hfields hreads.fields hsaved
      hreads'.fields
  · exact Check.forall₂_of_orElse_listOf hmembers hreads.given (by decide) rfl
      (Check.isPlain_of_mapM FeatureDeclaration.isPlain_toData hfeatures) hfeatures hreads.features
      hsaved hreads'.features

theorem returns_of_isPlain (hreads : d.Reads es) (hplain : d.isPlain = true) :
    Check.Returns toData (Check.mapping ofEntries) d := by
  have hgiven := hreads.given
  unfold isPlain at hplain
  rw [Bool.and_eq_true, Check.all_iff_exists_mapM hreads.fields fun _ _ =>
      FieldDeclaration.returns_iff,
    Check.all_iff_exists_mapM hreads.features fun _ _ => FeatureDeclaration.returns_iff] at hplain
  obtain ⟨⟨fields, hfields, hfields'⟩, ⟨features, hfeatures, hfeatures'⟩⟩ := hplain
  refine ⟨_, toData_eq_ok.mpr ⟨fields, features, hfields, hfeatures, rfl⟩,
    Check.mapping_eq_pure.mpr ⟨_, rfl, ofEntries_eq_pure.mpr ?_⟩⟩
  have hindexes : List.Forall₂ (fun w i => Check.mapping IndexDeclaration.ofEntries w = pure i)
      (d.indexes.map (·.toData)) d.indexes := by
    rw [List.forall₂_map_left_iff, List.forall₂_same]
    intro i hi
    obtain ⟨u, hu, -⟩ := Check.exists_of_orElse_listOf hreads.indexes i hi
    exact IndexDeclaration.mapping_toData hu
  exact {
    name := Check.required_only hgiven (by decide) rfl hreads.name rfl
    fields := Check.orElse_only hgiven (by decide) rfl hreads.fields
      (Check.listOf_list_eq_pure.mpr hfields')
    features := Check.orElse_only hgiven (by decide) rfl hreads.features
      (Check.listOf_list_eq_pure.mpr hfeatures')
    key := Check.orElse_only hgiven (by decide) rfl hreads.key
      (KeyDeclaration.optional_shape d.key)
    indexes := Check.orElse_only hgiven (by decide) rfl hreads.indexes
      (Check.listOf_list_eq_pure.mpr hindexes)
    given := Check.present_only hgiven fun name hname =>
      (Record.has_eq_true_iff_mem_names (d.savedMembers fields features) name).mpr hname }

theorem returns_iff {v : Value} (h : Check.mapping ofEntries v = pure d) :
    Check.Returns toData (Check.mapping ofEntries) d ↔ d.isPlain = true := by
  obtain ⟨es, rfl, hes⟩ := Check.mapping_eq_pure.mp h
  have hreads := ofEntries_eq_pure.mp hes
  exact ⟨isPlain_of_returns hreads, returns_of_isPlain hreads⟩

theorem isPlain_of_mapping {v : Value} (hv : v.isPlain = true)
    (h : Check.mapping ofEntries v = pure d) : d.isPlain = true := by
  obtain ⟨es, rfl, hes⟩ := Check.mapping_eq_pure.mp h
  have hreads := ofEntries_eq_pure.mp hes
  unfold isPlain
  rw [Bool.and_eq_true, List.all_eq_true, List.all_eq_true]
  refine ⟨fun f hf => ?_, fun f hf => ?_⟩
  · obtain ⟨w, hw, hplain⟩ := Check.exists_of_orElse_listOf hreads.fields f hf
    exact FieldDeclaration.isPlain_of_mapping (hplain hv) hw
  · obtain ⟨w, hw, hplain⟩ := Check.exists_of_orElse_listOf hreads.features f hf
    obtain ⟨us, rfl, hus⟩ := Check.mapping_eq_pure.mp hw
    exact Check.isPlain_of_orElse_any (hplain hv) rfl
      (FeatureDeclaration.ofEntries_eq_pure.mp hus).options

/-- What is saved of a declaration is plain data.  It is saved, and read again as it was, members
that are written down and all, just when the values that it holds are plain data; and so they are
when it was read from plain data. -/
theorem ofValue_toData_iff {v : Value} (h : ofValue v = .ok d) :
    (∀ w, d.toData = .ok w → w.isPlain = true) ∧
      ((∃ w, d.toData = .ok w ∧ ofValue w = .ok d) ↔ d.isPlain = true) ∧
      (v.isPlain = true → d.isPlain = true) := by
  have hread := Check.result_eq_ok.mp h
  refine ⟨fun w => isPlain_toData, ?_, fun hv => isPlain_of_mapping hv hread⟩
  rw [← returns_iff hread]
  exact exists_congr fun w => and_congr_right fun _ => Check.result_eq_ok

def visitData (planned : Value) : Value :=
  Record.toValue [("name", .text "visit"), ("fields", .list [
    Record.toValue [("name", .text "planned"), ("type", .text "datetime"), ("default", planned)],
    Record.toValue [("name", .text "first_planned"), ("modifiers", .list [
      Record.toValue [("kind", .text "Activator"), ("name", .text "copy"),
        ("args", .list [Record.toValue [("ref", .text "planned")]])]])]])]

def visit (planned : Value) : Declaration where
  name := "visit"
  fields := [
    { name := "planned", type := "datetime", default := planned
      given := ["name", "type", "default"] },
    { name := "first_planned", given := ["name", "modifiers"], modifiers := [
      { kind := "Activator", name := "copy", args := [.fieldRef "planned"]
        given := ["kind", "name", "args"] }] }]
  given := ["name", "fields"]

theorem ofValue_visitData (planned : Value) : ofValue (visitData planned) = .ok (visit planned) :=
  rfl

def morning : Calendar.Moment := ⟨⟨2024, 5, 1⟩, 10, 0, 0, 0, some 0⟩

/-- A default that is written as a text comes back as it was, and so does a reference; one that is
written as a time does not. -/
theorem visit_toData :
    (∃ w, (visit (.text morning.isoText)).toData = .ok w ∧
      ofValue w = .ok (visit (.text morning.isoText))) ∧
      ¬∃ w, (visit (.moment morning)).toData = .ok w ∧
        ofValue w = .ok (visit (.moment morning)) := by
  constructor
  · exact (ofValue_toData_iff (ofValue_visitData _)).2.1.mpr rfl
  · rw [(ofValue_toData_iff (ofValue_visitData _)).2.1]
    exact Bool.false_ne_true

end Declaration

end FieldPipeline
