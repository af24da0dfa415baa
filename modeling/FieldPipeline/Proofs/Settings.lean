import FieldPipeline.Settings.Loading
import FieldPipeline.Proofs.Effect
import FieldPipeline.Proofs.Json

/-!
Where each setting comes from.  A setting has the value of its variable when that is set and can be
read, or else the value that the settings file has for it, or else the usual value.
-/

namespace FieldPipeline

namespace Install

variable {α β : Type} {i : Installation}

def Ends (x : Install α) (i : Installation) (r : Except Fault α) : Prop :=
  ∃ warnings, exec x i = (r, { i with warnings })

namespace Ends

theorem pure (a : α) (i : Installation) : Ends (Pure.pure a) i (.ok a) :=
  ⟨i.warnings, rfl⟩

theorem throw (f : Fault) (i : Installation) : Ends (throw f : Install α) i (.error f) :=
  ⟨i.warnings, rfl⟩

theorem get {f : Installation → Install α} {r : Except Fault α}
    (h : Ends (f i) i r) : Ends (get >>= f) i r :=
  h

theorem warn (text : String) (a : α) (i : Installation) :
    Ends (do Install.warn text; return a) i (.ok a) :=
  ⟨i.warnings ++ [text], rfl⟩

theorem bind {x : Install α} {f : α → Install β} {a : α} {r : Except Fault β}
    (hx : Ends x i (.ok a)) (hf : ∀ warnings, Ends (f a) { i with warnings } r) :
    Ends (x >>= f) i r := by
  obtain ⟨first, hfirst⟩ := hx
  obtain ⟨second, hsecond⟩ := hf first
  exact ⟨second, (exec_bind_of_ok hfirst f).trans hsecond⟩

theorem bind_error {x : Install α} {e : Fault} (hx : Ends x i (.error e))
    (f : α → Install β) : Ends (x >>= f) i (.error e) := by
  obtain ⟨warnings, h⟩ := hx
  exact ⟨warnings, exec_bind_of_error h f⟩

end Ends

/-- Whether a computation succeeds just when a condition holds, with a result of a certain kind,
whatever the installation. -/
def Settles (fit : Prop) (x : Install α) (Q : α → Prop) : Prop :=
  (¬fit ∧ ∃ f, ∀ i, Ends x i (.error f)) ∨ fit ∧ ∃ a, (∀ i, Ends x i (.ok a)) ∧ Q a

namespace Settles

variable {p q : Prop} {Q : α → Prop} {R : β → Prop}

theorem of_ends {x : Install α} {a : α} (hp : p) (hx : ∀ i, Ends x i (.ok a)) (ha : Q a) :
    Settles p x Q :=
  .inr ⟨hp, a, hx, ha⟩

theorem throw {f : Fault} (hp : ¬p) : Settles p (MonadExcept.throw f : Install α) Q :=
  .inl ⟨hp, f, Ends.throw f⟩

theorem imp {x : Install α} {R : α → Prop} (hx : Settles p x Q) (h : ∀ a, Q a → R a) :
    Settles p x R :=
  hx.imp_right fun ⟨hp, a, hxa, ha⟩ => ⟨hp, a, hxa, h a ha⟩

theorem bind {x : Install α} {f : α → Install β} (hx : Settles p x Q)
    (hf : ∀ a, Q a → Settles q (f a) R) : Settles (p ∧ q) (x >>= f) R := by
  rcases hx with ⟨hp, e, hx⟩ | ⟨hp, a, hx, ha⟩
  · exact .inl ⟨fun h => hp h.1, e, fun i => (hx i).bind_error f⟩
  rcases hf a ha with ⟨hq, e, hfa⟩ | ⟨hq, b, hfa, hb⟩
  · exact .inl ⟨fun h => hq h.2, e, fun i => (hx i).bind fun _ => hfa _⟩
  · exact .inr ⟨⟨hp, hq⟩, b, fun i => (hx i).bind fun _ => hfa _, hb⟩

end Settles

end Install

namespace Settings

open Install (Ends Settles)

/-! ### Single settings -/

def value? (s : Settings) (part name : String) : Option Value :=
  (s.sections.lookup part).bind (·.get? name)

theorem lookup_sections (s : Settings) (part : String) :
    s.sections.lookup part =
      if part = "compiler" then some [("merge_chains", s.mergeChains)]
      else if part = "runtime" then some [("random_text_length", s.randomTextLength),
        ("timezone", s.timezone), ("trim_text", s.trimText)]
      else if part = "logging" then some [("level", s.logLevel)]
      else none := by
  simp only [sections, List.lookup_cons, List.lookup_nil]
  by_cases hc : part = "compiler"
  · simp [hc]
  by_cases hr : part = "runtime"
  · simp [hr]
  by_cases hl : part = "logging"
  · simp [hl]
  · rw [beq_false_of_ne hc, beq_false_of_ne hr, beq_false_of_ne hl, if_neg hc, if_neg hr, if_neg hl]

theorem value?_of_set? {s t : Settings} {part name : String} {v : Value}
    (h : s.set? part name v = some t) (p n : String) :
    t.value? p n = (s.value? p n).map fun old => if p = part ∧ n = name then v else old := by
  unfold set? at h
  split at h
  case h_6 => cases h
  all_goals
    cases h
    simp only [value?, lookup_sections]
    split <;> grind [Record.get?]

theorem value?_of_set?_eq_none {s : Settings} {part name : String} {v : Value}
    (h : s.set? part name v = none) : s.value? part name = none := by
  unfold set? at h
  split at h
  case h_6 =>
    simp only [value?, lookup_sections]
    grind [Record.get?]
  all_goals cases h

theorem value?_of_unset {s : Settings} {part name : String} {v : Value}
    (h : s.set? part name v = none) (p n : String) :
    s.value? p n = (s.value? p n).map fun old => if p = part ∧ n = name then v else old := by
  by_cases hpn : p = part ∧ n = name
  · obtain ⟨rfl, rfl⟩ := hpn
    rw [value?_of_set?_eq_none h]
    rfl
  · simp only [if_neg hpn, Option.map_id']

theorem value?_withSection (s other : Settings) {part p : String} (h : p ≠ part) (n : String) :
    (s.withSection other part).value? p n = s.value? p n := by
  unfold withSection
  split <;> simp only [value?, lookup_sections]
  all_goals grind

theorem value?_replaceSection (s : Settings) {part p : String} (h : p ≠ part)
    (es : List (Value × Value)) (n : String) :
    (s.replaceSection part es).value? p n = s.value? p n := by
  unfold replaceSection
  rw [← s.value?_withSection {} h]
  generalize s.withSection {} part = t
  induction es generalizing t with
  | nil => rfl
  | cons e es ih =>
      obtain ⟨key, v⟩ := e
      rw [List.foldl_cons, ih]
      cases key with
      | text name =>
          change ((t.set? part name v).getD t).value? p n = t.value? p n
          rcases hset : t.set? part name v with _ | u
          · rfl
          · simp only [Option.getD_some, value?_of_set? hset, h, false_and, if_false,
              Option.map_id']
      | _ => rfl

/-! ### The settings file -/

def parts : List String :=
  ["compiler", "runtime", "logging"]

/-- Whether a member of a section cannot be given a value. -/
def Refuses (name : String) (v : Value) : Prop :=
  name = "__class__" ∨ name = "__weakref__" ∨ name = "__dict__" ∧ ∀ es, v ≠ .dict es

/-- The settings after one member of a section has been given a value.  What the section itself is
kept in takes the place of all its members. -/
def Takes (s : Settings) (part name : String) (v : Value) (t : Settings) : Prop :=
  ∀ p, (p = part → name ≠ "__dict__") → ∀ n, t.value? p n =
    (s.value? p n).map fun old => if p = part ∧ n = name then v else old

theorem not_refuses {name : String} {v : Value} (hclass : name ≠ "__class__")
    (hweak : name ≠ "__weakref__") (hdict : name ≠ "__dict__") : ¬Refuses name v := by
  rintro (h | h | h)
  · exact hclass h
  · exact hweak h
  · exact hdict h.1

theorem not_refuses_of_set? {s t : Settings} {part name : String} {v : Value}
    (h : s.set? part name v = some t) : ¬Refuses name v := by
  unfold set? at h
  split at h
  case h_6 => cases h
  all_goals simp [Refuses]

theorem assign_settles (s : Settings) (part name : String) (v : Value) :
    Settles (¬Refuses name v) (s.assign part name v) (s.Takes part name v) := by
  unfold assign
  split
  · rename_i changed hset
    exact .of_ends (not_refuses_of_set? hset) (.pure changed) fun p _ => value?_of_set? hset p
  · exact .throw fun h => h (.inl rfl)
  · exact .throw fun h => h (.inr (.inl rfl))
  · refine .of_ends (by simp [Refuses]) (.pure _) fun p hp n => ?_
    have hother : p ≠ part := fun hsame => hp hsame rfl
    simp only [s.value?_replaceSection hother, hother, false_and, if_false, Option.map_id']
  · rename_i hmapping _
    exact .throw fun h => h (.inr (.inr ⟨rfl, hmapping⟩))
  · rename_i hclass hweak hdict _ hset
    split
    · exact .of_ends (not_refuses hclass hweak hdict) (.pure s) fun p _ => value?_of_unset hset p
    · exact .of_ends (not_refuses hclass hweak hdict) (.warn _ s) fun p _ => value?_of_unset hset p

theorem assignMembers_settles (part : String) (r : Record) (s : Settings) :
    Settles (∀ e ∈ r, ¬Refuses e.1 e.2) (assignMembers part r.entries s) fun t =>
      r.names.Nodup → ∀ p, (p = part → "__dict__" ∉ r.names) → ∀ n, t.value? p n =
        (s.value? p n).map fun old => if p = part then (r.get? n).getD old else old := by
  induction r generalizing s with
  | nil =>
      refine .of_ends nofun (.pure s) fun _ p _ n => ?_
      simp
  | cons e r ih =>
      obtain ⟨name, v⟩ := e
      rw [List.forall_mem_cons]
      refine (assign_settles s part name v).bind fun t htakes => ?_
      refine (ih t).imp fun u hvalue hnames p hdict n => ?_
      rw [Record.names, List.map_cons, List.nodup_cons] at hnames
      rw [Record.names, List.map_cons, List.mem_cons, not_or, imp_and] at hdict
      -- a name that came again would be given its last value, but the first one would be found
      have habsent : Record.get? name r = none := by
        rw [Record.get?_eq_none_iff, Bool.eq_false_iff, ne_eq, Record.has_eq_true_iff_mem_names]
        exact hnames.1
      rw [hvalue hnames.2 p hdict.2, htakes p fun hp => Ne.symm (hdict.1 hp), Option.map_map]
      refine Option.map_congr fun old _ => ?_
      by_cases hp : p = part <;> by_cases hn : name = n
      · simp [Record.get?_cons, hp, ← hn, habsent]
      · simp [Record.get?_cons, hp, hn, Ne.symm hn]
      · simp [hp]
      · simp [hp]

def members (data : Value) (part : String) : List (Value × Value) :=
  match data.under? part with
  | some (.dict es) => es
  | _ => []

def held? (data : Value) (part name : String) : Option Value :=
  (data.under? part).bind (·.under? name)

theorem assignSection_eq (data : Value) (s : Settings) (part : String) :
    assignSection data s part = assignMembers part (members data part) s := by
  unfold assignSection members
  rcases data.under? part with _ | v
  · rfl
  · cases v <;> rfl

theorem members_eq_entries {data : Value} (h : Json.Regular data) (part : String) :
    ∃ r : Record, members data part = r.entries ∧ r.names.Nodup ∧
      ∀ name, held? data part name = r.get? name := by
  cases h with
  | @dict sections _ hsections =>
      unfold members held?
      rw [← Record.toValue_eq, Record.under?_toValue]
      rcases hget : Record.get? part sections with _ | v
      · exact ⟨[], rfl, List.nodup_nil, fun _ => rfl⟩
      · cases hsections _ (Record.mem_of_get? hget) with
        | @dict r hnames _ => exact ⟨r, rfl, hnames, r.under?_toValue⟩
        | _ => exact ⟨[], rfl, List.nodup_nil, fun _ => rfl⟩
  | _ => exact ⟨[], rfl, List.nodup_nil, fun _ => rfl⟩

def Accepts (data : Value) (part : String) : Prop :=
  ∀ e ∈ members data part, ¬Refuses e.1.plain e.2

theorem accepts_iff {data : Value} {part : String} {r : Record}
    (h : members data part = r.entries) :
    Accepts data part ↔ ∀ e ∈ r, ¬Refuses e.1 e.2 := by
  rw [Accepts, h, Record.entries, List.forall_mem_map]
  rfl

theorem assignSection_settles {data : Value} (hdata : Json.Regular data) (part : String)
    (s : Settings) :
    Settles (Accepts data part) (assignSection data s part) fun t =>
      ∀ p, (p = part → held? data p "__dict__" = none) → ∀ n, t.value? p n =
        (s.value? p n).map fun old => if p = part then (held? data p n).getD old else old := by
  obtain ⟨r, hr, hnames, hheld⟩ := members_eq_entries hdata part
  rw [assignSection_eq, hr, accepts_iff hr]
  refine (assignMembers_settles part r s).imp fun t hvalue p hdict n => ?_
  have hplain : p = part → "__dict__" ∉ r.names := by
    rintro rfl
    rw [← Record.has_eq_true_iff_mem_names, ← ne_eq, ← Bool.eq_false_iff,
      ← Record.get?_eq_none_iff, ← hheld]
    exact hdict rfl
  rw [hvalue hnames p hplain]
  refine Option.map_congr fun old _ => ?_
  by_cases hp : p = part
  · simp only [hp, hheld]
  · simp only [hp, if_false]

theorem assignSections_settles {data : Value} (hdata : Json.Regular data) (ps : List String)
    (s : Settings) :
    Settles (∀ part ∈ ps, Accepts data part) (ps.foldlM (assignSection data) s) fun t =>
      ∀ p, (p ∈ ps → held? data p "__dict__" = none) → ∀ n, t.value? p n =
        (s.value? p n).map fun old => if p ∈ ps then (held? data p n).getD old else old := by
  induction ps generalizing s with
  | nil =>
      refine .of_ends nofun (.pure s) fun p _ n => ?_
      simp
  | cons part ps ih =>
      rw [List.forall_mem_cons, List.foldlM_cons]
      refine (assignSection_settles hdata part s).bind fun t hfirst => ?_
      refine (ih t).imp fun u hrest p hdict n => ?_
      rw [hrest p fun hp => hdict (List.mem_cons_of_mem _ hp),
        hfirst p fun hp => hdict (hp ▸ List.mem_cons_self), Option.map_map]
      refine Option.map_congr fun old _ => ?_
      by_cases hp : p = part <;> by_cases hps : p ∈ ps
      · simp only [Function.comp_apply, List.mem_cons, hp, true_or, if_true, hp ▸ hps]
        rcases held? data part n <;> rfl
      · simp [hp, hp ▸ hps]
      · simp [hp, hps]
      · simp [hp, hps]

/-- What a settings file may hold. -/
def Fits (data : Value) : Prop :=
  (∃ es, data = .dict es) ∧ ∀ part ∈ parts, Accepts data part

theorem applyData_settles {data : Value} (hdata : Json.Regular data) (s : Settings) :
    Settles (Fits data) (s.applyData data) fun t =>
      ∀ p ∈ parts, held? data p "__dict__" = none → ∀ n,
        t.value? p n = (s.value? p n).map fun old => (held? data p n).getD old := by
  by_cases hdict : ∃ es, data = .dict es
  · have hfits : Fits data ↔ ∀ part ∈ parts, Accepts data part := and_iff_right hdict
    have happly : s.applyData data = parts.foldlM (assignSection data) s := by
      obtain ⟨es, rfl⟩ := hdict
      rfl
    rw [hfits, happly]
    refine (assignSections_settles hdata parts s).imp fun t hvalue p hp hplain n => ?_
    simp only [hvalue p fun _ => hplain, if_pos hp]
  · have happly : s.applyData data = throw .missingPart := by
      cases data with
      | dict es => exact absurd ⟨es, rfl⟩ hdict
      | _ => rfl
    rw [happly]
    exact .throw fun h => hdict h.1

end Settings

def Installation.data? (i : Installation) : Except Fault (Option Value) :=
  match i.file with
  | none => .ok none
  | some text =>
    match Json.read text with
    | .ok data => .ok (some data)
    | .error .badJson => .ok none
    | .error f => .error f

namespace Settings

open Install (Ends)

def Loads (i : Installation) (data : Option Value) : Prop :=
  i.data? = .ok data ∧ ∀ v ∈ data, Fits v

theorem applyFile_ends (s : Settings) (i : Installation) :
    ((¬∃ data, Loads i data) ∧ ∃ f, Ends s.applyFile i (.error f)) ∨
      ∃ data, Loads i data ∧ ∃ t, Ends s.applyFile i (.ok t) ∧
        ∀ p ∈ parts, (∀ v ∈ data, held? v p "__dict__" = none) → ∀ n,
          t.value? p n = (s.value? p n).map fun old => (data.bind (held? · p n)).getD old := by
  rcases hfile : i.file with _ | text
  · have hdata : i.data? = .ok none := by simp only [Installation.data?, hfile]
    refine .inr ⟨none, ⟨hdata, nofun⟩, s, .get ?_, fun p _ _ n => ?_⟩
    · simp only [hfile]
      exact .pure s i
    · simp
  rcases hread : Json.read text with f | data
  · by_cases hbad : f = .badJson
    · subst hbad
      have hdata : i.data? = .ok none := by simp only [Installation.data?, hfile, hread]
      refine .inr ⟨none, ⟨hdata, nofun⟩, s, .get ?_, fun p _ _ n => ?_⟩
      · simp only [hfile, hread]
        exact .warn _ s i
      · simp
    · have hdata : i.data? = .error f := by simp only [Installation.data?, hfile, hread]
      refine .inl ⟨fun ⟨data, h, _⟩ => ?_, f, .get ?_⟩
      · rw [hdata] at h
        cases h
      · simp only [hfile, hread]
        exact .throw f i
  · have hdata : i.data? = .ok (some data) := by simp only [Installation.data?, hfile, hread]
    have happly (r : Except Fault Settings) (h : Ends (s.applyData data) i r) :
        Ends s.applyFile i r := by
      refine .get ?_
      simp only [hfile, hread]
      exact h
    have hregular := Json.regular_of_read hread
    rcases applyData_settles hregular s with ⟨hfits, f, hf⟩ | ⟨hfits, t, ht, hvalue⟩
    · refine .inl ⟨fun ⟨data', h, hfits'⟩ => ?_, f, happly _ (hf i)⟩
      rw [hdata] at h
      cases h
      exact hfits (hfits' data rfl)
    · refine .inr ⟨some data, ⟨hdata, ?_⟩, t, happly _ (ht i), fun p hp hplain => ?_⟩
      · rintro _ ⟨⟩
        exact hfits
      · exact hvalue p hp (hplain data rfl)

/-! ### The variables -/

def Override.said? (o : Override) (environment : Variables) : Option Value :=
  (environment.given? o.source).bind o.read?

theorem applyOverride_ends (environment : Variables) (s : Settings) (o : Override) :
    ∃ t, (∀ i : Installation, i.environment = environment → Ends (s.applyOverride o) i (.ok t)) ∧
      ∀ p n, t.value? p n = (s.value? p n).map fun old =>
        if p = o.part ∧ n = o.name then (o.said? environment).getD old else old := by
  unfold Override.said?
  rcases hgiven : environment.given? o.source with _ | text
  · refine ⟨s, fun i hi => .get ?_, fun p n => ?_⟩
    · simp only [hi, hgiven]
      exact .pure s i
    · simp
  rcases hread : o.read? text with _ | v
  · refine ⟨s, fun i hi => .get ?_, fun p n => ?_⟩
    · simp only [hi, hgiven, hread]
      exact .warn _ s i
    · simp [hread]
  · refine ⟨(s.set? o.part o.name v).getD s, fun i hi => .get ?_, fun p n => ?_⟩
    · simp only [hi, hgiven, hread]
      exact .pure _ i
    · simp only [Option.bind_some, hread, Option.getD_some]
      rcases hset : s.set? o.part o.name v with _ | t
      · exact value?_of_unset hset p n
      · exact value?_of_set? hset p n

theorem applyOverrides_ends (environment : Variables) (os : List Override) (s : Settings) :
    ∃ t, (∀ i : Installation, i.environment = environment →
        Ends (os.foldlM applyOverride s) i (.ok t)) ∧
      ∀ p n, t.value? p n = (s.value? p n).map fun old => os.foldl (fun old o =>
        if p = o.part ∧ n = o.name then (o.said? environment).getD old else old) old := by
  induction os generalizing s with
  | nil => exact ⟨s, fun i _ => .pure s i, fun p n => by simp⟩
  | cons o os ih =>
      obtain ⟨t, hfirst, hvalue⟩ := applyOverride_ends environment s o
      obtain ⟨u, hrest, hvalue'⟩ := ih t
      refine ⟨u, fun i hi => (hfirst i hi).bind fun _ => hrest _ hi, fun p n => ?_⟩
      rw [hvalue', hvalue, Option.map_map]
      rfl

/-! ### Loading -/

def source? (environment : Variables) (data : Option Value) (o : Override) : Option Value :=
  o.said? environment <|> data.bind (held? · o.part o.name) <|> value? {} o.part o.name

theorem exec_readVariableFile {i : Installation} (h : i.variableFile = none) :
    exec readVariableFile i = (.ok (), { i with variableFileRead := true }) := by
  rcases hread : i.variableFileRead with _ | _
  · simp [readVariableFile, h, hread]
  · simp [readVariableFile, ← hread]

theorem foldl_overrides {o : Override} (ho : o ∈ overrides) (said? : Override → Option Value)
    (old : Value) :
    overrides.foldl (fun old o' =>
      if o.part = o'.part ∧ o.name = o'.name then (said? o').getD old else old) old =
        (said? o).getD old := by
  simp only [overrides, List.mem_cons, List.not_mem_nil, or_false] at ho
  rcases ho with rfl | rfl | rfl | rfl | rfl <;> simp [overrides]

theorem usual_of_mem_overrides {o : Override} (ho : o ∈ overrides) :
    o.part ∈ parts ∧ ∃ usual, value? {} o.part o.name = some usual := by
  simp only [overrides, List.mem_cons, List.not_mem_nil, or_false] at ho
  rcases ho with rfl | rfl | rfl | rfl | rfl <;> exact ⟨by simp [parts], _, rfl⟩

theorem load_runs {i : Installation} (hvars : i.variableFile = none) :
    ((¬∃ data, Loads i data) ∧ ∃ f, (exec load i).1 = .error f) ∨
      ∃ data, Loads i data ∧ ∃ s, (exec load i).1 = .ok s ∧
        ∀ o ∈ overrides, (∀ v ∈ data, held? v o.part "__dict__" = none) →
          s.value? o.part o.name = source? i.environment data o := by
  unfold load
  rcases applyFile_ends {} i with ⟨hfails, f, _, hf⟩ | ⟨data, hdata, s, ⟨warnings, hs⟩, hheld⟩
  · exact .inl ⟨hfails, f, by rw [exec_bind_of_error hf]⟩
  · obtain ⟨t, ht, hvalue⟩ := applyOverrides_ends i.environment overrides s
    obtain ⟨_, hrun⟩ := ht { i with warnings, variableFileRead := true } rfl
    refine .inr ⟨data, hdata, t, ?_, fun o ho hplain => ?_⟩
    · have hread := exec_readVariableFile (i := { i with warnings }) hvars
      rw [exec_bind_of_ok hs, exec_bind_of_ok hread, hrun]
    · obtain ⟨hpart, usual, husual⟩ := usual_of_mem_overrides ho
      rw [hvalue, hheld _ hpart hplain, husual, source?, husual]
      simp only [Option.map_some, foldl_overrides ho fun o => o.said? i.environment]
      rcases o.said? i.environment with _ | said
      · rcases data.bind (held? · o.part o.name) with _ | held <;> rfl
      · rfl

/-- Without a file of variables, the settings can be loaded when there is no settings file, when it
is not well formed, and when it holds a mapping whose sections have no member that cannot be given
its value.  Each setting then has the value of its variable if that is set and can be read, or else
the value that the file has under its section and name, or else the usual one, unless the file
gives the section as a whole under the name `__dict__`. -/
theorem load_from_sources {i : Installation} (hvars : i.variableFile = none) :
    ((∃ s, (exec load i).1 = .ok s) ↔ ∃ data, Loads i data) ∧
      ∀ s data, (exec load i).1 = .ok s → i.data? = .ok data →
        ∀ o ∈ overrides, (∀ v ∈ data, held? v o.part "__dict__" = none) →
          s.value? o.part o.name = source? i.environment data o := by
  rcases load_runs hvars with ⟨hnot, f, hf⟩ | ⟨data, hdata, s, hs, hvalue⟩
  · rw [hf]
    exact ⟨⟨nofun, fun h => absurd h hnot⟩, nofun⟩
  · rw [hs]
    refine ⟨⟨fun _ => ⟨data, hdata⟩, fun _ => ⟨s, rfl⟩⟩, ?_⟩
    rintro _ data' ⟨⟩ hdata'
    cases hdata.1.symm.trans hdata'
    exact hvalue

def sample : Installation where
  fileName := "config.json"
  file := some ("\x7b\"colour\": \"red\", \"runtime\": " ++
    "\x7b\"timezone\": \"local\", \"trim_text\": \"no\"\x7d\x7d")
  environment := [("FIELDWRIGHT_TRIM_TEXT", " on "), ("FIELDWRIGHT_RANDOM_TEXT_LENGTH", "many")]

def sampleData : Record := [
  ("colour", .text "red"),
  ("runtime", Record.toValue [("timezone", .text "local"), ("trim_text", .text "no")])]

/-- The texts in a value of the shape of `sampleData`.  Values have no decidable equality, but texts
do, so that the kernel can compare what it reads. -/
def textsOf? : Except Fault (Option Value) → Option (List String)
  | .ok (some (.dict [(.text a, .text b), (.text c, .dict [(.text d, .text e),
      (.text f, .text g)])])) => some [a, b, c, d, e, f, g]
  | _ => none

theorem data?_sample : sample.data? = .ok (some sampleData.toValue) := by
  have htexts : textsOf? sample.data? =
      some ["colour", "red", "runtime", "timezone", "local", "trim_text", "no"] := by
    decide +kernel
  unfold textsOf? at htexts
  split at htexts
  · rename_i hdata
    cases htexts
    exact hdata
  · cases htexts

theorem under?_sampleData : sampleData.toValue.under? "runtime" =
    some (Record.toValue [("timezone", .text "local"), ("trim_text", .text "no")]) := by
  simp [sampleData, Record.under?_toValue, Record.get?_cons]

theorem held?_sampleData (name : String) : held? sampleData.toValue "runtime" name =
    Record.get? name [("timezone", .text "local"), ("trim_text", .text "no")] := by
  rw [held?, under?_sampleData, Option.bind_some, Record.under?_toValue]

theorem fits_sampleData : Fits sampleData.toValue := by
  have hcompiler : members sampleData.toValue "compiler" = Record.entries [] := by
    simp [members, sampleData, Record.under?_toValue, Record.get?_cons, Record.entries]
  have hruntime : members sampleData.toValue "runtime" =
      Record.entries [("timezone", .text "local"), ("trim_text", .text "no")] := by
    rw [members, under?_sampleData]
    rfl
  have hlogging : members sampleData.toValue "logging" = Record.entries [] := by
    simp [members, sampleData, Record.under?_toValue, Record.get?_cons, Record.entries]
  refine ⟨⟨_, rfl⟩, ?_⟩
  simp [parts, accepts_iff hcompiler, accepts_iff hruntime, accepts_iff hlogging, Refuses]

theorem sample_from_sources : ∃ s, (exec load sample).1 = .ok s ∧
    s.value? "runtime" "trim_text" = some (.bool true) ∧
    s.value? "runtime" "timezone" = some (.text "local") ∧
    s.value? "runtime" "random_text_length" = some (.int 32) := by
  obtain ⟨hloads, hsources⟩ := load_from_sources (i := sample) rfl
  obtain ⟨s, hs⟩ := hloads.mpr
    ⟨_, data?_sample, fun v hv => Option.some.inj hv ▸ fits_sampleData⟩
  have hplain : ∀ v ∈ some sampleData.toValue, held? v "runtime" "__dict__" = none := by
    rintro _ ⟨⟩
    simp [held?_sampleData, Record.get?_cons]
  have hvalue := hsources s _ hs data?_sample
  simp only [overrides, List.forall_mem_cons] at hvalue
  obtain ⟨-, hlength, htimezone, htrim, -⟩ := hvalue
  refine ⟨s, hs, (htrim hplain).trans ?_, (htimezone hplain).trans ?_, (hlength hplain).trans ?_⟩
  · have hgiven : sample.environment.given? "FIELDWRIGHT_TRIM_TEXT" = some " on " := by decide
    have hon : truthOf? " on " = some (.bool true) := rfl
    simp [source?, Override.said?, hgiven, hon]
  · have hgiven : sample.environment.given? "FIELDWRIGHT_TIMEZONE" = none := by decide
    simp [source?, Override.said?, hgiven, held?_sampleData, Record.get?_cons]
  · have hgiven : sample.environment.given? "FIELDWRIGHT_RANDOM_TEXT_LENGTH" = some "many" := by
      decide
    have hmany : Number.readInt? 10 "many" = none := by decide +kernel
    have husual : value? {} "runtime" "random_text_length" = some (.int 32) := rfl
    simp [source?, Override.said?, hgiven, hmany, held?_sampleData, Record.get?_cons, husual]

end Settings

end FieldPipeline
