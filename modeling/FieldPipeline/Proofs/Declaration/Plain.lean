import FieldPipeline.Declaration.Data
import FieldPipeline.Proofs.Entries
import FieldPipeline.Proofs.Sequence

/-!
Plain data.  Whatever is saved is plain data, and plain data is saved as it is: nothing else is.
-/

namespace FieldPipeline

namespace Value

mutual

def isPlain : Value → Bool
  | .null | .bool _ | .int _ | .text _ => true
  | .float x => (Number.scaled? x).isSome
  | .list xs => allPlain xs
  | .dict es => plainEntries es
  | _ => false

def allPlain : List Value → Bool
  | [] => true
  | x :: xs => isPlain x && allPlain xs

def plainEntries : List (Value × Value) → Bool
  | [] => true
  | (.text key, v) :: es => isPlain v && (Check.under? key es).isNone && plainEntries es
  | _ => false

end

theorem allPlain_iff {xs : List Value} : allPlain xs = true ↔ ∀ x ∈ xs, x.isPlain = true := by
  induction xs with
  | nil => simp [allPlain]
  | cons x xs ih => rw [allPlain, Bool.and_eq_true, ih, List.forall_mem_cons]

theorem plainEntries_entries {r : Record} :
    plainEntries r.entries = true ↔ r.names.Nodup ∧ ∀ e ∈ r, e.2.isPlain = true := by
  induction r with
  | nil => simp [plainEntries, Record.names]
  | cons e r ih =>
      obtain ⟨name, v⟩ := e
      have hnames : Record.names ((name, v) :: r) = name :: Record.names r := rfl
      rw [Record.entries_cons, plainEntries, Bool.and_eq_true, Bool.and_eq_true, ih,
        Record.under?_entries, Option.isNone_iff_eq_none, Record.get?_eq_none_iff, hnames,
        List.nodup_cons, List.forall_mem_cons, ← Record.has_eq_true_iff_mem_names,
        Bool.not_eq_true]
      tauto

theorem isText_of_plainEntries {es : List (Value × Value)} (h : plainEntries es = true) :
    ∀ e ∈ es, e.1.isText = true := by
  induction es with
  | nil => simp
  | cons e es ih =>
      obtain ⟨k, v⟩ := e
      cases k with
      | text key =>
          rw [plainEntries, Bool.and_eq_true] at h
          exact List.forall_mem_cons.mpr ⟨rfl, ih h.2⟩
      | _ => cases h

theorem plainEntries_iff {es : List (Value × Value)} : plainEntries es = true ↔
    ∃ r : Record, es = r.entries ∧ r.names.Nodup ∧ ∀ e ∈ r, e.2.isPlain = true := by
  constructor
  · intro h
    obtain ⟨r, rfl⟩ := Record.exists_entries_iff.mpr (isText_of_plainEntries h)
    exact ⟨r, rfl, plainEntries_entries.mp h⟩
  · rintro ⟨r, rfl, h⟩
    exact plainEntries_entries.mpr h

mutual

theorem isPlain_of_saved {v w : Value} (h : v.saved = .ok w) : w.isPlain = true := by
  cases v with
  | null | bool | int | text | moment | day =>
      cases h
      rfl
  | float x =>
      cases h
      cases hscaled : (Number.scaled? x).isSome with
      | true => exact hscaled
      | false => rfl
  | bytes bs =>
      obtain ⟨s, -, h⟩ := bind_eq_ok.mp h
      cases h
      rfl
  | fieldRef name =>
      cases h
      rfl
  | list xs | tuple xs | set xs =>
      obtain ⟨ys, hys, h⟩ := bind_eq_ok.mp h
      cases h
      exact allPlain_of_savedAll hys
  | dict es =>
      obtain ⟨es', hes', h⟩ := bind_eq_ok.mp h
      cases h
      obtain ⟨r, rfl, hplain⟩ := exists_entries_of_savedEntries hes'
      -- Keys that differ may be saved as one name, of which the last value counts.
      rw [Record.dictOf_entries]
      have hnil : (Record.names []).Nodup := List.nodup_nil
      refine plainEntries_entries.mpr ⟨Record.nodup_names_update hnil r, fun e he => ?_⟩
      exact hplain e ((Record.mem_update he).resolve_left List.not_mem_nil)
  | complex | span | builtin | ellipsis => cases h

theorem allPlain_of_savedAll {xs ys : List Value} (h : savedAll xs = .ok ys) :
    allPlain ys = true := by
  match xs with
  | [] =>
      cases h
      rfl
  | x :: xs =>
      obtain ⟨y, hy, h⟩ := bind_eq_ok.mp h
      obtain ⟨rest, hrest, h⟩ := bind_eq_ok.mp h
      cases h
      rw [allPlain, isPlain_of_saved hy, allPlain_of_savedAll hrest]
      rfl

theorem exists_entries_of_savedEntries {es es' : List (Value × Value)}
    (h : savedEntries es = .ok es') :
    ∃ r : Record, es' = r.entries ∧ ∀ e ∈ r, e.2.isPlain = true := by
  match es with
  | [] =>
      cases h
      exact ⟨[], rfl, by simp⟩
  | (k, v) :: es =>
      obtain ⟨key, -, h⟩ := bind_eq_ok.mp h
      obtain ⟨w, hw, h⟩ := bind_eq_ok.mp h
      obtain ⟨rest, hrest, h⟩ := bind_eq_ok.mp h
      cases h
      obtain ⟨r, rfl, hr⟩ := exists_entries_of_savedEntries hrest
      exact ⟨(key, w) :: r, rfl, List.forall_mem_cons.mpr ⟨isPlain_of_saved hw, hr⟩⟩

end

mutual

theorem saved_of_isPlain {v : Value} (h : v.isPlain = true) : v.saved = .ok v := by
  cases v with
  | null | bool | int | text => rfl
  | float x =>
      have hscaled : (Number.scaled? x).isSome = true := h
      rw [saved, if_pos hscaled]
  | list xs =>
      rw [saved, savedAll_of_allPlain h]
      rfl
  | dict es =>
      have hentries : savedEntries es = .ok es := savedEntries_of_plainEntries h
      obtain ⟨r, rfl, hnodup, -⟩ := plainEntries_iff.mp h
      rw [saved, hentries]
      change Except.ok (Value.dict (dictOf r.entries)) = _
      rw [Record.dictOf_entries, Record.update_of_nodup (r := []) hnodup]
      rfl
  | _ => cases h

theorem savedAll_of_allPlain {xs : List Value} (h : allPlain xs = true) :
    savedAll xs = .ok xs := by
  match xs with
  | [] => rfl
  | x :: xs =>
      rw [allPlain, Bool.and_eq_true] at h
      rw [savedAll, saved_of_isPlain h.1, savedAll_of_allPlain h.2]
      rfl

theorem savedEntries_of_plainEntries {es : List (Value × Value)} (h : plainEntries es = true) :
    savedEntries es = .ok es := by
  match es with
  | [] => rfl
  | (k, v) :: es =>
      cases k with
      | text key =>
          rw [plainEntries, Bool.and_eq_true, Bool.and_eq_true] at h
          rw [savedEntries, saved_of_isPlain h.1.1, savedEntries_of_plainEntries h.2]
          rfl
      | _ => cases h

end

@[simp] theorem isPlain_textList (items : List String) : (textList items).isPlain = true := by
  refine allPlain_iff.mpr fun x hx => ?_
  obtain ⟨item, -, rfl⟩ := List.mem_map.mp hx
  rfl

theorem isPlain_optionValue {α : Type} {encode : α → Value}
    (h : ∀ a, (encode a).isPlain = true) (a : Option α) :
    (optionValue encode a).isPlain = true := by
  cases a with
  | none => rfl
  | some a => exact h a

end Value

namespace Record

def Saved (r r' : Record) : Prop :=
  List.Forall₂ (fun e e' => e.1 = e'.1 ∧ e.2.saved = .ok e'.2) r r'

variable {r r' : Record} {given : List String} {name : String} {v : Value}

theorem Saved.names_eq (h : r.Saved r') : r.names = r'.names := by
  unfold Saved at h
  induction h with
  | nil => rfl
  | cons he _ ih => exact congrArg₂ List.cons he.1 ih

theorem Saved.exists_get? (h : r.Saved r') (hv : r.get? name = some v) :
    ∃ w, r'.get? name = some w ∧ v.saved = .ok w := by
  unfold Saved at h
  induction h with
  | nil => cases hv
  | @cons e e' r r' he _ ih =>
      obtain ⟨key, u⟩ := e
      obtain ⟨key', u'⟩ := e'
      obtain ⟨rfl, hsaved⟩ : key = key' ∧ u.saved = .ok u' := he
      rw [get?_cons] at hv ⊢
      split at hv
      · cases hv
        rename_i hkey
        rw [if_pos hkey]
        exact ⟨u', rfl, hsaved⟩
      · rename_i hkey
        rw [if_neg hkey]
        exact ih hv

theorem savedEntries_entries {es : List (Value × Value)} :
    Value.savedEntries r.entries = .ok es ↔ ∃ r', es = entries r' ∧ r.Saved r' := by
  induction r generalizing es with
  | nil =>
      constructor
      · intro h
        cases h
        exact ⟨[], rfl, .nil⟩
      · rintro ⟨r', rfl, h⟩
        cases h
        rfl
  | cons e r ih =>
      obtain ⟨key, u⟩ := e
      have hkey : (Value.text key).savedKey = .ok key := rfl
      rw [entries_cons, Value.savedEntries, hkey]
      constructor
      · intro h
        obtain ⟨_, hfirst, h⟩ := bind_eq_ok.mp h
        cases hfirst
        obtain ⟨w, hw, h⟩ := bind_eq_ok.mp h
        obtain ⟨rest, hrest, h⟩ := bind_eq_ok.mp h
        cases h
        obtain ⟨r', rfl, hr'⟩ := ih.mp hrest
        exact ⟨(key, w) :: r', rfl, .cons ⟨rfl, hw⟩ hr'⟩
      · rintro ⟨r', rfl, h⟩
        cases h with
        | @cons _ e' _ rest he hrest =>
            obtain ⟨key', w⟩ := e'
            obtain ⟨rfl, hw⟩ : key = key' ∧ u.saved = .ok w := he
            rw [hw, ih.mpr ⟨rest, rfl, hrest⟩]
            rfl

theorem saved_toValue (hr : r.names.Nodup) {w : Value} :
    r.toValue.saved = .ok w ↔ ∃ r', w = toValue r' ∧ r.Saved r' := by
  have hkeeps : ∀ {r'}, r.Saved r' → Value.dictOf (entries r') = entries r' := by
    intro r' h
    rw [dictOf_entries, update_of_nodup (r := [])]
    · rfl
    · exact h.names_eq ▸ hr
  rw [toValue_eq, Value.saved, bind_eq_ok]
  constructor
  · rintro ⟨es, hes, h⟩
    cases h
    obtain ⟨r', rfl, hr'⟩ := savedEntries_entries.mp hes
    exact ⟨r', by rw [hkeeps hr', toValue_eq], hr'⟩
  · rintro ⟨r', rfl, hr'⟩
    exact ⟨entries r', savedEntries_entries.mpr ⟨r', rfl, hr'⟩, by rw [hkeeps hr']; rfl⟩

def only (given : List String) (r : Record) : Record :=
  r.filter fun e => given.contains e.1

theorem get?_only (given : List String) (r : Record) (name : String) :
    (r.only given).get? name = if given.contains name then r.get? name else none := by
  induction r with
  | nil => simp [only]
  | cons e r ih =>
      obtain ⟨key, v⟩ := e
      unfold only at ih ⊢
      by_cases hkey : key = name
      · subst hkey
        cases hgiven : given.contains key with
        | true => simp only [List.filter_cons, hgiven, if_true, get?_cons]
        | false => simpa only [List.filter_cons, hgiven, Bool.false_eq_true, if_false] using ih
      · simp only [List.filter_cons, get?_cons, hkey, if_false]
        split
        · rw [get?_cons, if_neg hkey, ih]
        · exact ih

theorem nodup_names_only (h : r.names.Nodup) (given : List String) :
    (r.only given).names.Nodup :=
  h.sublist (List.filter_sublist.map _)

theorem Saved.only (h : r.Saved r') (given : List String) :
    (r.only given).Saved (r'.only given) := by
  unfold Saved Record.only at *
  induction h with
  | nil => exact .nil
  | @cons e e' _ _ he _ ih =>
      rw [List.filter_cons, List.filter_cons, ← he.1]
      split
      · exact .cons he ih
      · exact ih

end Record

theorem saved_givenMembers {members members' : Record} (hmembers : members.names.Nodup)
    (h : members.Saved members') (given : List String) :
    (givenMembers given members).saved = .ok (givenMembers given members') :=
  (Record.saved_toValue (Record.nodup_names_only hmembers given)).mpr ⟨_, rfl, h.only given⟩

theorem exists_saved_member {members : Record} (hmembers : members.names.Nodup)
    {given : List String} {w : Value} (h : (givenMembers given members).saved = .ok w)
    {name : String} {v : Value} (hv : members.get? name = some v)
    (hgiven : given.contains name = true) {es : Check.Entries} (hw : w = .dict es) :
    ∃ u, Check.under? name es = some u ∧ v.saved = .ok u := by
  obtain ⟨r', rfl, hr'⟩ := (Record.saved_toValue (Record.nodup_names_only hmembers given)).mp h
  cases hw
  have honly : (members.only given).get? name = some v := by
    rw [Record.get?_only, if_pos hgiven, hv]
  obtain ⟨u, hu, hsaved⟩ := hr'.exists_get? honly
  exact ⟨u, (Record.under?_entries _ _).trans hu, hsaved⟩

theorem isPlain_givenMembers {members : Record} (hmembers : members.names.Nodup)
    (hplain : ∀ e ∈ members, e.2.isPlain = true) (given : List String) :
    (givenMembers given members).isPlain = true :=
  Value.plainEntries_entries.mpr ⟨Record.nodup_names_only hmembers given,
    fun e he => hplain e (List.mem_of_mem_filter he)⟩

end FieldPipeline
