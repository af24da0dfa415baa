import FieldPipeline.Declaration.Shape
import FieldPipeline.Proofs.Record

/-!
Mappings as lists of entries.  A mapping whose keys are all texts is a record, and what is done to
its entries is done to the record.
-/

namespace FieldPipeline

namespace Value

@[simp] theorem alike_text_iff {v : Value} {s : String} :
    v.alike (.text s) = true ↔ v = .text s := by
  cases v <;> simp [alike, same, sameNumber?, asInt?, isNoNumber]

@[simp] theorem text_alike_iff {v : Value} {s : String} :
    (Value.text s).alike v = true ↔ v = .text s := by
  cases v with
  | text t => simpa [alike, same, isNoNumber] using eq_comm
  | _ => simp [alike, same, sameNumber?, asInt?, isNoNumber]

def isText : Value → Bool
  | .text _ => true
  | _ => false

theorem isText_iff {v : Value} : v.isText = true ↔ ∃ s, v = .text s := by
  cases v <;> simp [isText]

theorem isText_eq_of_alike {v w : Value} (h : v.alike w = true) : v.isText = w.isText := by
  cases v with
  | text s => rw [text_alike_iff.mp h]
  | _ =>
      cases w with
      | text t => cases alike_text_iff.mp h
      | _ => rfl

theorem isHashable_of_isNoNumber {v : Value} (h : v.isNoNumber = true) : v.isHashable = true := by
  cases v <;> first | rfl | cases h

mutual

theorem isHashable_eq_of_same {v w : Value} (h : v.same w = true) :
    v.isHashable = w.isHashable := by
  cases v with
  | tuple xs =>
      cases w with
      | tuple ys =>
          rw [same] at h
          exact allHashable_eq_of_sameAll h
      | _ => simp [same, sameNumber?, asInt?] at h
  | _ => cases w <;> first | rfl | simp [same, sameNumber?, asInt?] at h

theorem allHashable_eq_of_sameAll {xs ys : List Value} (h : sameAll xs ys = true) :
    isHashable.allHashable xs = isHashable.allHashable ys := by
  match xs, ys with
  | [], [] => rfl
  | x :: xs, y :: ys =>
      rw [sameAll, Bool.and_eq_true, Bool.or_eq_true, Bool.and_eq_true] at h
      have hfirst : x.isHashable = y.isHashable := by
        rcases h.1 with hsame | ⟨hx, hy⟩
        · exact isHashable_eq_of_same hsame
        · rw [isHashable_of_isNoNumber hx, isHashable_of_isNoNumber hy]
      rw [isHashable.allHashable, isHashable.allHashable, hfirst, allHashable_eq_of_sameAll h.2]
  | [], _ :: _ => simp [sameAll] at h
  | _ :: _, [] => simp [sameAll] at h

end

theorem isHashable_eq_of_alike {v w : Value} (h : v.alike w = true) :
    v.isHashable = w.isHashable := by
  unfold alike at h
  rw [Bool.or_eq_true, Bool.and_eq_true] at h
  rcases h with hsame | ⟨hv, hw⟩
  · exact isHashable_eq_of_same hsame
  · rw [isHashable_of_isNoNumber hv, isHashable_of_isNoNumber hw]

section

/- What keys have in common when they count as one another. -/
variable {P : Value → Bool} (hP : ∀ {v w : Value}, v.alike w = true → P v = P w)

include hP

theorem forall_putEntry {key v : Value} {es : List (Value × Value)} :
    (∀ e ∈ putEntry key v es, P e.1 = true) ↔ P key = true ∧ ∀ e ∈ es, P e.1 = true := by
  induction es with
  | nil => simp [putEntry]
  | cons e es ih =>
      obtain ⟨k, w⟩ := e
      rw [putEntry]
      split
      · rename_i halike
        simp only [List.forall_mem_cons, ← hP halike, and_self_left]
      · simp only [List.forall_mem_cons, ih]
        exact and_left_comm

theorem forall_foldl_putEntry {es acc : List (Value × Value)} :
    (∀ e ∈ es.foldl (fun acc e => putEntry e.1 e.2 acc) acc, P e.1 = true) ↔
      (∀ e ∈ es, P e.1 = true) ∧ ∀ e ∈ acc, P e.1 = true := by
  induction es generalizing acc with
  | nil => simp
  | cons e es ih =>
      rw [List.foldl_cons, ih, forall_putEntry hP, List.forall_mem_cons, and_left_comm, and_assoc]

theorem forall_dictOf {es : List (Value × Value)} :
    (∀ e ∈ dictOf es, P e.1 = true) ↔ ∀ e ∈ es, P e.1 = true := by
  unfold dictOf
  rw [forall_foldl_putEntry hP]
  simp

end

end Value

namespace Record

def entries (r : Record) : List (Value × Value) :=
  r.map fun e => (.text e.1, e.2)

@[simp] theorem entries_nil : entries [] = [] := rfl

@[simp] theorem entries_cons (name : String) (v : Value) (r : Record) :
    entries ((name, v) :: r) = (.text name, v) :: entries r := rfl

theorem toValue_eq (r : Record) : r.toValue = .dict r.entries := rfl

theorem valueAt?_entries (r : Record) (name : String) :
    Value.valueAt? (.text name) r.entries = r.get? name := by
  induction r with
  | nil => rfl
  | cons e r ih =>
      obtain ⟨key, v⟩ := e
      simp [Value.valueAt?, get?_cons, ih]

theorem under?_toValue (r : Record) (name : String) : r.toValue.under? name = r.get? name :=
  r.valueAt?_entries name

theorem under?_entries (r : Record) (name : String) :
    Check.under? name r.entries = r.get? name := by
  induction r with
  | nil => rfl
  | cons e r ih =>
      obtain ⟨key, v⟩ := e
      simp [Check.under?, get?_cons, ih]

theorem putEntry_entries (r : Record) (name : String) (v : Value) :
    Value.putEntry (.text name) v r.entries = (r.put name v).entries := by
  induction r with
  | nil => rfl
  | cons e r ih =>
      obtain ⟨key, w⟩ := e
      by_cases hkey : key = name
      · simp [Value.putEntry, put, hkey]
      · simp [Value.putEntry, put, hkey, ih]

theorem foldl_putEntry_entries (r changes : Record) :
    changes.entries.foldl (fun acc e => Value.putEntry e.1 e.2 acc) r.entries =
      (r.update changes).entries := by
  induction changes generalizing r with
  | nil => rfl
  | cons e changes ih =>
      rw [entries_cons, List.foldl_cons, putEntry_entries, ih]
      rfl

theorem dictOf_entries (r : Record) : Value.dictOf r.entries = (update [] r).entries :=
  foldl_putEntry_entries [] r

theorem exists_entries_iff {es : List (Value × Value)} :
    (∃ r, es = entries r) ↔ ∀ e ∈ es, e.1.isText = true := by
  induction es with
  | nil => exact ⟨fun _ => by simp, fun _ => ⟨[], rfl⟩⟩
  | cons e es ih =>
      rw [List.forall_mem_cons, ← ih, Value.isText_iff]
      constructor
      · rintro ⟨r, hr⟩
        cases r with
        | nil => cases hr
        | cons first r =>
            cases hr
            exact ⟨⟨_, rfl⟩, r, rfl⟩
      · rintro ⟨⟨name, hname⟩, r, rfl⟩
        obtain ⟨k, v⟩ := e
        cases hname
        exact ⟨(name, v) :: r, rfl⟩

theorem ofValue?_entries (r : Record) : ofValue? (.dict r.entries) = some r := by
  unfold ofValue?
  dsimp only
  induction r with
  | nil => rfl
  | cons e r ih =>
      obtain ⟨name, v⟩ := e
      rw [entries_cons, List.mapM_cons, ih]
      rfl

theorem ofValue?_eq_some {es : List (Value × Value)} {r : Record}
    (h : ofValue? (.dict es) = some r) : es = r.entries := by
  unfold ofValue? at h
  dsimp only at h
  induction es generalizing r with
  | nil =>
      cases h
      rfl
  | cons e es ih =>
      obtain ⟨k, v⟩ := e
      rw [List.mapM_cons] at h
      obtain ⟨first, hfirst, h⟩ := Option.bind_eq_some_iff.mp h
      obtain ⟨rest, hrest, h⟩ := Option.bind_eq_some_iff.mp h
      cases h
      rw [ih hrest]
      cases k <;> cases hfirst
      rfl

theorem isSome_ofValue?_iff {es : List (Value × Value)} :
    (ofValue? (.dict es)).isSome = true ↔ ∀ e ∈ es, e.1.isText = true := by
  rw [← exists_entries_iff]
  constructor
  · intro h
    obtain ⟨r, hr⟩ := Option.isSome_iff_exists.mp h
    exact ⟨r, ofValue?_eq_some hr⟩
  · rintro ⟨r, rfl⟩
    simp [ofValue?_entries]

end Record

end FieldPipeline
