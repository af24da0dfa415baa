import FieldPipeline.Session.Context

/-!
What is found in a record after it has been written to.
-/

namespace FieldPipeline

namespace Record

@[simp] theorem get?_nil (name : String) : Record.get? name [] = none := rfl

theorem get?_cons (key name : String) (v : Value) (r : Record) :
    Record.get? name ((key, v) :: r) = if key = name then some v else r.get? name := rfl

theorem get?_put (r : Record) (key name : String) (v : Value) :
    (r.put key v).get? name = if key = name then some v else r.get? name := by
  induction r with
  | nil => rfl
  | cons e r ih =>
      obtain ⟨first, w⟩ := e
      by_cases hfirst : first = key
      · subst hfirst
        by_cases hname : first = name <;> simp [put, get?_cons, hname]
      · by_cases hname : first = name
        · subst hname
          have hkey : ¬key = first := fun h => hfirst h.symm
          simp [put, get?_cons, hfirst, hkey]
        · simp [put, get?_cons, hfirst, hname, ih]

@[simp] theorem get?_put_self (r : Record) (name : String) (v : Value) :
    (r.put name v).get? name = some v := by
  simp [get?_put]

theorem get?_put_of_ne (r : Record) {key name : String} (h : key ≠ name) (v : Value) :
    (r.put key v).get? name = r.get? name := by
  simp [get?_put, h]

theorem put_of_get? {r : Record} {name : String} {v : Value} (h : r.get? name = some v) :
    r.put name v = r := by
  induction r with
  | nil => cases h
  | cons e r ih =>
      obtain ⟨key, w⟩ := e
      rw [get?_cons] at h
      by_cases hkey : key = name
      · rw [if_pos hkey] at h
        cases h
        simp [put, hkey]
      · rw [if_neg hkey] at h
        simp [put, hkey, ih h]

theorem get?_erase_of_ne (r : Record) {key name : String} (h : key ≠ name) :
    (r.erase key).get? name = r.get? name := by
  induction r with
  | nil => rfl
  | cons entry r ih =>
      obtain ⟨first, v⟩ := entry
      unfold erase at ih ⊢
      by_cases hfirst : first = key
      · rw [List.filter_cons_of_neg (by simpa using hfirst), ih, get?_cons,
          if_neg (hfirst ▸ h)]
      · rw [List.filter_cons_of_pos (by simpa using hfirst), get?_cons, get?_cons, ih]

theorem has_eq_true_iff_mem_names (r : Record) (name : String) :
    r.has name = true ↔ name ∈ r.names := by
  induction r with
  | nil => simp [has, names]
  | cons e r ih =>
      obtain ⟨key, v⟩ := e
      by_cases h : key = name
      · simp [has, names, get?_cons, h]
      · have h' : ¬name = key := fun hn => h hn.symm
        simpa [has, names, get?_cons, h, h'] using ih

theorem has_put (r : Record) (key name : String) (v : Value) :
    (r.put key v).has name = (decide (key = name) || r.has name) := by
  by_cases h : key = name <;> simp [has, get?_put, h]

theorem get?_eq_none_iff (r : Record) (name : String) :
    r.get? name = none ↔ r.has name = false := by
  simp [has]

theorem has_of_get?_eq_some {r : Record} {name : String} {v : Value}
    (h : r.get? name = some v) : r.has name = true := by
  simp [has, h]

theorem has_of_isNull_getOrNull {r : Record} {name : String}
    (h : (r.getOrNull name).isNull = false) : r.has name = true := by
  unfold getOrNull at h
  cases hget : r.get? name with
  | none =>
      rw [hget] at h
      cases h
  | some _ => exact has_of_get?_eq_some hget

theorem names_put (r : Record) (key : String) (v : Value) :
    (r.put key v).names = if key ∈ r.names then r.names else r.names ++ [key] := by
  induction r with
  | nil => rfl
  | cons e r ih =>
      obtain ⟨first, w⟩ := e
      by_cases hfirst : first = key
      · simp [put, names, hfirst]
      · have hfirst' : ¬key = first := fun h => hfirst h.symm
        have ih' : List.map Prod.fst (put key v r) =
            if key ∈ List.map Prod.fst r then List.map Prod.fst r
            else List.map Prod.fst r ++ [key] := ih
        simp only [put, names, hfirst, if_false, List.map_cons, List.mem_cons, hfirst', false_or,
          ih']
        split <;> simp

theorem nodup_names_put {r : Record} (h : r.names.Nodup) (key : String) (v : Value) :
    (r.put key v).names.Nodup := by
  rw [names_put]
  split
  · exact h
  · rename_i hkey
    rw [List.nodup_append]
    refine ⟨h, by simp, ?_⟩
    intro a ha b hb hab
    rw [List.mem_singleton] at hb
    exact hkey (hb ▸ hab ▸ ha)

@[simp] theorem put_put_self (r : Record) (key : String) (v w : Value) :
    (r.put key v).put key w = r.put key w := by
  induction r with
  | nil => simp [put]
  | cons e r ih =>
      obtain ⟨first, u⟩ := e
      by_cases hfirst : first = key <;> simp [put, hfirst, ih]

theorem put_comm {r : Record} {key other : String} (hkey : key ∈ r.names) (hne : key ≠ other)
    (v w : Value) : (r.put key v).put other w = (r.put other w).put key v := by
  induction r with
  | nil => cases hkey
  | cons e r ih =>
      obtain ⟨first, u⟩ := e
      by_cases hfirst : first = key
      · subst hfirst
        simp [put, hne]
      · have hmem : key ∈ names r := by
          rcases List.mem_cons.mp hkey with rfl | hmem
          · exact absurd rfl hfirst
          · exact hmem
        by_cases hother : first = other
        · simp [put, hother, hne.symm]
        · simp [put, hfirst, hother, ih hmem]

theorem mem_names_put (r : Record) (key : String) (v : Value) : key ∈ (r.put key v).names := by
  rw [← has_eq_true_iff_mem_names]
  simp [has]

theorem put_update {changes r : Record} {key : String} (hkey : key ∈ r.names)
    (hchanges : key ∉ changes.names) (v : Value) :
    (r.put key v).update changes = (r.update changes).put key v := by
  induction changes generalizing r with
  | nil => rfl
  | cons e changes ih =>
      obtain ⟨other, w⟩ := e
      have hne : key ≠ other := fun h => hchanges (by simp [names, h])
      have hrest : key ∉ names changes := fun h => hchanges (List.mem_cons_of_mem _ h)
      have hmem : key ∈ (r.put other w).names := by
        rw [names_put]
        split <;> simp [hkey]
      change update ((r.put key v).put other w) changes = (update (r.put other w) changes).put key v
      rw [put_comm hkey hne, ih hmem hrest]

theorem update_put {changes : Record} (h : changes.names.Nodup) (r : Record) (key : String)
    (v : Value) : r.update (changes.put key v) = (r.update changes).put key v := by
  induction changes generalizing r with
  | nil => rfl
  | cons e changes ih =>
      obtain ⟨first, w⟩ := e
      have hfirst : first ∉ names changes := (List.nodup_cons.mp h).1
      by_cases hkey : first = key
      · subst hkey
        have hput : put first v ((first, w) :: changes) = (first, v) :: changes := by simp [put]
        rw [hput]
        change update (r.put first v) changes = (update (r.put first w) changes).put first v
        rw [← put_update (mem_names_put r first w) hfirst, put_put_self]
      · have hput : put key v ((first, w) :: changes) = (first, w) :: put key v changes := by
          simp [put, hkey]
        rw [hput]
        exact ih (List.nodup_cons.mp h).2 (r.put first w)

theorem mem_of_get? {r : Record} {name : String} {v : Value} (h : r.get? name = some v) :
    (name, v) ∈ r := by
  induction r with
  | nil => cases h
  | cons e r ih =>
      obtain ⟨key, w⟩ := e
      rw [get?_cons] at h
      split at h
      · rename_i hkey
        cases h
        rw [hkey]
        exact List.mem_cons_self
      · exact List.mem_cons_of_mem _ (ih h)

theorem mem_put {r : Record} {key : String} {v : Value} {e : String × Value}
    (h : e ∈ r.put key v) : e = (key, v) ∨ e ∈ r := by
  induction r with
  | nil => exact .inl (List.mem_singleton.mp h)
  | cons first r ih =>
      obtain ⟨name, w⟩ := first
      unfold put at h
      split at h
      · rename_i hname
        rcases List.mem_cons.mp h with rfl | hrest
        · exact .inl (by rw [hname])
        · exact .inr (List.mem_cons_of_mem _ hrest)
      · rcases List.mem_cons.mp h with rfl | hrest
        · exact .inr (by simp)
        · exact (ih hrest).imp_right (List.mem_cons_of_mem _)

theorem nodup_names_update {r : Record} (h : r.names.Nodup) (changes : Record) :
    (r.update changes).names.Nodup := by
  induction changes generalizing r with
  | nil => exact h
  | cons e changes ih => exact ih (nodup_names_put h e.1 e.2)

theorem mem_update {r changes : Record} {e : String × Value} (h : e ∈ r.update changes) :
    e ∈ r ∨ e ∈ changes := by
  induction changes generalizing r with
  | nil => exact .inl h
  | cons first changes ih =>
      rcases ih h with hput | hrest
      · rcases mem_put hput with rfl | hold
        · exact .inr (by simp)
        · exact .inl hold
      · exact .inr (List.mem_cons_of_mem _ hrest)

theorem put_of_notMem {r : Record} {key : String} (h : key ∉ r.names) (v : Value) :
    r.put key v = r ++ [(key, v)] := by
  induction r with
  | nil => rfl
  | cons e r ih =>
      obtain ⟨name, w⟩ := e
      have hcons : key ∉ name :: names r := h
      rw [List.mem_cons, not_or] at hcons
      rw [put, if_neg fun heq => hcons.1 heq.symm, ih hcons.2]
      rfl

theorem update_of_nodup {r changes : Record} (h : (r ++ changes).names.Nodup) :
    r.update changes = r ++ changes := by
  induction changes generalizing r with
  | nil => exact (List.append_nil r).symm
  | cons e changes ih =>
      obtain ⟨name, v⟩ := e
      have hfresh : name ∉ r.names := by
        unfold names at h ⊢
        rw [List.map_append, List.nodup_append] at h
        intro hmem
        exact h.2.2 name hmem name (by simp) rfl
      change (r.put name v).update changes = _
      rw [put_of_notMem hfresh, ih (by simpa using h), List.append_assoc]
      rfl

theorem get?_update {changes : Record} (h : changes.names.Nodup) (r : Record) (name : String) :
    (r.update changes).get? name = (changes.get? name).or (r.get? name) := by
  induction changes generalizing r with
  | nil => rfl
  | cons e changes ih =>
      obtain ⟨key, v⟩ := e
      have hkey : key ∉ names changes := (List.nodup_cons.mp h).1
      change (update (r.put key v) changes).get? name = _
      rw [ih (List.nodup_cons.mp h).2, get?_put, get?_cons]
      by_cases hname : key = name
      · subst hname
        have hnone : get? key changes = none := by
          rw [get?_eq_none_iff, Bool.eq_false_iff, ne_eq, has_eq_true_iff_mem_names]
          exact hkey
        simp [hnone]
      · simp [hname]

theorem has_update (r changes : Record) (name : String) :
    (r.update changes).has name = (changes.has name || r.has name) := by
  induction changes generalizing r with
  | nil => rfl
  | cons e changes ih =>
      obtain ⟨key, v⟩ := e
      have hcons : has name ((key, v) :: changes) = (decide (key = name) || has name changes) := by
        by_cases h : key = name <;> simp [has, get?_cons, h]
      change has name (update (r.put key v) changes) = _
      rw [ih, has_put, hcons, Bool.or_left_comm, Bool.or_assoc]

theorem getOrNull_update {changes : Record} (h : changes.names.Nodup) (r : Record)
    (name : String) :
    (r.update changes).getOrNull name = (changes.get? name).getD (r.getOrNull name) := by
  unfold getOrNull
  rw [get?_update h]
  cases changes.get? name <;> rfl

end Record

namespace Context

theorem former_of_existing_eq_none {c : Context} (h : c.existing = none) (name : String) :
    c.former name = .null := by
  simp [former, h]

theorem lookUp?_of_has {c : Context} {name : String} (h : c.latest.has name = true) :
    c.lookUp? name = c.latest.get? name := by
  obtain ⟨v, hv⟩ := Option.isSome_iff_exists.mp h
  unfold lookUp?
  rw [hv]

theorem has_scope (c : Context) (name : String) :
    c.scope.has name = (c.lookUp? name).isSome := by
  unfold scope lookUp?
  rw [Record.has_update]
  unfold Record.has
  cases c.latest.get? name <;> cases c.existing <;> rfl

theorem get?_scope {c : Context} (h : c.latest.names.Nodup) (name : String) :
    c.scope.get? name = c.lookUp? name := by
  unfold scope lookUp?
  rw [Record.get?_update h]
  cases c.latest.get? name <;> cases c.existing <;> rfl

end Context

end FieldPipeline
