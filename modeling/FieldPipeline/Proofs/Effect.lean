import FieldPipeline.Session.Basic

/-!
Running computations.  A computation that reads and changes a state and may fail is run from a
state; what it changed stays changed when it fails.  The rules here take a run apart.  Two runs end
alike when both have the same result in the same state, or both fail, whatever the failures are;
they coincide when the failures are the same as well.
-/

namespace FieldPipeline

variable {ε σ α β : Type}

def exec (x : ExceptT ε (StateM σ) α) (s : σ) : Except ε α × σ :=
  x.run.run s

@[simp] theorem exec_pure (a : α) (s : σ) :
    exec (pure a : ExceptT ε (StateM σ) α) s = (.ok a, s) := rfl

@[simp] theorem exec_throw (e : ε) (s : σ) :
    exec (throw e : ExceptT ε (StateM σ) α) s = (.error e, s) := rfl

@[simp] theorem exec_get (s : σ) :
    exec (get : ExceptT ε (StateM σ) σ) s = (.ok s, s) := rfl

@[simp] theorem exec_set (t s : σ) :
    exec (set t : ExceptT ε (StateM σ) PUnit) s = (.ok ⟨⟩, t) := rfl

@[simp] theorem exec_modify (f : σ → σ) (s : σ) :
    exec (modify f : ExceptT ε (StateM σ) PUnit) s = (.ok ⟨⟩, f s) := rfl

theorem exec_bind (x : ExceptT ε (StateM σ) α) (f : α → ExceptT ε (StateM σ) β) (s : σ) :
    exec (x >>= f) s =
      match exec x s with
      | (.ok a, t) => exec (f a) t
      | (.error e, t) => (.error e, t) := by
  simp only [exec, ExceptT.run_bind, StateT.run_bind]
  rcases x.run.run s with ⟨_ | _, t⟩ <;> rfl

theorem exec_tryCatch (x : ExceptT ε (StateM σ) α) (f : ε → ExceptT ε (StateM σ) α) (s : σ) :
    exec (tryCatch x f) s =
      match exec x s with
      | (.ok a, t) => (.ok a, t)
      | (.error e, t) => exec (f e) t := by
  change (ExceptT.tryCatch x f).run.run s = _
  simp only [exec, ExceptT.tryCatch, ExceptT.run_mk, StateT.run_bind]
  change (match (x.run.run s).1 with
    | .ok a => pure (.ok a)
    | .error e => (f e).run : StateM σ (Except ε α)).run (x.run.run s).2 = _
  rcases x.run.run s with ⟨_ | _, t⟩ <;> rfl

theorem exec_bind_of_ok {x : ExceptT ε (StateM σ) α} {s t : σ} {a : α} (h : exec x s = (.ok a, t))
    (f : α → ExceptT ε (StateM σ) β) : exec (x >>= f) s = exec (f a) t := by
  rw [exec_bind, h]

theorem exec_bind_of_error {x : ExceptT ε (StateM σ) α} {s t : σ} {e : ε}
    (h : exec x s = (.error e, t)) (f : α → ExceptT ε (StateM σ) β) :
    exec (x >>= f) s = (.error e, t) := by
  rw [exec_bind, h]

theorem exec_bind_eq_ok {x : ExceptT ε (StateM σ) α} {f : α → ExceptT ε (StateM σ) β} {s u : σ}
    {b : β} :
    exec (x >>= f) s = (.ok b, u) ↔ ∃ a t, exec x s = (.ok a, t) ∧ exec (f a) t = (.ok b, u) := by
  rw [exec_bind]
  rcases exec x s with ⟨e | a, t⟩
  · simp
  · constructor
    · intro h
      exact ⟨a, t, rfl, h⟩
    · rintro ⟨a', t', h, h'⟩
      cases h
      exact h'

theorem exec_bind_eq_error {x : ExceptT ε (StateM σ) α} {f : α → ExceptT ε (StateM σ) β} {s u : σ}
    {e : ε} : exec (x >>= f) s = (.error e, u) ↔ exec x s = (.error e, u) ∨
      ∃ a t, exec x s = (.ok a, t) ∧ exec (f a) t = (.error e, u) := by
  rw [exec_bind]
  rcases exec x s with ⟨e' | a, t⟩
  · simp
  · constructor
    · intro h
      exact .inr ⟨a, t, rfl, h⟩
    · rintro (h | ⟨a', t', h, h'⟩)
      · cases h
      · cases h
        exact h'

theorem fst_exec_bind_congr {x y : ExceptT ε (StateM σ) α} {f g : α → ExceptT ε (StateM σ) β}
    {s t : σ} (hxy : (exec x s).1 = (exec y t).1)
    (hfg : ∀ a u v, (exec (f a) u).1 = (exec (g a) v).1) :
    (exec (x >>= f) s).1 = (exec (y >>= g) t).1 := by
  rw [exec_bind, exec_bind]
  rcases hx : exec x s with ⟨_ | a, u⟩ <;> rcases hy : exec y t with ⟨_ | b, v⟩
  all_goals
    rw [hx, hy] at hxy
    cases hxy
  · rfl
  · exact hfg a u v

/-- What no part of a sequence breaks holds after it, however it ends. -/
theorem exec_bind_induct {P : σ → Prop} {x : ExceptT ε (StateM σ) α}
    {f : α → ExceptT ε (StateM σ) β} {s : σ} (hx : P (exec x s).2)
    (hf : ∀ a t, exec x s = (.ok a, t) → P t → P (exec (f a) t).2) : P (exec (x >>= f) s).2 := by
  rw [exec_bind]
  rcases h : exec x s with ⟨_ | a, t⟩
  · simpa [h] using hx
  · rw [h] at hx
    exact hf a t h hx

theorem exec_forM_nil (f : α → ExceptT ε (StateM σ) PUnit) (s : σ) :
    exec (([] : List α).forM f) s = (.ok ⟨⟩, s) := rfl

theorem exec_forM_cons (a : α) (l : List α) (f : α → ExceptT ε (StateM σ) PUnit) (s : σ) :
    exec ((a :: l).forM f) s = exec (f a >>= fun _ => l.forM f) s := rfl

theorem exec_forM_append (l₁ l₂ : List α) (f : α → ExceptT ε (StateM σ) PUnit) (s : σ) :
    exec ((l₁ ++ l₂).forM f) s = exec (l₁.forM f >>= fun _ => l₂.forM f) s := by
  induction l₁ generalizing s with
  | nil => rfl
  | cons a l₁ ih =>
      rw [List.cons_append, exec_forM_cons, exec_bind, exec_bind, exec_forM_cons, exec_bind]
      rcases exec (f a) s with ⟨_ | _, t⟩
      · rfl
      · exact (ih t).trans (exec_bind _ _ _)

theorem exec_forM_ok_split {f : α → ExceptT ε (StateM σ) PUnit} {before after : List α} {a : α}
    {s t : σ} (h : exec ((before ++ a :: after).forM f) s = (.ok ⟨⟩, t)) :
    ∃ u v, exec (before.forM f) s = (.ok ⟨⟩, u) ∧ exec (f a) u = (.ok ⟨⟩, v) ∧
      exec (after.forM f) v = (.ok ⟨⟩, t) := by
  rw [exec_forM_append, exec_bind_eq_ok] at h
  obtain ⟨_, u, hbefore, h⟩ := h
  rw [exec_forM_cons, exec_bind_eq_ok] at h
  obtain ⟨_, v, ha, hafter⟩ := h
  exact ⟨u, v, hbefore, ha, hafter⟩

theorem exec_forM_error_split {f : α → ExceptT ε (StateM σ) PUnit} {l : List α} {s t : σ} {e : ε}
    (h : exec (l.forM f) s = (.error e, t)) : ∃ before a after u, l = before ++ a :: after ∧
      exec (before.forM f) s = (.ok ⟨⟩, u) ∧ exec (f a) u = (.error e, t) := by
  induction l generalizing s with
  | nil => cases h
  | cons a l ih =>
      rw [exec_forM_cons, exec_bind_eq_error] at h
      rcases h with ha | ⟨_, u, ha, h⟩
      · exact ⟨[], a, l, s, rfl, rfl, ha⟩
      · obtain ⟨before, b, after, v, rfl, hbefore, hb⟩ := ih h
        refine ⟨a :: before, b, after, v, rfl, ?_, hb⟩
        rw [exec_forM_cons, exec_bind_of_ok ha]
        exact hbefore

theorem forM_congr {m : Type → Type} [Monad m] {f g : α → m PUnit} {l : List α}
    (h : ∀ a ∈ l, f a = g a) : l.forM f = l.forM g := by
  induction l with
  | nil => rfl
  | cons a l ih =>
      change (f a >>= fun _ => l.forM f) = g a >>= fun _ => l.forM g
      rw [h a (by simp), ih fun b hb => h b (by simp [hb])]

theorem exec_forM_induct {P : σ → Prop} {f : α → ExceptT ε (StateM σ) PUnit} {l : List α}
    (hf : ∀ a ∈ l, ∀ s, P s → P (exec (f a) s).2) {s : σ} (hs : P s) :
    P (exec (l.forM f) s).2 := by
  induction l generalizing s with
  | nil => exact hs
  | cons a l ih =>
      rw [exec_forM_cons]
      apply exec_bind_induct
      · exact hf a (by simp) s hs
      · intro _ t _ ht
        exact ih (fun b hb => hf b (by simp [hb])) ht

theorem exec_forM_ok_induct {P : σ → Prop} {f : α → ExceptT ε (StateM σ) PUnit} {l : List α}
    (hf : ∀ a ∈ l, ∀ s t, P s → exec (f a) s = (.ok ⟨⟩, t) → P t) {s t : σ} (hs : P s)
    (h : exec (l.forM f) s = (.ok ⟨⟩, t)) : P t := by
  induction l generalizing s with
  | nil =>
      simp only [exec_forM_nil, Prod.mk.injEq, true_and] at h
      exact h ▸ hs
  | cons a l ih =>
      rw [exec_forM_cons, exec_bind_eq_ok] at h
      obtain ⟨_, u, ha, hl⟩ := h
      exact ih (fun b hb => hf b (by simp [hb])) (hf a (by simp) s u hs ha) hl

theorem exec_forM_ok_break {P : σ → Prop} {f : α → ExceptT ε (StateM σ) PUnit} {l : List α}
    {s t : σ} (hs : P s) (ht : ¬P t) (h : exec (l.forM f) s = (.ok ⟨⟩, t)) :
    ∃ before a after u v, l = before ++ a :: after ∧ exec (before.forM f) s = (.ok ⟨⟩, u) ∧ P u ∧
      exec (f a) u = (.ok ⟨⟩, v) ∧ ¬P v := by
  induction l generalizing s with
  | nil =>
      cases h
      exact absurd hs ht
  | cons a l ih =>
      rw [exec_forM_cons, exec_bind_eq_ok] at h
      obtain ⟨_, u, ha, h⟩ := h
      by_cases hu : P u
      · obtain ⟨before, b, after, v, w, rfl, hbefore, hv, hb, hw⟩ := ih hu h
        refine ⟨a :: before, b, after, v, w, rfl, ?_, hv, hb, hw⟩
        rw [exec_forM_cons, exec_bind_of_ok ha]
        exact hbefore
      · exact ⟨[], a, l, s, u, rfl, rfl, hs, ha, hu⟩

/-! ### Runs that end alike -/

def Agree (p q : Except ε α × σ) : Prop :=
  (∃ a t, p = (.ok a, t) ∧ q = (.ok a, t)) ∨
    ((∃ e t, p = (.error e, t)) ∧ ∃ e t, q = (.error e, t))

namespace Agree

variable {p q r : Except ε α × σ}

theorem refl (p : Except ε α × σ) : Agree p p := by
  rcases p with ⟨e | a, t⟩
  · exact .inr ⟨⟨e, t, rfl⟩, e, t, rfl⟩
  · exact .inl ⟨a, t, rfl, rfl⟩

theorem of_eq (h : p = q) : Agree p q :=
  h ▸ refl p

theorem trans (h : Agree p q) (h' : Agree q r) : Agree p r := by
  rcases h with ⟨a, t, hp, hq⟩ | ⟨hp, e, t, hq⟩
  · rcases h' with ⟨a', t', hq', hr⟩ | ⟨⟨e', t', hq'⟩, _⟩
    · rw [hq] at hq'
      cases hq'
      exact .inl ⟨a, t, hp, hr⟩
    · rw [hq] at hq'
      cases hq'
  · rcases h' with ⟨a', t', hq', _⟩ | ⟨_, hr⟩
    · rw [hq] at hq'
      cases hq'
    · exact .inr ⟨hp, hr⟩

theorem of_errors {e e' : ε} {t t' : σ} (hp : p = (.error e, t)) (hq : q = (.error e', t')) :
    Agree p q :=
  .inr ⟨⟨e, t, hp⟩, e', t', hq⟩

theorem bind {x y : ExceptT ε (StateM σ) α} {f g : α → ExceptT ε (StateM σ) β} {s : σ}
    (hx : Agree (exec x s) (exec y s))
    (hf : ∀ a t, exec x s = (.ok a, t) → exec y s = (.ok a, t) →
      Agree (exec (f a) t) (exec (g a) t)) :
    Agree (exec (x >>= f) s) (exec (y >>= g) s) := by
  rcases hx with ⟨a, t, hp, hq⟩ | ⟨⟨e, t, hp⟩, e', t', hq⟩
  · rw [exec_bind_of_ok hp, exec_bind_of_ok hq]
    exact hf a t hp hq
  · exact of_errors (exec_bind_of_error hp f) (exec_bind_of_error hq g)

end Agree

/-! ### Runs with the same outcome -/

/-- Whether two runs have the same result in the same state, or else the same failure, whatever
the states are that it leaves. -/
def Coincide (p q : Except ε α × σ) : Prop :=
  p = q ∨ ∃ e t t', p = (.error e, t) ∧ q = (.error e, t')

namespace Coincide

variable {p q r : Except ε α × σ}

theorem refl (p : Except ε α × σ) : Coincide p p :=
  .inl rfl

theorem trans (h : Coincide p q) (h' : Coincide q r) : Coincide p r := by
  rcases h with rfl | ⟨e, t, u, hp, hq⟩
  · exact h'
  · rcases h' with rfl | ⟨e', t', u', hq', hr⟩
    · exact .inr ⟨e, t, u, hp, hq⟩
    · cases hq.symm.trans hq'
      exact .inr ⟨e, t, u', hp, hr⟩

theorem bind {x y : ExceptT ε (StateM σ) α} {f g : α → ExceptT ε (StateM σ) β} {s : σ}
    (hx : Coincide (exec x s) (exec y s))
    (hf : ∀ a t, exec x s = (.ok a, t) → Coincide (exec (f a) t) (exec (g a) t)) :
    Coincide (exec (x >>= f) s) (exec (y >>= g) s) := by
  rcases hx with hxy | ⟨e, t, t', hp, hq⟩
  · rw [exec_bind, exec_bind, ← hxy]
    rcases h : exec x s with ⟨e | a, t⟩
    · exact .refl _
    · exact hf a t h
  · exact .inr ⟨e, t, t', exec_bind_of_error hp f, exec_bind_of_error hq g⟩

theorem agree (h : Coincide p q) : Agree p q := by
  rcases h with rfl | ⟨e, t, t', hp, hq⟩
  · exact .refl p
  · exact .of_errors hp hq

theorem fst_eq (h : Coincide p q) : p.1 = q.1 := by
  rcases h with rfl | ⟨e, t, t', rfl, rfl⟩ <;> rfl

theorem snd_eq (h : Coincide p q) {a : α} (hp : p.1 = .ok a) : p.2 = q.2 := by
  rcases h with rfl | ⟨e, t, t', rfl, rfl⟩
  · rfl
  · cases hp

end Coincide

end FieldPipeline
