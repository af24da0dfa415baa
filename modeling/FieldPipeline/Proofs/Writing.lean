import FieldPipeline.Proofs.Record
import FieldPipeline.Proofs.Session

/-!
Computations that write to some fields only.  Of everything that a session holds, they change the
values that will be written, under names that are known beforehand, besides readings, the log and
the warnings.
-/

namespace FieldPipeline

structure Session.Writes (written : String → Prop) (s t : Session) : Prop where
  settings : t.settings = s.settings
  sources : t.sources = s.sources
  store : t.store = s.store
  context : t.context =
    { s.context with latest := t.context.latest, progress := t.context.progress }
  latest : ∀ name, ¬written name → t.context.latest.get? name = s.context.latest.get? name
  nodup : s.context.latest.names.Nodup → t.context.latest.names.Nodup
  grows : ∀ name, s.context.latest.has name = true → t.context.latest.has name = true

namespace Session.Writes

variable {written : String → Prop} {s t u : Session}

theorem refl (s : Session) : Session.Writes written s s :=
  ⟨rfl, rfl, rfl, rfl, fun _ _ => rfl, id, fun _ => id⟩

theorem trans (h : Session.Writes written s t) (h' : Session.Writes written t u) :
    Session.Writes written s u where
  settings := h'.settings.trans h.settings
  sources := h'.sources.trans h.sources
  store := h'.store.trans h.store
  context := by rw [h'.context, h.context]
  latest name hname := (h'.latest name hname).trans (h.latest name hname)
  nodup hs := h'.nodup (h.nodup hs)
  grows name hname := h'.grows name (h.grows name hname)

theorem mono {written' : String → Prop} (h : Session.Writes written s t)
    (hsub : ∀ name, written name → written' name) : Session.Writes written' s t :=
  { h with latest := fun name hname => h.latest name fun hwritten => hname (hsub name hwritten) }

theorem existing (h : Session.Writes written s t) : t.context.existing = s.context.existing := by
  rw [h.context]

theorem mode (h : Session.Writes written s t) : t.context.mode = s.context.mode := by
  rw [h.context]

theorem raw (h : Session.Writes written s t) : t.context.raw = s.context.raw := by
  rw [h.context]

theorem condition (h : Session.Writes written s t) :
    t.context.condition = s.context.condition := by
  rw [h.context]

theorem has (h : Session.Writes written s t) {name : String} (hname : ¬written name) :
    t.context.latest.has name = s.context.latest.has name := by
  unfold Record.has
  rw [h.latest name hname]

theorem lookUp? (h : Session.Writes written s t) {name : String} (hname : ¬written name) :
    t.context.lookUp? name = s.context.lookUp? name := by
  unfold Context.lookUp?
  rw [h.latest name hname, h.existing]

end Session.Writes

namespace Run

variable {α β : Type} {written : String → Prop}

def WritesOnly (written : String → Prop) (x : Run α) : Prop :=
  ∀ s, Session.Writes written s (exec x s).2

namespace WritesOnly

theorem pure (a : α) : WritesOnly written (Pure.pure a : Run α) :=
  fun s => .refl s

theorem reject (entity : String) (cause : RejectionCause) :
    WritesOnly written (Run.reject entity cause : Run α) :=
  fun s => .refl s

theorem ofExcept (r : Except Failure α) : WritesOnly written (Run.ofExcept r) := by
  intro s
  rw [exec_ofExcept]
  exact .refl s

theorem ofDraws {x : Run α} (hx : Draws x) : WritesOnly written x := by
  obtain ⟨draw, hdraw⟩ := hx
  intro s
  rw [hdraw]
  exact ⟨rfl, rfl, rfl, rfl, fun _ _ => rfl, id, fun _ => id⟩

theorem warn (text : String) : WritesOnly written (Run.warn text) :=
  fun _ => ⟨rfl, rfl, rfl, rfl, fun _ _ => rfl, id, fun _ => id⟩

theorem setLatest {name : String} (hname : written name) (v : Value) :
    WritesOnly written (Run.setLatest name v) := by
  intro s
  refine ⟨rfl, rfl, rfl, rfl, fun other hother => ?_, fun h => Record.nodup_names_put h name v,
    fun other hother => ?_⟩
  · have hne : name ≠ other := fun h => hother (by rwa [← h])
    exact Record.get?_put_of_ne _ hne v
  · change (s.context.latest.put name v).has other = true
    rw [Record.has_put, hother, Bool.or_true]

theorem bind {x : Run α} {f : α → Run β} (hx : WritesOnly written x)
    (hf : ∀ a, WritesOnly written (f a)) : WritesOnly written (x >>= f) :=
  fun s => exec_bind_induct (hx s) fun a t _ ht => ht.trans (hf a t)

theorem bind_context {f : Context → Run β} (hf : ∀ c, WritesOnly written (f c)) :
    WritesOnly written (Run.context >>= f) :=
  bind (fun s => .refl s) hf

theorem forM {f : α → Run Unit} {l : List α} (hf : ∀ a ∈ l, WritesOnly written (f a)) :
    WritesOnly written (l.forM f) :=
  fun s => exec_forM_induct (P := Session.Writes written s)
    (fun a ha _ ht => ht.trans (hf a ha _)) (.refl s)

theorem explain {x : Run α} (hx : WritesOnly written x) (retell : Failure → Failure) :
    WritesOnly written (x.explain retell) := by
  intro s
  rw [exec_explain]
  exact hx s

theorem mono {written' : String → Prop} {x : Run α} (hx : WritesOnly written x)
    (hsub : ∀ name, written name → written' name) : WritesOnly written' x :=
  fun s => (hx s).mono hsub

theorem writes {x : Run α} (hx : WritesOnly written x) {s t : Session} {a : Except Failure α}
    (h : exec x s = (a, t)) : Session.Writes written s t := by
  have ht := hx s
  rwa [h] at ht

end WritesOnly

end Run

end FieldPipeline
