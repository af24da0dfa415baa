import Mathlib.Tactic.Choose
import FieldPipeline.Proofs.Effect

/-!
The steps of which computations in a session consist, and those computations that only draw on
the sources: they read the settings, take readings, and leave everything else alone.
-/

namespace FieldPipeline

def Session.write (name : String) (v : Value) (s : Session) : Session :=
  { s with context := { s.context with latest := s.context.latest.put name v } }

def Sources.still : Sources where
  instant _ := 0
  localOffset := 0
  whole _ low _ := low
  place _ _ := 0
  fraction := 0
  identifier _ := ""
  stamp := 0

namespace Run

variable {α β : Type}

@[simp] theorem exec_fail (f : Failure) (s : Session) :
    exec (fail f : Run α) s = (.error f, s) := rfl

@[simp] theorem exec_reject (entity : String) (cause : RejectionCause) (s : Session) :
    exec (reject entity cause : Run α) s = (.error (.rejected ⟨some entity, cause⟩), s) := rfl

@[simp] theorem exec_ofExcept (r : Except Failure α) (s : Session) :
    exec (ofExcept r) s = (r, s) := by
  cases r <;> rfl

@[simp] theorem exec_ofFault (r : Except Fault α) (s : Session) :
    exec (ofFault r) s = (r.mapError .fault, s) := by
  cases r <;> rfl

theorem exec_ofFault_eq_ok {r : Except Fault α} {a : α} {s t : Session} :
    exec (ofFault r) s = (.ok a, t) ↔ r = .ok a ∧ s = t := by
  rw [exec_ofFault]
  cases r with
  | ok b =>
      change ((.ok b, s) : Except Failure α × Session) = _ ↔ _
      simp
  | error fault =>
      change ((.error (.fault fault), s) : Except Failure α × Session) = _ ↔ _
      simp

theorem exec_ofFault_eq_error {r : Except Fault α} {f : Failure} {s t : Session} :
    exec (ofFault r) s = (.error f, t) ↔
      (∃ fault, r = .error fault ∧ f = .fault fault) ∧ s = t := by
  rw [exec_ofFault]
  cases r with
  | ok b =>
      change ((.ok b, s) : Except Failure α × Session) = _ ↔ _
      simp
  | error fault =>
      change ((.error (.fault fault), s) : Except Failure α × Session) = _ ↔ _
      simp [eq_comm]

@[simp] theorem exec_settings (s : Session) : exec settings s = (.ok s.settings, s) := rfl

@[simp] theorem exec_context (s : Session) : exec context s = (.ok s.context, s) := rfl

@[simp] theorem exec_setContext (change : Context → Context) (s : Session) :
    exec (setContext change) s = (.ok (), { s with context := change s.context }) := rfl

@[simp] theorem exec_setLatest (name : String) (v : Value) (s : Session) :
    exec (setLatest name v) s = (.ok (), s.write name v) := rfl

@[simp] theorem exec_warn (text : String) (s : Session) :
    exec (warn text) s = (.ok (), { s with warnings := s.warnings ++ [text] }) := rfl

@[simp] theorem exec_inStore (action : Store → Except Failure α × Store) (s : Session) :
    exec (inStore action) s = ((action s.store).1, { s with store := (action s.store).2 }) := by
  change exec (ofExcept (action s.store).1) { s with store := (action s.store).2 } = _
  rw [exec_ofExcept]

theorem exec_explain (x : Run α) (retell : Failure → Failure) (s : Session) :
    exec (x.explain retell) s = ((exec x s).1.mapError retell, (exec x s).2) := by
  rw [explain, exec_tryCatch]
  rcases exec x s with ⟨_ | _, t⟩ <;> rfl

/-- What a computation gives depends on the settings, the sources and the readings alone, and it
changes nothing but the readings. -/
def Draws (x : Run α) : Prop :=
  ∃ draw : Settings → Sources → Readings → Except Failure α × Readings, ∀ s,
    exec x s = ((draw s.settings s.sources s.readings).1,
      { s with readings := (draw s.settings s.sources s.readings).2 })

namespace Draws

theorem pure (a : α) : Draws (Pure.pure a : Run α) :=
  ⟨fun _ _ readings => (.ok a, readings), fun _ => rfl⟩

theorem fail (f : Failure) : Draws (Run.fail f : Run α) :=
  ⟨fun _ _ readings => (.error f, readings), fun _ => rfl⟩

theorem ofExcept (r : Except Failure α) : Draws (Run.ofExcept r) :=
  ⟨fun _ _ readings => (r, readings), fun s => exec_ofExcept r s⟩

theorem ofFault (r : Except Fault α) : Draws (Run.ofFault r) :=
  ⟨fun _ _ readings => (r.mapError .fault, readings), fun s => exec_ofFault r s⟩

theorem settings : Draws Run.settings :=
  ⟨fun settings _ readings => (.ok settings, readings), fun _ => rfl⟩

theorem read (f : Settings → Sources → Readings → α) :
    Draws (do let s ← get; return f s.settings s.sources s.readings : Run α) :=
  ⟨fun settings sources readings => (.ok (f settings sources readings), readings), fun _ => rfl⟩

theorem bind {x : Run α} {f : α → Run β} (hx : Draws x) (hf : ∀ a, Draws (f a)) :
    Draws (x >>= f) := by
  obtain ⟨dx, hdx⟩ := hx
  choose df hdf using hf
  refine ⟨fun settings sources readings =>
    match dx settings sources readings with
    | (.ok a, readings) => df a settings sources readings
    | (.error e, readings) => (.error e, readings), fun s => ?_⟩
  rw [exec_bind, hdx]
  rcases h : dx s.settings s.sources s.readings with ⟨_ | a, readings⟩
  · simp [h]
  · simp [h, hdf a]

theorem explain {x : Run α} (hx : Draws x) (retell : Failure → Failure) :
    Draws (x.explain retell) := by
  obtain ⟨dx, hdx⟩ := hx
  refine ⟨fun settings sources readings =>
    ((dx settings sources readings).1.mapError retell, (dx settings sources readings).2),
    fun s => ?_⟩
  rw [exec_explain, hdx]

theorem now : Draws Run.now :=
  ⟨fun settings sources readings =>
    (.ok (Calendar.Moment.ofInstant (sources.instant readings.instants)
      (if settings.isLocal then sources.localOffset else 0)),
      { readings with instants := readings.instants + 1 }), fun _ => rfl⟩

theorem wholeNumber (low high : Int) : Draws (Run.wholeNumber low high) :=
  ⟨fun _ sources readings => (.ok (sources.whole readings.wholes low high),
    { readings with wholes := readings.wholes + 1 }), fun _ => rfl⟩

theorem place (count : Nat) : Draws (Run.place count) :=
  ⟨fun _ sources readings => (.ok (sources.place readings.places count),
    { readings with places := readings.places + 1 }), fun _ => rfl⟩

theorem identifier : Draws Run.identifier :=
  ⟨fun _ sources readings => (.ok (sources.identifier (readings.identifiers + 1)),
    { readings with identifiers := readings.identifiers + 1 }), fun _ => rfl⟩

theorem stamp : Draws Run.stamp :=
  ⟨fun _ sources readings => (.ok (max sources.stamp (readings.lastStamp + 1)),
    { readings with lastStamp := max sources.stamp (readings.lastStamp + 1) }), fun _ => rfl⟩

variable {x : Run α}

theorem context_eq (hx : Draws x) (s : Session) : (exec x s).2.context = s.context := by
  obtain ⟨dx, hdx⟩ := hx
  rw [hdx]

theorem fst_exec_of_readings (hx : Draws x) {s t : Session} (hsettings : t.settings = s.settings)
    (hsources : t.sources = s.sources) :
    (exec x { t with readings := s.readings }).1 = (exec x s).1 := by
  obtain ⟨dx, hdx⟩ := hx
  rw [hdx, hdx, hsettings, hsources]

theorem exec_withContext (hx : Draws x) (s : Session) (c : Context) :
    exec x { s with context := c } = ((exec x s).1, { (exec x s).2 with context := c }) := by
  obtain ⟨dx, hdx⟩ := hx
  rw [hdx, hdx]

end Draws

end Run

end FieldPipeline
