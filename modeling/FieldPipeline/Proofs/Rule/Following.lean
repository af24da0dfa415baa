import FieldPipeline.Proofs.Rule.Chain

/-!
Chains without a common account.  Here every action is given what follows it as a computation, and
minds for itself what has become of its one call of it.  Running a chain comes to the same: what
the account says of the place of an action is what that action knows of its own call.
-/

namespace FieldPipeline

/-- Whether an action may go on after a failure of the following one instead of failing likewise. -/
def Script.Catches {isAsync : Bool} (f : Failure) : Script isAsync → Prop
  | .return _ | .returnNext | .raise _ => False
  | .work _ goOn => ∃ v, (goOn v).Catches f
  | .next goOn => ∃ r, (goOn r).Catches f
  | .wait _ goOn => goOn (.error f) ≠ .raise f ∨ ∃ r, (goOn r).Catches f

namespace Chain

section Actions

variable (isAsync : Bool) (route : Option String) (place : Nat) (following : Run Result)

/-- Gives back a result.  What has been waited for once cannot be waited for again, as it would be
when an action returns it that is not asynchronous. -/
def give : Result → Run Result
  | .value v => pure (.value v)
  | .spent => if isAsync then pure .spent else throw (.fault .waitedTwice)

def finish (held : Held) (r : Result) : Run Result := do
  let r ← give isAsync r
  if held = .waiting then throw (.chain (.droppedNext route place)) else return r

def handOver : Held → Run Result
  | .nothing => pure (.value .null)
  | .waiting =>
    if isAsync then throw (.chain (.droppedNext route place)) else following
  | .spent => give isAsync .spent

end Actions

/-- Goes through the script of the action at a place.  What follows is called once, and begins when
the action waits for it or hands it over. -/
def play {isAsync : Bool} (facts : Facts) (route : Option String) (place : Nat)
    (following : Run Result) : Held → Script isAsync → Run Result
  | held, .return r => finish isAsync route place held r
  | held, .returnNext => handOver isAsync route place following held
  | _, .raise f => throw f
  | held, .work x goOn => do
    let v ← attempt (x facts)
    play facts route place following held (goOn v)
  | .nothing, .next goOn => play facts route place following .waiting (goOn (.ok ()))
  | held, .next goOn =>
    play facts route place following held (goOn (.error (.chain (.repeatedNext route place))))
  | .waiting, .wait _ goOn => do
    let r ← attempt following
    play facts route place following .spent (goOn r)
  | .spent, .wait _ goOn =>
    play facts route place following .spent (goOn (.error (.fault .waitedTwice)))
  | .nothing, .wait _ goOn =>
    play facts route place following .nothing (goOn (.error (.fault .wrongType)))

theorem play_next_of_ne {isAsync : Bool} {facts : Facts} {route : Option String} {place : Nat}
    {following : Run Result} {held : Held} (hheld : held ≠ .nothing)
    (goOn : Except Failure Unit → Script isAsync) :
    play facts route place following held (.next goOn) = play facts route place following held
      (goOn (.error (.chain (.repeatedNext route place)))) := by
  cases held with
  | nothing => exact absurd rfl hheld
  | waiting | spent => rfl

def inTurn (facts : Facts) (route : Option String) : Nat → List Action → Run Result
  | _, [] => pure (.value .null)
  | place, a :: rest =>
    play facts route place (inTurn facts route (place + 1) rest) .nothing a.script

@[simp] theorem exec_attempt {α : Type} (x : Run α) (s : Session) :
    exec (attempt x) s = (.ok (exec x s).1, (exec x s).2) := rfl

/-! ### Computations with and without an account -/

section Simulates

variable {α β : Type} {P Q R E E' : ChainState → Prop}

/-- Whether a computation in a chain does what another one does without an account.  `P` is what
the account has to satisfy before, `Q` what it satisfies after a success, `E` after a failure. -/
def Simulates (P Q E : ChainState → Prop) (x : ChainRun α) (y : Run α) : Prop :=
  ∀ a s, P a → ∃ b, execIn x a s = (((exec y s).1, b), (exec y s).2) ∧
    match (exec y s).1 with
    | .ok _ => Q b
    | .error _ => E b

namespace Simulates

theorem pure (v : α) : Simulates P P E (Pure.pure v) (Pure.pure v) :=
  fun a _ ha => ⟨a, rfl, ha⟩

theorem throw (f : Failure) (hE : ∀ a, P a → E a) :
    Simulates P Q E (MonadExcept.throw f : ChainRun α) (MonadExcept.throw f) :=
  fun a _ ha => ⟨a, rfl, hE a ha⟩

theorem lift (y : Run α) : Simulates P P P (Chain.lift y) y := by
  intro a s ha
  refine ⟨a, execIn_lift y a s, ?_⟩
  split <;> exact ha

theorem change {f : ChainState → ChainState} (hQ : ∀ a, P a → Q (f a)) :
    Simulates P Q E (Chain.change f) (Pure.pure ()) :=
  fun a _ ha => ⟨f a, rfl, hQ a ha⟩

theorem mono {x : ChainRun α} {y : Run α} {P' Q' : ChainState → Prop}
    (h : Simulates P Q E x y) (hP : ∀ a, P' a → P a) (hQ : ∀ a, Q a → Q' a)
    (hE : ∀ a, E a → E' a) : Simulates P' Q' E' x y := by
  intro a s ha
  obtain ⟨b, hexec, hb⟩ := h a s (hP a ha)
  refine ⟨b, hexec, ?_⟩
  revert hb
  cases (exec y s).1 with
  | ok v => exact hQ b
  | error f => exact hE b

theorem bind {x : ChainRun α} {y : Run α} {f : α → ChainRun β} {g : α → Run β}
    (hx : Simulates P Q E x y) (hf : ∀ v, Simulates Q R E (f v) (g v)) :
    Simulates P R E (x >>= f) (y >>= g) := by
  intro a s ha
  obtain ⟨b, hexec, hb⟩ := hx a s ha
  rw [execIn_bind, exec_bind, hexec]
  rcases h : exec y s with ⟨e | v, t⟩
  · rw [h] at hb
    exact ⟨b, rfl, hb⟩
  · rw [h] at hb
    exact hf v b t hb

theorem attempt {x : ChainRun α} {y : Run α} (h : Simulates P Q Q x y) :
    Simulates P Q E (Chain.attempt x) (Chain.attempt y) := by
  intro a s ha
  obtain ⟨b, hexec, hb⟩ := h a s ha
  refine ⟨b, by rw [execIn_attempt, hexec, exec_attempt], ?_⟩
  revert hb
  cases (exec y s).1 <;> exact id

end Simulates

end Simulates

/-! ### What the account says -/

structure Begins (place : Nat) (a : ChainState) : Prop where
  asked_eq : a.asked = place + 1
  pending_le : ∀ p ∈ a.pending, p ≤ place
  started_eq : a.started = (List.range place).reverse

/-- An account when the actions from a place on have come to their end: all up to some place have
been started, one after the other. -/
def Ends (place limit : Nat) (a : ChainState) : Prop :=
  ∃ k, place < k ∧ k ≤ limit ∧ k ≤ a.asked ∧ a.started = (List.range k).reverse

def AtWork (place limit : Nat) : Held → ChainState → Prop
  | .nothing, a => a.asked = place + 1 ∧ (∀ p ∈ a.pending, p ≤ place) ∧
    a.started = (List.range (place + 1)).reverse
  | .waiting, a => Begins (place + 1) a ∧ place + 1 ∈ a.pending
  | .spent, a => Ends (place + 1) limit a

section Account

variable {place limit : Nat} {route : Option String} {a : ChainState} {held : Held}

theorem Ends.of_next (h : Ends (place + 1) limit a) : Ends place limit a := by
  obtain ⟨k, hplace, hk⟩ := h
  exact ⟨k, by omega, hk⟩

theorem AtWork.ends (h : AtWork place limit held a) (hlimit : place + 1 ≤ limit) :
    Ends place limit a := by
  cases held with
  | nothing => exact ⟨place + 1, by omega, hlimit, Nat.le_of_eq h.1.symm, h.2.2⟩
  | waiting =>
      have hasked := h.1.asked_eq
      exact ⟨place + 1, by omega, hlimit, by omega, h.1.started_eq⟩
  | spent => exact Ends.of_next h

theorem AtWork.asked_gt (h : AtWork place limit held a) (hheld : held ≠ .nothing) :
    place + 1 < a.asked := by
  cases held with
  | nothing => exact absurd rfl hheld
  | waiting =>
      have hasked := h.1.asked_eq
      omega
  | spent =>
      obtain ⟨k, hk⟩ := h
      omega

theorem execIn_ask_of_nothing (route : Option String) (h : AtWork place limit .nothing a)
    (s : Session) : ∃ b, execIn (ask route (place + 1)) a s = ((.ok (), b), s) ∧
      AtWork place limit .waiting b := by
  obtain ⟨hasked, hpending, hstarted⟩ := h
  refine ⟨{ a with asked := place + 2, pending := (place + 1) :: a.pending }, ?_,
    ⟨rfl, fun p hp => ?_, hstarted⟩, List.mem_cons_self⟩
  · rw [execIn_ask, if_neg (by omega)]
  rcases List.mem_cons.mp hp with rfl | hp
  · exact Nat.le_refl _
  · exact Nat.le_succ_of_le (hpending p hp)

theorem execIn_ask_of_ne (h : AtWork place limit held a) (hheld : held ≠ .nothing) (s : Session) :
    execIn (ask route (place + 1)) a s =
      ((.error (.chain (.repeatedNext route place)), a), s) := by
  have hplace : Int.ofNat (place + 1) - 1 = (place : Int) := by
    simp
  rw [execIn_ask, if_pos (h.asked_gt hheld), hplace]

theorem simulates_settle (hlimit : place + 1 ≤ limit) (held : Held) (r : Result) :
    Simulates (AtWork place limit held) (Ends place limit) (Ends place limit)
      (do settle route place; return r)
      (if held = .waiting then throw (.chain (.droppedNext route place)) else return r) := by
  intro a s ha
  have hends : Ends place limit { a with pending := a.pending.filter (· != place + 1) } :=
    ha.ends hlimit
  rw [execIn_bind, execIn_settle]
  dsimp only
  cases held with
  | nothing =>
      have hnew : a.pending.contains (place + 1) = false := by
        rw [List.contains_eq_mem, decide_eq_false_iff_not]
        intro hp
        have hle := ha.2.1 _ hp
        omega
      rw [hnew]
      exact ⟨_, rfl, hends⟩
  | waiting =>
      have hpending : a.pending.contains (place + 1) = true := by simpa using ha.2
      have hnew : a.started.contains (place + 1) = false := by simp [ha.1.started_eq]
      rw [hpending, hnew]
      exact ⟨_, rfl, hends⟩
  | spent =>
      have hstarted : a.started.contains (place + 1) = true := by
        obtain ⟨k, hk, _, _, hstarted⟩ := ha
        simpa [hstarted] using hk
      rw [hstarted, Bool.not_true, Bool.and_false]
      exact ⟨_, rfl, hends⟩

end Account

section Scripts

variable {facts : Facts} {route : Option String} {place limit : Nat} {rest : ChainRun Result}
  {following : Run Result} {isAsync : Bool}

theorem simulates_result (hlimit : place + 1 ≤ limit) (held : Held) (r : Result) :
    Simulates (AtWork place limit held) (Ends place limit) (Ends place limit)
      (do
        let r ← conclude rest isAsync (.result r)
        settle route place
        return r)
      (finish isAsync route place held r) := by
  have hfail : ∀ a, AtWork place limit held a → Ends place limit a := fun _ ha => ha.ends hlimit
  cases r with
  | value v => exact simulates_settle hlimit held (.value v)
  | spent =>
      cases isAsync with
      | true => exact simulates_settle hlimit held .spent
      | false => exact fun a s ha => ⟨a, rfl, hfail a ha⟩

variable (hrest : Simulates (Begins (place + 1)) (Ends (place + 1) limit)
  (Ends (place + 1) limit) rest following)
include hrest

theorem simulates_next (hlimit : place + 1 ≤ limit) (held : Held) :
    Simulates (AtWork place limit held) (Ends place limit) (Ends place limit)
      (do
        let r ← conclude rest isAsync (.next held)
        settle route place
        return r)
      (handOver isAsync route place following held) := by
  cases held with
  | nothing => exact simulates_settle hlimit .nothing _
  | spent =>
      cases isAsync with
      | true => exact simulates_settle hlimit .spent _
      | false => exact fun a s ha => ⟨a, rfl, ha.ends hlimit⟩
  | waiting =>
      cases isAsync with
      | true => exact simulates_settle hlimit .waiting _
      | false =>
          have hended : (following >>= fun r => return r) = following := bind_pure following
          have hwaited : Simulates (AtWork place limit .waiting) (AtWork place limit .spent)
              (Ends place limit) rest following :=
            hrest.mono (fun _ ha => ha.1) (fun _ => id) fun _ => Ends.of_next
          exact hended ▸ hwaited.bind fun r => simulates_settle hlimit .spent r

theorem simulates_script (hlimit : place + 1 ≤ limit) (held : Held) (script : Script isAsync) :
    Simulates (AtWork place limit held) (Ends place limit) (Ends place limit)
      (do
        let ending ← runScript facts route (place + 1) rest held script
        let r ← conclude rest isAsync ending
        settle route place
        return r)
      (play facts route place following held script) := by
  have hfail : ∀ held a, AtWork place limit held a → Ends place limit a :=
    fun _ _ ha => ha.ends hlimit
  induction script generalizing held with
  | «return» r =>
      rw [runScript, pure_bind]
      exact simulates_result hlimit held r
  | returnNext =>
      rw [runScript, pure_bind]
      exact simulates_next hrest hlimit held
  | raise f => exact fun a s ha => ⟨a, rfl, hfail held a ha⟩
  | work x goOn ih =>
      rw [runScript, bind_assoc]
      exact (Simulates.attempt (.lift _)).bind fun v => ih v held
  | next goOn ih =>
      intro a s ha
      rw [runScript, bind_assoc, execIn_bind_of_ok (execIn_attempt _ a s)]
      by_cases hheld : held = .nothing
      · subst hheld
        obtain ⟨b, hask, hb⟩ := execIn_ask_of_nothing route ha s
        rw [hask]
        exact ih (.ok ()) .waiting b s hb
      · rw [execIn_ask_of_ne ha hheld, play_next_of_ne hheld]
        exact ih (.error _) held a s ha
  | wait h goOn ih =>
      rw [runScript, bind_assoc]
      cases held with
      | nothing => exact ih _ .nothing
      | spent => exact ih _ .spent
      | waiting =>
          have hwaited : Simulates (AtWork place limit .waiting) (AtWork place limit .spent)
              (AtWork place limit .spent) rest following :=
            hrest.mono (fun _ ha => ha.1) (fun _ => id) fun _ => id
          exact hwaited.attempt.bind fun r => ih r .spent

end Scripts

theorem simulates_runFrom (facts : Facts) (route : Option String) (place : Nat)
    (actions : List Action) :
    Simulates (Begins place) (Ends place (place + actions.length + 1))
      (Ends place (place + actions.length + 1)) (runFrom facts route place actions)
      (inTurn facts route place actions) := by
  induction actions generalizing place with
  | nil =>
      intro a s ha
      rw [execIn_runFrom_nil]
      refine ⟨_, rfl, place + 1, by omega, by simp, Nat.le_of_eq ha.asked_eq.symm, ?_⟩
      simp [ha.started_eq, List.range_succ]
  | cons action rest ih =>
      have hbegun : ∀ a, Begins place a → AtWork place (place + (action :: rest).length + 1)
          .nothing { a with started := place :: a.started } := fun a ha =>
        ⟨ha.asked_eq, ha.pending_le, by simp [ha.started_eq, List.range_succ]⟩
      have hrest := ih (place + 1)
      rw [show place + 1 + rest.length + 1 = place + (action :: rest).length + 1 by
        simp only [List.length_cons]; omega] at hrest
      exact (Simulates.change hbegun).bind fun _ =>
        simulates_script hrest (by omega) .nothing action.script

/-! ### Failures of what follows -/

section Failures

variable {x z : Run Result → Run Result} {s t u : Session} {P Q : Failure → Prop}

def Ignores (x : Run Result → Run Result) (s : Session) : Prop :=
  ∀ y y', exec (x y) s = exec (x y') s

/-- Whether a computation in a session `s` runs the one that it is given in a session `t`, and
fails as that one does unless the failure is one that it catches. -/
structure Passes (catches : Failure → Prop) (x : Run Result → Run Result) (s t : Session) :
    Prop where
  reaches : ∀ y y', exec y t = exec y' t → exec (x y) s = exec (x y') s
  passes : ∀ y f u, exec y t = (.error f, u) → ¬catches f → exec (x y) s = (.error f, u)

theorem Passes.comp (h : Passes P x s t) (hz : Passes Q z t u) :
    Passes (fun f => P f ∨ Q f) (fun y => x (z y)) s u where
  reaches y y' heq := h.reaches _ _ (hz.reaches y y' heq)
  passes y f v hy hf := h.passes _ f v (hz.passes y f v hy fun hq => hf (.inr hq))
    fun hp => hf (.inl hp)

inductive ComesBack (catches : Failure → Prop) (x : Run Result → Run Result) (s : Session) :
    Prop where
  | ignored (h : Ignores x s)
  | passed (t : Session) (h : Passes catches x s t)

theorem ComesBack.of_eq (h : ComesBack P z t) (heq : ∀ y, exec (x y) s = exec (z y) t)
    (hP : ∀ f, P f → Q f) : ComesBack Q x s := by
  cases h with
  | ignored h => exact .ignored fun y y' => by rw [heq, heq, h y y']
  | passed u h =>
      refine .passed u ⟨fun y y' hy => ?_, fun y f v hy hf => ?_⟩
      · rw [heq, heq, h.reaches y y' hy]
      · rw [heq, h.passes y f v hy fun hp => hf (hP f hp)]

end Failures

section Actions

variable {facts : Facts} {route : Option String} {place : Nat} {isAsync : Bool}

theorem play_spent (y y' : Run Result) (script : Script isAsync) :
    play facts route place y .spent script = play facts route place y' .spent script := by
  induction script with
  | «return» r | returnNext | raise f => rfl
  | work x goOn ih => simp only [play, ih]
  | next goOn ih | wait h goOn ih => exact ih _

/-- An action runs what follows it at most once, and then fails as that does unless it catches the
failure. -/
theorem comesBack_play (held : Held) (script : Script isAsync) (s : Session) :
    ComesBack script.Catches (fun y => play facts route place y held script) s := by
  induction script generalizing held s with
  | «return» r | raise f => exact .ignored fun _ _ => rfl
  | returnNext =>
      cases held with
      | nothing | spent => exact .ignored fun _ _ => rfl
      | waiting =>
          cases isAsync with
          | true => exact .ignored fun _ _ => rfl
          | false => exact .passed s ⟨fun _ _ => id, fun _ _ _ hy _ => hy⟩
  | work x goOn ih =>
      exact (ih (exec (x facts) s).1 held (exec (x facts) s).2).of_eq
        (fun y => exec_bind_of_ok (exec_attempt (x facts) s) _) fun f hf => ⟨_, hf⟩
  | next goOn ih =>
      cases held with
      | nothing => exact (ih (.ok ()) .waiting s).of_eq (fun _ => rfl) fun f hf => ⟨_, hf⟩
      | waiting => exact (ih (.error _) .waiting s).of_eq (fun _ => rfl) fun f hf => ⟨_, hf⟩
      | spent => exact (ih (.error _) .spent s).of_eq (fun _ => rfl) fun f hf => ⟨_, hf⟩
  | wait h goOn ih =>
      cases held with
      | nothing => exact (ih _ .nothing s).of_eq (fun _ => rfl) fun f hf => .inr ⟨_, hf⟩
      | spent => exact (ih _ .spent s).of_eq (fun _ => rfl) fun f hf => .inr ⟨_, hf⟩
      | waiting =>
          have hwait : ∀ y, exec (play facts route place y .waiting (.wait h goOn)) s =
              exec (play facts route place y .spent (goOn (exec y s).1)) (exec y s).2 :=
            fun y => exec_bind_of_ok (exec_attempt y s) _
          refine .passed s ⟨fun y y' heq => ?_, fun y f u hy hf => ?_⟩
          · rw [hwait, hwait, heq, play_spent y y']
          · have hraises : goOn (.error f) = .raise f := by
              by_contra hne
              exact hf (.inl hne)
            rw [hwait, hy, hraises]
            rfl

def around (facts : Facts) (route : Option String) :
    Nat → List Action → Run Result → Run Result
  | _, [], following => following
  | place, a :: rest, following =>
    play facts route place (around facts route (place + 1) rest following) .nothing a.script

theorem inTurn_append (place : Nat) (before rest : List Action) :
    inTurn facts route place (before ++ rest) =
      around facts route place before (inTurn facts route (place + before.length) rest) := by
  induction before generalizing place with
  | nil => rfl
  | cons a before ih =>
      rw [List.cons_append, inTurn, ih, around, List.length_cons, Nat.add_assoc, Nat.add_comm 1]

theorem comesBack_around (place : Nat) (before : List Action) (s : Session) :
    ComesBack (fun f => ∃ a ∈ before, a.script.Catches f) (around facts route place before) s := by
  induction before generalizing place s with
  | nil => exact .passed s ⟨fun _ _ => id, fun _ _ _ h _ => h⟩
  | cons a before ih =>
      cases @comesBack_play facts route place a.isAsync .nothing a.script s with
      | ignored h => exact .ignored fun _ _ => h _ _
      | passed t h =>
          cases ih (place + 1) t with
          | ignored hbefore => exact .ignored fun y y' => h.reaches _ _ (hbefore y y')
          | passed u hbefore =>
              refine .passed u ⟨fun y y' hy => h.reaches _ _ (hbefore.reaches y y' hy), ?_⟩
              intro y f v hy hf
              refine (h.comp hbefore).passes y f v hy ?_
              rintro (hcatches | ⟨b, hb, hcatches⟩)
              · exact hf ⟨a, List.mem_cons_self, hcatches⟩
              · exact hf ⟨b, List.mem_cons_of_mem a hb, hcatches⟩

/-- The places of the actions that a chain starts, one after the other.  The last of them may be
that behind all actions. -/
def startedBy (actions : List Action) (route : Option String) (facts : Facts) (s : Session) :
    List Nat :=
  let out := execIn (do
    ask route 0
    runFrom facts route 0 actions) {} s
  out.1.2.started.reverse

/-- A chain with its account does what its actions do in turn.  It starts them in their order, each
at most once, and what fails behind some of them comes back as it is unless one of them catches
it. -/
theorem run_eq_inTurn (actions : List Action) (route : Option String) (facts : Facts)
    (s : Session) :
    exec (run actions route facts) s = exec (inTurn facts route 0 actions) s ∧
      (∃ k, k ≤ actions.length + 1 ∧ startedBy actions route facts s = List.range k) ∧
      ∀ n, inTurn facts route 0 actions =
          around facts route 0 (actions.take n)
            (inTurn facts route (actions.take n).length (actions.drop n)) ∧
        ComesBack (fun f => ∃ a ∈ actions.take n, a.script.Catches f)
          (around facts route 0 (actions.take n)) s := by
  have hbegins : Begins 0 { asked := 1, pending := [0] } := ⟨rfl, by simp, rfl⟩
  obtain ⟨b, hexec, hb⟩ := simulates_runFrom facts route 0 actions _ s hbegins
  have hstart : execIn (do ask route 0; runFrom facts route 0 actions) {} s =
      (((exec (inTurn facts route 0 actions) s).1, b),
        (exec (inTurn facts route 0 actions) s).2) := by
    rw [execIn_bind_of_ok (execIn_ask route 0 {} s), hexec]
  refine ⟨?_, ?_, fun n => ⟨?_, comesBack_around 0 _ s⟩⟩
  · rw [exec_run, hstart]
  · have hends : Ends 0 (0 + actions.length + 1) b := by
      revert hb
      split <;> exact id
    obtain ⟨k, _, hk, _, hstarted⟩ := hends
    refine ⟨k, by omega, ?_⟩
    rw [startedBy, hstart]
    simp [hstarted]
  · have happend := @inTurn_append facts route 0 (actions.take n) (actions.drop n)
    rwa [List.take_append_drop, Nat.zero_add] at happend

end Actions

end Chain

end FieldPipeline
