import FieldPipeline.Field.Coercion
import FieldPipeline.Proofs.Linking.Build
import FieldPipeline.Proofs.Modifier.Faults
import FieldPipeline.Proofs.Session

/-!
Whether there is a value for a field whose type and generator are known.  A value of the input
that does not fit the type has an unusable value, and a value is made unless the generator needs
a text or the length of random texts is set to something that is no number.
-/

namespace FieldPipeline.Field

open Run

section Coercing

def Tells (x : Except Fault Value) : Prop :=
  ∀ fault, x = .error fault → ∃ kind, fault = issue kind

namespace Tells

theorem ok (v : Value) : Tells (.ok v) :=
  fun _ h => by cases h

theorem issue (kind : String) : Tells (.error (Field.issue kind)) :=
  fun _ h => ⟨kind, (Except.error.inj h).symm⟩

end Tells

variable {v : Value}

theorem tells_toInteger (v : Value) : Tells (toInteger v) := by
  unfold toInteger
  split
  · unfold wholeOfText
    dsimp only
    split
    · exact .issue _
    · split
      · exact .issue _
      · exact .ok _
  · unfold wholeOfFloat
    split
    · exact .issue _
    · split
      · exact .issue _
      · split
        · exact .ok _
        · exact .issue _
  · split
    · exact .ok _
    · exact .issue _

theorem tells_toNumber (v : Value) : Tells (toNumber v) := by
  unfold toNumber
  split
  · unfold numberOfText
    split
    · exact .ok _
    · split
      · exact .ok _
      · exact .issue _
  · exact .ok _
  · split
    · exact .ok _
    · exact .issue _

theorem tells_truthOfNumber (n : Int) : Tells (truthOfNumber n) := by
  unfold truthOfNumber
  split
  · exact .ok _
  · split
    · exact .ok _
    · exact .issue _

theorem tells_toBoolean (v : Value) : Tells (toBoolean v) := by
  unfold toBoolean
  split
  · exact .ok _
  · split
    · exact .ok _
    · exact .issue _
  · split
    · exact tells_truthOfNumber _
    · exact .issue _
  · split
    · exact tells_truthOfNumber _
    · exact .issue _
  · exact .issue _

theorem tells_momentOr (kind : String) (m : Option Calendar.Moment) : Tells (momentOr kind m) := by
  unfold momentOr
  split
  · exact .ok _
  · exact .issue _

theorem tells_toDatetime (v : Value) : Tells (toDatetime v) := by
  unfold toDatetime
  split
  · exact .ok _
  · exact .ok _
  · exact tells_momentOr _ _
  · exact tells_momentOr _ _
  · exact tells_momentOr _ _
  · exact .issue _

theorem tells_toArray (v : Value) : Tells (toArray v) := by
  unfold toArray
  split
  all_goals first | exact .ok _ | exact .issue _

theorem tells_toObject (v : Value) : Tells (toObject v) := by
  unfold toObject
  split
  · exact .ok _
  · exact .issue _

theorem Tells.kind_eq {x : Except Fault Value} (hx : Tells x) {f : Failure}
    (h : x.mapError .fault = .error f) : f.kind = .badValue := by
  cases x with
  | ok v => cases h
  | error fault =>
      cases h
      obtain ⟨kind, rfl⟩ := hx fault rfl
      rfl

theorem kind_of_toText {settings : Settings} {f : Field} {failure : Failure}
    (h : toText settings f v = .error failure) : failure.kind = .badValue := by
  have hmost : ∀ text length most, toText.withinMost text length most = .error failure →
      failure.kind = .badValue := by
    intro text length most h
    unfold toText.withinMost at h
    split at h
    · split at h
      · cases h
        rfl
      · cases h
    · cases h
  unfold toText at h
  generalize (if settings.trimText.isTrue then Text.strip v.plain else v.plain) = text at h
  dsimp only at h
  split at h
  · split at h
    · cases h
      rfl
    · exact hmost _ _ _ h
  · exact hmost _ _ _ h

theorem kind_of_toChoice {f : Field} {failure : Failure} (h : toChoice f v = .error failure) :
    failure.kind = .badValue := by
  unfold toChoice at h
  dsimp only at h
  split at h
  · split at h
    · cases h
    · cases h
      rfl
  · cases h

theorem kind_of_coerce {settings : Settings} {f : Field} {type : BaseType}
    (htype : BaseType.named? f.type = some type) {failure : Failure}
    (h : f.coerce settings v = .error failure) : failure.kind = .badValue := by
  unfold coerce at h
  rw [htype] at h
  cases type with
  | text => exact kind_of_toText h
  | enum => exact kind_of_toChoice h
  | integer => exact (tells_toInteger v).kind_eq h
  | number => exact (tells_toNumber v).kind_eq h
  | boolean => exact (tells_toBoolean v).kind_eq h
  | datetime => exact (tells_toDatetime v).kind_eq h
  | array => exact (tells_toArray v).kind_eq h
  | object => exact (tells_toObject v).kind_eq h

end Coercing

section Making

/-- Why no value is made for a field. -/
inductive Unmade (settings : Settings) (f : Field) : Failure → Prop
  | generator {name : String} (hname : f.generator = some name) (htype : f.type ≠ "text") :
      Unmade settings f (.field (.needsText name f.type))
  | length (hname : f.generator = none) (htype : BaseType.named? f.type = some .text)
      (hlength : settings.randomTextLength.asInt? = none) : Unmade settings f (.fault .wrongType)

variable {settings : Settings} {f : Field}

theorem exists_relate_of_asInt? {v w : Value} {n m : Int} (r : Value.Relation)
    (hv : v.asInt? = some n) (hw : w.asInt? = some m) :
    ∃ holds, Value.relate r v w = .ok holds := by
  cases v <;> cases hv <;> cases w <;> cases hw <;> exact ⟨_, rfl⟩

theorem lesser_ok {u v w : Value} (h : lesser v w = .ok u) : u = v ∨ u = w := by
  obtain ⟨less, _, h⟩ := bind_eq_ok.mp h
  cases h
  cases less
  · exact .inl rfl
  · exact .inr rfl

theorem randomLength_cases (settings : Settings) (f : Field) :
    (∃ n, randomLength settings f = .ok (.int n)) ∨
      ∃ most, (most = settings.randomTextLength ∨ ∃ n, most = .int n) ∧
        randomLength settings f = lesser most settings.randomTextLength := by
  unfold randomLength
  cases givenLength? f.fixedLength with
  | some n => exact .inl ⟨n, rfl⟩
  | none =>
      cases givenLength? f.maxLength with
      | some n => exact .inr ⟨.int n, .inr ⟨n, rfl⟩, rfl⟩
      | none => exact .inr ⟨settings.randomTextLength, .inl rfl, rfl⟩

theorem randomLength_error {fault : Fault} (h : randomLength settings f = .error fault) :
    fault = .wrongType ∧ settings.randomTextLength.asInt? = none := by
  rcases randomLength_cases settings f with ⟨n, hlength⟩ | ⟨most, hmost, hlength⟩
  · rw [hlength] at h
    cases h
  · rw [hlength] at h
    rcases bind_eq_error.mp h with hrelate | ⟨less, _, h⟩
    · refine ⟨Value.relate_error hrelate, ?_⟩
      by_contra hset
      obtain ⟨n, hn⟩ := Option.ne_none_iff_exists'.mp hset
      obtain ⟨m, hm⟩ : ∃ m, most.asInt? = some m := by
        rcases hmost with rfl | ⟨m, rfl⟩
        · exact ⟨n, hn⟩
        · exact ⟨m, rfl⟩
      obtain ⟨holds, hholds⟩ := exists_relate_of_asInt? .lt hn hm
      rw [hholds] at hrelate
      cases hrelate
    · cases h

theorem asInt?_of_randomLength {v : Value} (h : randomLength settings f = .ok v)
    (hv : v.asInt? = none) : settings.randomTextLength.asInt? = none := by
  rcases randomLength_cases settings f with ⟨n, hlength⟩ | ⟨most, hmost, hlength⟩
  · cases hlength.symm.trans h
    cases hv
  · rcases lesser_ok (hlength.symm.trans h) with rfl | rfl
    · rcases hmost with rfl | ⟨n, rfl⟩
      · exact hv
      · cases hv
    · exact hv

theorem exec_randomChars (n : Nat) (s : Session) :
    ∃ cs t, exec (randomChars n) s = (.ok cs, t) := by
  induction n generalizing s with
  | zero => exact ⟨[], s, rfl⟩
  | succ n ih =>
      obtain ⟨place, u, hplace⟩ : ∃ place u, exec (Run.place alphabet.length) s = (.ok place, u) :=
        ⟨_, _, rfl⟩
      obtain ⟨cs, t, hcs⟩ := ih u
      refine ⟨alphabet.toList.getD place 'a' :: cs, t, ?_⟩
      rw [randomChars, exec_bind_of_ok hplace, exec_bind_of_ok hcs]
      rfl

theorem randomText_error {s t : Session} {failure : Failure}
    (h : exec (randomText f) s = (.error failure, t)) :
    failure = .fault .wrongType ∧ s.settings.randomTextLength.asInt? = none := by
  unfold randomText at h
  rw [exec_bind_of_ok (exec_settings s)] at h
  rcases exec_bind_eq_error.mp h with h | ⟨v, u, hlength, h⟩
  · obtain ⟨⟨fault, hlength, rfl⟩, -⟩ := exec_ofFault_eq_error.mp h
    obtain ⟨rfl, hset⟩ := randomLength_error hlength
    exact ⟨rfl, hset⟩
  · rw [exec_ofFault_eq_ok] at hlength
    obtain ⟨hlength, rfl⟩ := hlength
    cases hv : v.asInt? with
    | none =>
        rw [hv] at h
        cases h
        exact ⟨rfl, asInt?_of_randomLength hlength hv⟩
    | some n =>
        rw [hv] at h
        obtain ⟨cs, u, hcs⟩ := exec_randomChars n.toNat s
        rw [exec_bind_of_ok hcs] at h
        cases h

theorem requireText_error {name : String} {s t : Session} {failure : Failure}
    (h : exec (Generator.requireText f name) s = (.error failure, t)) :
    f.type ≠ "text" ∧ failure = .field (.needsText name f.type) := by
  unfold Generator.requireText at h
  split at h
  · cases h
  · rename_i htype
    cases h
    exact ⟨by simpa using htype, rfl⟩

/-- A field whose type and generator are known has a generated value, or it is clear why not. -/
theorem unmade_of_generate (hf : f.Known Generator.builtin) {locale : Value} {s t : Session}
    {failure : Failure} (h : exec (f.generate Generator.builtin locale) s = (.error failure, t)) :
    f.Unmade s.settings failure := by
  unfold generate at h
  cases hgenerator : f.generator with
  | none =>
      rw [hgenerator] at h
      obtain ⟨type, htype, henum⟩ := hf.type
      simp only [Option.filter_none, htype] at h
      cases type with
      | text =>
          obtain ⟨rfl, hlength⟩ := randomText_error h
          exact .length hgenerator htype hlength
      | enum =>
          obtain ⟨v, vs, hvalues⟩ := henum rfl
          simp only [generateOf, hvalues] at h
          cases h
      | _ => cases h
  | some name =>
      obtain ⟨g, hg⟩ := Option.isSome_iff_exists.mp (hf.generator name hgenerator)
      have hname : name.isEmpty = false := by
        by_contra hempty
        rw [Bool.not_eq_false, String.isEmpty_iff] at hempty
        rw [hempty] at hg
        cases hg
      simp only [hgenerator, Option.filter_some, hname, Bool.not_false, if_true, hg] at h
      have hmem := List.mem_of_find?_eq_some hg
      have hsame : g.name = name := by simpa using List.find?_some hg
      simp only [Generator.builtin, List.mem_cons, List.not_mem_nil, or_false] at hmem
      rcases hmem with rfl | rfl | rfl
      · rcases exec_bind_eq_error.mp h with h | ⟨_, _, _, h⟩
        · obtain ⟨htype, rfl⟩ := requireText_error h
          exact .generator (hgenerator.trans (congrArg some hsame.symm)) htype
        · cases h
      · rcases exec_bind_eq_error.mp h with h | ⟨_, _, _, h⟩
        · obtain ⟨htype, rfl⟩ := requireText_error h
          exact .generator (hgenerator.trans (congrArg some hsame.symm)) htype
        · cases h
      · cases h

end Making

end FieldPipeline.Field
