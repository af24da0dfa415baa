import Mathlib.Data.List.DropRight
import Mathlib.Data.List.TakeWhile
import FieldPipeline.Field.Coercion
import FieldPipeline.Proofs.Fitting

/-!
What a field holds.  Coercing a value to the type of a field gives a value that the field holds,
and a value that it holds stays as it is when it is coerced again.
-/

namespace FieldPipeline

namespace Text

theorem stripChars_of_ends {cs : List Char} (hfirst : ∀ c ∈ cs.head?, isBlank c = false)
    (hlast : ∀ c ∈ cs.getLast?, isBlank c = false) : stripChars cs = cs := by
  have hfront : dropBlanks cs = cs := by
    cases cs with
    | nil => rfl
    | cons c cs => simp [dropBlanks, hfirst c rfl]
  have hback : dropBlanks cs.reverse = cs.reverse := by
    cases hcs : cs.reverse with
    | nil => rfl
    | cons c rest =>
        have hc : cs.getLast? = some c := by rw [← List.head?_reverse, hcs, List.head?_cons]
        simp [dropBlanks, hlast c hc]
  rw [stripChars, hfront, hback, List.reverse_reverse]

theorem head?_dropBlanks (cs : List Char) : ∀ c ∈ (dropBlanks cs).head?, isBlank c = false := by
  intro c hc
  have hnot := List.head?_dropWhile_not isBlank cs
  rwa [show (cs.dropWhile isBlank).head? = some c from hc] at hnot

theorem getLast?_stripChars (cs : List Char) :
    ∀ c ∈ (stripChars cs).getLast?, isBlank c = false := by
  rw [stripChars, List.getLast?_reverse]
  exact head?_dropBlanks _

theorem head?_stripChars (cs : List Char) : ∀ c ∈ (stripChars cs).head?, isBlank c = false := by
  intro c hc
  obtain ⟨rest, hrest⟩ : stripChars cs <+: dropBlanks cs := List.rdropWhile_prefix isBlank _
  obtain ⟨front, hfront⟩ := List.head?_eq_some_iff.mp hc
  refine head?_dropBlanks cs c ?_
  rw [← hrest, hfront]
  rfl

@[simp]
theorem strip_strip (s : String) : strip (strip s) = strip s := by
  unfold strip
  rw [String.toList_ofList, stripChars_of_ends (head?_stripChars _) (getLast?_stripChars _)]

end Text

namespace Field

/-- Whether a value is what a field of a base type holds. -/
inductive Holds (settings : Settings) (f : Field) : BaseType → Value → Prop
  | integer (n : Int) : Holds settings f .integer (.int n)
  | number (x : Float) : Holds settings f .number (.float x)
  | text (s : String) (htrim : settings.trimText.isTrue = true → Text.strip s = s)
      (hlength : ∀ n, f.fixedLength = some n → (s.length : Int) = n)
      (hmost : ∀ n, f.maxLength = some n → (s.length : Int) ≤ n) : Holds settings f .text (.text s)
  | boolean (b : Bool) : Holds settings f .boolean (.bool b)
  | datetime (m : Calendar.Moment) : Holds settings f .datetime (.moment m)
  | enum (s : String) (hstrip : Text.strip s = s)
      (hlisted : ∀ values, f.values = some values → s ∈ values) : Holds settings f .enum (.text s)
  | array (xs : List Value) : Holds settings f .array (.list xs)
  | object (entries : List (Value × Value)) : Holds settings f .object (.dict entries)

variable {settings : Settings} {f : Field} {type : BaseType} {v w : Value}

theorem holds_toText (h : toText settings f v = .ok w) : f.Holds settings .text w := by
  have hmost : ∀ text length, toText.withinMost text length f.maxLength = .ok w →
      w = .text text ∧ ∀ n, f.maxLength = some n → length ≤ n := by
    intro text length h
    unfold toText.withinMost at h
    split at h
    · rename_i most hsome
      split at h
      · cases h
      · cases h
        refine ⟨rfl, fun n hn => ?_⟩
        cases hsome.symm.trans hn
        omega
    · rename_i hnone
      cases h
      exact ⟨rfl, by simp [hnone]⟩
  unfold toText at h
  generalize htext : (if settings.trimText.isTrue then Text.strip v.plain else v.plain) = text at h
  have htrim : settings.trimText.isTrue = true → Text.strip text = text := by
    intro htrue
    rw [← htext, if_pos htrue, Text.strip_strip]
  dsimp only at h
  split at h
  · rename_i n hfixed
    split at h
    · cases h
    · rename_i hlength
      obtain ⟨rfl, hwithin⟩ := hmost _ _ h
      refine .text text htrim (fun n' hn' => ?_) hwithin
      cases hfixed.symm.trans hn'
      simpa using hlength
  · rename_i hnone
    obtain ⟨rfl, hwithin⟩ := hmost _ _ h
    exact .text text htrim (by simp [hnone]) hwithin

theorem holds_toChoice (h : toChoice f v = .ok w) : f.Holds settings .enum w := by
  unfold toChoice at h
  dsimp only at h
  split at h
  · rename_i values hvalues
    split at h
    · rename_i hmem
      cases h
      refine .enum _ (Text.strip_strip _) fun values' hvalues' => ?_
      cases hvalues.symm.trans hvalues'
      simpa using hmem
    · cases h
  · rename_i hnone
    cases h
    exact .enum _ (Text.strip_strip _) (by simp [hnone])

theorem holds_coerceTo (h : coerceTo settings f type v = .ok w) : f.Holds settings type w := by
  cases type
  case text => exact holds_toText h
  case enum => exact holds_toChoice h
  -- The other types set no condition, so that the kind of value they yield decides.
  all_goals
    replace h := mapError_eq_ok.mp h
    simp only [toInteger, wholeOfText, wholeOfFloat, toNumber, numberOfText, toBoolean,
      truthOfNumber, toDatetime, momentOr, toArray, toObject] at h
    grind [Holds]

theorem coerceTo_of_holds (h : f.Holds settings type w) : coerceTo settings f type w = .ok w := by
  cases h with
  | text s htrim hlength hmost =>
      have htext : (if settings.trimText.isTrue then Text.strip s else s) = s := by
        split
        · exact htrim ‹_›
        · rfl
      have hwithin : toText.withinMost s s.length f.maxLength = .ok (.text s) := by
        unfold toText.withinMost
        split
        · rename_i n hn
          exact if_neg (by have := hmost n hn; omega)
        · rfl
      unfold coerceTo toText
      simp only [Value.plain, htext]
      split
      · rename_i n hn
        rw [if_neg (by simpa using hlength n hn), hwithin]
      · exact hwithin
  | enum s hstrip hlisted =>
      unfold coerceTo toChoice
      simp only [Value.plain, hstrip]
      split
      · rename_i values hvalues
        exact if_pos (by simpa using hlisted values hvalues)
      · rfl
  | _ => rfl

theorem holds_of_coerce (h : f.coerce settings v = .ok w) :
    ∃ type, BaseType.named? f.type = some type ∧ f.Holds settings type w := by
  unfold coerce at h
  split at h
  · cases h
  · rename_i type htype
    exact ⟨type, htype, holds_coerceTo h⟩

theorem isNull_coerce (h : f.coerce settings v = .ok w) : w.isNull = false := by
  obtain ⟨_, -, hholds⟩ := holds_of_coerce h
  cases hholds <;> rfl

theorem coerce_eq_self_iff : f.coerce settings w = .ok w ↔
    ∃ type, BaseType.named? f.type = some type ∧ f.Holds settings type w := by
  refine ⟨holds_of_coerce, ?_⟩
  rintro ⟨type, htype, hholds⟩
  unfold coerce
  rw [htype]
  exact coerceTo_of_holds hholds

/-- Whatever a field makes of a value, it leaves as it is. -/
theorem coerce_of_coerce (h : f.coerce settings v = .ok w) : f.coerce settings w = .ok w :=
  coerce_eq_self_iff.mpr (holds_of_coerce h)

def code : Field where
  name := "code"
  type := "char"
  maxLength := some 4

theorem code_coerce : code.coerce {} (.text " ab1\t") = .ok (.text "ab1") ∧
    code.coerce {} (.text "ab1") = .ok (.text "ab1") := by
  have htrimmed : code.coerce {} (.text " ab1\t") = .ok (.text "ab1") := by rfl
  exact ⟨htrimmed, coerce_of_coerce htrimmed⟩

/-! ### Generated values -/

open Run

theorem relate_lt_of_asInt? {n m : Int} (hv : v.asInt? = some n) (hw : w.asInt? = some m) :
    Value.relate .lt v w = .ok (decide (n < m)) := by
  have horder : Value.Relation.lt.holds (compare n m) = decide (n < m) := by
    rw [Bool.eq_iff_iff]
    simp [Value.Relation.holds, Int.compare_eq_lt]
  rw [← horder]
  cases v <;> cases hv <;> cases w <;> cases hw <;> rfl

theorem lesser_of_asInt? {n m : Int} (hv : v.asInt? = some n) (hw : w.asInt? = some m) :
    ∃ u, lesser v w = .ok u ∧ u.asInt? = some (min n m) := by
  unfold lesser
  rw [relate_lt_of_asInt? hw hv]
  by_cases hlt : m < n
  · refine ⟨w, ?_, ?_⟩
    · simp [hlt, bind, Except.bind, pure, Except.pure]
    · rw [hw, Int.min_eq_right (by omega)]
  · refine ⟨v, ?_, ?_⟩
    · simp [hlt, bind, Except.bind, pure, Except.pure]
    · rw [hv, Int.min_eq_left (by omega)]

def drawnLength (f : Field) (n : Int) : Int :=
  match givenLength? f.fixedLength with
  | some k => k
  | none =>
    match givenLength? f.maxLength with
    | some m => min m n
    | none => n

theorem randomLength_of_asInt? {n : Int} (hn : settings.randomTextLength.asInt? = some n) :
    ∃ u, randomLength settings f = .ok u ∧ u.asInt? = some (f.drawnLength n) := by
  unfold randomLength drawnLength
  cases givenLength? f.fixedLength with
  | some k => exact ⟨.int k, rfl, rfl⟩
  | none =>
      cases givenLength? f.maxLength with
      | some m => exact lesser_of_asInt? (v := .int m) rfl hn
      | none =>
          obtain ⟨u, hu, hlength⟩ := lesser_of_asInt? hn hn
          exact ⟨u, hu, by simpa using hlength⟩

theorem isBlank_of_mem_alphabet : ∀ c ∈ alphabet.toList, Text.isBlank c = false := by
  have hall : (alphabet.toList.all fun c => !Text.isBlank c) = true := by decide +kernel
  simpa using List.all_eq_true.mp hall

theorem exec_randomChars_ok (n : Nat) (s : Session) : ∃ cs t,
    exec (randomChars n) s = (.ok cs, t) ∧ cs.length = n ∧ ∀ c ∈ cs, c ∈ alphabet.toList := by
  induction n generalizing s with
  | zero => exact ⟨[], s, rfl, rfl, by simp⟩
  | succ n ih =>
      obtain ⟨place, u, hplace⟩ : ∃ place u, exec (Run.place alphabet.length) s = (.ok place, u) :=
        ⟨_, _, rfl⟩
      obtain ⟨cs, t, hcs, hlength, hmem⟩ := ih u
      have hfirst : alphabet.toList.getD place 'a' ∈ alphabet.toList := by
        rw [List.getD_eq_getElem?_getD]
        cases hget : alphabet.toList[place]? with
        | none => decide
        | some c => exact List.mem_of_getElem? hget
      refine ⟨alphabet.toList.getD place 'a' :: cs, t, ?_, by simp [hlength], ?_⟩
      · rw [randomChars, exec_bind_of_ok hplace, exec_bind_of_ok hcs]
        rfl
      · exact List.forall_mem_cons.mpr ⟨hfirst, hmem⟩

theorem exec_randomText {n : Int} {s : Session}
    (hn : s.settings.randomTextLength.asInt? = some n) : ∃ text t,
    exec (randomText f) s = (.ok (.text text), t) ∧ text.length = (f.drawnLength n).toNat ∧
      Text.strip text = text := by
  obtain ⟨u, hu, hlength⟩ := randomLength_of_asInt? (f := f) hn
  obtain ⟨cs, t, hcs, hsize, hmem⟩ := exec_randomChars_ok (f.drawnLength n).toNat s
  refine ⟨String.ofList cs, t, ?_, by simpa using hsize, ?_⟩
  · unfold randomText
    rw [exec_bind_of_ok (exec_settings s), exec_bind_of_ok (exec_ofFault_eq_ok.mpr ⟨hu, rfl⟩)]
    simp only [hlength]
    rw [exec_bind_of_ok hcs]
    rfl
  · have hnone : ∀ c ∈ cs, Text.isBlank c = false := fun c hc =>
      isBlank_of_mem_alphabet c (hmem c hc)
    unfold Text.strip
    rw [String.toList_ofList, Text.stripChars_of_ends]
    · exact fun c hc => hnone c (List.mem_of_mem_head? hc)
    · exact fun c hc => hnone c (List.mem_of_mem_getLast? hc)

/-- Why a generated value is not one that the field holds: a length that is zero counts as no
length, and the first of the listed values is taken with its blanks. -/
inductive Misdrawn (n : Int) (f : Field) : BaseType → Prop
  | length (hzero : f.fixedLength = some 0 ∨ f.maxLength = some 0) (hn : n ≠ 0) :
      Misdrawn n f .text
  | blanks {first : String} {rest : List String} (hvalues : f.values = some (first :: rest))
      (hstrip : Text.strip first ≠ first) : Misdrawn n f .enum

theorem length_of_holds {text : String} (h : f.Holds settings .text (.text text)) :
    (∀ n, f.fixedLength = some n → (text.length : Int) = n) ∧
      ∀ n, f.maxLength = some n → (text.length : Int) ≤ n := by
  cases h with
  | text _ _ hlength hmost => exact ⟨hlength, hmost⟩

theorem drawnLength_fits_iff {n : Int} (hn : 0 ≤ n) {most : Nat}
    (hfixed : ∀ k, f.fixedLength = some k → (most : Int) = k)
    (hmost : ∀ m, f.maxLength = some m → (most : Int) ≤ m) :
    ((∀ k, f.fixedLength = some k → ((f.drawnLength n).toNat : Int) = k) ∧
      ∀ m, f.maxLength = some m → ((f.drawnLength n).toNat : Int) ≤ m) ↔
      ((f.fixedLength = some 0 ∨ f.maxLength = some 0) → n = 0) := by
  unfold drawnLength givenLength?
  cases hk : f.fixedLength <;> cases hm : f.maxLength <;> grind

def Suits (settings : Settings) (n : Int) (f : Field) (v : Value) : Prop :=
  f.coerce settings v = .ok v ↔
    ∀ type, BaseType.named? f.type = some type → ¬f.Misdrawn n type

theorem suits_of_holds {n : Int} (htype : BaseType.named? f.type = some type)
    (hholds : f.Holds settings type v) (hdrawn : ¬f.Misdrawn n type) : f.Suits settings n v := by
  refine iff_of_true (coerce_eq_self_iff.mpr ⟨type, htype, hholds⟩) fun type' htype' => ?_
  cases htype.symm.trans htype'
  exact hdrawn

theorem suits_text {n : Int} (hn : 0 ≤ n) (htype : BaseType.named? f.type = some .text)
    (haccepts : ∃ v w, f.coerce settings v = .ok w) {text : String}
    (hlength : text.length = (f.drawnLength n).toNat) (hstrip : Text.strip text = text) :
    f.Suits settings n (.text text) := by
  obtain ⟨v, w, haccepted⟩ := haccepts
  obtain ⟨_, htype', hholds⟩ := holds_of_coerce haccepted
  cases htype.symm.trans htype'
  cases hholds with
  | text s _ hfixed hmost =>
      have hfits := drawnLength_fits_iff hn hfixed hmost
      rw [← hlength] at hfits
      have hself : f.coerce settings (.text text) = .ok (.text text) ↔
          (∀ k, f.fixedLength = some k → (text.length : Int) = k) ∧
            ∀ m, f.maxLength = some m → (text.length : Int) ≤ m := by
        rw [coerce_eq_self_iff]
        constructor
        · rintro ⟨_, htype', hholds⟩
          cases htype.symm.trans htype'
          exact length_of_holds hholds
        · rintro ⟨hfixed, hmost⟩
          exact ⟨.text, htype, .text text (fun _ => hstrip) hfixed hmost⟩
      unfold Suits
      rw [hself, hfits]
      constructor
      · intro hzero type' htype' hdrawn
        cases htype.symm.trans htype'
        cases hdrawn with
        | length h hne => exact hne (hzero h)
      · intro hdrawn h
        by_contra hne
        exact hdrawn .text htype (.length h hne)

theorem suits_enum {n : Int} (htype : BaseType.named? f.type = some .enum) {first : String}
    {rest : List String} (hvalues : f.values = some (first :: rest)) :
    f.Suits settings n (.text first) := by
  by_cases hstrip : Text.strip first = first
  · refine suits_of_holds htype (.enum first hstrip fun values hvalues' => ?_) ?_
    · cases hvalues.symm.trans hvalues'
      exact List.mem_cons_self
    · intro hdrawn
      cases hdrawn with
      | blanks hvalues' hne =>
          cases hvalues.symm.trans hvalues'
          exact hne hstrip
  · refine iff_of_false ?_ fun hdrawn => hdrawn .enum htype (.blanks hvalues hstrip)
    rw [coerce_eq_self_iff]
    rintro ⟨_, htype', hholds⟩
    cases htype.symm.trans htype'
    cases hholds with
    | enum _ hstrip' => exact hstrip hstrip'

/-- A field for which no generator is named gets a generated value.  The field holds it, unless it
is drawn without regard to a length of zero or to the blanks of a listed value. -/
theorem coerce_generate_iff {generators : List Generator} (hf : f.Known generators)
    (hgenerator : ∀ name, f.generator = some name → name = "") {n : Int} {s : Session}
    (hlength : s.settings.randomTextLength.asInt? = some n) (hn : 0 ≤ n)
    (haccepts : ∃ v w, f.coerce s.settings v = .ok w) (locale : Value) :
    ∃ v t, exec (f.generate generators locale) s = (.ok v, t) ∧ f.Suits s.settings n v := by
  obtain ⟨type, htype, henum⟩ := hf.type
  have hnone : f.generator.filter (!·.isEmpty) = none := by
    cases hname : f.generator with
    | none => rfl
    | some name => simp [hgenerator name hname]
  have hgenerate : f.generate generators locale = generateOf f type := by
    unfold generate
    rw [hnone, htype]
  rw [hgenerate]
  cases type with
  | integer => exact ⟨_, _, rfl, suits_of_holds htype (.integer _) nofun⟩
  | number => exact ⟨_, _, rfl, suits_of_holds htype (.number _) nofun⟩
  | boolean => exact ⟨_, _, rfl, suits_of_holds htype (.boolean _) nofun⟩
  | datetime => exact ⟨_, _, rfl, suits_of_holds htype (.datetime _) nofun⟩
  | array => exact ⟨_, _, rfl, suits_of_holds htype (.array _) nofun⟩
  | object => exact ⟨_, _, rfl, suits_of_holds htype (.object _) nofun⟩
  | text =>
      obtain ⟨text, t, hexec, hsize, hstrip⟩ := exec_randomText (f := f) hlength
      exact ⟨_, t, hexec, suits_text hn htype haccepts hsize hstrip⟩
  | enum =>
      obtain ⟨first, rest, hvalues⟩ := henum rfl
      refine ⟨.text first, s, ?_, suits_enum htype hvalues⟩
      unfold generateOf
      rw [hvalues]
      rfl

def emptyCode : Field where
  name := "code"
  type := "char"
  fixedLength := some 0

def plainSession : Session where
  settings := {}
  sources := .still
  context := {}

/-- A code of a few characters is drawn as it should be, and one that is to be empty is not. -/
theorem codes_generate :
    (∃ v t, exec (code.generate Generator.builtin .null) plainSession = (.ok v, t) ∧
      code.coerce {} v = .ok v) ∧
    ∃ v t, exec (emptyCode.generate Generator.builtin .null) plainSession = (.ok v, t) ∧
      emptyCode.coerce {} v ≠ .ok v := by
  have hchar : BaseType.named? "char" = some .text := by decide +kernel
  constructor
  · obtain ⟨v, t, hexec, hsuits⟩ := coerce_generate_iff (f := code) (s := plainSession)
      ⟨⟨.text, hchar, nofun⟩, nofun⟩ nofun rfl (by decide : (0 : Int) ≤ 32)
      ⟨.text "ab", _, rfl⟩ .null
    refine ⟨v, t, hexec, hsuits.mpr ?_⟩
    rintro type htype (⟨hzero, _⟩ | ⟨hvalues, _⟩)
    · simp [code] at hzero
    · cases hvalues
  · obtain ⟨v, t, hexec, hsuits⟩ := coerce_generate_iff (f := emptyCode) (s := plainSession)
      ⟨⟨.text, hchar, nofun⟩, nofun⟩ nofun rfl (by decide : (0 : Int) ≤ 32)
      ⟨.text "", _, rfl⟩ .null
    refine ⟨v, t, hexec, fun hself => ?_⟩
    exact hsuits.mp hself .text hchar (.length (.inl rfl) (by decide))

end Field

end FieldPipeline
