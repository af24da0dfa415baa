import FieldPipeline.Modifier.Validator

/-!
Which texts are addresses.  A pattern takes back what a repetition has taken too much of, and so
it succeeds when any of the ways through the text that it describes leads to a place from which the
rest succeeds, whatever the order in which they are tried.
-/

namespace FieldPipeline

namespace Pattern

open Text

def Cursor.past (c : Cursor) (xs rest : List Char) : Cursor :=
  { c with before := xs.reverse ++ c.before, after := rest, place := c.place + xs.length }

@[simp] theorem Cursor.after_past (c : Cursor) (xs rest : List Char) :
    (c.past xs rest).after = rest := rfl

theorem Cursor.past_past (c : Cursor) (xs ys rest rest' : List Char) :
    (c.past xs rest).past ys rest' = c.past (xs ++ ys) rest' := by
  simp [past, Nat.add_assoc]

/-! ### Ways through a text -/

/-- Whether a pattern of characters, repeated classes and places leads from a place to another. -/
inductive Node.Leads : Node → Cursor → Cursor → Prop
  | oneOf {k : CharClass} {x : Char} {c d : Cursor} (hadvance : c.advance = some (x, d))
      (hx : k.holds x = true) : Leads (.oneOf k) c d
  | sequence {p q : Node} {c d e : Cursor} (hp : Leads p c d) (hq : Leads q d e) :
      Leads (.sequence p q) c e
  | stop {k : CharClass} {c : Cursor} : Leads (.repeated (.oneOf k) 0 none .greedy) c c
  | again {k : CharClass} {least : Nat} {c d e : Cursor} (hfirst : Leads (.oneOf k) c d)
      (hrest : Leads (.repeated (.oneOf k) (least - 1) none .greedy) d e) :
      Leads (.repeated (.oneOf k) least none .greedy) c e
  | spot {s : Spot} {c : Cursor} (hs : c.isAt s = true) : Leads (.spot s) c c

namespace Node

variable {k : CharClass} {c e : Cursor}

theorem leads_oneOf_iff :
    (oneOf k).Leads c e ↔
      ∃ x rest, c.after = x :: rest ∧ k.holds x = true ∧ e = c.past [x] rest := by
  constructor
  · intro h
    cases h with
    | @oneOf _ x _ _ hadvance hx =>
        unfold Cursor.advance at hadvance
        split at hadvance
        · cases hadvance
        · rename_i hafter
          cases hadvance
          exact ⟨x, _, hafter, hx, rfl⟩
  · rintro ⟨x, rest, hafter, hx, rfl⟩
    refine .oneOf (x := x) ?_ hx
    unfold Cursor.advance
    rw [hafter]
    rfl

theorem leads_sequence_iff {p q : Node} :
    (sequence p q).Leads c e ↔ ∃ d, p.Leads c d ∧ q.Leads d e := by
  constructor
  · intro h
    cases h with
    | sequence hp hq => exact ⟨_, hp, hq⟩
  · rintro ⟨d, hp, hq⟩
    exact .sequence hp hq

theorem leads_spot_iff {s : Spot} : (spot s).Leads c e ↔ c.isAt s = true ∧ e = c := by
  constructor
  · intro h
    cases h with
    | spot hs => exact ⟨hs, rfl⟩
  · rintro ⟨hs, rfl⟩
    exact .spot hs

theorem leads_repeated_iff (least : Nat) :
    (repeated (.oneOf k) least none .greedy).Leads c e ↔ least = 0 ∧ e = c ∨
      ∃ d, (oneOf k).Leads c d ∧ (repeated (.oneOf k) (least - 1) none .greedy).Leads d e := by
  constructor
  · intro h
    cases h with
    | stop => exact .inl ⟨rfl, rfl⟩
    | again hfirst hrest => exact .inr ⟨_, hfirst, hrest⟩
  · rintro (⟨rfl, rfl⟩ | ⟨d, hfirst, hrest⟩)
    · exact .stop
    · exact .again hfirst hrest

theorem leads_repeated_past_iff {least : Nat} :
    (repeated (.oneOf k) least none .greedy).Leads c e ↔ ∃ xs rest, c.after = xs ++ rest ∧
      least ≤ xs.length ∧ (∀ x ∈ xs, k.holds x = true) ∧ e = c.past xs rest := by
  constructor
  · intro h
    generalize hp : repeated (.oneOf k) least none .greedy = p at h
    induction h generalizing least with
    | @stop _ c =>
        cases hp
        exact ⟨[], c.after, rfl, Nat.le_refl _, by simp, rfl⟩
    | again hfirst _ _ ih =>
        cases hp
        obtain ⟨x, _, hafter, hx, rfl⟩ := leads_oneOf_iff.mp hfirst
        obtain ⟨xs, rest, rfl, hlength, hxs, rfl⟩ := ih rfl
        refine ⟨x :: xs, rest, hafter, ?_, List.forall_mem_cons.mpr ⟨hx, hxs⟩, ?_⟩
        · rw [List.length_cons]
          omega
        · exact Cursor.past_past _ _ _ _ _
    | _ => cases hp
  · rintro ⟨xs, rest, hafter, hlength, hxs, rfl⟩
    induction xs generalizing c least with
    | nil =>
        have hc : c.past [] rest = c := by
          cases c
          cases hafter
          rfl
        rw [leads_repeated_iff _, hc]
        exact .inl ⟨Nat.le_zero.mp hlength, rfl⟩
    | cons x xs ih =>
        obtain ⟨hx, hxs⟩ := List.forall_mem_cons.mp hxs
        refine .again (leads_oneOf_iff.mpr ⟨x, xs ++ rest, hafter, hx, rfl⟩) ?_
        rw [show x :: xs = [x] ++ xs from rfl, ← Cursor.past_past c [x] xs (xs ++ rest)]
        exact ih rfl (Nat.sub_le_of_le_add hlength) hxs

end Node

/-! ### Success -/

def Node.Follows (p : Node) : Prop :=
  ∀ (next : Next) (c : Cursor),
    (p.run next c).isSome = true ↔ ∃ d, p.Leads c d ∧ (next d).isSome = true

namespace Node

theorem Follows.oneOf (k : CharClass) : (oneOf k).Follows := by
  intro next c
  rw [run]
  constructor
  · intro h
    split at h
    · rename_i x d hadvance
      split at h
      · rename_i hx
        exact ⟨d, .oneOf hadvance hx, h⟩
      · cases h
    · cases h
  · rintro ⟨d, hd, h⟩
    cases hd with
    | oneOf hadvance hx =>
        rw [hadvance]
        simpa [hx] using h

theorem Follows.spot (s : Spot) : (spot s).Follows := by
  intro next c
  rw [run]
  constructor
  · intro h
    split at h
    · exact ⟨c, .spot ‹_›, h⟩
    · cases h
  · rintro ⟨d, hd, h⟩
    obtain ⟨hs, rfl⟩ := leads_spot_iff.mp hd
    rwa [if_pos hs]

theorem Follows.sequence {p q : Node} (hp : p.Follows) (hq : q.Follows) :
    (sequence p q).Follows := by
  intro next c
  rw [run, hp]
  constructor
  · rintro ⟨d, hpd, h⟩
    obtain ⟨e, hqe, h⟩ := (hq next d).mp h
    exact ⟨e, .sequence hpd hqe, h⟩
  · rintro ⟨e, he, h⟩
    obtain ⟨d, hpd, hqe⟩ := leads_sequence_iff.mp he
    exact ⟨d, hpd, (hq next d).mpr ⟨e, hqe, h⟩⟩

/-- Each repetition uses up a character, and so the fuel suffices and no place is met again. -/
theorem isSome_iterate {k : CharClass} {least : Nat} {next : Next} {fuel count : Nat}
    {last : Option Nat} {c : Cursor} (hfuel : c.after.length < fuel)
    (hlast : ∀ place, last = some place → place < c.place) :
    (iterate (oneOf k).run least none false fuel count last next c).isSome = true ↔
      ∃ d, (repeated (.oneOf k) (least - count) none .greedy).Leads c d ∧
        (next d).isSome = true := by
  induction fuel generalizing count last c with
  | zero => cases hfuel
  | succ fuel ih =>
      have hagain : ∀ last', (∀ place, last' = some place → place ≤ c.place) →
          (((oneOf k).run (iterate (oneOf k).run least none false fuel (count + 1) last' next)
            c).isSome = true ↔ ∃ e, (∃ d, (oneOf k).Leads c d ∧
              (repeated (.oneOf k) (least - count - 1) none .greedy).Leads d e) ∧
                (next e).isSome = true) := by
        intro last' hlast'
        have hnext : ∀ d, (oneOf k).Leads c d →
            ((iterate (oneOf k).run least none false fuel (count + 1) last' next d).isSome = true ↔
              ∃ e, (repeated (.oneOf k) (least - count - 1) none .greedy).Leads d e ∧
                (next e).isSome = true) := by
          intro d hd
          obtain ⟨x, rest, hafter, -, rfl⟩ := leads_oneOf_iff.mp hd
          have hshort : rest.length < fuel := by
            rw [hafter, List.length_cons] at hfuel
            omega
          rw [Nat.sub_sub]
          exact ih hshort fun place hsome => Nat.lt_succ_of_le (hlast' place hsome)
        rw [Follows.oneOf]
        constructor
        · rintro ⟨d, hd, h⟩
          obtain ⟨e, he, h⟩ := (hnext d hd).mp h
          exact ⟨e, ⟨d, hd, he⟩, h⟩
        · rintro ⟨e, ⟨d, hd, he⟩, h⟩
          exact ⟨d, hd, (hnext d hd).mpr ⟨e, he, h⟩⟩
      simp only [leads_repeated_iff (least - count)]
      rw [iterate]
      split
      · rename_i hcount
        have hleft : least - count ≠ 0 := Nat.sub_ne_zero_of_lt hcount
        rw [hagain last fun place hsome => Nat.le_of_lt (hlast place hsome)]
        simp only [hleft, false_and, false_or]
      · rename_i hcount
        have hleft : least - count = 0 := Nat.sub_eq_zero_of_le (Nat.le_of_not_lt hcount)
        have hfresh : (last == some c.place) = false := by
          rw [beq_eq_false_iff_ne]
          exact fun hsame => Nat.lt_irrefl _ (hlast _ hsame)
        simp only [hfresh, Option.any_none, Bool.or_false, Bool.false_eq_true, if_false]
        rw [Option.orElse_eq_or, Option.isSome_or, Bool.or_eq_true,
          hagain (some c.place) fun place hsome => Option.some.inj hsome ▸ Nat.le_refl _]
        simp only [hleft, true_and, or_and_right, exists_or, exists_eq_left]
        exact or_comm

theorem Follows.repeated (k : CharClass) (least : Nat) :
    (repeated (.oneOf k) least none .greedy).Follows := by
  intro next c
  rw [run]
  · exact isSome_iterate (by omega) nofun
  · nofun

theorem not_foundFrom {p : Node} {before : List Char} (hbefore : before ≠ []) (place : Nat)
    (cs : List Char) : (sequence (.spot .textStart) p).foundFrom before place cs = false := by
  have hfails : ∀ before cs place, before ≠ [] →
      (sequence (.spot .textStart) p).run some ⟨before, cs, place, []⟩ = none := by
    intro before cs place hbefore
    simp [run, Cursor.isAt, hbefore]
  induction cs generalizing before place with
  | nil => simp [foundFrom, hfails before [] place hbefore]
  | cons c cs ih => simp [foundFrom, hfails before (c :: cs) place hbefore, ih]

end Node

/-! ### The pattern of addresses -/

theorem holds_only {c x : Char} : (CharClass.only c).holds x = true ↔ x = c := by
  simp only [CharClass.only, CharClass.holds, Item.holds, List.any_cons, List.any_nil,
    Bool.or_false, Bool.false_eq_true, if_false, Bool.and_eq_true, decide_eq_true_eq, bne_iff_ne,
    ne_eq, Bool.not_eq_false]
  rw [← Nat.le_antisymm_iff, ← Char.toNat_inj, eq_comm]

theorem holds_addressChar {x : Char} :
    addressChar.holds x = true ↔ x ≠ '@' ∧ isBlank x = false := by
  have hat : (64 ≤ x.toNat ∧ x.toNat ≤ 64) ↔ x = '@' := by
    rw [← Nat.le_antisymm_iff, ← Char.toNat_inj, eq_comm]
    rfl
  simp [addressChar, CharClass.holds, Item.holds, Family.holds, ← hat]
  omega

theorem follows_address : address.Follows :=
  have hpart := Node.Follows.repeated addressChar 1
  .sequence (.spot _) (.sequence hpart (.sequence (.oneOf _) (.sequence hpart
    (.sequence (.oneOf _) (.sequence hpart (.spot _))))))

theorem exists_leads_address_iff (cs : List Char) :
    (∃ d, address.Leads ⟨[], cs, 0, []⟩ d) ↔
      ∃ name left right rest, cs = name ++ '@' :: (left ++ '.' :: (right ++ rest)) ∧
        (name ≠ [] ∧ left ≠ [] ∧ right ≠ []) ∧
        (∀ x ∈ name ++ (left ++ right), x ≠ '@' ∧ isBlank x = false) ∧
        (rest = [] ∨ rest = ['\n']) := by
  simp only [address, CharClass.several, Node.leads_sequence_iff, Node.leads_spot_iff,
    Node.leads_oneOf_iff, Node.leads_repeated_past_iff, holds_only, holds_addressChar,
    Cursor.isAt, Nat.succ_le_iff, List.length_pos_iff, List.forall_mem_append, Bool.or_eq_true,
    List.isEmpty_iff, beq_iff_eq]
  constructor
  · rintro ⟨_, _, ⟨-, rfl⟩, _, ⟨name, _, rfl, hname, hnames, rfl⟩, _, ⟨_, _, hat, rfl, rfl⟩,
      _, ⟨left, _, hleft, hleft', hlefts, rfl⟩, _, ⟨_, _, hdot, rfl, rfl⟩,
      _, ⟨right, rest, hright, hright', hrights, rfl⟩, hend, rfl⟩
    simp only [Cursor.after_past] at hat hleft hdot hright hend
    subst hat hleft hdot hright
    exact ⟨name, left, right, rest, rfl, ⟨hname, hleft', hright'⟩, ⟨hnames, hlefts, hrights⟩, hend⟩
  · rintro ⟨name, left, right, rest, rfl, ⟨hname, hleft, hright⟩, ⟨hnames, hlefts, hrights⟩, hend⟩
    exact ⟨_, _, ⟨trivial, rfl⟩, _, ⟨name, _, rfl, hname, hnames, rfl⟩, _, ⟨'@', _, rfl, rfl, rfl⟩,
      _, ⟨left, _, rfl, hleft, hlefts, rfl⟩, _, ⟨'.', _, rfl, rfl, rfl⟩,
      _, ⟨right, rest, rfl, hright, hrights, rfl⟩, hend, rfl⟩

theorem occursIn_address_iff (s : String) :
    address.occursIn s = true ↔ ∃ d, address.Leads ⟨[], s.toList, 0, []⟩ d := by
  have hfound : address.occursIn s = (address.run some ⟨[], s.toList, 0, []⟩).isSome := by
    unfold Node.occursIn
    cases s.toList with
    | nil => rfl
    | cons c cs =>
        have hbehind : address.foundFrom [c] 1 cs = false :=
          Node.not_foundFrom (List.cons_ne_nil c []) 1 cs
        rw [Node.foundFrom, hbehind, Bool.or_false]
  rw [hfound, follows_address]
  simp

end Pattern

namespace Modifier

open Text

/-- Whether a text is an address: it has no white space and one at sign, with something before it
and behind it a dot that is neither the first nor the last character there. -/
structure IsAddress (s : String) : Prop where
  unbroken : ∀ x ∈ s.toList, isBlank x = false
  single : s.toList.count '@' = 1
  parts : ∃ name host, s.toList = name ++ '@' :: host ∧ name ≠ [] ∧
    ∃ left right, host = left ++ '.' :: right ∧ left ≠ [] ∧ right ≠ []

theorem isAddress_iff {s : String} : IsAddress s ↔
    ∃ name left right, s.toList = name ++ '@' :: (left ++ '.' :: right) ∧
      (name ≠ [] ∧ left ≠ [] ∧ right ≠ []) ∧
      ∀ x ∈ name ++ (left ++ right), x ≠ '@' ∧ isBlank x = false := by
  constructor
  · rintro ⟨hunbroken, hsingle, name, host, hs, hname, left, right, rfl, hleft, hright⟩
    refine ⟨name, left, right, hs, ⟨hname, hleft, hright⟩, fun x hx => ⟨?_, ?_⟩⟩
    · rintro rfl
      rw [hs] at hsingle
      have hcount : 0 < (name ++ (left ++ right)).count '@' := List.count_pos_iff.mpr hx
      simp only [List.count_append, List.count_cons, beq_self_eq_true, if_true] at hsingle hcount
      omega
    · apply hunbroken
      rw [hs]
      simp only [List.mem_append, List.mem_cons] at hx ⊢
      exact hx.imp_right fun h => .inr (h.imp_right .inr)
  · rintro ⟨name, left, right, hs, ⟨hname, hleft, hright⟩, hall⟩
    simp only [List.forall_mem_append] at hall
    obtain ⟨hnames, hlefts, hrights⟩ := hall
    refine ⟨?_, ?_, name, _, hs, hname, left, right, rfl, hleft, hright⟩
    · rw [hs]
      simp only [List.forall_mem_append, List.forall_mem_cons]
      exact ⟨fun x hx => (hnames x hx).2, by decide, fun x hx => (hlefts x hx).2, by decide,
        fun x hx => (hrights x hx).2⟩
    · have hnone : ∀ l : List Char, (∀ x ∈ l, x ≠ '@' ∧ isBlank x = false) → l.count '@' = 0 :=
        fun l hl => List.count_eq_zero.mpr fun hmem => (hl _ hmem).1 rfl
      rw [hs]
      simp [hnone name hnames, hnone left hlefts, hnone right hrights]

/-- A text is accepted when it is an address, or an address with the end of a line behind it. -/
theorem isEmail_iff (s : String) :
    (Validator.isEmail [.text s] = .ok true ↔
        IsAddress s ∨ ∃ t : String, s = t.push '\n' ∧ IsAddress t) ∧
      (Validator.isEmail [.text s] = .ok false ↔
        ¬(IsAddress s ∨ ∃ t : String, s = t.push '\n' ∧ IsAddress t)) := by
  have haccepted : Pattern.address.occursIn s = true ↔
      IsAddress s ∨ ∃ t : String, s = t.push '\n' ∧ IsAddress t := by
    rw [Pattern.occursIn_address_iff, Pattern.exists_leads_address_iff]
    constructor
    · rintro ⟨name, left, right, rest, hs, hparts, hall, rfl | rfl⟩
      · exact .inl (isAddress_iff.mpr ⟨name, left, right, by simpa using hs, hparts, hall⟩)
      · refine .inr ⟨String.ofList (name ++ '@' :: (left ++ '.' :: right)), ?_,
          isAddress_iff.mpr ⟨name, left, right, String.toList_ofList, hparts, hall⟩⟩
        rw [← String.toList_inj, hs]
        simp
    · rintro (hs | ⟨t, rfl, ht⟩)
      · obtain ⟨name, left, right, hs, hparts, hall⟩ := isAddress_iff.mp hs
        exact ⟨name, left, right, [], by simpa using hs, hparts, hall, .inl rfl⟩
      · obtain ⟨name, left, right, ht, hparts, hall⟩ := isAddress_iff.mp ht
        exact ⟨name, left, right, ['\n'], by simp [ht], hparts, hall, .inr rfl⟩
  rw [← haccepted]
  simp [Validator.isEmail]

end Modifier

end FieldPipeline
