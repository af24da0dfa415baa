import Mathlib.Data.List.Induction
import Mathlib.Data.List.Infix
import FieldPipeline.Rule.Tree

/-!
A tree of rules agrees with the flat list of all that was registered, whichever order the
registrations came in: the chain of a path is made up of the actions at the root and, for each
prefix of its keys from the shortest on, of those registered under just these keys.  What is
refused leaves no node behind.
-/

namespace FieldPipeline

namespace Offered

def action? : Offered → Option Action
  | .action a => some a
  | .other _ => none

theorem toOption_actions (offered : List Offered) :
    (actions offered).toOption = offered.mapM action? := by
  induction offered with
  | nil => rfl
  | cons first offered ih =>
      cases first with
      | other v => rfl
      | action a =>
          rw [actions, List.mapM_cons, ← ih]
          cases actions offered <;> rfl

theorem actions_ok_or_refused (offered : List Offered) :
    ((∀ v, .other v ∉ offered) ∧ ∃ as, actions offered = .ok as) ∨
      ∃ v, .other v ∈ offered ∧ actions offered = .error (.unusableAction v) := by
  induction offered with
  | nil => exact .inl ⟨by simp, [], rfl⟩
  | cons first offered ih =>
      cases first with
      | other v => exact .inr ⟨v, by simp, rfl⟩
      | action a =>
          rcases ih with ⟨hnone, as, has⟩ | ⟨v, hv, herror⟩
          · exact .inl ⟨by simpa using hnone, a :: as, by rw [actions, has]; rfl⟩
          · exact .inr ⟨v, by simp [hv], by rw [actions, herror]; rfl⟩

end Offered

namespace RuleTree

/-! ### Paths -/

example : keys "mod/op" = ["mod", "op"] ∧ keys "/mod/op//" = ["mod", "op"] ∧
    keys "/mod//op" = ["mod", "", "op"] ∧ keys "//" = [] := by decide

/-! ### The nodes of a tree -/

def actionsAt? : List String → RuleTree → Option (List Action)
  | [], t => some t.actions
  | key :: rest, t => (t.child? key).bind (actionsAt? rest)

theorem collect?_eq (way : List String) (t : RuleTree) :
    t.collect? way = (t.actionsAt? way).map fun _ =>
      way.inits.flatMap fun w => (t.actionsAt? w).getD [] := by
  induction way generalizing t with
  | nil => simp [collect?, actionsAt?]
  | cons key rest ih =>
      rw [collect?, actionsAt?, List.inits_cons]
      cases hchild : t.child? key with
      | none => rfl
      | some below =>
          simp only [Option.bind_some, Option.bind_eq_bind, ih, List.flatMap_cons,
            List.flatMap_map, actionsAt?, hchild]
          cases below.actionsAt? rest <;> rfl

theorem reaches_eq (way : List String) (t : RuleTree) :
    t.reaches way = (t.actionsAt? way).isSome := by
  induction way generalizing t with
  | nil => rfl
  | cons key rest ih =>
      rw [reaches, actionsAt?]
      cases t.child? key with
      | none => rfl
      | some below => exact ih below

theorem child?_cons (name key : String) (child : RuleTree) (actions : List Action)
    (children : List (String × RuleTree)) :
    (node actions ((key, child) :: children)).child? name =
      if name = key then some child else (node actions children).child? name := by
  by_cases h : name = key
  · simp [child?, RuleTree.children, h]
  · have hbeq : (name == key) = false := beq_false_of_ne h
    simp [child?, RuleTree.children, List.lookup_cons, h, hbeq]

theorem child?_setChild (name key : String) (child : RuleTree) (actions : List Action)
    (children : List (String × RuleTree)) :
    (node actions (setChild key child children)).child? name =
      if name = key then some child else (node actions children).child? name := by
  induction children with
  | nil => exact child?_cons ..
  | cons first children ih =>
      obtain ⟨other, old⟩ := first
      rw [setChild, child?_cons]
      by_cases hkey : other = key
      · subst hkey
        rw [if_pos rfl, child?_cons]
        by_cases h : name = other <;> simp [h]
      · rw [if_neg hkey, child?_cons, ih]
        by_cases h : name = other
        · subst h
          simp [hkey]
        · simp [h]

theorem actionsAt?_leaf (way : List String) :
    leaf.actionsAt? way = if way = [] then some [] else none := by
  cases way <;> rfl

theorem actionsAt?_extend (actions : List Action) (way : List String) (t : RuleTree)
    (w : List String) :
    (t.extend actions way).actionsAt? w =
      if w <+: way then some ((t.actionsAt? w).getD [] ++ if w = way then actions else [])
      else t.actionsAt? w := by
  induction way generalizing t w with
  | nil =>
      cases w with
      | nil => simp [extend, actionsAt?, RuleTree.actions]
      | cons name w => simp [extend, actionsAt?, child?, RuleTree.children]
  | cons key rest ih =>
      cases w with
      | nil => simp [extend, actionsAt?, RuleTree.actions]
      | cons name w =>
          rw [extend, actionsAt?, child?_setChild, actionsAt?]
          by_cases hname : name = key
          · subst hname
            simp only [if_true, Option.bind_some, ih, List.cons_prefix_cons, true_and,
              List.cons.injEq]
            -- a node that is made on the way is extended as a leaf
            cases hchild : t.child? name with
            | some below => rfl
            | none => cases w <;> simp [actionsAt?_leaf]
          · rw [if_neg hname, if_neg fun h => hname (List.cons_prefix_cons.mp h).1]
            rfl

/-! ### What has been registered -/

abbrev Registration := List String × List Action

def registration? (offer : String × List Offered) : Option Registration :=
  (offer.2.mapM Offered.action?).map fun actions => (keys offer.1, actions)

def registered (offers : List (String × List Offered)) : List Registration :=
  offers.filterMap registration?

/-- The actions that were registered under just some keys. -/
def under (rs : List Registration) (way : List String) : List Action :=
  (rs.filter fun r => r.1 = way).flatMap Prod.snd

/-- The actions that were registered on a way, those under its shorter prefixes first. -/
def along (rs : List Registration) (way : List String) : List Action :=
  way.inits.flatMap (under rs)

/-- Whether there is a node at the end of a way: the root, or one on the way to a registration. -/
def Covers (rs : List Registration) (way : List String) : Prop :=
  way = [] ∨ ∃ r ∈ rs, way <+: r.1

instance (rs : List Registration) (way : List String) : Decidable (Covers rs way) :=
  inferInstanceAs (Decidable (_ ∨ _))

theorem under_append_singleton (rs : List Registration) (r : Registration) (way : List String) :
    under (rs ++ [r]) way = under rs way ++ if way = r.1 then r.2 else [] := by
  by_cases h : way = r.1 <;> simp [under, h, eq_comm]

theorem covers_append_singleton (rs : List Registration) (r : Registration) (way : List String) :
    Covers (rs ++ [r]) way ↔ way <+: r.1 ∨ Covers rs way := by
  simp only [Covers, List.mem_append, List.mem_singleton, or_and_right, exists_or, exists_eq_left]
  rw [← or_assoc, or_comm]

theorem under_of_not_covers {rs : List Registration} {way : List String} (h : ¬Covers rs way) :
    under rs way = [] := by
  rw [under, List.flatMap_eq_nil_iff]
  intro r hr
  rw [List.mem_filter, decide_eq_true_iff] at hr
  exact absurd (.inr ⟨r, hr.1, hr.2 ▸ List.prefix_rfl⟩) h

def ofRegistrations (root : List Action) (rs : List Registration) : RuleTree :=
  rs.foldl (fun t r => t.extend r.2 r.1) (node root [])

theorem actionsAt?_ofRegistrations (root : List Action) (rs : List Registration)
    (way : List String) :
    (ofRegistrations root rs).actionsAt? way =
      if Covers rs way then some ((if way = [] then root else []) ++ under rs way) else none := by
  -- the last registration extends the tree of those before it
  induction rs using List.reverseRecOn with
  | nil =>
      cases way with
      | nil => simp [ofRegistrations, actionsAt?, RuleTree.actions, Covers, under]
      | cons key rest => simp [ofRegistrations, actionsAt?, child?, RuleTree.children, Covers]
  | append_singleton rs r ih =>
      have hfold : ofRegistrations root (rs ++ [r]) = (ofRegistrations root rs).extend r.2 r.1 := by
        simp [ofRegistrations]
      rw [hfold, actionsAt?_extend, ih]
      simp only [covers_append_singleton, under_append_singleton]
      by_cases hway : way <+: r.1
      · by_cases hcovers : Covers rs way
        · simp [hway, hcovers]
        · have hne : way ≠ [] := fun h => hcovers (.inl h)
          simp [hway, hcovers, hne, under_of_not_covers hcovers]
      · have hne : way ≠ r.1 := fun h => hway (h ▸ List.prefix_rfl)
        simp [hway, hne]

theorem flatMap_actionsAt?_ofRegistrations (root : List Action) (rs : List Registration)
    (way : List String) :
    (way.inits.flatMap fun w => ((ofRegistrations root rs).actionsAt? w).getD []) =
      root ++ along rs way := by
  have hnode : ∀ w, ((ofRegistrations root rs).actionsAt? w).getD [] =
      (if w = [] then root else []) ++ under rs w := by
    intro w
    rw [actionsAt?_ofRegistrations]
    by_cases hcovers : Covers rs w
    · simp [hcovers]
    · have hne : w ≠ [] := fun h => hcovers (.inl h)
      simp [hcovers, hne, under_of_not_covers hcovers]
  simp only [hnode, along]
  cases way with
  | nil => simp
  | cons key rest => simp [List.flatMap_map]

/-! ### Offers -/

def after (t : RuleTree) (offer : String × List Offered) : RuleTree :=
  match t.add offer.1 offer.2 with
  | .ok t => t
  | .error _ => t

def ofOffers (root : List Action) (offers : List (String × List Offered)) : RuleTree :=
  offers.foldl after (node root [])

theorem after_eq (t : RuleTree) (offer : String × List Offered) :
    t.after offer = match registration? offer with
      | some r => t.extend r.2 r.1
      | none => t := by
  rw [after, add, registration?, ← Offered.toOption_actions]
  cases Offered.actions offer.2 <;> rfl

theorem add_ok_or_refused (t : RuleTree) (path : String) (offered : List Offered) :
    ((∀ v, .other v ∉ offered) ∧ ∃ t', t.add path offered = .ok t') ∨
      ∃ v, .other v ∈ offered ∧ t.add path offered = .error (.unusableAction v) := by
  rw [add]
  rcases Offered.actions_ok_or_refused offered with ⟨hnone, as, has⟩ | ⟨v, hv, herror⟩
  · exact .inl ⟨hnone, _, by rw [has]; rfl⟩
  · exact .inr ⟨v, hv, by rw [herror]; rfl⟩

theorem ofOffers_eq (root : List Action) (offers : List (String × List Offered)) :
    ofOffers root offers = ofRegistrations root (registered offers) := by
  induction offers using List.reverseRecOn with
  | nil => rfl
  | append_singleton offers offer ih =>
      have hfold : ofOffers root (offers ++ [offer]) = (ofOffers root offers).after offer := by
        simp [ofOffers]
      rw [hfold, after_eq, ih]
      cases hoffer : registration? offer with
      | none => simp [registered, hoffer]
      | some r => simp [registered, ofRegistrations, hoffer]

/-- Whatever was offered, and whichever offers were refused: a path has a chain just when its keys
lead towards something registered, and the chain is made up of the actions at the root and those
registered along the path.  A further offer is refused just when something in it is no action. -/
theorem collect_ofOffers (root : List Action) (offers : List (String × List Offered))
    (path : String) :
    (ofOffers root offers).collect path =
        (if Covers (registered offers) (keys path)
          then .ok (root ++ along (registered offers) (keys path))
          else .error (.unknownPath path)) ∧
      ((ofOffers root offers).hasPath path = true ↔
        ∃ actions, (ofOffers root offers).collect path = .ok actions) ∧
      ∀ offered, ((∀ v, .other v ∉ offered) ∧
          ∃ t, (ofOffers root offers).add path offered = .ok t) ∨
        ∃ v, .other v ∈ offered ∧
          (ofOffers root offers).add path offered = .error (.unusableAction v) := by
  have hcollect : (ofOffers root offers).collect path =
      if Covers (registered offers) (keys path)
        then .ok (root ++ along (registered offers) (keys path))
        else .error (.unknownPath path) := by
    rw [collect, collect?_eq, ofOffers_eq, flatMap_actionsAt?_ofRegistrations,
      actionsAt?_ofRegistrations]
    by_cases hcovers : Covers (registered offers) (keys path)
    · rw [if_pos hcovers, if_pos hcovers]
      rfl
    · rw [if_neg hcovers, if_neg hcovers]
      rfl
  refine ⟨hcollect, ?_, add_ok_or_refused _ path⟩
  rw [hcollect, hasPath, reaches_eq, ofOffers_eq, actionsAt?_ofRegistrations]
  split <;> simp

example (a b c d : Action) :
    (ofOffers [a] [("m/o", [.action b]), ("m/", [.action c]),
      ("x", [.action d, .other .null])]).collect "/m/o" = .ok [a, c, b] := by cbv

end RuleTree

end FieldPipeline
