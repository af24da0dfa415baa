import FieldPipeline.Declaration.Reader
import FieldPipeline.Proofs.Entries
import FieldPipeline.Proofs.Sequence

/-!
Checks that find nothing wrong: what they have read, and that of each part they have found nothing
wrong.
-/

namespace FieldPipeline.Check

variable {α β : Type}

theorem bind_eq_pure {c : Check α} {f : α → Check β} {b : β} :
    c >>= f = pure b ↔ ∃ a, c = pure a ∧ f a = pure b := by
  obtain ⟨a, issues⟩ := c
  change Check.mk (f a).value (issues ++ (f a).issues) = ⟨b, []⟩ ↔ _
  constructor
  · intro h
    obtain ⟨hvalue, hissues⟩ := Check.mk.inj h
    obtain ⟨rfl, hrest⟩ := List.append_eq_nil_iff.mp hissues
    exact ⟨a, rfl, Check.mk.injEq .. ▸ ⟨hvalue, hrest⟩⟩
  · rintro ⟨a', ha, hb⟩
    cases ha
    rw [hb]
    rfl

theorem pure_eq_pure {a b : α} : (pure a : Check α) = pure b ↔ a = b :=
  ⟨fun h => (Check.mk.inj h).1, fun h => by rw [h]⟩

theorem within_eq_pure {c : Check α} {part : String} {a : α} :
    c.within part = pure a ↔ c = pure a := by
  obtain ⟨b, issues⟩ := c
  change Check.mk b (issues.map _) = ⟨a, []⟩ ↔ Check.mk b issues = ⟨a, []⟩
  rw [Check.mk.injEq, Check.mk.injEq, List.map_eq_nil_iff]

theorem result_eq_ok {c : Check α} {a : α} : c.result = .ok a ↔ c = pure a := by
  obtain ⟨b, issues⟩ := c
  change (if issues.isEmpty then Except.ok b else _) = _ ↔ Check.mk b issues = ⟨a, []⟩
  rw [Check.mk.injEq]
  cases issues <;> simp

theorem refuse_ne_pure [Inhabited α] {kind : String} {a : α} : (refuse kind : Check α) ≠ pure a :=
  nofun

theorem fail_cons_ne_pure [Inhabited α] {issue : Issue} {issues : List Issue} {a : α} :
    (fail (issue :: issues) : Check α) ≠ pure a :=
  nofun

theorem required_eq_pure [Inhabited α] {es : Entries} {name : String} {shape : Value → Check α}
    {a : α} : required es name shape = pure a ↔
      ∃ v, under? name es = some v ∧ shape v = pure a := by
  unfold required
  split
  · rename_i v hv
    rw [within_eq_pure]
    simp [hv]
  · rename_i hnone
    simp [hnone, fail_cons_ne_pure]

theorem orElse_eq_pure {es : Entries} {name : String} {shape : Value → Check α} {other a : α} :
    orElse es name shape other = pure a ↔
      (∃ v, under? name es = some v ∧ shape v = pure a) ∨ under? name es = none ∧ other = a := by
  unfold orElse
  split
  · rename_i v hv
    rw [within_eq_pure]
    simp [hv]
  · rename_i hnone
    simp [hnone, pure_eq_pure]

theorem text_eq_pure {v : Value} {s : String} :
    text v = pure s ↔ v = .text s ∨
      ∃ bs, v = .bytes bs ∧ String.fromUTF8? (ByteArray.mk bs.toArray) = some s := by
  cases v with
  | text t => simp [text, pure_eq_pure]
  | bytes bs =>
      cases hdecoded : String.fromUTF8? (ByteArray.mk bs.toArray) with
      | none => simp [text, hdecoded, refuse_ne_pure]
      | some t => simp [text, hdecoded, pure_eq_pure]
  | _ => simp [text, refuse_ne_pure]

theorem mapping_eq_pure [Inhabited α] {shape : Entries → Check α} {v : Value} {a : α} :
    mapping shape v = pure a ↔ ∃ es, v = .dict es ∧ shape es = pure a := by
  cases v with
  | dict es => simp [mapping]
  | _ => simp [mapping, refuse_ne_pure]

theorem each_eq_pure {shape : Value → Check α} {i : Nat} {vs : List Value} {as : List α} :
    each shape i vs = pure as ↔ List.Forall₂ (fun v a => shape v = pure a) vs as := by
  induction vs generalizing i as with
  | nil =>
      rw [each, pure_eq_pure]
      exact ⟨fun h => h ▸ .nil, fun h => by cases h; rfl⟩
  | cons v vs ih =>
      simp only [each, bind_eq_pure, within_eq_pure, ih, pure_eq_pure]
      constructor
      · rintro ⟨a, ha, rest, hrest, rfl⟩
        exact .cons ha hrest
      · rintro h
        cases h with
        | cons ha hrest => exact ⟨_, ha, _, hrest, rfl⟩

theorem listOf_eq_pure {shape : Value → Check α} {v : Value} {as : List α} :
    listOf shape v = pure as ↔ ∃ vs, (v = .list vs ∨ v = .tuple vs ∨ v = .set vs) ∧
      List.Forall₂ (fun v a => shape v = pure a) vs as := by
  cases v with
  | list | tuple | set => simp [listOf, each_eq_pure]
  | _ => simp [listOf, refuse_ne_pure]

theorem listOf_list_eq_pure {shape : Value → Check α} {vs : List Value} {as : List α} :
    listOf shape (.list vs) = pure as ↔ List.Forall₂ (fun v a => shape v = pure a) vs as :=
  each_eq_pure

theorem keys_entries {r : Record} (h : r.names.Nodup) : keys r.entries = pure r := by
  induction r with
  | nil => rfl
  | cons e r ih =>
      obtain ⟨name, v⟩ := e
      obtain ⟨hname, hrest⟩ : name ∉ Record.names r ∧ (Record.names r).Nodup :=
        List.nodup_cons.mp h
      rw [Record.entries_cons, keys, bind_eq_pure]
      refine ⟨name, rfl, ?_⟩
      rw [ih hrest, bind_eq_pure]
      refine ⟨r, rfl, ?_⟩
      have hlacks : Record.has name r = false := by
        rw [← Bool.not_eq_true, Record.has_eq_true_iff_mem_names]
        exact hname
      have hkept : Record.erase name r = r := by
        refine List.filter_eq_self.mpr fun e he => decide_eq_true fun heq => hname ?_
        exact heq ▸ List.mem_map_of_mem he
      rw [(Record.get?_eq_none_iff _ _).mpr hlacks, hkept]
      rfl

theorem nodup_of_keys {es : List (Value × Value)} {r : Record} (h : keys es = pure r) :
    r.names.Nodup := by
  induction es generalizing r with
  | nil =>
      cases pure_eq_pure.mp h
      exact List.nodup_nil
  | cons e es ih =>
      obtain ⟨name, -, h⟩ := bind_eq_pure.mp h
      obtain ⟨rest, hrest, h⟩ := bind_eq_pure.mp h
      cases pure_eq_pure.mp h
      refine List.nodup_cons.mpr ⟨fun hmem => ?_, ?_⟩
      · obtain ⟨entry, hentry, hname⟩ := List.mem_map.mp hmem
        exact of_decide_eq_true (List.mem_filter.mp hentry).2 hname
      · exact (ih hrest).sublist (List.filter_sublist.map _)

theorem nodup_of_orElse_record {es : Entries} {name : String} {r : Record}
    (h : orElse es name record [] = pure r) : r.names.Nodup := by
  rcases orElse_eq_pure.mp h with ⟨v, -, hread⟩ | ⟨-, rfl⟩
  · cases v with
    | dict es => exact nodup_of_keys hread
    | _ => exact absurd hread refuse_ne_pure
  · exact List.nodup_nil

end FieldPipeline.Check
