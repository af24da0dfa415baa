import FieldPipeline.Json.Reader
import FieldPipeline.Proofs.Entries
import FieldPipeline.Proofs.Sequence

/-!
The values that JSON texts denote.  An object that is read is a record which has each of its names
once.
-/

namespace FieldPipeline.Json

inductive Regular : Value → Prop
  | null : Regular .null
  | bool (b : Bool) : Regular (.bool b)
  | int (n : Int) : Regular (.int n)
  | float (x : Float) : Regular (.float x)
  | text (s : String) : Regular (.text s)
  | list {xs : List Value} (hxs : ∀ x ∈ xs, Regular x) : Regular (.list xs)
  | dict {r : Record} (hnames : r.names.Nodup) (hr : ∀ e ∈ r, Regular e.2) :
      Regular (.dict r.entries)

theorem regular_readWord? {cs rest : List Char} {v : Value} (h : readWord? cs = some (v, rest)) :
    Regular v := by
  obtain ⟨⟨word, w⟩, hmem, hword⟩ := List.exists_of_findSome?_eq_some h
  obtain ⟨_, _, hsame⟩ := Option.map_eq_some_iff.mp hword
  cases hsame
  simp only [words, List.mem_cons, Prod.mk.injEq, List.not_mem_nil, or_false] at hmem
  rcases hmem with ⟨-, rfl⟩ | ⟨-, rfl⟩ | ⟨-, rfl⟩ | ⟨-, rfl⟩ | ⟨-, rfl⟩ | ⟨-, rfl⟩
  · exact .null
  · exact .bool _
  · exact .bool _
  · exact .float _
  · exact .float _
  · exact .float _

theorem regular_readNumber? {cs rest : List Char} {v : Value}
    (h : readNumber? cs = some (.ok v, rest)) : Regular v := by
  unfold readNumber? at h
  dsimp only at h
  obtain ⟨⟨whole, afterWhole⟩, -, h⟩ := Option.bind_eq_some_iff.mp h
  dsimp only at h
  split at h
  · split at h
    · cases h
    · cases h
      exact .int _
  · cases h
    exact .float _

structure ReadsRegular (fuel : Nat) : Prop where
  value : ∀ levels cs v rest, readValue fuel levels cs = .ok (v, rest) → Regular v
  items : ∀ levels cs xs rest, readItems fuel levels cs = .ok (xs, rest) → ∀ x ∈ xs, Regular x
  members : ∀ levels cs es rest, readMembers fuel levels cs = .ok (es, rest) →
    ∃ r : Record, es = r.entries ∧ ∀ e ∈ r, Regular e.2

theorem readsRegular_succ {fuel : Nat} (ih : ReadsRegular fuel) : ReadsRegular (fuel + 1) where
  value levels cs v rest h := by
    rw [readValue.eq_def] at h
    dsimp only at h
    split at h
    · split at h
      · cases h
        exact .text _
      · cases h
    · split at h
      · cases h
      split at h
      · cases h
        exact .list nofun
      · obtain ⟨⟨xs, tail⟩, hitems, h⟩ := bind_eq_ok.mp h
        cases h
        exact .list (ih.items _ _ _ _ hitems)
    · split at h
      · cases h
      split at h
      · cases h
        exact .dict (r := []) List.nodup_nil nofun
      · obtain ⟨⟨es, tail⟩, hmembers, h⟩ := bind_eq_ok.mp h
        cases h
        obtain ⟨r, rfl, hr⟩ := ih.members _ _ _ _ hmembers
        rw [Record.dictOf_entries]
        refine .dict (Record.nodup_names_update (r := []) List.nodup_nil r) fun e he => ?_
        exact hr e ((Record.mem_update he).resolve_left List.not_mem_nil)
    · split at h
      · rename_i hword
        cases h
        exact regular_readWord? hword
      · split at h
        · rename_i number tail hnumber
          cases number with
          | error f => cases h
          | ok w =>
              cases h
              exact regular_readNumber? hnumber
        · cases h
  items levels cs xs rest h := by
    rw [readItems] at h
    obtain ⟨⟨x, tail⟩, hx, h⟩ := bind_eq_ok.mp h
    have hregular := ih.value _ _ _ _ hx
    dsimp only at h
    split at h
    · cases h
      simpa using hregular
    · obtain ⟨⟨more, left⟩, hmore, h⟩ := bind_eq_ok.mp h
      cases h
      exact List.forall_mem_cons.mpr ⟨hregular, ih.items _ _ _ _ hmore⟩
    · cases h
  members levels cs es rest h := by
    rw [readMembers.eq_def] at h
    dsimp only at h
    split at h
    · split at h
      · cases h
      rename_i name afterName hname
      split at h
      · obtain ⟨⟨v, tail⟩, hv, h⟩ := bind_eq_ok.mp h
        have hregular := ih.value _ _ _ _ hv
        dsimp only at h
        split at h
        · cases h
          exact ⟨[(name, v)], rfl, by simpa using hregular⟩
        · obtain ⟨⟨more, left⟩, hmore, h⟩ := bind_eq_ok.mp h
          cases h
          obtain ⟨r, rfl, hr⟩ := ih.members _ _ _ _ hmore
          exact ⟨(name, v) :: r, rfl, List.forall_mem_cons.mpr ⟨hregular, hr⟩⟩
        · cases h
      · cases h
    · cases h

theorem readsRegular (fuel : Nat) : ReadsRegular fuel := by
  induction fuel with
  | zero => exact ⟨nofun, nofun, nofun⟩
  | succ fuel ih => exact readsRegular_succ ih

theorem regular_of_read {s : String} {v : Value} (h : read s = .ok v) : Regular v := by
  unfold read at h
  dsimp only at h
  obtain ⟨⟨w, rest⟩, hread, h⟩ := bind_eq_ok.mp h
  dsimp only at h
  split at h
  · cases h
    exact (readsRegular _).value _ _ _ _ hread
  · cases h

end FieldPipeline.Json
