import FieldPipeline.CommandLine.Program
import FieldPipeline.Json.Writer
import FieldPipeline.Proofs.Routine.Isolation
import FieldPipeline.Proofs.Sequence

/-!
What there is to report on declaration files.  Checking a file by itself comes to a finding.  The
report is made of the findings, of which those about entities are known by the names of the
entities: of two with one name only the latter is reported.  The report can be written as a
document, since the details of its errors are texts and lists of texts.
-/

namespace FieldPipeline

/-! ### What can be written -/

namespace Json

def Writable (v : Value) : Prop :=
  ∃ w, normal v = .ok w

theorem Writable.text (s : String) : Writable (.text s) :=
  ⟨_, by rw [normal]⟩

theorem Writable.int (n : Int) : Writable (.int n) :=
  ⟨_, by rw [normal]⟩

theorem Writable.list {xs : List Value} (h : ∀ x ∈ xs, Writable x) : Writable (.list xs) := by
  have hitems : ∃ ys, normalItems xs = .ok ys := by
    induction xs with
    | nil => exact ⟨_, by rw [normalItems]⟩
    | cons x xs ih =>
        obtain ⟨⟨y, hy⟩, hxs⟩ := List.forall_mem_cons.mp h
        obtain ⟨ys, hys⟩ := ih hxs
        exact ⟨y :: ys, by rw [normalItems, hy, hys]; rfl⟩
  obtain ⟨ys, hys⟩ := hitems
  exact ⟨.list ys, by rw [normal, hys]; rfl⟩

theorem Writable.texts (items : List String) : Writable (textList items) := by
  refine Writable.list fun x hx => ?_
  obtain ⟨item, _, rfl⟩ := List.mem_map.mp hx
  exact Writable.text item

theorem Writable.record {r : Record} (h : ∀ e ∈ r, Writable e.2) : Writable r.toValue := by
  have hmembers : ∃ es, normalMembers (r.map fun e => (.text e.1, e.2)) = .ok es := by
    induction r with
    | nil => exact ⟨_, by rw [List.map_nil, normalMembers]⟩
    | cons e r ih =>
        obtain ⟨⟨w, hw⟩, hr⟩ := List.forall_mem_cons.mp h
        obtain ⟨es, hes⟩ := ih hr
        refine ⟨(.text e.1, w) :: es, ?_⟩
        rw [List.map_cons, normalMembers, memberName?, hw, hes]
        rfl
  obtain ⟨es, hes⟩ := hmembers
  exact ⟨.dict es, by rw [Record.toValue, normal, hes]; rfl⟩

end Json

open Json (Writable)

theorem DeclarationError.writable_details (e : DeclarationError) :
    ∀ d ∈ e.details, Writable d.2 := by
  have hentity : ∀ d ∈ e.entity.toList.map fun name => ("entity", Value.text name),
      Writable d.2 := by
    intro d hd
    obtain ⟨name, _, rfl⟩ := List.mem_map.mp hd
    exact .text name
  unfold details
  refine List.forall_mem_append.mpr ⟨hentity, ?_⟩
  cases e.fault <;> simp [Writable.text, Writable.texts]

namespace CommandLine

theorem Complaint.writable {c : Complaint} (h : ∀ d ∈ c.details, Writable d.2) :
    Writable c.toRecord.toValue :=
  Writable.record (List.forall_mem_cons.mpr ⟨.text _, h⟩)

theorem Report.writable_document {r : Report}
    (herrors : ∀ c ∈ r.errors, ∀ d ∈ c.details, Writable d.2) (hdata : ∀ d ∈ r.data, Writable d.2) :
    Writable r.document.toValue := by
  have hwarnings : Writable
      (.list (r.warnings.map fun message => Record.toValue [("message", .text message)])) := by
    refine .list fun x hx => ?_
    obtain ⟨message, _, rfl⟩ := List.mem_map.mp hx
    exact .record (by simp [Writable.text])
  have hlisted : Writable (.list (r.errors.map fun c => c.toRecord.toValue)) := by
    refine .list fun x hx => ?_
    obtain ⟨c, hc, rfl⟩ := List.mem_map.mp hx
    exact Complaint.writable (herrors c hc)
  refine .record ?_
  simp only [document, List.forall_mem_append, List.forall_mem_cons]
  exact ⟨⟨⟨.text _, hwarnings, hlisted, by simp⟩, hdata⟩, .int _, by simp⟩

open Compilation (latest)

/-! ### Findings -/

inductive Finding where
  /-- The file declares an entity that has a routine. -/
  | passed (name : String) (r : Routine)
  /-- The file declares no entity.  It goes by its path. -/
  | unlinked (file : String) (c : Complaint)
  /-- The file declares an entity that cannot be compiled. -/
  | refused (name : String) (error : DeclarationError)
  /-- Something fails that is no fault of a declaration. -/
  | broken

namespace Finding

def ofEntity (table : ModifierTable) (merging : Bool) (e : Entity) : Finding :=
  match e.compile table merging with
  | .ok r => .passed e.name r
  | .error (.declaration error) => .refused e.name error
  | .error _ => .broken

def ofLoaded (table : ModifierTable) (merging : Bool) (l : Path × Except Obstacle Entity) :
    Finding :=
  match l.2 with
  | .ok e => ofEntity table merging e
  | .error o =>
    match fileComplaint? l.1 o with
    | some c => .unlinked l.1.text c
    | none => .broken

def refusal (entry : String × DeclarationError) : Complaint :=
  (Complaint.ofDeclaration entry.2).about entry.1

def complaint? : Finding → Option Complaint
  | .unlinked _ c => some c
  | .refused name error => some (refusal (name, error))
  | .passed _ _ | .broken => none

def passed? : Finding → Option (String × Routine)
  | .passed name r => some (name, r)
  | _ => none

def unlinked? : Finding → Option (String × Complaint)
  | .unlinked file c => some (file, c)
  | _ => none

def refused? : Finding → Option (String × DeclarationError)
  | .refused name error => some (name, error)
  | _ => none

end Finding

open Finding

def Workspace.finding (w : Workspace) (merging : Bool) (file : Path) : Finding :=
  ofLoaded w.table merging (file, w.entity file)

def nameLists (valid invalid : List String) : Record :=
  [("valid", sortedNames valid), ("invalid", sortedNames invalid)]

/-- The report on some findings.  Those of entities that share a name are not kept apart. -/
def Report.ofFindings (fs : List Finding) : Report where
  errors := (fs.filterMap unlinked?).map Prod.snd ++ (latest (fs.filterMap refused?)).map refusal
  data := nameLists ((latest (fs.filterMap passed?)).map Prod.fst)
    ((fs.filterMap unlinked?).map Prod.fst ++ (latest (fs.filterMap refused?)).map Prod.fst)

def told (fs : List Finding) : List String :=
  (Report.ofFindings fs).errors.map (fun c => "✗ " ++ c.message)
    ++ (latest (fs.filterMap passed?)).map fun entry =>
      "✓ " ++ (entry.1 ++ ": " ++ groupCount entry.2)

namespace Finding

variable {table : ModifierTable} {merging : Bool}

theorem passed?_ofEntity (e : Entity) :
    (ofEntity table merging e).passed? = e.routine? table merging := by
  unfold ofEntity Entity.routine?
  split <;> simp_all [passed?]

theorem refused?_ofEntity (e : Entity) :
    (ofEntity table merging e).refused? = e.refusal? table merging := by
  unfold ofEntity Entity.refusal?
  split <;> simp_all [refused?]

theorem unlinked?_ofEntity (e : Entity) : (ofEntity table merging e).unlinked? = none := by
  unfold ofEntity
  split <;> rfl

theorem ofEntity_eq_broken_iff (e : Entity) :
    ofEntity table merging e = .broken ↔ e.Breaks table merging := by
  unfold ofEntity Entity.Breaks
  split <;> simp_all

end Finding

/-! ### Files with the entities they declare -/

/-- Whether a file cannot be read or linked for another reason than its declaration. -/
def Blocks (l : Path × Except Obstacle Entity) : Prop :=
  ∃ o, l.2 = .error o ∧ fileComplaint? l.1 o = none

def unlinkedAmong (loaded : List (Path × Except Obstacle Entity)) : List (String × Complaint) :=
  loaded.filterMap fun l =>
    match l.2 with
    | .ok _ => none
    | .error o => (fileComplaint? l.1 o).map (l.1.text, ·)

section

variable {table : ModifierTable} {merging : Bool} {file : Path}
  {loaded : List (Path × Except Obstacle Entity)}

theorem not_blocks_ok (e : Entity) : ¬Blocks (file, .ok e) := by
  simp [Blocks]

theorem blocks_error_iff {o : Obstacle} :
    Blocks (file, .error o) ↔ fileComplaint? file o = none := by
  simp [Blocks]

theorem unlinkedAmong_cons_ok (e : Entity) :
    unlinkedAmong ((file, .ok e) :: loaded) = unlinkedAmong loaded :=
  List.filterMap_cons_none rfl

theorem unlinkedAmong_cons_error {o : Obstacle} {c : Complaint}
    (hc : fileComplaint? file o = some c) :
    unlinkedAmong ((file, .error o) :: loaded) = (file.text, c) :: unlinkedAmong loaded :=
  List.filterMap_cons_some (by simp [hc])

theorem filterMap_unlinked? :
    (loaded.map (ofLoaded table merging)).filterMap unlinked? = unlinkedAmong loaded := by
  rw [List.filterMap_map, unlinkedAmong]
  refine List.filterMap_congr fun l _ => ?_
  obtain ⟨file, o | e⟩ := l
  · cases hc : fileComplaint? file o <;> simp [ofLoaded, hc, unlinked?]
  · exact unlinked?_ofEntity e

theorem filterMap_ofLoaded {α : Type} {known? : Finding → Option α} {of? : Entity → Option α}
    (hentity : ∀ e, known? (ofEntity table merging e) = of? e)
    (hother : ∀ l, l.2.toOption = none → known? (ofLoaded table merging l) = none) :
    (loaded.map (ofLoaded table merging)).filterMap known? =
      (loaded.filterMap (·.2.toOption)).filterMap of? := by
  rw [List.filterMap_map, List.filterMap_filterMap]
  refine List.filterMap_congr fun l _ => ?_
  obtain ⟨file, o | e⟩ := l
  · exact hother _ rfl
  · exact hentity e

theorem filterMap_passed? : (loaded.map (ofLoaded table merging)).filterMap passed? =
    (loaded.filterMap (·.2.toOption)).filterMap (Entity.routine? table merging) := by
  refine filterMap_ofLoaded passed?_ofEntity fun l hl => ?_
  obtain ⟨file, o | e⟩ := l
  · cases hc : fileComplaint? file o <;> simp [ofLoaded, hc, passed?]
  · cases hl

theorem filterMap_refused? : (loaded.map (ofLoaded table merging)).filterMap refused? =
    (loaded.filterMap (·.2.toOption)).filterMap (Entity.refusal? table merging) := by
  refine filterMap_ofLoaded refused?_ofEntity fun l hl => ?_
  obtain ⟨file, o | e⟩ := l
  · cases hc : fileComplaint? file o <;> simp [ofLoaded, hc, refused?]
  · cases hl

/-- The report tells first of the files without an entity, and then of the entities. -/
theorem ofFindings_loaded : Report.ofFindings (loaded.map (ofLoaded table merging)) =
    let errors := latest
      ((loaded.filterMap (·.2.toOption)).filterMap (Entity.refusal? table merging))
    { errors := (unlinkedAmong loaded).map Prod.snd ++ errors.map refusal
      data := nameLists
        ((latest ((loaded.filterMap (·.2.toOption)).filterMap
          (Entity.routine? table merging))).map Prod.fst)
        ((unlinkedAmong loaded).map Prod.fst ++ errors.map Prod.fst) } := by
  rw [Report.ofFindings, filterMap_unlinked?, filterMap_passed?, filterMap_refused?]

theorem ofLoaded_eq_broken_iff (l : Path × Except Obstacle Entity) :
    ofLoaded table merging l = .broken ↔
      Blocks l ∨ ∃ e, l.2.toOption = some e ∧ e.Breaks table merging := by
  obtain ⟨file, o | e⟩ := l
  · cases hc : fileComplaint? file o <;> simp [ofLoaded, hc, blocks_error_iff, Except.toOption]
  · simpa [ofLoaded, not_blocks_ok, Except.toOption] using ofEntity_eq_broken_iff e

theorem forall_ne_broken_iff : (∀ f ∈ loaded.map (ofLoaded table merging), f ≠ .broken) ↔
    (∀ l ∈ loaded, ¬Blocks l) ∧
      ∀ e ∈ loaded.filterMap (·.2.toOption), ¬e.Breaks table merging := by
  simp only [List.forall_mem_map, ne_eq, ofLoaded_eq_broken_iff, not_or, not_exists, not_and,
    List.mem_filterMap, forall_exists_index, and_imp]
  exact ⟨fun h => ⟨fun l hl => (h l hl).1, fun e l hl he => (h l hl).2 e he⟩,
    fun h l hl => ⟨h.1 l hl, fun e he => h.2 e l hl he⟩⟩

end

theorem writable_ofFindings {fs : List Finding}
    (h : ∀ u ∈ fs.filterMap unlinked?, ∀ d ∈ u.2.details, Json.Writable d.2) :
    Json.Writable (Report.ofFindings fs).document.toValue := by
  refine Report.writable_document ?_ ?_
  · simp only [Report.ofFindings, List.forall_mem_append, List.forall_mem_map]
    exact ⟨h, fun entry _ => entry.2.writable_details⟩
  · simp only [Report.ofFindings, nameLists, List.forall_mem_cons]
    exact ⟨.texts _, .texts _, by simp⟩

theorem writable_unlinkedAmong (loaded : List (Path × Except Obstacle Entity)) :
    ∀ u ∈ unlinkedAmong loaded, ∀ d ∈ u.2.details, Json.Writable d.2 := by
  intro u hu
  obtain ⟨⟨file, o | e⟩, _, hu⟩ := List.mem_filterMap.mp hu
  · obtain ⟨c, hc, rfl⟩ := Option.map_eq_some_iff.mp hu
    cases o with
    | missingFile message =>
        cases hc
        simp
    | failure f =>
        cases f <;> cases hc
        exact DeclarationError.writable_details _
  · cases hu

/-! ### Files one by one -/

def Workspace.Passes (w : Workspace) (merging : Bool) (file : Path) : Prop :=
  ∃ e r, w.entity file = .ok e ∧ e.compile w.table merging = .ok r

theorem passes_iff (w : Workspace) (merging : Bool) (file : Path) :
    w.Passes merging file ↔ ∃ name r, w.finding merging file = .passed name r := by
  unfold Workspace.Passes Workspace.finding ofLoaded
  cases hentity : w.entity file with
  | error o => cases hc : fileComplaint? file o <;> simp [hc]
  | ok e =>
      unfold ofEntity
      rcases hcompile : e.compile w.table merging with f | r
      · cases f <;> simp [hcompile]
      · simp [hcompile]

theorem isSome_complaint?_iff {w : Workspace} {merging : Bool} {file : Path}
    (h : w.finding merging file ≠ .broken) :
    (w.finding merging file).complaint?.isSome ↔ ¬w.Passes merging file := by
  rw [passes_iff]
  cases hf : w.finding merging file <;> simp_all [complaint?]

/-! ### What is reported -/

def Report.Lists (r : Report) (part name : String) : Prop :=
  ∃ items, r.data.get? part = some (.list items) ∧ .text name ∈ items

def Finding.validName? : Finding → Option String
  | .passed name _ => some name
  | _ => none

def Finding.invalidName? : Finding → Option String
  | .unlinked file _ => some file
  | .refused name _ => some name
  | _ => none

theorem ErrorKind.exitCode_ne_zero (k : ErrorKind) : k.exitCode ≠ 0 := by
  cases k <;> decide

theorem Report.exitCode_eq_zero_iff (r : Report) : r.exitCode = 0 ↔ r.errors = [] := by
  unfold exitCode
  cases h : r.errors.getLast? with
  | none => simpa using h
  | some c =>
      have herrors : r.errors ≠ [] := by
        rintro hnil
        rw [hnil] at h
        cases h
      simp [herrors, ErrorKind.exitCode_ne_zero]

section

variable {fs : List Finding}

theorem errors_ofFindings_eq_nil_iff :
    (Report.ofFindings fs).errors = [] ↔ ∀ f ∈ fs, f.complaint? = none := by
  have hcomplaint (f : Finding) :
      f.complaint? = none ↔ f.unlinked? = none ∧ f.refused? = none := by
    cases f <;> simp [complaint?, unlinked?, refused?]
  rw [Report.ofFindings]
  simp only [List.append_eq_nil_iff, List.map_eq_nil_iff, Compilation.latest_eq_nil_iff,
    List.filterMap_eq_nil_iff, hcomplaint, forall_and]

theorem perm_filterMap_complaint? (fs : List Finding) :
    (fs.filterMap complaint?).Perm
      ((fs.filterMap unlinked?).map Prod.snd ++ (fs.filterMap refused?).map refusal) := by
  induction fs with
  | nil => exact .nil
  | cons f fs ih =>
      cases f with
      | passed | broken => exact ih
      | unlinked => exact ih.cons _
      | refused => exact (ih.cons _).trans List.perm_middle.symm

/-- No complaint is lost exactly when no two refused entities share a name. -/
theorem perm_errors_ofFindings_iff (fs : List Finding) :
    (Report.ofFindings fs).errors.Perm (fs.filterMap complaint?) ↔
      ((fs.filterMap refused?).map Prod.fst).Nodup := by
  rw [← Compilation.length_latest_eq_iff]
  constructor
  · intro h
    have hlength := (h.trans (perm_filterMap_complaint? fs)).length_eq
    simpa [Report.ofFindings] using hlength
  · intro h
    rw [Report.ofFindings, Compilation.latest_of_nodup (Compilation.length_latest_eq_iff.mp h)]
    exact (perm_filterMap_complaint? fs).symm

theorem Report.lists_iff {r : Report} {part : String} {names : List String}
    (h : r.data.get? part = some (sortedNames names)) (name : String) :
    r.Lists part name ↔ name ∈ names := by
  simp [Lists, h, sortedNames, textList]

theorem lists_valid_iff (name : String) :
    (Report.ofFindings fs).Lists "valid" name ↔ ∃ f ∈ fs, f.validName? = some name := by
  have hname (f : Finding) : f.validName? = f.passed?.map Prod.fst := by cases f <;> rfl
  rw [Report.lists_iff rfl, Compilation.mem_names_latest, List.map_filterMap]
  simp only [List.mem_filterMap, hname]

theorem lists_invalid_iff (name : String) :
    (Report.ofFindings fs).Lists "invalid" name ↔ ∃ f ∈ fs, f.invalidName? = some name := by
  have hname (f : Finding) : f.invalidName? = some name ↔
      f.unlinked?.map Prod.fst = some name ∨ f.refused?.map Prod.fst = some name := by
    cases f <;> simp [invalidName?, unlinked?, refused?]
  rw [Report.lists_iff rfl, List.mem_append, Compilation.mem_names_latest, List.map_filterMap,
    List.map_filterMap]
  simp only [List.mem_filterMap, hname, and_or_left, exists_or]

end

theorem forall_passes_iff {w : Workspace} {merging : Bool} {files : List Path} :
    (∀ file ∈ files, w.Passes merging file) ↔
      (∀ f ∈ files.map (w.finding merging), f ≠ .broken) ∧
        (Report.ofFindings (files.map (w.finding merging))).errors = [] := by
  rw [errors_ofFindings_eq_nil_iff, List.forall_mem_map, List.forall_mem_map, ← forall₂_and]
  refine forall₂_congr fun file _ => ?_
  rw [passes_iff]
  cases w.finding merging file <;> simp [complaint?]

end CommandLine

end FieldPipeline
