import FieldPipeline.Proofs.CommandLine.Findings
import FieldPipeline.Proofs.Effect
import FieldPipeline.Proofs.Entries
import FieldPipeline.Proofs.Session

/-!
Running the program on declaration files to check them.  Work of a command either succeeds, having
added to the report and to what is printed and changed nothing else, or fails; it fails when there
is a line to tell that is no well-formed marked-up text.  When the report will be printed as a
document, no line is told.

The exit code of a check is 0 exactly when every file declares an entity that has a routine.  What
is reported on the files is known by names, though, and so one of two complaints is lost when they
are about entities of the same name, and a name stands in both lists when one file passes under it
and another one fails.
-/

namespace FieldPipeline

theorem Settings.exec_inUse_of_inUse {i j : Installation} {s : Settings}
    (h : exec Settings.inUse i = (.ok s, j)) : exec Settings.inUse j = (.ok s, j) := by
  have hcurrent : j.current = some s := by
    unfold Settings.inUse at h
    rw [exec_bind_of_ok (exec_get i)] at h
    cases hi : i.current with
    | some t =>
        rw [hi] at h
        cases h
        exact hi
    | none =>
        rw [hi] at h
        obtain ⟨t, k, _, h⟩ := exec_bind_eq_ok.mp h
        cases h
        rfl
  unfold Settings.inUse
  rw [exec_bind_of_ok (exec_get j), hcurrent]
  rfl

namespace CommandLine

open Finding

/-! ### What a command reports -/

def Workspace.CanTell (w : Workspace) (line : String) : Prop :=
  w.json = true ∨ ∃ text, Markup.shown line = .ok text

/-- A workspace with another report and another text printed.  Nothing else tells apart the states
of a command while it reports. -/
def Workspace.reporting (w : Workspace) (report : Report) (printed : String) : Workspace :=
  { w with report, printed }

@[simp] theorem Workspace.report_reporting (w : Workspace) (r : Report) (printed : String) :
    (w.reporting r printed).report = r := rfl

@[simp] theorem Workspace.table_reporting (w : Workspace) (r : Report) (printed : String) :
    (w.reporting r printed).table = w.table := rfl

def Report.adding (r : Report) (cs : List Complaint) : Report :=
  { r with errors := r.errors ++ cs }

@[simp] theorem Report.adding_nil (r : Report) : r.adding [] = r := by
  simp [adding]

theorem Report.adding_cons (r : Report) (c : Complaint) (cs : List Complaint) :
    r.adding (c :: cs) = (r.adding [c]).adding cs := by
  simp [adding]

namespace Shell

variable {α β : Type} {p q : Prop} {w : Workspace} {r r' : Report} {a : α} {b : β}
  {added : String}

/-- Whether work fails unless a condition holds, and else ends with a result and a report.  Where a
document is printed, no more than `added` is printed by the work. -/
def Reports (fit : Prop) (x : Shell α) (w : Workspace) (a : α) (r : Report) (added : String) :
    Prop :=
  (¬fit ∧ ∃ f v, exec x w = (.error (.failed f), v)) ∨
    fit ∧ ∃ printed, exec x w = (.ok a, w.reporting r printed) ∧
      (w.json = true → printed = w.printed ++ added)

theorem exec_settings {w : Workspace} {s : Settings} {installation : Installation}
    (h : exec Settings.inUse w.installation = (.ok s, installation)) :
    exec settings w = (.ok s, { w with installation }) := by
  unfold exec at h
  unfold settings install
  rw [exec_bind_of_ok (exec_get w), h]
  rfl

theorem exec_print (line : String) (w : Workspace) :
    exec (print line) w = (.ok (), w.reporting w.report (w.printed ++ line ++ "\n")) := rfl

theorem exec_say (line : String) (w : Workspace) : exec (say line) w =
    match Markup.shown line with
    | .ok text => (.ok (), w.reporting w.report (w.printed ++ text ++ "\n"))
    | .error f => (.error (.failed (.fault f)), w) := by
  unfold say
  cases Markup.shown line <;> rfl

namespace Reports

theorem pure (a : α) (w : Workspace) : Reports True (Pure.pure a : Shell α) w a w.report "" :=
  .inr ⟨trivial, w.printed, rfl, fun _ => (String.append_empty).symm⟩

theorem fail (f : Failure) (hp : ¬p) : Reports p (fail f : Shell α) w a r added :=
  .inl ⟨hp, f, w, rfl⟩

theorem imp {x : Shell α} (hx : Reports p x w a r added) (hpq : p ↔ q) :
    Reports q x w a r added :=
  propext hpq ▸ hx

theorem bind {x : Shell α} {f : α → Shell β} (hx : Reports p x w a r "")
    (hf : ∀ printed, Reports q (f a) (w.reporting r printed) b r' added) :
    Reports (p ∧ q) (x >>= f) w b r' added := by
  rcases hx with ⟨hp, e, v, hx⟩ | ⟨hp, printed, hx, hprinted⟩
  · exact .inl ⟨fun h => hp h.1, e, v, exec_bind_of_error hx f⟩
  rw [String.append_empty] at hprinted
  rcases hf printed with ⟨hq, e, v, hfa⟩ | ⟨hq, printed', hfa, hprinted'⟩
  · exact .inl ⟨fun h => hq h.2, e, v, (exec_bind_of_ok hx f).trans hfa⟩
  · refine .inr ⟨⟨hp, hq⟩, printed', (exec_bind_of_ok hx f).trans hfa, fun hjson => ?_⟩
    rw [hprinted' hjson, ← hprinted hjson]
    rfl

theorem get {f : Workspace → Shell α} (h : Reports p (f w) w a r added) :
    Reports p (get >>= f) w a r added :=
  h

theorem map {x : Shell α} (hx : Reports p x w a r "") (f : α → β) :
    Reports p (x >>= fun a => Pure.pure (f a)) w (f a) r "" :=
  (bind hx fun printed => pure (f a) (w.reporting r printed)).imp (iff_of_eq (and_true _))

theorem tell (line : String) (w : Workspace) :
    Reports (w.CanTell line) (tell line) w () w.report "" := by
  unfold Reports Workspace.CanTell Shell.tell
  rw [exec_bind_of_ok (exec_get w)]
  by_cases hjson : w.json = true
  · rw [if_pos hjson]
    exact .inr ⟨.inl hjson, w.printed, rfl, fun _ => String.append_empty.symm⟩
  rw [if_neg hjson]
  rcases hshown : Markup.shown line with f | text
  · exact .inl ⟨by simp [hjson], .fault f, w, by rw [exec_say, hshown]⟩
  · exact .inr ⟨.inr ⟨text, rfl⟩, _, by rw [exec_say, hshown], fun h => absurd h hjson⟩

theorem change (f : Report → Report) (w : Workspace) :
    Reports True (report f) w () (f w.report) "" :=
  .inr ⟨trivial, w.printed, rfl, fun _ => String.append_empty.symm⟩

theorem complain (c : Complaint) (w : Workspace) :
    Reports (w.CanTell ("✗ " ++ c.message)) (complain c) w () (w.report.adding [c]) "" := by
  have htell (printed : String) := tell ("✗ " ++ c.message)
    (w.reporting (w.report.adding [c]) printed)
  exact (bind (change _ w) htell).imp (iff_of_eq (true_and _))

theorem succeed (message : String) (w : Workspace) :
    Reports (w.CanTell ("✓ " ++ message)) (succeed message) w () w.report "" :=
  tell _ w

theorem put (name : String) (v : Value) (w : Workspace) :
    Reports True (put name v) w () { w.report with data := w.report.data.put name v } "" :=
  change _ w

theorem finish {v : Value} (h : Json.normal w.report.document.toValue = .ok v) :
    Reports True finish w () w.report (Json.indented "" v ++ "\n") := by
  unfold Reports Shell.finish
  rw [exec_bind_of_ok (exec_get w)]
  by_cases hjson : w.json = true
  · rw [if_pos hjson, printDocument, h]
    exact .inr ⟨trivial, _, exec_print _ w, fun _ => String.append_assoc ..⟩
  · rw [if_neg hjson]
    exact .inr ⟨trivial, w.printed, rfl, fun h => absurd h hjson⟩

theorem forM_complain {γ : Type} (g : γ → Complaint) (l : List γ) (w : Workspace) :
    Reports (∀ c ∈ l, w.CanTell ("✗ " ++ (g c).message)) (l.forM fun c => Shell.complain (g c)) w ()
      (w.report.adding (l.map g)) "" := by
  induction l generalizing w with
  | nil => simpa using pure () w
  | cons c l ih =>
      rw [List.forall_mem_cons, List.map_cons, Report.adding_cons]
      exact bind (complain (g c) w) fun printed =>
        ih (w.reporting (w.report.adding [g c]) printed)

theorem forM_succeed {γ : Type} (g : γ → String) (l : List γ) (w : Workspace) :
    Reports (∀ c ∈ l, w.CanTell ("✓ " ++ g c)) (l.forM fun c => Shell.succeed (g c)) w () w.report
      "" := by
  induction l generalizing w with
  | nil => simpa using pure () w
  | cons c l ih =>
      rw [List.forall_mem_cons]
      exact bind (succeed (g c) w) fun printed => ih (w.reporting w.report printed)

end Reports

end Shell

/-! ### A check of files -/

section

variable {file : Path} {loaded : List (Path × Except Obstacle Entity)}

theorem collect_ok (e : Entity) : collect ((file, .ok e) :: loaded) =
    collect loaded >>= fun read => pure (e :: read.1, read.2) := rfl

theorem collect_complaint {o : Obstacle} {c : Complaint} (hc : fileComplaint? file o = some c) :
    collect ((file, .error o) :: loaded) = Shell.complain c >>= fun _ =>
      collect loaded >>= fun read => pure (read.1, file.text :: read.2) := by
  rw [collect.eq_def]
  dsimp only
  rw [hc]

theorem reports_collect (loaded : List (Path × Except Obstacle Entity)) (w : Workspace) :
    Shell.Reports
      ((∀ l ∈ loaded, ¬Blocks l) ∧ ∀ u ∈ unlinkedAmong loaded, w.CanTell ("✗ " ++ u.2.message))
      (collect loaded) w
      (loaded.filterMap (·.2.toOption), (unlinkedAmong loaded).map Prod.fst)
      (w.report.adding ((unlinkedAmong loaded).map Prod.snd)) "" := by
  induction loaded generalizing w with
  | nil => simpa [collect, unlinkedAmong] using Shell.Reports.pure ([], []) w
  | cons l loaded ih =>
      rw [List.forall_mem_cons]
      obtain ⟨file, o | e⟩ := l
      · cases hc : fileComplaint? file o with
        | some c =>
            have hblocks : ¬Blocks (file, .error o) := by simp [blocks_error_iff, hc]
            have hrest (printed : String) : Shell.Reports
                ((∀ l ∈ loaded, ¬Blocks l) ∧
                  ∀ u ∈ unlinkedAmong loaded, w.CanTell ("✗ " ++ u.2.message)) _ _ _ _ "" :=
              (ih (w.reporting (w.report.adding [c]) printed)).map fun read =>
                (read.1, file.text :: read.2)
            rw [collect_complaint hc, unlinkedAmong_cons_error hc, List.forall_mem_cons,
              List.map_cons, List.map_cons, Report.adding_cons]
            refine ((Shell.Reports.complain c w).bind hrest).imp ?_
            simp only [hblocks, not_false_eq_true, true_and, and_left_comm]
        | none =>
            cases o with
            | missingFile message => cases hc
            | failure f =>
                rw [collect.eq_def]
                dsimp only
                rw [hc]
                exact .inl ⟨fun h => h.1.1 (blocks_error_iff.mpr hc), f, w, rfl⟩
      · rw [collect_ok, unlinkedAmong_cons_ok]
        refine ((ih w).map fun read => (e :: read.1, read.2)).imp ?_
        simp only [not_blocks_ok, not_false_eq_true, true_and]

end

theorem reports_nameLists {valid invalid : List String} {w : Workspace} {v : Value}
    (hdata : w.report.data = [])
    (hv : Json.normal { w.report with data := nameLists valid invalid }.document.toValue = .ok v) :
    Shell.Reports True
      (do
        Shell.put "valid" (sortedNames valid)
        Shell.put "invalid" (sortedNames invalid)
        Shell.finish)
      w () { w.report with data := nameLists valid invalid } (Json.indented "" v ++ "\n") := by
  have hlists : { w.report with data := nameLists valid invalid } =
      { w.report with
        data := (w.report.data.put "valid" (sortedNames valid)).put "invalid"
          (sortedNames invalid) } := by
    rw [hdata]
    rfl
  rw [hlists] at hv ⊢
  refine Shell.Reports.imp ?_ (iff_of_eq (and_true True))
  refine .bind (.put "valid" _ w) fun _ => ?_
  refine Shell.Reports.imp ?_ (iff_of_eq (and_true True))
  exact .bind (.put "invalid" _ _) fun _ => .finish hv

theorem reports_compiled {c : Compilation} {failed : List String} {w : Workspace} {r : Report}
    {v : Value} (hdata : w.report.data = [])
    (hr : r = { w.report.adding (c.errors.map refusal) with
      data := nameLists (c.routines.map Prod.fst) (failed ++ c.errors.map Prod.fst) })
    (hv : Json.normal r.document.toValue = .ok v) :
    Shell.Reports
      ((∀ x ∈ c.errors, w.CanTell ("✗ " ++ (refusal x).message)) ∧
        ∀ x ∈ c.routines, w.CanTell ("✓ " ++ (x.1 ++ ": " ++ groupCount x.2)))
      (do
        c.errors.forM fun x => Shell.complain (refusal x)
        c.routines.forM fun x => Shell.succeed (x.1 ++ ": " ++ groupCount x.2)
        Shell.put "valid" (sortedNames (c.routines.map Prod.fst))
        Shell.put "invalid" (sortedNames (failed ++ c.errors.map Prod.fst))
        Shell.finish)
      w () r (Json.indented "" v ++ "\n") := by
  subst hr
  refine .bind (.forM_complain refusal c.errors w) fun printed => ?_
  refine Shell.Reports.imp ?_ (iff_of_eq (and_true _))
  exact .bind (.forM_succeed _ c.routines
    (w.reporting (w.report.adding (c.errors.map refusal)) printed)) fun _ =>
      reports_nameLists hdata hv

theorem reports_reportOn (merging : Bool) (loaded : List (Path × Except Obstacle Entity))
    (w : Workspace) (hfresh : w.report = {}) :
    ∃ v, Json.normal (Report.ofFindings (loaded.map (ofLoaded w.table merging))).document.toValue =
        .ok v ∧
      Shell.Reports ((∀ f ∈ loaded.map (ofLoaded w.table merging), f ≠ .broken) ∧
          ∀ line ∈ told (loaded.map (ofLoaded w.table merging)), w.CanTell line)
        (reportOn merging loaded) w () (Report.ofFindings (loaded.map (ofLoaded w.table merging)))
        (Json.indented "" v ++ "\n") := by
  have hdetails : ∀ u ∈ (loaded.map (ofLoaded w.table merging)).filterMap unlinked?,
      ∀ d ∈ u.2.details, Json.Writable d.2 :=
    filterMap_unlinked? ▸ writable_unlinkedAmong loaded
  obtain ⟨v, hv⟩ := writable_ofFindings hdetails
  refine ⟨v, hv, ?_⟩
  rw [forall_ne_broken_iff]
  unfold reportOn
  rcases Compilation.ofEntities_cases w.table merging (loaded.filterMap (·.2.toOption)) with
    ⟨⟨e, he, hbreaks⟩, f, hf⟩ | ⟨hnone, c, hc, hroutines, herrors⟩
  -- The condition is shown in both cases, since it must not speak of what is printed by then.
  · refine ((reports_collect loaded w).bind fun printed =>
      show Shell.Reports False _ _ _ _ _ from .get ?_).imp ?_
    · dsimp only
      rw [Workspace.table_reporting, hf]
      exact .fail _ not_false
    · simp only [and_false, false_iff, not_and]
      exact fun h => absurd hbreaks (h.2 e he)
  · refine ((reports_collect loaded w).bind fun printed =>
      show Shell.Reports
        ((∀ x ∈ c.errors, w.CanTell ("✗ " ++ (refusal x).message)) ∧
          ∀ x ∈ c.routines, w.CanTell ("✓ " ++ (x.1 ++ ": " ++ groupCount x.2))) _ _ _ _ _
      from .get ?_).imp ?_
    · have hreport : Report.ofFindings (loaded.map (ofLoaded w.table merging)) =
          { (w.report.adding ((unlinkedAmong loaded).map Prod.snd)).adding
              (c.errors.map refusal) with
            data := nameLists (c.routines.map Prod.fst)
              ((unlinkedAmong loaded).map Prod.fst ++ c.errors.map Prod.fst) } := by
        rw [ofFindings_loaded, hfresh, hroutines, herrors]
        simp [Report.adding]
      dsimp only
      rw [Workspace.table_reporting, hc]
      dsimp only
      refine Shell.Reports.imp (reports_compiled ?_ ?_ hv) Iff.rfl
      · rw [Workspace.report_reporting, hfresh]
        rfl
      · exact hreport
    · rw [told, ofFindings_loaded, filterMap_passed?, ← hroutines, ← herrors]
      simp only [List.forall_mem_append, List.forall_mem_map, and_assoc]
      rw [and_iff_right hnone]

/-! ### The whole program -/

/-- Whether arguments ask for a check of files, with or without merged chains, and for a document
about it or none. -/
structure Workspace.AsksFor (w : Workspace) (arguments : List String) (files : List Path)
    (json merging : Bool) : Prop where
  invocation : ∃ i, Invocation.read arguments = .ok i ∧ i.json = json ∧
    i.command.read i.arguments = .ok (.validate files)
  settings : ∃ s rank installation, exec Settings.inUse w.installation = (.ok s, installation) ∧
    settingsRank s = .ok rank ∧ s.mergeChains.isTrue = merging

theorem exec_work {w : Workspace} {arguments : List String} {files : List Path}
    {json merging : Bool} (h : w.AsksFor arguments files json merging) :
    ∃ installation logRank, exec (work arguments) w =
      exec (reportOn merging (files.map fun file => (file, w.entity file)))
        { w with installation, json, logRank } := by
  obtain ⟨⟨i, hread, rfl, hcommand⟩, s, rank, installation, hs, hrank, rfl⟩ := h
  refine ⟨installation, i.rank rank, ?_⟩
  have husual : exec (Shell.ofFault (settingsRank s)) { w with installation } =
      (.ok rank, { w with installation }) := by
    rw [hrank]
    rfl
  have hmerges : exec mergesChains { w with installation, json := i.json, logRank := i.rank rank } =
      (.ok s.mergeChains.isTrue,
        { w with installation, json := i.json, logRank := i.rank rank }) :=
    exec_bind_of_ok (Shell.exec_settings (Settings.exec_inUse_of_inUse hs)) _
  unfold work
  rw [hread]
  dsimp only
  unfold call
  rw [exec_bind_of_ok (Shell.exec_settings hs), exec_bind_of_ok husual,
    exec_bind_of_ok (exec_modify ..), hcommand]
  change exec (validate files) _ = _
  unfold validate
  rw [exec_bind_of_ok hmerges, exec_bind_of_ok (exec_get _)]
  rfl

def Workspace.CanTellOf (w : Workspace) (json : Bool) (fs : List Finding) : Prop :=
  ∀ line ∈ told fs, ({ w with json } : Workspace).CanTell line

def Workspace.CanCheck (w : Workspace) (json : Bool) (fs : List Finding) : Prop :=
  (∀ f ∈ fs, f ≠ .broken) ∧ w.CanTellOf json fs

/-- What a check of files has to say: whether all of them pass; one complaint for each file that
does not pass; and the names of those that pass and of those that do not. -/
structure Accounts (w : Workspace) (merging json : Bool) (files : List Path) (answer : Answer)
    (report : Report) : Prop where
  /-- The exit code is 0 exactly when all files pass and, without a document, what is told of
  them can be shown. -/
  exitCode : answer.exitCode = 0 ↔
    (∀ file ∈ files, w.Passes merging file) ∧ w.CanTellOf json (files.map (w.finding merging))
  completed : answer.failure = none ↔ w.CanCheck json (files.map (w.finding merging))
  /-- A document that is asked for is that of the report. -/
  document : answer.failure = none → json = true → ∃ v,
    Json.normal report.document.toValue = .ok v ∧ answer.printed = Json.indented "" v ++ "\n"
  /-- A file by itself gives rise to a complaint exactly when it does not pass. -/
  complaint : answer.failure = none → ∀ file ∈ files,
    ((w.finding merging file).complaint?.isSome ↔ ¬w.Passes merging file)
  /-- The errors are the complaints about the files exactly when no two of the entities that
  cannot be compiled share a name. -/
  errors : answer.failure = none →
    (report.errors.Perm (files.filterMap fun file => (w.finding merging file).complaint?) ↔
      (files.filterMap fun file => (w.finding merging file).refused?.map Prod.fst).Nodup)
  valid : answer.failure = none → ∀ name, report.Lists "valid" name ↔
    ∃ file ∈ files, (w.finding merging file).validName? = some name
  invalid : answer.failure = none → ∀ name, report.Lists "invalid" name ↔
    ∃ file ∈ files, (w.finding merging file).invalidName? = some name
  /-- No name is in both lists exactly when no file passes under the name under which another
  one does not. -/
  apart : answer.failure = none →
    ((¬∃ name, report.Lists "valid" name ∧ report.Lists "invalid" name) ↔
      ∀ f ∈ files, ∀ g ∈ files, ∀ name, (w.finding merging f).validName? = some name →
        (w.finding merging g).invalidName? ≠ some name)

section

variable {w : Workspace} {arguments : List String} {files : List Path} {json merging : Bool}

theorem Workspace.AsksFor.run_cases (h : w.AsksFor arguments files json merging) :
    (¬w.CanCheck json (files.map (w.finding merging)) ∧
      (run arguments w).1.failure ≠ none ∧ (run arguments w).1.exitCode = 1) ∨
    w.CanCheck json (files.map (w.finding merging)) ∧
      (run arguments w).1.failure = none ∧
      (run arguments w).2.report = Report.ofFindings (files.map (w.finding merging)) ∧
      (run arguments w).1.exitCode = (run arguments w).2.report.exitCode ∧
      (json = true → ∃ v, Json.normal (run arguments w).2.report.document.toValue = .ok v ∧
        (run arguments w).1.printed = Json.indented "" v ++ "\n") := by
  have hfresh : Workspace.AsksFor { w with printed := "", report := {}, json := false } arguments
      files json merging := ⟨h.invocation, h.settings⟩
  obtain ⟨installation, logRank, hwork⟩ := exec_work hfresh
  obtain ⟨v, hv, hreports⟩ := reports_reportOn merging
    (files.map fun file => (file, w.entity file))
    { w with printed := "", report := {}, json, installation, logRank } rfl
  have hfindings : (files.map fun file => (file, w.entity file)).map (ofLoaded w.table merging) =
      files.map (w.finding merging) := List.map_map
  dsimp only at hreports hv
  rw [hfindings] at hreports hv
  rcases hreports with ⟨hnot, f, after, hexec⟩ | ⟨hcan, printed, hexec, hprinted⟩
  · have hrun : run arguments w = (answer after (.error (.failed f)), after) :=
      congrArg (fun z => (answer z.2 z.1, z.2)) (hwork.trans hexec)
    rw [hrun]
    exact .inl ⟨hnot, nofun, rfl⟩
  · have hrun : run arguments w = (answer _ (.ok ()), _) :=
      congrArg (fun z => (answer z.2 z.1, z.2)) (hwork.trans hexec)
    rw [hrun]
    refine .inr ⟨hcan, rfl, rfl, rfl, fun hjson => ⟨v, hv, ?_⟩⟩
    exact (hprinted hjson).trans String.empty_append

/-- A check that is asked for accounts for every file, as far as names tell them apart. -/
theorem Workspace.AsksFor.accounts (h : w.AsksFor arguments files json merging) :
    Accounts w merging json files (run arguments w).1 (run arguments w).2.report := by
  rcases h.run_cases with ⟨hnot, hfailure, hexit⟩ | ⟨hcan, hfailure, hreport, hexit, hdocument⟩
  · refine ⟨?_, iff_of_false hfailure hnot, ?_, ?_, ?_, ?_, ?_, ?_⟩
    · rw [hexit]
      refine iff_of_false Nat.one_ne_zero ?_
      rintro ⟨hall, htold⟩
      exact hnot ⟨(forall_passes_iff.mp hall).1, htold⟩
    all_goals exact fun hnone => absurd hnone hfailure
  · have hvalid (name : String) : (run arguments w).2.report.Lists "valid" name ↔
        ∃ file ∈ files, (w.finding merging file).validName? = some name := by
      simp only [hreport, lists_valid_iff, List.mem_map, exists_exists_and_eq_and]
    have hinvalid (name : String) : (run arguments w).2.report.Lists "invalid" name ↔
        ∃ file ∈ files, (w.finding merging file).invalidName? = some name := by
      simp only [hreport, lists_invalid_iff, List.mem_map, exists_exists_and_eq_and]
    refine ⟨?_, iff_of_true hfailure hcan, fun _ => hdocument, ?_, ?_, fun _ => hvalid,
      fun _ => hinvalid, ?_⟩
    · rw [hexit, Report.exitCode_eq_zero_iff, hreport, forall_passes_iff, and_iff_right hcan.1,
        and_iff_left hcan.2]
    · exact fun _ file hfile =>
        isSome_complaint?_iff (hcan.1 _ (List.mem_map_of_mem hfile))
    · intro _
      have herrors := perm_errors_ofFindings_iff (files.map (w.finding merging))
      rwa [List.filterMap_map, List.filterMap_map, List.map_filterMap, ← hreport] at herrors
    · intro _
      simp only [hvalid, hinvalid]
      constructor
      · exact fun hnone f hf g hg name hfname hgname => hnone ⟨name, ⟨f, hf, hfname⟩, g, hg, hgname⟩
      · rintro hapart ⟨name, ⟨f, hf, hfname⟩, g, hg, hgname⟩
        exact hapart f hf g hg name hfname hgname

end

/-! ### A stock that is declared in three files -/

section

open Yaml

theorem read_of_node {text : String} {ts : List Yaml.Token} {n : Yaml.Node} {v : Value}
    (htokens : Yaml.tokens (String.ofList (Text.unifyLineEnds text.toList)) = .ok ts)
    (hnode : Node.ofTokens ts = .ok (some n)) (hvalue : n.toValue = .ok v) :
    Yaml.read text = .ok v := by
  unfold Yaml.read
  rw [htokens]
  change (Node.ofTokens ts >>= _) = _
  rw [hnode]
  exact hvalue

theorem Workspace.entity_of_text {w : Workspace} {file : Path} {text : String} {v : Value}
    {d : Declaration} {e : Entity} (htext : w.files.lookup file = some text)
    (hv : Yaml.read text = .ok v) (hd : Declaration.ofValue v = .ok d)
    (he : d.link w.catalogue = .ok e) : w.entity file = .ok e := by
  have hdeclaration : Files.declaration text = .ok d := by
    unfold Files.declaration
    rw [hv]
    exact hd
  unfold Workspace.entity Files.entity Files.place
  rw [htext]
  dsimp only
  rw [hdeclaration]
  exact congrArg (Except.mapError Obstacle.failure) he

def sealedText : String :=
  "name: stock\nfields:\n- name: code\n  modifiers:\n  - kind: Validator\n    name: sealed\n"

def sealedTokens : List Yaml.Token :=
  [.blockMapping, .key, .scalar true "name", .value, .scalar true "stock",
    .key, .scalar true "fields", .value, .blockEntry,
    .blockMapping, .key, .scalar true "name", .value, .scalar true "code",
    .key, .scalar true "modifiers", .value, .blockEntry,
    .blockMapping, .key, .scalar true "kind", .value, .scalar true "Validator",
    .key, .scalar true "name", .value, .scalar true "sealed",
    .blockEnd, .blockEnd, .blockEnd]

def wordNode (text : String) : Yaml.Node :=
  .scalar (Tag.core "str") text

def recordNode (es : List (String × Yaml.Node)) : Yaml.Node :=
  .mapping (Tag.core "map") (es.map fun e => (wordNode e.1, e.2))

def listNode (ns : List Yaml.Node) : Yaml.Node :=
  .sequence (Tag.core "seq") ns

def sealedNode : Yaml.Node :=
  recordNode [("name", wordNode "stock"), ("fields", listNode [
    recordNode [("name", wordNode "code"), ("modifiers", listNode [
      recordNode [("kind", wordNode "Validator"), ("name", wordNode "sealed")]])]])]

def sealedData : Value :=
  Record.toValue [("name", .text "stock"), ("fields", .list [
    Record.toValue [("name", .text "code"), ("modifiers", .list [
      Record.toValue [("kind", .text "Validator"), ("name", .text "sealed")]])]])]

theorem toValue_sealedNode : sealedNode.toValue = .ok sealedData := by
  simp [sealedNode, recordNode, listNode, wordNode, Node.toValue, Node.toValues, Node.toEntries,
    Node.mergedEntries, Node.ownEntries, Node.hasTag, Tag.core, Node.scalarValue, Node.hashable,
    Value.isHashable, Value.dictOf, Value.putEntry, bind, Except.bind, pure, Except.pure,
    sealedData, Record.toValue]

def sealedUse : ModifierUse where
  kind := "Validator"
  name := "sealed"
  given := ["kind", "name"]

def sealedDeclaration : Declaration where
  name := "stock"
  fields := [{ name := "code", modifiers := [sealedUse], given := ["name", "modifiers"] }]
  given := ["name", "fields"]

def sealedStock : Entity where
  name := "stock"
  fields := [{ name := "code", type := "text", displayName := "code", modifiers := [sealedUse] }]

def plainText : String :=
  "name: stock\n"

def plainTokens : List Yaml.Token :=
  [.blockMapping, .key, .scalar true "name", .value, .scalar true "stock", .blockEnd]

def plainNode : Yaml.Node :=
  recordNode [("name", wordNode "stock")]

theorem toValue_plainNode : plainNode.toValue = .ok (Record.toValue [("name", .text "stock")]) := by
  simp [plainNode, recordNode, wordNode, Node.toValue, Node.toEntries, Node.mergedEntries,
    Node.ownEntries, Node.hasTag, Tag.core, Node.scalarValue, Node.hashable, Value.isHashable,
    Value.dictOf, Value.putEntry, bind, Except.bind, pure, Except.pure, Record.toValue]

def stockRoom : Workspace where
  files := [({ parts := ["a.yaml"] }, sealedText), ({ parts := ["b.yaml"] }, sealedText),
    ({ parts := ["c.yaml"] }, plainText)]
  installation := { fileName := "config.json" }
  sources := .still

def stockFiles : List Path :=
  [{ parts := ["a.yaml"] }, { parts := ["b.yaml"] }, { parts := ["c.yaml"] }]

def stockCheck : List String :=
  ["--json", "validate", "a.yaml", "b.yaml", "c.yaml"]

theorem stockRoom_asksFor : stockRoom.AsksFor stockCheck stockFiles true true where
  invocation := by
    refine ⟨{ json := true, command := .validate, arguments := stockCheck.drop 2 }, ?_, rfl, ?_⟩
    · decide +kernel
    · decide +kernel
  settings := ⟨{}, 30, _, rfl, rfl, rfl⟩

def sealedError : DeclarationError where
  entity := some "stock"
  fault := .unknownModifier "Validator" "sealed" "code"

theorem finding_sealed {file : Path} (h : stockRoom.files.lookup file = some sealedText) :
    stockRoom.finding true file = .refused "stock" sealedError := by
  have htokens : Yaml.tokens (String.ofList (Text.unifyLineEnds sealedText.toList)) =
      .ok sealedTokens := by decide +kernel
  have hnode : Node.ofTokens sealedTokens = .ok (some sealedNode) := rfl
  have hread := read_of_node htokens hnode toValue_sealedNode
  have hdeclaration : Declaration.ofValue sealedData = .ok sealedDeclaration := rfl
  have hlink : sealedDeclaration.link stockRoom.catalogue = .ok sealedStock := rfl
  have hcompile : sealedStock.compile ModifierTable.builtin true =
      .error (.declaration sealedError) := rfl
  unfold Workspace.finding
  rw [Workspace.entity_of_text h hread hdeclaration hlink]
  change ofEntity ModifierTable.builtin true sealedStock = _
  unfold ofEntity
  rw [hcompile]
  rfl

theorem finding_plain : stockRoom.finding true { parts := ["c.yaml"] } =
    .passed "stock" { entity := "stock", groups := [] } := by
  have htokens : Yaml.tokens (String.ofList (Text.unifyLineEnds plainText.toList)) =
      .ok plainTokens := by decide +kernel
  have hnode : Node.ofTokens plainTokens = .ok (some plainNode) := rfl
  have hread := read_of_node htokens hnode toValue_plainNode
  unfold Workspace.finding
  rw [Workspace.entity_of_text rfl hread rfl rfl]
  rfl

/-- Two files fail under one name, under which a third one passes: there is one error, and the
name is in both lists. -/
theorem stockRoom_accounts : stockRoom.AsksFor stockCheck stockFiles true true ∧
    (run stockCheck stockRoom).1.failure = none ∧ (run stockCheck stockRoom).1.exitCode ≠ 0 ∧
    ¬(run stockCheck stockRoom).2.report.errors.Perm
      (stockFiles.filterMap fun file => (stockRoom.finding true file).complaint?) ∧
    (run stockCheck stockRoom).2.report.Lists "valid" "stock" ∧
    (run stockCheck stockRoom).2.report.Lists "invalid" "stock" := by
  have h := Workspace.AsksFor.accounts stockRoom_asksFor
  have ha : stockRoom.finding true { parts := ["a.yaml"] } = .refused "stock" sealedError :=
    finding_sealed rfl
  have hb : stockRoom.finding true { parts := ["b.yaml"] } = .refused "stock" sealedError :=
    finding_sealed rfl
  have hc := finding_plain
  have hcompleted : (run stockCheck stockRoom).1.failure = none := by
    refine h.completed.mpr ⟨?_, fun line _ => .inl rfl⟩
    simp [stockFiles, ha, hb, hc]
  have hexit : (run stockCheck stockRoom).1.exitCode ≠ 0 := by
    intro hexit
    have hpasses := (h.exitCode.mp hexit).1 { parts := ["a.yaml"] } (by simp [stockFiles])
    obtain ⟨name, r, hpassed⟩ := (passes_iff ..).mp hpasses
    cases ha.symm.trans hpassed
  refine ⟨stockRoom_asksFor, hcompleted, hexit, ?_, ?_, ?_⟩
  · rw [h.errors hcompleted]
    simp [stockFiles, ha, hb, hc, refused?]
  · refine (h.valid hcompleted "stock").mpr ⟨{ parts := ["c.yaml"] }, by simp [stockFiles], ?_⟩
    rw [hc]
    rfl
  · refine (h.invalid hcompleted "stock").mpr ⟨{ parts := ["a.yaml"] }, by simp [stockFiles], ?_⟩
    rw [ha]
    rfl

end

end CommandLine

end FieldPipeline
