import FieldPipeline.Proofs.Linking.Build

/-!
The layout of a linked entity: which fields it has, in which order and with which policies, what
its keys are, and which fields stand for the times of states.  The fields that a feature adds
depend on those before it, since a feature may copy or track a field that another one has added.
-/

namespace FieldPipeline

def Value.isName (name : String) : Value → Bool
  | .text s => name == s
  | _ => false

namespace FeatureUse

def described (u : FeatureUse) : List FieldDeclaration :=
  (Feature.describedField u.options).toOption.toList

def field? (u : FeatureUse) (fields : List FieldDeclaration) : Option FieldDeclaration :=
  fields.find? fun f => (Feature.StateTracking.tracked u.options).isName f.name

def stamps (u : FeatureUse) (f : FieldDeclaration) : List FieldDeclaration :=
  (f.values.getD []).map
    (Feature.StateTracking.stampField f.name (Feature.StateTracking.isReversible u.options))

def added (u : FeatureUse) (fields : List FieldDeclaration) : Phase → List FieldDeclaration
  | .beforeFields => if u.name = "auto_id" then u.described else []
  | .afterFields =>
    match u.name with
    | "create_timestamp" | "update_timestamp" => u.described
    | "logical_deletion" => Feature.Deletion.flags u.options
    | "state_tracking" => (u.field? fields).elim [] u.stamps
    | "i18n" => (u.field? fields).elim [] (Feature.Localization.copies u.options)
    | _ => []
  | .finalize => []

theorem field?_eq {u : FeatureUse} {d : Draft} {f : FieldDeclaration}
    (hname : (u.options.under? "field").getD .null = .text f.name)
    (hf : d.field? f.name = some f) : u.field? d.fields = some f := by
  unfold field? Feature.StateTracking.tracked
  rw [hname, ← hf]
  rfl

end FeatureUse

def addedFields (phase : Phase) : List FeatureUse → List FieldDeclaration → List FieldDeclaration
  | [], _ => []
  | u :: us, fields =>
    u.added fields phase ++ addedFields phase us (fields ++ u.added fields phase)

def Declaration.layout (d : Declaration) (uses : List FeatureUse) : List FieldDeclaration :=
  let declared := addedFields .beforeFields uses [] ++ d.fields
  declared ++ addedFields .afterFields uses declared

namespace Linking

open Link

variable {catalogue : Catalogue} {d t : Draft}

/-! ### The phases that add fields -/

end Linking

open Linking

namespace Declaration

variable {catalogue : Catalogue} {d : Declaration} {e : Entity}

end Declaration

end FieldPipeline
