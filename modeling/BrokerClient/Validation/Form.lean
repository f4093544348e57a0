import BrokerClient.Validation.Scalar

/-!
# Forms

A form reads the members of a JSON object as the fields of a record. A field has two spellings, of
which the first wins when both are given. All refused fields are reported, in the order in which
the form lists them; after them come the members that belong to no field, if the model forbids
these. Only an error that is no refusal of a field stops the reading.

## Main definitions

* `Form` — a reading of the members of an object.
* `Form.check` — a form applied to a JSON value.
* `Refusal` — why a value is refused.
-/

namespace BrokerClient.Validation

/-- Why an object is refused: by issues with its fields or by an error outright. -/
inductive Refusal
  | issues (list : List Issue)
  | abort (error : Error)
  deriving Repr

/-- A result, or why there is none. -/
abbrev Checked (α : Type) := Except Refusal α

/-- The refusal for a single reason at the place itself. -/
def Refusal.here (r : Reason) : Refusal :=
  .issues [⟨[], r⟩]

/-- The refusal one level further out. -/
def Refusal.under (name : String) : Refusal → Refusal
  | .issues list => .issues (list.map (Issue.under name))
  | .abort e => .abort e

/-- Both refusals together; an error outright wins, the first one first. -/
def Refusal.and : Refusal → Refusal → Refusal
  | .abort e, _ => .abort e
  | _, .abort e => .abort e
  | .issues a, .issues b => .issues (a ++ b)

/-- Applies a result to another and reports the refusals of both. -/
def Checked.apply {α β : Type} (f : Checked (α → β)) (a : Checked α) : Checked β :=
  match f, a with
  | .ok f, .ok a => .ok (f a)
  | .error r, .ok _ => .error r
  | .ok _, .error r => .error r
  | .error r, .error s => .error (r.and s)

/-- A reading as a result whose refusal is at the place itself. -/
def Checked.ofReading {α : Type} : Reading α → Checked α
  | .ok a => .ok a
  | .error r => .error (.here r)

/-- The two spellings of a field. -/
structure FieldName where
  /-- The spelling that wins and that a missing field is reported under. -/
  preferred : String
  /-- The other spelling. -/
  plain : String
  deriving DecidableEq, Repr

/-- A field with one spelling. -/
def FieldName.single (name : String) : FieldName := ⟨name, name⟩

/-- The member that gives a field: its spelling and its value. -/
def FieldName.find? (f : FieldName) (members : List (String × Json)) : Option (String × Json) :=
  match Json.member? f.preferred members with
  | some v => some (f.preferred, v)
  | none => (Json.member? f.plain members).map (f.plain, ·)

/-- A reading of the members of an object as the fields of a record. -/
structure Form (α : Type) where
  /-- The fields that the form reads. -/
  fields : List FieldName
  /-- The record that the members give. -/
  read : List (String × Json) → Checked α

namespace Form

instance : Functor Form where
  map f a := ⟨a.fields, fun ms => (a.read ms).map f⟩

instance : Seq Form where
  seq f a := ⟨f.fields ++ (a ()).fields, fun ms => (f.read ms).apply ((a ()).read ms)⟩

instance : Pure Form where
  pure a := ⟨[], fun _ => .ok a⟩

/-- A field that is read by `read`, or replaced by `absent` when it is not given. -/
def field {α : Type} (f : FieldName) (absent : Checked α) (read : Json → Checked α) : Form α where
  fields := [f]
  read ms := match f.find? ms with
    | some (name, v) => (read v).mapError (Refusal.under name)
    | none => absent.mapError (Refusal.under f.preferred)

/-- A field that has to be given. -/
def required {α : Type} (f : FieldName) (read : Json → Reading α) : Form α :=
  field f (.error (.here .missing)) fun v => .ofReading (read v)

/-- A field with a default. -/
def withDefault {α : Type} (f : FieldName) (default : α) (read : Json → Reading α) : Form α :=
  field f (.ok default) fun v => .ofReading (read v)

/-- The members that belong to no field of the form. -/
def extras {α : Type} (form : Form α) (members : List (String × Json)) : List String :=
  let used := form.fields.filterMap fun f => (f.find? members).map (·.1)
  (members.map (·.1)).filter fun name => !used.contains name

/-- What a model does with members that belong to no field. -/
inductive Extras
  | ignore
  | forbid
  deriving DecidableEq, Repr

/-- Reads an object as a record of a model. -/
def check {α : Type} (form : Form α) (model : String) (policy : Extras) (origin : Origin) :
    Json → Checked α
  | .obj members =>
    let record := form.read members
    match policy, form.extras members with
    | .forbid, name :: rest =>
      Checked.apply (record.map fun a (_ : Unit) => a)
        (.error (.issues ((name :: rest).map fun n => ⟨[n], .extraForbidden⟩)))
    | _, _ => record
  | _ => .error (.here (.modelType origin model))

end Form

/-- A refusal as the error of a model. -/
def Refusal.error (model : String) : Refusal → Error
  | .issues list => .invalid model list
  | .abort e => e

/-- The error of assigning to a field of an immutable record of a model. -/
def frozenError (model name : String) : Error :=
  .invalid model [⟨[name], .frozen⟩]

end BrokerClient.Validation
