import Gatehouse.Json.Parser

/-!
# Forms

A form is a flat record that a client sends: its fields are texts, whole numbers, flags and lists
of texts.  It is written as an object, whose unknown members are skipped, or as an array with the
fields in their order.

A text can fail to be a form in two ways: it is no JSON at all, or it is JSON that does not fit.
The text is read from front to back and the first fault is reported.

Main definitions: `FieldSpec`, `Form` and `Form.read`.
-/

namespace Gatehouse.Json

/-- What a field holds. -/
inductive FieldKind where
  | text
  /-- A whole number within bounds, both included. -/
  | whole (low high : Int)
  | flag
  | texts
  deriving DecidableEq, Repr

/-- A field of a form. -/
structure FieldSpec where
  name : String
  kind : FieldKind
  /-- A nullable field may be `null`; any other field has a default for when it is missing. -/
  nullable : Bool
  deriving DecidableEq, Repr

/-- What is in a field. -/
inductive FieldDatum where
  | text (value : String)
  | whole (value : Int)
  | flag (value : Bool)
  | texts (values : List String)
  | absent
  deriving DecidableEq, Repr

/-- How a text fails to be a form. -/
inductive FormFault where
  /-- The text is no JSON. -/
  | notJson
  /-- The text does not fit the form. -/
  | misfit
  deriving DecidableEq, Repr

/-- The data of a form by the names of their fields.  Fields that were not given are missing. -/
structure Form where
  fields : List (String × FieldDatum)
  deriving DecidableEq, Repr

namespace Form

/-- What is in the field with a name. -/
def datum (f : Form) (name : String) : FieldDatum :=
  (f.fields.lookup name).getD .absent

/-- The text in a field. -/
def text? (f : Form) (name : String) : Option String :=
  match f.datum name with
  | .text s => some s
  | _ => none

/-- The number in a field. -/
def whole? (f : Form) (name : String) : Option Int :=
  match f.datum name with
  | .whole i => some i
  | _ => none

/-- The flag in a field; a missing one is not set. -/
def flag (f : Form) (name : String) : Bool :=
  match f.datum name with
  | .flag b => b
  | _ => false

/-- The texts in a field. -/
def texts? (f : Form) (name : String) : Option (List String) :=
  match f.datum name with
  | .texts ss => some ss
  | _ => none

/-! ## Reading -/

/-- A value that is no array and no object. -/
def scanScalar (cs : List Char) : Except FormFault (Value × List Char) :=
  match cs with
  | '[' :: _ | '{' :: _ => .error .misfit
  | cs =>
    match scanValue 1 cs with
    | none | some (.unusable, _) => .error .notJson
    | some (v, rest) => .ok (v, rest)

/-- A text. -/
def scanText (cs : List Char) : Except FormFault (String × List Char) := do
  match ← scanScalar cs with
  | (.string s, rest) => .ok (s, rest)
  | _ => .error .misfit

/-- The texts of an array after its opening bracket; `fuel` bounds their number. -/
def scanTexts (fuel : Nat) (cs : List Char) : Except FormFault (List String × List Char) :=
  match fuel with
  | 0 => .error .notJson
  | fuel + 1 => do
    let (s, rest) ← scanText (skipGap cs)
    match skipGap rest with
    | ']' :: rest => .ok ([s], rest)
    | ',' :: rest =>
      match skipGap rest with
      | ']' :: _ => .error .notJson
      | rest =>
        let (ss, rest) ← scanTexts fuel rest
        .ok (s :: ss, rest)
    | _ => .error .notJson

/-- The datum that a scalar gives a field. -/
def datumOf? (spec : FieldSpec) : Value → Option FieldDatum
  | .null => if spec.nullable then some .absent else none
  | .string s => if spec.kind = .text then some (.text s) else none
  | .bool b => if spec.kind = .flag then some (.flag b) else none
  | .number (.whole i) =>
    match spec.kind with
    | .whole low high => if low ≤ i ∧ i ≤ high then some (.whole i) else none
    | _ => none
  | _ => none

/-- The value of a field. -/
def scanDatum (spec : FieldSpec) (cs : List Char) : Except FormFault (FieldDatum × List Char) :=
  match skipGap cs, spec.kind with
  | '[' :: rest, .texts =>
    match skipGap rest with
    | ']' :: rest => .ok (.texts [], rest)
    | rest => do
      let (ss, rest) ← scanTexts rest.length rest
      .ok (.texts ss, rest)
  | cs, _ => do
    let (v, rest) ← scanScalar cs
    match datumOf? spec v with
    | some d => .ok (d, rest)
    | none => .error .misfit

/-- The colon between a name and a value. -/
def scanColon (cs : List Char) : Except FormFault (List Char) :=
  match skipGap cs with
  | ':' :: rest => .ok rest
  | _ => .error .notJson

/-- A member that is no field of the form. -/
def skipMember (cs : List Char) : Except FormFault (List Char) := do
  let rest ← scanColon cs
  match scanValue (2 * rest.length + 2) rest with
  | some (_, rest) => .ok rest
  | none => .error .notJson

/-- A name. -/
def scanName (cs : List Char) : Except FormFault (String × List Char) :=
  match cs with
  | '"' :: rest =>
    match scanString rest with
    | some (some name, rest) => .ok (name, rest)
    | _ => .error .notJson
  | _ => .error .notJson

/-- The members of an object from the first name on; `fuel` bounds their number. -/
def scanMembers (specs : List FieldSpec) (fuel : Nat) (seen : List (String × FieldDatum))
    (cs : List Char) : Except FormFault (List (String × FieldDatum) × List Char) :=
  match fuel with
  | 0 => .error .notJson
  | fuel + 1 => do
    let (name, rest) ← scanName (skipGap cs)
    let (seen, rest) ←
      match specs.find? (·.name == name) with
      | none => do
        let rest ← skipMember rest
        pure (seen, rest)
      | some spec =>
        if (seen.lookup name).isSome then .error .misfit
        else do
          let rest ← scanColon rest
          let (d, rest) ← scanDatum spec rest
          pure (seen ++ [(name, d)], rest)
    match skipGap rest with
    | '}' :: rest => .ok (seen, rest)
    | ',' :: rest => scanMembers specs fuel seen rest
    | _ => .error .notJson

/-- The fields that an array has not got.  Only fields with a default may be missing. -/
def missing (specs : List FieldSpec) : Except FormFault (List (String × FieldDatum)) :=
  if specs.all (!·.nullable) then .ok [] else .error .misfit

/-- The fields in an array from the first value on. -/
def scanItems : List FieldSpec → List Char →
    Except FormFault (List (String × FieldDatum) × List Char)
  | [], _ => .error .notJson
  | spec :: specs, cs => do
    let (d, rest) ← scanDatum spec cs
    match skipGap rest with
    | ']' :: rest =>
      let others ← missing specs
      .ok ((spec.name, d) :: others, rest)
    | ',' :: rest =>
      match skipGap rest with
      | ']' :: _ => .error .notJson
      | rest =>
        let (others, rest) ← scanItems specs rest
        .ok ((spec.name, d) :: others, rest)
    | _ => .error .notJson

/-- The fields at the front of a text. -/
def scanFields (specs : List FieldSpec) (cs : List Char) :
    Except FormFault (List (String × FieldDatum) × List Char) :=
  match cs with
  | '{' :: rest =>
    match skipGap rest with
    | '}' :: rest => .ok ([], rest)
    | rest => scanMembers specs rest.length [] rest
  | '[' :: rest =>
    match skipGap rest with
    | ']' :: rest => do
      let others ← missing specs
      .ok (others, rest)
    | rest => scanItems specs rest
  | cs => do
    let _ ← scanScalar cs
    .error .misfit

/-- The form with the given fields that a body holds. -/
def read (specs : List FieldSpec) (body : Bytes) : Except FormFault Form := do
  let cs := (textMarking "\\udfff".toList body).toList
  let (fields, rest) ← scanFields specs (skipGap cs)
  if (skipGap rest).isEmpty then .ok ⟨fields⟩ else .error .notJson

end Form

end Gatehouse.Json
