import Gatehouse.Http.Header
import Gatehouse.Text.Split

/-!
# Media types

The type of a body, such as `application/json; charset=utf-8`: a type and a subtype, which may end
with a suffix after a plus sign, and parameters.

Main definitions: `MediaType.ofText?` and `MediaType.isJson`.
-/

namespace Gatehouse.Http

/-- A media type without its parameters, in lower case. -/
structure MediaType where
  type : String
  subtype : String
  /-- What follows the last plus sign. -/
  suffix : Option String
  deriving DecidableEq, Repr

namespace MediaType

/-- May the character stand between the quotes of a parameter? -/
def isQuotable (c : Char) : Bool :=
  c.toNat > 31 && c.toNat != 127

/-- A character that ends a name. -/
def isTokenChar (c : Char) : Bool :=
  isNameChar c

/-- The text after a quoted value, from its second character on; the first one may be a quote. -/
def afterQuoted? : List Char → Option (List Char)
  | [] => none
  | '"' :: rest => some rest
  | c :: rest => if isQuotable c then afterQuoted? rest else none

/-- What is left after the value of a parameter: nothing, or what follows the next semicolon. -/
def afterValue? (cs : List Char) : Option (List Char) :=
  match cs with
  | '"' :: first :: rest =>
    if isQuotable first then do
      let rest ← afterQuoted? rest
      match rest.dropWhile (· == ' ') with
      | [] => some []
      | ';' :: rest => some rest
      | _ => none
    else none
  | cs =>
    match cs.dropWhile isTokenChar with
    | [] => some []
    | ';' :: rest => if cs.head? == some ';' then none else some rest
    | _ => none

/-- Are the texts between semicolons parameters?  `fuel` bounds their number. -/
def parametersOk : Nat → List Char → Bool
  | 0, _ => false
  | fuel + 1, cs =>
    let cs := cs.dropWhile (· == ' ')
    if cs.isEmpty then true
    else
      let name := cs.takeWhile isTokenChar
      match cs.drop name.length with
      | '=' :: rest =>
        if name.isEmpty then false
        else
          match afterValue? rest with
          | some rest => parametersOk fuel rest
          | none => false
      | _ => false

/-- The media type that a text writes. -/
def ofText? (text : String) : Option MediaType :=
  let cs := text.toList
  let type := cs.takeWhile isTokenChar
  match cs.drop type.length with
  | '/' :: rest =>
    let subtype := rest.takeWhile isTokenChar
    let wellFormed : Bool :=
      match rest.drop subtype.length with
      | [] => true
      | ';' :: params => !subtype.isEmpty && parametersOk (params.length + 1) params
      | _ => false
    if type.isEmpty || subtype.head? == some '+' || !wellFormed then none
    else
      let lower (cs : List Char) : String := Text.lowerAscii (String.ofList cs)
      match Text.cutLast? '+' (lower subtype) with
      | some (before, suffix) => some ⟨lower type, before, some suffix⟩
      | none => some ⟨lower type, lower subtype, none⟩
  | _ => none

/-- Is a body of the type a JSON document? -/
def isJson (t : MediaType) : Bool :=
  t.type == "application" && (t.subtype == "json" || t.suffix == some "json")

end MediaType

end Gatehouse.Http
