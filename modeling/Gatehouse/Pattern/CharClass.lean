import Gatehouse.Text.Split
import Gatehouse.Unicode.Age
import Gatehouse.Unicode.CaseFolding
import Gatehouse.Unicode.Category
import Gatehouse.Unicode.Property
import Gatehouse.Unicode.Script
import Gatehouse.Unicode.Segmentation

/-!
# Named sets of characters

The sets that a pattern names: `\d`, `\s`, `\w`, properties of characters such as `\p{Greek}`, and
the ASCII classes such as `[:alpha:]`.

Main definitions: `perlClass`, `asciiClass?`, `property?` and `withCaseVariants`.
-/

namespace Gatehouse.Pattern

open Unicode (Ranges looseName)

/-- The greatest code of a character. -/
def lastCode : Nat := 0x10FFFF

/-- Digits, white space or the characters of words. -/
def perlClass (unicode : Bool) (letter : Char) : Ranges :=
  match letter with
  | 'd' => if unicode then Unicode.decimalDigits else ⟨[(48, 57)]⟩
  | 's' => if unicode then Unicode.whiteSpace else ⟨[(9, 13), (32, 32)]⟩
  | _ => if unicode then Unicode.wordChars else ⟨[(48, 57), (65, 90), (95, 95), (97, 122)]⟩

/-- The ASCII class with a name. -/
def asciiClass? : String → Option Ranges
  | "alnum" => some ⟨[(48, 57), (65, 90), (97, 122)]⟩
  | "alpha" => some ⟨[(65, 90), (97, 122)]⟩
  | "ascii" => some ⟨[(0, 127)]⟩
  | "blank" => some ⟨[(9, 9), (32, 32)]⟩
  | "cntrl" => some ⟨[(0, 31), (127, 127)]⟩
  | "digit" => some ⟨[(48, 57)]⟩
  | "graph" => some ⟨[(33, 126)]⟩
  | "lower" => some ⟨[(97, 122)]⟩
  | "print" => some ⟨[(32, 126)]⟩
  | "punct" => some ⟨[(33, 47), (58, 64), (91, 96), (123, 126)]⟩
  | "space" => some ⟨[(9, 13), (32, 32)]⟩
  | "upper" => some ⟨[(65, 90)]⟩
  | "word" => some ⟨[(48, 57), (65, 90), (95, 95), (97, 122)]⟩
  | "xdigit" => some ⟨[(48, 57), (65, 70), (97, 102)]⟩
  | _ => none

/-- The characters of a set and all that differ from them only in case. -/
def withCaseVariants (set : Ranges) : Ranges :=
  let folded := Unicode.foldings.filterMap fun (a, f) =>
    if set.contains a then some (f, f) else none
  let set := Ranges.ofList (set.ranges ++ folded)
  let unfolded := Unicode.foldings.filterMap fun (a, f) =>
    if set.contains f then some (a, a) else none
  Ranges.ofList (set.ranges ++ unfolded)

/-- The characters of an ASCII set and all that differ from them only in ASCII case. -/
def withAsciiVariants (set : Ranges) : Ranges :=
  let letters := (List.range 26).flatMap fun i =>
    if set.contains (65 + i) || set.contains (97 + i) then
      [(65 + i, 65 + i), (97 + i, 97 + i)]
    else []
  Ranges.ofList (set.ranges ++ letters)

/-- The short name of each category and group with its longer names. -/
def categoryNames : List (String × List String) := [
  ("L", ["letter"]), ("LC", ["casedletter"]), ("Lu", ["uppercaseletter"]),
  ("Ll", ["lowercaseletter"]), ("Lt", ["titlecaseletter"]), ("Lm", ["modifierletter"]),
  ("Lo", ["otherletter"]), ("M", ["mark", "combiningmark"]), ("Mn", ["nonspacingmark"]),
  ("Mc", ["spacingmark"]), ("Me", ["enclosingmark"]), ("N", ["number"]),
  ("Nd", ["decimalnumber", "digit"]), ("Nl", ["letternumber"]), ("No", ["othernumber"]),
  ("P", ["punctuation", "punct"]), ("Pc", ["connectorpunctuation"]), ("Pd", ["dashpunctuation"]),
  ("Ps", ["openpunctuation"]), ("Pe", ["closepunctuation"]), ("Pi", ["initialpunctuation"]),
  ("Pf", ["finalpunctuation"]), ("Po", ["otherpunctuation"]), ("S", ["symbol"]),
  ("Sm", ["mathsymbol"]), ("Sc", ["currencysymbol"]), ("Sk", ["modifiersymbol"]),
  ("So", ["othersymbol"]), ("Z", ["separator"]), ("Zs", ["spaceseparator"]),
  ("Zl", ["lineseparator"]), ("Zp", ["paragraphseparator"]), ("C", ["other"]),
  ("Cc", ["control", "cntrl"]), ("Cf", ["format"]), ("Co", ["privateuse"]),
  ("Cn", ["unassigned"])]

/-- The characters of the category with a short name. -/
def categoryByShortName (name : String) : Ranges :=
  match name.toList with
  | ['C', 'n'] => Unicode.unassigned
  | ['L', 'C'] =>
    Ranges.unionAll (["Lu", "Ll", "Lt"].filterMap Unicode.categoryRanges?)
  | ['C'] => (Unicode.groupRanges 'C').union Unicode.unassigned
  | [letter] => Unicode.groupRanges letter
  | _ => (Unicode.categoryRanges? name).getD Ranges.empty

/-- The characters of the category with a name. -/
def category? (name : String) : Option Ranges :=
  let name := looseName name
  match name with
  | "any" => some ⟨[(0, lastCode)]⟩
  | "ascii" => some ⟨[(0, 127)]⟩
  | "assigned" => some Unicode.assigned
  | _ =>
    (categoryNames.find? fun (short, long) =>
      looseName short == name || long.contains name).map fun (short, _) =>
        categoryByShortName short

/-- A name as properties and their values are compared: in lower case, without a leading `is`, and
without blanks, hyphens, underscores and characters beyond ASCII.  The name `isc` is no `c`. -/
def symbolicName (name : String) : String :=
  let (isNamed, rest) :=
    match name.toList with
    | a :: b :: rest =>
      if a.toLower == 'i' && b.toLower == 's' then (true, rest) else (false, a :: b :: rest)
    | cs => (false, cs)
  let symbol := looseName (String.ofList (rest.filter (·.toNat < 128)))
  if isNamed && symbol == "c" then "isc" else symbol

/-- The set that a property has for a value. -/
def propertyValue? (name value : String) : Option Ranges :=
  let value := symbolicName value
  match symbolicName name with
  | "gc" | "generalcategory" => category? value
  | "sc" | "script" => Unicode.scriptRanges? value
  | "scx" | "scriptextensions" => Unicode.scriptExtensions? value
  | "age" => Unicode.assignedBy? value
  | "gcb" | "graphemeclusterbreak" => Unicode.graphemeBreak? value
  | "wb" | "wordbreak" => Unicode.wordBreak? value
  | "sb" | "sentencebreak" => Unicode.sentenceBreak? value
  | _ => none

/-- The set that a property names alone.  Three names of categories are names of properties too,
which are not sets. -/
def propertyAlone? (name : String) : Option Ranges :=
  let name := symbolicName name
  let binary := if ["cf", "sc", "lc"].contains name then none else Unicode.binaryProperty? name
  binary.or ((category? name).or (Unicode.scriptRanges? name))

/-- The set that a property names, alone or with a value.  The sign `!=` stands for the same as
`=`. -/
def property? (text : String) : Option Ranges :=
  match Text.cutAt? "!=".toList text.toList with
  | some (name, value) => propertyValue? (String.ofList name) (String.ofList value)
  | none =>
    match (Text.cut? ':' text).or (Text.cut? '=' text) with
    | some (name, value) => propertyValue? name value
    | none => propertyAlone? text

end Gatehouse.Pattern
