import Gatehouse.Text.Bytes
import Gatehouse.Text.Split
import Gatehouse.Unicode.Category
import Gatehouse.Unicode.Normalization
import Gatehouse.Url.Idna.Tables
import Gatehouse.Url.Punycode

/-!
# Host names beyond ASCII

A host name is brought into its ASCII form: its characters are mapped and composed, each label is
checked, and labels with characters beyond ASCII are written in Punycode behind `xn--`.

Main definition: `asciiName?`.
-/

namespace Gatehouse.Url.Idna

/-- The characters that a character is mapped to, unless it may not stand in a host name. -/
def mapCode? (code : Nat) : Option (List Nat) :=
  if code < 128 then some [if 65 ≤ code ∧ code ≤ 90 then code + 32 else code]
  else
    match Unicode.lookupCode mapped code with
    | some other => some [other]
    | none =>
      match Unicode.lookupCode expanded code with
      | some others => some others
      | none =>
        if ignored.contains code then some []
        else if disallowed.contains code then none
        else some [code]

/-- ASCII characters that may not stand in the name of a host. -/
def isForbidden (code : Nat) : Bool :=
  code ≤ 0x20 || code == 0x7F ||
    ("#%/:<>?@[\\]^|".toList.map Char.toNat).contains code

/-! ## Checking labels -/

/-- Are all characters of a label left as they are by the mapping? -/
def isMapped (codes : List Nat) : Bool :=
  codes.all fun code => mapCode? code == some [code]

/-- Is the character a combining mark? -/
def isMark (code : Nat) : Bool :=
  (Unicode.groupRanges 'M').contains code

/-- Does a letter before joining characters stand so that they join? -/
def joinsBefore : List Nat → Bool
  | [] => false
  | code :: rest =>
    match joining code with
    | .transparent => joinsBefore rest
    | .left | .dual => true
    | _ => false

/-- Does a letter after joining characters stand so that they join? -/
def joinsAfter : List Nat → Bool
  | [] => false
  | code :: rest =>
    match joining code with
    | .transparent => joinsAfter rest
    | .right | .dual => true
    | _ => false

/-- Do joiners stand only where they make a difference?  `before` is the reversed text before. -/
def joinersOk : List Nat → List Nat → Bool
  | _, [] => true
  | before, code :: rest =>
    let virama := match before with
      | last :: _ => Unicode.combiningClass last == 9
      | [] => false
    let ok :=
      if code == 0x200C then virama || (joinsBefore before && joinsAfter rest)
      else if code == 0x200D then virama
      else true
    ok && joinersOk (code :: before) rest

/-- Does a label that is checked for directions keep to one of them? -/
def directionOk (codes : List Nat) : Bool :=
  let directions := codes.map direction
  let last := (directions.reverse.dropWhile (· == .mark)).head?
  match directions.head? with
  | some .leftToRight =>
    (directions.all fun d =>
      [.leftToRight, .european, .europeanSeparator, .commonSeparator, .europeanTerminator,
        .neutral, .boundary, .mark].contains d) &&
      [some .leftToRight, some .european].contains last
  | some .rightToLeft | some .arabicLetter =>
    (directions.all fun d =>
      [.rightToLeft, .arabicLetter, .arabicNumber, .european, .europeanSeparator,
        .commonSeparator, .europeanTerminator, .neutral, .boundary, .mark].contains d) &&
      [some .rightToLeft, some .arabicLetter, some .european, some .arabicNumber].contains last &&
      !(directions.contains .european && directions.contains .arabicNumber)
  | _ => false

/-- Is a label with characters beyond ASCII a good one? -/
def labelOk (codes : List Nat) : Bool :=
  match codes with
  | [] => true
  | first :: _ => !isMark first && joinersOk [] codes

/-- Does a name with these labels have to keep to directions? -/
def isBidi (labels : List (List Nat)) : Bool :=
  labels.any fun codes => codes.any fun code =>
    [.rightToLeft, .arabicLetter, .arabicNumber].contains (direction code)

/-- A label that is written in Punycode stands for its characters. -/
def labelCodes? (codes : List Nat) : Option (List Nat) :=
  if [0x78, 0x6E, 0x2D, 0x2D].isPrefixOf codes then
    match Punycode.decode? ((codes.drop 4).map Char.ofNat) with
    | some plain =>
      if plain.any (· ≥ 128) && isMapped plain && Unicode.composed plain == plain then some plain
      else none
    | none => none
  else some codes

/-- The ASCII form of a label. -/
def asciiLabel (codes : List Nat) : List Char :=
  if codes.any (· ≥ 128) then "xn--".toList ++ Punycode.encode codes
  else codes.map Char.ofNat

/-- Cut at the dots. -/
def splitLabels : List Nat → List (List Nat)
  | [] => [[]]
  | code :: rest =>
    if code = 0x2E then [] :: splitLabels rest
    else
      match splitLabels rest with
      | [] => [[code]]
      | label :: labels => (code :: label) :: labels

/-- The ASCII form of a host name. -/
def asciiName? (name : String) : Option String := do
  let codes ← name.toList.mapM fun c => mapCode? c.toNat
  let codes := codes.flatten
  let codes := if codes.all (· < 128) then codes else Unicode.composed codes
  let labels ← (splitLabels codes).mapM labelCodes?
  let plain := labels.all fun label => label.all (· < 128)
  let ok := plain || (labels.all labelOk && (!isBidi labels || labels.all fun label =>
    label.isEmpty || directionOk label))
  let ascii := Text.joinWith "." (labels.map fun label => String.ofList (asciiLabel label))
  if ok && ascii.toList.all (fun c => !isForbidden c.toNat) then some ascii else none

end Gatehouse.Url.Idna
