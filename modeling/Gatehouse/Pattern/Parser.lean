import Gatehouse.Encoding.Hex
import Gatehouse.Pattern.CharClass
import Gatehouse.Pattern.Memory
import Gatehouse.Text.Blank
import Gatehouse.Text.Decimal
import Gatehouse.Word

/-!
# The notation of patterns

Patterns are written as regular expressions: alternatives, repetitions, groups with flags, sets of
characters in brackets with operations on them, and escapes.  Whether a repetition takes as much or
as little as possible makes no difference to whether a text matches.  There is no looking around and
no reference back.  Patterns that are nested too deeply or take too much memory are refused.

Main definitions: `Flags`, `parseAlternatives` and `Pattern.ofText?`.
-/

namespace Gatehouse.Pattern

open Unicode (Ranges)

/-! ## Flags -/

/-- What the flags in force say. -/
structure Flags where
  /-- `i`: letters of either case. -/
  anyCase : Bool := false
  /-- `m`: line starts and line ends count. -/
  multiLine : Bool := false
  /-- `s`: the dot stands for line ends too. -/
  dotAll : Bool := false
  /-- `R`: lines end with a carriage return and a line feed. -/
  crlf : Bool := false
  /-- `u`: characters of all scripts. -/
  unicode : Bool := true
  /-- `x`: blanks and comments do not count. -/
  free : Bool := false
  /-- `U`: repetitions take as little as possible unless they are marked. -/
  ungreedy : Bool := false
  deriving DecidableEq, Repr

/-- Set or clear the flag with a letter. -/
def Flags.set? (f : Flags) (letter : Char) (value : Bool) : Option Flags :=
  match letter with
  | 'i' => some { f with anyCase := value }
  | 'm' => some { f with multiLine := value }
  | 's' => some { f with dotAll := value }
  | 'R' => some { f with crlf := value }
  | 'u' => some { f with unicode := value }
  | 'x' => some { f with free := value }
  | 'U' => some { f with ungreedy := value }
  | _ => none

/-- What has still to be read, and what counts while reading it. -/
structure Reader where
  rest : List Char
  flags : Flags
  /-- The names of groups so far. -/
  names : List String

/-- Drop a comment up to the end of its line. -/
def skipComment : List Char → List Char
  | [] => []
  | c :: cs => if c == '\n' then cs else skipComment cs

/-- The comment skipped leaves no more than there was. -/
theorem skipComment_length (cs : List Char) : (skipComment cs).length ≤ cs.length := by
  induction cs with
  | nil => simp [skipComment]
  | cons c cs ih =>
    by_cases ends : c = '\n'
    · simp [skipComment, ends]
    · have kept : skipComment (c :: cs) = skipComment cs := by simp [skipComment, ends]
      rw [kept, List.length_cons]
      exact Nat.le_succ_of_le ih

/-- Drop blanks and comments at the front. -/
def skipFree : List Char → List Char
  | [] => []
  | c :: cs =>
    if Text.isBlank c then skipFree cs
    else if c == '#' then skipFree (skipComment cs)
    else c :: cs
  termination_by cs => cs.length
  decreasing_by
    · simp
    · have := skipComment_length cs
      simp
      omega

/-- Drop what does not count at the front. -/
def Flags.skip (f : Flags) (cs : List Char) : List Char :=
  if f.free then skipFree cs else cs

/-! ## Parts of a pattern -/

/-- A part of a pattern, and how deep it is nested. -/
structure Part where
  form : Form
  depth : Nat

/-- What a single sign stands for. -/
inductive Primitive where
  /-- A character; `byte` when it is written as one byte. -/
  | literal (code : Nat) (byte : Bool)
  | set (set : Ranges)
  | look (condition : Look)

/-- The set of one character under the flags. -/
def Flags.charSet (f : Flags) (code : Nat) : Ranges :=
  if f.anyCase then
    if f.unicode then Ranges.ofList ((Unicode.caseVariants code).map fun c => (c, c))
    else withAsciiVariants ⟨[(code, code)]⟩
  else ⟨[(code, code)]⟩

/-- The greatest code in a set under the flags: without `u` sets are sets of bytes. -/
def Flags.lastCode (f : Flags) : Nat :=
  if f.unicode then Pattern.lastCode else 255

/-- A set as it may stand in a pattern: sets of bytes have to stay within ASCII. -/
def Flags.admit? (f : Flags) (set : Ranges) : Option Ranges :=
  if f.unicode then some set
  else if set.ranges.all (·.2 < 128) then some set
  else none

/-- The set with the variants in case that the flags ask for. -/
def Flags.folded (f : Flags) (set : Ranges) : Ranges :=
  if f.anyCase then (if f.unicode then withCaseVariants set else withAsciiVariants set) else set

/-- The form of a single sign.  Without `u` a character beyond ASCII has no variants in case and may
not be written as a byte. -/
def Flags.formOf? (f : Flags) : Primitive → Option Form
  | .literal code byte =>
    if !f.unicode && code ≥ 128 && (byte || f.anyCase) then none
    else some (.ofSet (f.charSet code))
  | .set set => (f.admit? set).map .ofSet
  | .look l => some (.look l)

/-- The dot: any character but the ends of lines, unless the flags say otherwise. -/
def Flags.dot? (f : Flags) : Option Form :=
  if !f.unicode then none
  else if f.dotAll then some (.chars ⟨[(0, Pattern.lastCode)]⟩)
  else if f.crlf then
    some (.chars ⟨[(0, 9), (11, 12), (14, Pattern.lastCode)]⟩)
  else some (.chars ⟨[(0, 9), (11, Pattern.lastCode)]⟩)

/-- The start of a text or line. -/
def Flags.caret (f : Flags) : Form :=
  .look (if f.multiLine then (if f.crlf then .lineStartCrlf else .lineStart) else .start)

/-- The end of a text or line. -/
def Flags.dollar (f : Flags) : Form :=
  .look (if f.multiLine then (if f.crlf then .lineFinishCrlf else .lineFinish) else .finish)

/-! ## Escapes -/

/-- Characters that mean something unless they are escaped. -/
def isMeta (c : Char) : Bool :=
  "\\.+*?()|[]\x7b\x7d^$#&-~".toList.contains c

/-- Characters that may be escaped although they mean nothing special. -/
def isEscapable (c : Char) : Bool :=
  isMeta c || (c.toNat < 128 && !c.isAlphanum && c != '<' && c != '>')

/-- The character with a code given by hexadecimal digits. -/
def hexCode? (digits : List Char) : Option Nat := do
  let ds ← digits.mapM Hex.value?
  let n := ds.foldl (fun n d => n * 16 + d) 0
  if digits.isEmpty || n > Pattern.lastCode || (0xD800 ≤ n && n < 0xE000) then none else some n

/-- Take up to `count` characters, skipping what does not count after each. -/
def takeSkipping (f : Flags) : Nat → List Char → Option (List Char × List Char)
  | 0, cs => some ([], cs)
  | _ + 1, [] => none
  | n + 1, c :: cs => do
    let (taken, rest) ← takeSkipping f n (f.skip cs)
    return (c :: taken, rest)

/-- Take the characters up to a closing brace, skipping what does not count; `fuel` bounds their
number. -/
def takeToBrace (f : Flags) : Nat → List Char → Option (List Char × List Char)
  | 0, _ => none
  | fuel + 1, cs =>
    match f.skip cs with
    | [] => none
    | c :: rest =>
      if c == '\x7d' then some ([], rest)
      else do
        let (taken, rest) ← takeToBrace f fuel rest
        return (c :: taken, rest)

/-- A character given by its code, after the letter `x`, `u` or `U`. -/
def hexEscape? (f : Flags) (letter : Char) (cs : List Char) : Option (Primitive × List Char) := do
  match f.skip cs with
  | '\x7b' :: rest =>
    let (digits, rest) ← takeToBrace f (rest.length + 1) rest
    let code ← hexCode? digits
    return (.literal code false, f.skip rest)
  | cs =>
    let count := if letter == 'x' then 2 else if letter == 'u' then 4 else 8
    let (digits, rest) ← takeSkipping f count cs
    let code ← hexCode? digits
    return (.literal code (letter == 'x'), rest)

/-- A property, after the letter `p` or `P`. -/
def propertyEscape? (f : Flags) (negated : Bool) (cs : List Char) :
    Option (Primitive × List Char) := do
  let (name, rest) ←
    match f.skip cs with
    | [] => none
    | '\x7b' :: rest => takeToBrace f (rest.length + 1) rest
    | '\\' :: _ => none
    | c :: rest => some ([c], f.skip rest)
  if !f.unicode then none
  else
    let set ← property? (String.ofList name)
    let set := f.folded set
    return (.set (if negated then set.complement Pattern.lastCode else set), rest)

/-- A special boundary in braces, unless what follows is a repetition. -/
def boundaryInBraces? (f : Flags) (cs : List Char) : Option (Look × List Char) :=
  let usual : Look := .wordBoundary f.unicode
  let isName (c : Char) : Bool := c.isAlpha || c == '-'
  match cs with
  | '\x7b' :: rest =>
    match f.skip rest with
    | [] => none
    | c :: more =>
      if isName c then do
        let (name, rest) ← takeToBrace f (more.length + 2) (c :: more)
        match String.ofList name with
        | "start" => some (.wordStart f.unicode, rest)
        | "end" => some (.wordFinish f.unicode, rest)
        | "start-half" => some (.wordStartHalf f.unicode, rest)
        | "end-half" => some (.wordFinishHalf f.unicode, rest)
        | _ => none
      else some (usual, cs)
  | _ => some (usual, cs)

/-- An escape after its backslash. -/
def escape? (f : Flags) : List Char → Option (Primitive × List Char)
  | [] => none
  | c :: rest =>
    let plain (code : Nat) : Option (Primitive × List Char) := some (.literal code false, rest)
    if c.isDigit then none
    else if c == 'x' || c == 'u' || c == 'U' then hexEscape? f c rest
    else if c == 'p' || c == 'P' then propertyEscape? f (c == 'P') rest
    else if c == 'd' || c == 's' || c == 'w' then some (.set (perlClass f.unicode c), rest)
    else if c == 'D' || c == 'S' || c == 'W' then
      some (.set ((perlClass f.unicode c.toLower).complement f.lastCode), rest)
    else if isEscapable c then plain c.toNat
    else
      match c with
      | 'a' => plain 7
      | 'f' => plain 12
      | 't' => plain 9
      | 'n' => plain 10
      | 'r' => plain 13
      | 'v' => plain 11
      | 'A' => some (.look .start, rest)
      | 'z' => some (.look .finish, rest)
      | 'b' => (boundaryInBraces? f rest).map fun (l, rest) => (.look l, rest)
      | 'B' => some (.look (.noWordBoundary f.unicode), rest)
      | '<' => some (.look (.wordStart f.unicode), rest)
      | '>' => some (.look (.wordFinish f.unicode), rest)
      | _ => none

/-! ## Sets in brackets -/

/-- The operations on sets. -/
inductive SetOp where
  | intersection
  | difference
  | symmetric
  deriving DecidableEq, Repr

/-- The result of an operation. -/
def SetOp.apply (op : SetOp) (last : Nat) (a b : Ranges) : Ranges :=
  match op with
  | .intersection => a.inter b
  | .difference => a.inter (b.complement last)
  | .symmetric => (a.union b).inter ((a.inter b).complement last)

/-- The left operand of an operation on sets. -/
structure Operand where
  set : Ranges
  depth : Nat
  op : SetOp

/-- What has been read of a set: the operand in front with its operation, and the items since. -/
structure SetState where
  operand : Option Operand
  items : Ranges
  count : Nat
  /-- How deep sets in brackets are nested in the items. -/
  depth : Nat

/-- Nothing has been read. -/
def SetState.empty : SetState := ⟨none, Ranges.empty, 0, 0⟩

/-- The set with the operation that is still open carried out. -/
def SetState.value (s : SetState) (f : Flags) : Ranges :=
  match s.operand with
  | some left => left.op.apply f.lastCode (f.folded left.set) (f.folded s.items)
  | none => s.items

/-- How deep the set is nested: several items make one level, and so does an operation. -/
def SetState.height (s : SetState) : Nat :=
  let items := if s.count < 2 then s.depth else s.depth + 1
  match s.operand with
  | some left => max left.depth items + 1
  | none => items

/-- Add an item with sets up to some depth inside it. -/
def SetState.add (s : SetState) (set : Ranges) (depth : Nat) : SetState :=
  { s with items := s.items.union set, count := s.count + 1, depth := max s.depth depth }

/-- Begin an operation with all that has been read as its left operand. -/
def SetState.begin (s : SetState) (f : Flags) (op : SetOp) : SetState :=
  { SetState.empty with operand := some ⟨s.value f, s.height, op⟩ }

/-- The ASCII class at the front, after its bracket. -/
def asciiItem? (f : Flags) (cs : List Char) : Option (Ranges × List Char) :=
  match cs with
  | ':' :: rest =>
    let (negated, rest) :=
      match rest with
      | '^' :: rest => (true, rest)
      | rest => (false, rest)
    let name := rest.takeWhile (· != ':')
    match rest.drop name.length with
    | ':' :: ']' :: rest =>
      (asciiClass? (String.ofList name)).map fun set =>
        (if negated then (f.folded set).complement f.lastCode else f.folded set, rest)
    | _ => none
  | _ => none

/-- A single item of a set, which may be the start of a range. -/
def setItem? (f : Flags) : List Char → Option (Primitive × List Char)
  | [] => none
  | '\\' :: rest => escape? f rest
  | c :: rest => some (.literal c.toNat false, rest)

/-- The set of an item.  Without `u` all of it has to be ASCII. -/
def itemSet? (f : Flags) : Primitive → Option Ranges
  | .literal code _ => f.admit? ⟨[(code, code)]⟩
  | .set set => f.admit? set
  | .look _ => none

/-- An item or a range of characters. -/
def setRange? (f : Flags) (cs : List Char) : Option (Ranges × List Char) := do
  let (first, rest) ← setItem? f cs
  match f.skip rest with
  | [] => none
  | '-' :: after =>
    match f.skip after with
    | ']' :: _ | '-' :: _ => return (← itemSet? f first, f.skip rest)
    | [] => none
    | after =>
      let (second, rest) ← setItem? f after
      match first, second with
      | .literal low _, .literal high _ =>
        let _ ← itemSet? f first
        let _ ← itemSet? f second
        if low ≤ high then return (⟨[(low, high)]⟩, rest) else none
      | _, _ => none
  | rest => return (← itemSet? f first, rest)

/-- The hyphens at the start of a set, which stand for themselves. -/
def leadingHyphens (f : Flags) : Nat → List Char → Nat × List Char
  | fuel + 1, '-' :: rest =>
    let (n, rest) := leadingHyphens f fuel (f.skip rest)
    (n + 1, rest)
  | _, cs => (0, cs)

mutual
/-- A set after its opening bracket. -/
def parseSet (f : Flags) : Nat → List Char → Option (Ranges × Nat × List Char)
  | 0, _ => none
  | fuel + 1, cs => do
    let (negated, cs) :=
      match f.skip cs with
      | '^' :: rest => (true, f.skip rest)
      | cs => (false, cs)
    let (hyphens, cs) := leadingHyphens f (cs.length + 1) cs
    let (start, cs) :=
      match hyphens, cs with
      | 0, ']' :: rest => (SetState.empty.add ⟨[(93, 93)]⟩ 0, f.skip rest)
      | 0, cs => (SetState.empty, cs)
      | _, cs => ({ SetState.empty with items := ⟨[(45, 45)]⟩, count := hyphens }, cs)
    if cs.isEmpty then none
    else
      let (s, rest) ← parseItems f fuel start cs
      let set := f.folded (s.value f)
      let set ← f.admit? (if negated then set.complement f.lastCode else set)
      return (set, s.height + 1, rest)

/-- The items of a set up to its closing bracket. -/
def parseItems (f : Flags) : Nat → SetState → List Char → Option (SetState × List Char)
  | 0, _, _ => none
  | fuel + 1, s, cs =>
    match f.skip cs with
    | [] => none
    | ']' :: rest => some (s, rest)
    | '[' :: rest =>
      match asciiItem? f rest with
      | some (set, rest) => do
        let set ← f.admit? set
        parseItems f fuel (s.add set 0) rest
      | none => do
        let (set, depth, rest) ← parseSet f fuel rest
        parseItems f fuel (s.add set depth) rest
    | '&' :: '&' :: rest => parseItems f fuel (s.begin f .intersection) rest
    | '-' :: '-' :: rest => parseItems f fuel (s.begin f .difference) rest
    | '~' :: '~' :: rest => parseItems f fuel (s.begin f .symmetric) rest
    | cs => do
      let (set, rest) ← setRange? f cs
      parseItems f fuel (s.add set 0) rest
end

/-! ## Repetitions -/

/-- A number in a repetition, with blanks around it. -/
def repetitionNumber? (f : Flags) (cs : List Char) : Option (Option Nat × List Char) :=
  let rec digits : Nat → List Char → List Char × List Char
    | fuel + 1, c :: rest =>
      if Decimal.isDigit c then
        let (ds, rest) := digits fuel (f.skip rest)
        (c :: ds, rest)
      else ([], c :: rest)
    | _, cs => ([], cs)
  let (ds, rest) := digits (cs.length + 1) (cs.dropWhile Text.isBlank)
  let rest := f.skip (rest.dropWhile Text.isBlank)
  if ds.isEmpty then some (none, rest)
  else
    let n := Decimal.ofDigits ds
    if n < Word.bound32 then some (some n, rest) else none

/-- The bounds of a repetition after its brace. -/
def repetitionBounds? (f : Flags) (cs : List Char) : Option ((Nat × Option Nat) × List Char) := do
  let (low, rest) ← repetitionNumber? f (f.skip cs)
  let low ← low
  match rest with
  | '\x7d' :: rest => return ((low, some low), rest)
  | ',' :: rest =>
    match f.skip rest with
    | '\x7d' :: rest => return ((low, none), rest)
    | rest =>
      let (high, rest) ← repetitionNumber? f rest
      let high ← high
      match rest with
      | '\x7d' :: rest => if low ≤ high then return ((low, some high), rest) else none
      | _ => none
  | _ => none

/-- Is the repetition marked to take as little as possible? -/
def lazyMark : List Char → Bool × List Char
  | '?' :: rest => (true, rest)
  | cs => (false, cs)

/-! ## Groups -/

/-- Is the character a letter or digit of some script? -/
def isNameLetter (first : Bool) (c : Char) : Bool :=
  c == '_' || Unicode.alphabetic.contains c.toNat ||
    (!first && (c == '.' || c == '[' || c == ']' || (Unicode.groupRanges 'N').contains c.toNat))

/-- The name of a group up to its closing angle bracket. -/
def groupName? (cs : List Char) : Option (String × List Char) :=
  let name := cs.takeWhile (· != '>')
  match name, cs.drop name.length with
  | first :: more, _ :: rest =>
    if isNameLetter true first && more.all (isNameLetter false) then
      some (String.ofList name, rest)
    else none
  | _, _ => none

/-- Flags up to a colon or a closing parenthesis, and which of the two.  `seen` are the letters so
far, the hyphen among them. -/
def parseFlags (seen : List Char) (f : Flags) :
    List Char → Option (Flags × List Char × Char × List Char)
  | [] => none
  | c :: rest =>
    if c == ':' || c == ')' then
      if seen.head? == some '-' then none else some (f, seen, c, rest)
    else if seen.contains c then none
    else if c == '-' then parseFlags (c :: seen) f rest
    else
      match f.set? c (!seen.contains '-') with
      | some f => parseFlags (c :: seen) f rest
      | none => none

/-- What stands at the start of a group. -/
inductive GroupStart where
  | group (flags : Flags) (numbered : Bool)
  | flagsOnly (flags : Flags)

/-- The start of a group after its parenthesis. -/
def groupStart? (r : Reader) (cs : List Char) : Option (GroupStart × Reader) :=
  let named (rest : List Char) : Option (GroupStart × Reader) := do
    let (name, rest) ← groupName? rest
    if r.names.contains name then none
    else return (.group r.flags true, { r with rest := rest, names := name :: r.names })
  match r.flags.skip cs with
  | '?' :: '=' :: _ | '?' :: '!' :: _ => none
  | '?' :: '<' :: '=' :: _ | '?' :: '<' :: '!' :: _ => none
  | '?' :: 'P' :: '<' :: rest => named rest
  | '?' :: '<' :: rest => named rest
  | '?' :: rest => do
    let (flags, seen, last, rest) ← parseFlags [] r.flags rest
    if last == ')' then
      if seen.isEmpty then none
      else return (.flagsOnly flags, { r with rest := rest })
    else return (.group flags false, { r with rest := rest })
  | cs => some (.group r.flags true, { r with rest := cs })

/-! ## Patterns -/

/-- Items one after the other; items that only set flags stand for nothing. -/
def sequence (items : List (Option Part)) : Part :=
  match items with
  | [] => ⟨.empty, 0⟩
  | [item] => item.getD ⟨.empty, 0⟩
  | items =>
    let parts := items.filterMap id
    ⟨.ofParts (parts.map (·.form)), 1 + (parts.map (·.depth)).foldl max 0⟩

/-- Alternatives beside each other. -/
def alternatives (first : Part) (others : List Part) : Part :=
  if others.isEmpty then first
  else
    ⟨.ofAlternatives ((first :: others).map (·.form)),
      1 + (others.map (·.depth)).foldl max first.depth⟩

/-- Repeat the last item. -/
def repeatLast (items : List (Option Part)) (least : Nat) (most : Option Nat) (isLazy : Bool) :
    Option (List (Option Part)) :=
  match items with
  | some part :: before =>
    some (some ⟨.ofRepetition part.form least most isLazy, part.depth + 1⟩ :: before)
  | _ => none

mutual
/-- Alternatives up to a closing parenthesis or the end. -/
def parseAlternatives : Nat → Reader → Option (Part × Reader)
  | 0, _ => none
  | fuel + 1, r => do
    let (first, r) ← parseSequence fuel [] r
    let (others, r) ← parseOthers fuel r
    return (alternatives first others, r)

/-- The alternatives after the first one. -/
def parseOthers : Nat → Reader → Option (List Part × Reader)
  | 0, _ => none
  | fuel + 1, r =>
    match r.rest with
    | '|' :: rest => do
      let (part, r) ← parseSequence fuel [] { r with rest := rest }
      let (others, r) ← parseOthers fuel r
      return (part :: others, r)
    | _ => some ([], r)

/-- Items up to a bar, a closing parenthesis or the end; `items` are those so far, reversed. -/
def parseSequence : Nat → List (Option Part) → Reader → Option (Part × Reader)
  | 0, _, _ => none
  | fuel + 1, items, r =>
    let f := r.flags
    let single (form : Option Form) (rest : List Char) : Option (Part × Reader) := do
      let form ← form
      parseSequence fuel (some ⟨form, 0⟩ :: items) { r with rest := rest }
    let repetition (least : Nat) (most : Option Nat) (rest : List Char) :
        Option (Part × Reader) := do
      let (marked, rest) := lazyMark rest
      let items ← repeatLast items least most (marked != f.ungreedy)
      parseSequence fuel items { r with rest := rest }
    match f.skip r.rest with
    | [] => some (sequence items.reverse, { r with rest := [] })
    | '|' :: rest => some (sequence items.reverse, { r with rest := '|' :: rest })
    | ')' :: rest => some (sequence items.reverse, { r with rest := ')' :: rest })
    | '(' :: rest => do
      let (start, inner) ← groupStart? r rest
      match start with
      | .flagsOnly flags => parseSequence fuel (none :: items) { inner with flags := flags }
      | .group flags numbered =>
        let (part, inner) ← parseAlternatives fuel { inner with flags := flags }
        let form := if numbered then .group part.form else part.form
        match inner.rest with
        | ')' :: rest =>
          parseSequence fuel (some ⟨form, part.depth + 1⟩ :: items)
            { inner with rest := rest, flags := f }
        | _ => none
    | '[' :: rest => do
      let (set, depth, rest) ← parseSet f fuel rest
      parseSequence fuel (some ⟨.ofSet set, depth⟩ :: items) { r with rest := rest }
    | '?' :: rest => repetition 0 (some 1) rest
    | '*' :: rest => repetition 0 none rest
    | '+' :: rest => repetition 1 none rest
    | '\x7b' :: rest => do
      let ((least, most), rest) ← repetitionBounds? f rest
      repetition least most (f.skip rest)
    | '.' :: rest => single f.dot? rest
    | '^' :: rest => single (some f.caret) rest
    | '$' :: rest => single (some f.dollar) rest
    | '\\' :: rest => do
      let (primitive, rest) ← escape? f rest
      single (f.formOf? primitive) rest
    | c :: rest => single (f.formOf? (.literal c.toNat false)) rest
end

/-- How deep a pattern may be nested. -/
def depthLimit : Nat := 250

end Pattern

/-- A pattern with its notation. -/
structure Pattern where
  notationText : String
  node : Pattern.Node
  deriving DecidableEq, Repr

/-- The pattern that a text writes. -/
def Pattern.ofText? (text : String) : Option Pattern := do
  let cs := text.toList
  let (part, r) ← Pattern.parseAlternatives (4 * cs.length + 4) ⟨cs, {}, []⟩
  if r.rest.isEmpty && part.depth ≤ Pattern.depthLimit && part.form.fits then
    some ⟨text, part.form.node⟩
  else none

/-- Does the text have a part that the pattern describes? -/
def Pattern.isMatch (p : Pattern) (text : String) : Bool :=
  p.node.matchesIn text

end Gatehouse
