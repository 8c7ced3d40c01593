import Gatehouse.Proofs.Http.Cookie
import Gatehouse.Proofs.Text.Decimal

/-!
# Cookies - In the hands of a browser

A browser reads the lines that set cookies and keeps each cookie under its name, path and domain.
Later it sends pairs of names and values back, among others and in any order.

Main definitions:

- `Cookie.IsName`: names that come back as they were.
- `Cookie.setPairs` and `Cookie.SentBack`: the pairs that are set, and a pair that comes back among
  others.
- `Jar` with `Jar.take`: what a browser keeps.

Main results:

- Theorem `Cookie.find?_of_sentBack`: the value of a pair that comes back is found.
- Theorem `Cookie.read?_text`: what a browser reads in the line that sets a cookie.
- Theorem `Cookie.lasts?_text`: how long it keeps the cookie.
- Theorem `Jar.take_cleared`: a browser drops the cookie that is cleared.
-/

namespace Gatehouse.Http

namespace Cookie

variable {h : Headers} {name value : String} {c : Cookie}

/-! ## Names -/

/-- The name of a cookie can be read, has no blanks around it and none of the characters that end a
name or a pair. -/
structure IsName (name : String) : Prop where
  readable : (readable? (utf8 name)).isSome = true
  trimmed : Text.trim name = name
  noEquals : '=' ∉ name.toList
  noSemicolon : ';' ∉ name.toList

/-! ## Pairs -/

/-- The pieces between the semicolons of the readable `cookie` lines, in order. -/
def pieces (h : Headers) : List String :=
  ((h.values "cookie").filterMap readable?).flatMap (Text.splitOn ';')

theorem pairs_eq (h : Headers) : pairs h = (pieces h).filterMap pair? :=
  List.filterMap_flatMap.symm

/-- A piece gives a value to a name, whatever blanks stand around both. -/
def Gives (piece name : String) : Prop :=
  ∃ key value, piece = key ++ "=" ++ value ∧ Text.trim key = name ∧ Text.trim value ≠ ""

/-- The pair in which a value comes back. -/
def pairText (name value : String) : String :=
  name ++ "=" ++ value

/-- The blanks around the pair may be left where they are. -/
theorem pair?_eq (piece : String) :
    pair? piece = (Text.cut? '=' piece).map fun parts => (Text.trim parts.1, Text.trim parts.2) :=
  Text.cut?_trim (by decide) piece

theorem pair?_join {key : String} (free : '=' ∉ key.toList) (value : String) :
    pair? (key ++ "=" ++ value) = some (Text.trim key, Text.trim value) := by
  have cut : Text.cut? '=' (key ++ "=" ++ value) = some (key, value) := Text.cut?_append free value
  rw [pair?_eq, cut]
  rfl

theorem gives_of_pair? {piece : String} (h : pair? piece = some (name, value)) (given : value ≠ "") :
    Gives piece name := by
  rw [pair?_eq] at h
  obtain ⟨⟨key, text⟩, cut, same⟩ := Option.map_eq_some_iff.1 h
  cases same
  exact ⟨key, text, (Text.of_cut? cut).1, rfl, given⟩

/-- The pair of a piece whose blanks are removed. -/
theorem pair?_of_trim {piece : String} (named : IsName name) (trimmed : Text.trim value = value)
    (same : Text.trim piece = pairText name value) : pair? piece = some (name, value) := by
  have cut : Text.cut? '=' (pairText name value) = some (name, value) :=
    Text.cut?_append named.noEquals value
  rw [pair?, same, cut, Option.map_some]
  simp only
  rw [named.trimmed, trimmed]

/-! ## Lines that set cookies -/

/-- The pair and the attributes in a line that sets a cookie. -/
def setParts? (line : Bytes) : Option (String × List String) :=
  (text? line).bind fun text =>
    match Text.splitOn ';' text with
    | [] => none
    | pair :: attributes => some (pair, attributes)

/-- The pairs that a header sets. -/
def setPairs (h : Headers) : List String :=
  (h.values "set-cookie").filterMap fun line => (setParts? line).map (·.1)

/-- A pair comes back: it stands in a readable `cookie` line, with any blanks around it, and of the
pieces before it only pairs that were set with it give values to the names that matter. -/
def SentBack (names set : List String) (h : Headers) (pair : String) : Prop :=
  ∃ before piece after, pieces h = before ++ piece :: after ∧ Text.trim piece = pair ∧
    ∀ other ∈ before, ∀ name ∈ names, Gives other name → Text.trim other ∈ set

/-- The first piece that gives a value to a name counts. -/
theorem find?_of_pieces {before after : List String} {piece : String}
    (split : pieces h = before ++ piece :: after) (here : pair? piece = some (name, value))
    (given : value ≠ "")
    (only : ∀ other ∈ before, ∀ v, pair? other = some (name, v) → v ≠ "" → v = value) :
    find? h name = some value := by
  rw [find?, pairs_eq, split]
  clear split
  induction before with
  | nil =>
      have nonempty : value.isEmpty = false := by simpa using given
      simp [here, nonempty]
  | cons other rest ih =>
      have skipped := ih fun piece mem => only piece (List.mem_cons_of_mem other mem)
      rw [List.cons_append, List.filterMap_cons]
      cases pair : pair? other with
      | none => exact skipped
      | some named =>
          obtain ⟨n, v⟩ := named
          cases counts : n == name && !v.isEmpty with
          | true =>
              simp only [List.find?_cons, counts, Option.map_some]
              rw [Bool.and_eq_true, beq_iff_eq] at counts
              obtain ⟨rfl, filled⟩ := counts
              rw [only other List.mem_cons_self v pair (by simpa using filled)]
          | false =>
              simp only [List.find?_cons, counts]
              exact skipped

/-- The value of a pair that comes back is found, where no other value was set for its name. -/
theorem find?_of_sentBack {names set : List String} (named : IsName name) (counts : name ∈ names)
    (trimmed : Text.trim value = value) (given : value ≠ "")
    (only : ∀ pair ∈ set, ∃ n v, pair = pairText n v ∧ IsName n ∧ (n = name → v = "" ∨ v = value))
    (sent : SentBack names set h (pairText name value)) : find? h name = some value := by
  obtain ⟨before, piece, after, split, same, others⟩ := sent
  refine find?_of_pieces split (pair?_of_trim named trimmed same) given ?_
  intro other mem text pair filled
  obtain ⟨n, v, made, named', only⟩ := only _ (others other mem name counts
    (gives_of_pair? pair filled))
  have cut : Text.cut? '=' (pairText n v) = some (n, v) := Text.cut?_append named'.noEquals v
  rw [pair?, made, cut, Option.map_some, Option.some.injEq, Prod.mk.injEq, named'.trimmed] at pair
  obtain ⟨rfl, rfl⟩ := pair
  rcases only rfl with rfl | rfl
  · exact absurd rfl filled
  · exact trimmed

/-! ## What a browser reads -/

/-- What a browser keeps a cookie under. -/
structure Key where
  name : String
  path : Option String
  domain : Option String
  deriving DecidableEq

/-- A cookie as a browser reads it. -/
structure Received where
  key : Key
  value : String
  maxAge : Option Int
  deriving DecidableEq

/-- The value of an attribute, in any case of its letters; of several the last one counts. -/
def attribute? (attributes : List String) (name : String) : Option String :=
  ((attributes.filterMap pair?).reverse.find? fun pair => Text.eqIgnoreCase pair.1 name).map (·.2)

/-- The cookie that a line sets. -/
def read? (line : Bytes) : Option Received := do
  let (pair, attributes) ← setParts? line
  let (name, value) ← pair? pair
  return ⟨⟨name, attribute? attributes "Path", attribute? attributes "Domain"⟩, value,
    (attribute? attributes "Max-Age").bind Decimal.int?⟩

/-- The seconds for which a line says that its cookie is kept. -/
def lasts? (line : Bytes) : Option Int := do
  let (_, attributes) ← setParts? line
  (attribute? attributes "Max-Age").bind Decimal.int?

/-- The attributes that say where a cookie is sent. -/
def placeText (scope : CookieScope) : String :=
  " Path=" ++ scope.path ++
    match scope.domain with
    | some domain => "; Domain=" ++ domain
    | none => ""

/-- The attributes that say how long a cookie stays and how it travels. -/
def stayText (c : Cookie) : String :=
  " Max-Age=" ++ Decimal.natText c.maxAge ++ "; HttpOnly; SameSite=Lax" ++
    if c.scope.secure then "; Secure" else ""

/-- What a browser keeps the cookie under that a name and a scope make. -/
def keyOf (name : String) (scope : CookieScope) : Key :=
  ⟨name, attribute? (Text.splitOn ';' (placeText scope)) "Path",
    attribute? (Text.splitOn ';' (placeText scope)) "Domain"⟩

theorem text_eq (c : Cookie) :
    c.text = c.name ++ "=" ++ c.value ++ ";" ++ (placeText c.scope ++ ";" ++ stayText c) := by
  refine String.toList_inj.1 ?_
  simp only [text, placeText, stayText, String.toList_append]
  cases c.scope.domain <;> cases c.scope.secure <;> simp

/-- The parts of the line that sets a cookie. -/
theorem setParts?_text (named : IsName c.name) (free : ';' ∉ c.value.toList) :
    setParts? (utf8 c.text) = some (pairText c.name c.value,
      Text.splitOn ';' (placeText c.scope) ++ Text.splitOn ';' (stayText c)) := by
  have pair : ';' ∉ (c.name ++ "=" ++ c.value).toList := by
    simp [named.noSemicolon, free]
  have first := Text.splitOn_cons pair (placeText c.scope ++ ";" ++ stayText c)
  have rest : Text.splitOn ';' (placeText c.scope ++ ";" ++ stayText c) =
      Text.splitOn ';' (placeText c.scope) ++ Text.splitOn ';' (stayText c) :=
    Text.splitOn_append (placeText c.scope) (stayText c)
  rw [setParts?, text?_utf8, Option.bind_some, text_eq]
  change (match Text.splitOn ';' (c.name ++ "=" ++ c.value ++ String.singleton ';' ++ _) with
    | [] => none
    | pair :: attributes => some (pair, attributes)) = _
  rw [first]
  exact congrArg (fun attributes => some (_, attributes)) rest

theorem setPair_text (named : IsName c.name) (free : ';' ∉ c.value.toList) :
    (setParts? (utf8 c.text)).map (·.1) = some (pairText c.name c.value) := by
  rw [setParts?_text named free]
  rfl

/-- The attributes that follow the place of a cookie. -/
theorem pairs_stayText (c : Cookie) :
    (Text.splitOn ';' (stayText c)).filterMap pair? =
      [("Max-Age", Decimal.natText c.maxAge), ("SameSite", "Lax")] := by
  have digits := isPairText_natText c.maxAge
  have free : ';' ∉ (" Max-Age" ++ "=" ++ Decimal.natText c.maxAge).toList := by
    intro mem
    rw [String.toList_append, List.mem_append] at mem
    rcases mem with mem | mem
    · revert mem
      decide
    · exact (digits _ mem).2.2.1 rfl
  have age : pair? (" Max-Age" ++ "=" ++ Decimal.natText c.maxAge) =
      some ("Max-Age", Decimal.natText c.maxAge) := by
    rw [pair?_join (by decide), Text.trim_of_notBlank fun _ mem => digits.isBlank mem]
    rfl
  have whole : stayText c = " Max-Age" ++ "=" ++ Decimal.natText c.maxAge ++ String.singleton ';' ++
      (" HttpOnly; SameSite=Lax" ++ if c.scope.secure then "; Secure" else "") := by
    refine String.toList_inj.1 ?_
    simp [stayText]
  rw [whole, Text.splitOn_cons free, List.filterMap_cons, age]
  cases c.scope.secure <;> rfl

/-- Other attributes are read as if nothing followed the place of a cookie. -/
theorem attribute?_append_stayText (name : String) (front : List String) (c : Cookie)
    (age : Text.eqIgnoreCase "Max-Age" name = false)
    (site : Text.eqIgnoreCase "SameSite" name = false) :
    attribute? (front ++ Text.splitOn ';' (stayText c)) name = attribute? front name := by
  rw [attribute?, List.filterMap_append, pairs_stayText, List.reverse_append, List.find?_append,
    attribute?]
  simp [age, site]

theorem maxAge_append_stayText (front : List String) (c : Cookie) :
    attribute? (front ++ Text.splitOn ';' (stayText c)) "Max-Age" =
      some (Decimal.natText c.maxAge) := by
  have age : Text.eqIgnoreCase "Max-Age" "Max-Age" = true := by decide
  have site : Text.eqIgnoreCase "SameSite" "Max-Age" = false := by decide
  rw [attribute?, List.filterMap_append, pairs_stayText, List.reverse_append, List.find?_append]
  simp [age, site]

/-- A cookie is kept as long as it is meant to be, whatever its other parts are: of several
attributes that say how long, the one that was written last counts. -/
theorem lasts?_text (c : Cookie) : lasts? (utf8 c.text) = some (c.maxAge : Int) := by
  have semicolon : String.singleton ';' = ";" := rfl
  have pieces : Text.splitOn ';' c.text = Text.splitOn ';' (c.name ++ "=" ++ c.value) ++
      (Text.splitOn ';' (placeText c.scope) ++ Text.splitOn ';' (stayText c)) := by
    rw [text_eq, ← semicolon, Text.splitOn_append, Text.splitOn_append]
  have nonempty : Text.splitOn ';' (c.name ++ "=" ++ c.value) ≠ [] := Text.splitOn_ne_nil _
  obtain ⟨pair, front, first⟩ := List.exists_cons_of_ne_nil nonempty
  -- A name with semicolons in it may bring attributes of its own, but they come before the last one.
  rw [first, List.cons_append, ← List.append_assoc] at pieces
  have age := maxAge_append_stayText (front ++ Text.splitOn ';' (placeText c.scope)) c
  simp only [lasts?, setParts?, text?_utf8, pieces, Option.bind_eq_bind, Option.bind_some, age,
    Decimal.int?_natText]

/-- What a browser reads in the line that sets a cookie: it is kept under its name and scope. -/
theorem read?_text (named : IsName c.name) (free : ';' ∉ c.value.toList) :
    read? (utf8 c.text) = some ⟨keyOf c.name c.scope, Text.trim c.value,
      Decimal.int? (Decimal.natText c.maxAge)⟩ := by
  have path := attribute?_append_stayText "Path" (Text.splitOn ';' (placeText c.scope)) c
    (by decide) (by decide)
  have domain := attribute?_append_stayText "Domain" (Text.splitOn ';' (placeText c.scope)) c
    (by decide) (by decide)
  have age := maxAge_append_stayText (Text.splitOn ';' (placeText c.scope)) c
  simp only [read?, setParts?_text named free, Option.bind_eq_bind, Option.bind_some, pairText,
    pair?_join named.noEquals, named.trimmed, path, domain, age]
  rfl

/-- What a browser reads when a cookie is cleared. -/
theorem read?_cleared (named : IsName name) (scope : CookieScope) :
    read? (utf8 (cleared name scope).text) = some ⟨keyOf name scope, "", some 0⟩ := by
  have spent : Decimal.int? (Decimal.natText 0) = some 0 := by decide
  rw [read?_text (c := cleared name scope) named List.not_mem_nil, cleared, spent]
  rfl

end Cookie

/-! ## Jars -/

/-- The cookies that a browser keeps. -/
abbrev Jar : Type :=
  Cookie.Key → Option String

/-- Keep the cookie that a line sets in the place of the one that is kept under the same key, or
drop that one if there is no time left. -/
def Jar.take (jar : Jar) (line : Bytes) : Jar :=
  match Cookie.read? line with
  | some cookie => fun key =>
    if key = cookie.key then if cookie.maxAge.any (· ≤ 0) then none else some cookie.value
    else jar key
  | none => jar

/-- Take the lines of a header one after the other. -/
def Jar.takeAll (jar : Jar) (h : Headers) : Jar :=
  (h.values "set-cookie").foldl Jar.take jar

/-- Clearing a cookie drops what is kept under its key, and nothing else. -/
theorem Jar.take_cleared {name : String} (named : Cookie.IsName name) (scope : CookieScope)
    (jar : Jar) (key : Cookie.Key) :
    jar.take (utf8 (Cookie.cleared name scope).text) key =
      if key = Cookie.keyOf name scope then none else jar key := by
  simp [Jar.take, Cookie.read?_cleared named]

end Gatehouse.Http
