/-!
# Media types

A media type is a type and a subtype, such as `application/vnd.api+json`, and parameters. What
follows the last plus sign of a subtype is its ending. Only whether a type stands for JSON matters
here, but a text that is no media type stands for nothing.

## Main definition

* `isJson`: whether a text is a media type of JSON.
-/

namespace FederatedStorage.Http.MediaType

/-- The characters of names. -/
def isNameChar (c : Char) : Bool :=
  c.isAlphanum || "!#$%&'*+-.^_\x60|~".toList.contains c

/-- The characters of quoted parameters. -/
def isQuotedChar (c : Char) : Bool := 0x20 ≤ c.toNat && c.toNat != 0x7F

/-- Whether nothing but blanks stands before the next parameter, after a quoted one; what follows
it. -/
def afterQuoted (cs : List Char) : Option (List Char) :=
  match cs.dropWhile (· == ' ') with
  | [] => some []
  | ';' :: rest => some rest
  | _ => none

/-- Cuts the value of a parameter off, and the semicolon behind it. A value is not empty, except
that nothing at all may stand behind the last equals sign. -/
def dropValue : List Char → Option (List Char)
  | '"' :: c :: cs =>
    if isQuotedChar c then
      match cs.dropWhile fun c => c != '"' && isQuotedChar c with
      | '"' :: rest => afterQuoted rest
      | _ => none
    else none
  | cs =>
    let value := cs.takeWhile isNameChar
    match cs.dropWhile isNameChar with
    | [] => some []
    | ';' :: rest => if value.isEmpty then none else some rest
    | _ => none

/-- Cuts a parameter off. -/
def dropParameter (cs : List Char) : Option (List Char) :=
  let name := cs.takeWhile isNameChar
  match cs.dropWhile isNameChar with
  | '=' :: value => if name.isEmpty then none else dropValue value
  | _ => none

/-- Whether a text is a list of parameters; `fuel` bounds their number. -/
def areParameters (fuel : Nat) (cs : List Char) : Bool :=
  match fuel with
  | 0 => false
  | fuel + 1 =>
    match cs.dropWhile (· == ' ') with
    | [] => true
    | rest =>
      match dropParameter rest with
      | some rest => areParameters fuel rest
      | none => false

/-- A subtype before its last plus sign, and its ending behind it. A plus sign in front is none. -/
def splitEnding (subtype : List Char) : List Char × Option (List Char) :=
  match subtype with
  | [] => ([], none)
  | first :: rest =>
    let ending := (rest.reverse.takeWhile (· != '+')).reverse
    if ending.length < rest.length then
      (first :: rest.take (rest.length - ending.length - 1), some ending)
    else (subtype, none)

/-- Whether a character can be seen in ASCII, or is a tab. -/
def isHeaderChar (c : Char) : Bool := (0x20 ≤ c.toNat && c.toNat < 0x7F) || c == '\t'

/-- **Whether a text is a media type of JSON**: its subtype, or its ending, says so. -/
def isJson (text : String) : Bool :=
  let cs := text.toList.map Char.toLower
  let type := cs.takeWhile isNameChar
  match cs.dropWhile isNameChar with
  | '/' :: rest =>
    let subtype := rest.takeWhile isNameChar
    let wellFormed :=
      match rest.dropWhile isNameChar with
      | [] => true
      | ';' :: parameters => !subtype.isEmpty && areParameters (parameters.length + 1) parameters
      | _ => false
    let (front, ending) := splitEnding subtype
    wellFormed && cs.all isHeaderChar && type == "application".toList
      && (front == "json".toList || ending == some "json".toList)
  | _ => false

end FederatedStorage.Http.MediaType
