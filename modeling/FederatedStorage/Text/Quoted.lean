import FederatedStorage.Text.Printable

/-!
# Quoted text

How a text, a list of texts or a table of texts is shown inside a diagnostic message: in double
quotes, with everything escaped that could not be seen or would break the quotes.

## Main statement

* `quote_of_plain`: a text of plain characters is shown as it is, between the quotes.
-/

namespace FederatedStorage.Text

/-- A natural number in lower-case hexadecimal digits. -/
def hexDigits (n : Nat) : List Char := Nat.toDigits 16 n

/-- **One character of a quoted text.** Six characters have short escapes; characters that are not
printable and characters that would join their neighbour are written by their code point. -/
def quoteChar (c : Char) : List Char :=
  if c == '\x00' then ['\\', '0']
  else if c == '\t' then ['\\', 't']
  else if c == '\r' then ['\\', 'r']
  else if c == '\n' then ['\\', 'n']
  else if c == '"' then ['\\', '"']
  else if c == '\\' then ['\\', '\\']
  else if isGraphemeExtend c || !isPrintable c then
    ['\\', 'u', '\x7b'] ++ hexDigits c.toNat ++ ['\x7d']
  else [c]

/-- A text between double quotes. -/
def quote (s : String) : String :=
  String.ofList ('"' :: s.toList.flatMap quoteChar ++ ['"'])

/-- A list of texts between brackets. -/
def quoteList (ss : List String) : String :=
  "[" ++ ", ".intercalate (ss.map quote) ++ "]"

/-- A table of texts between braces. -/
def quoteTable (entries : List (String × String)) : String :=
  "\x7b" ++ ", ".intercalate (entries.map fun e => quote e.1 ++ ": " ++ quote e.2) ++ "\x7d"

/-- A named record of shown values: `Name \x7b field: value, … \x7d`. -/
def showRecord (name : String) (fields : List (String × String)) : String :=
  name ++ " \x7b " ++ ", ".intercalate (fields.map fun f => f.1 ++ ": " ++ f.2) ++ " \x7d"

/-- A plain character needs no escape. -/
def isPlain (c : Char) : Bool := quoteChar c == [c]

/-- **Plain text is shown as it is.** -/
theorem quote_of_plain {s : String} (h : ∀ c ∈ s.toList, isPlain c = true) :
    quote s = String.ofList ('"' :: s.toList ++ ['"']) := by
  have : s.toList.flatMap quoteChar = s.toList := by
    revert h
    induction s.toList with
    | nil => intro _; rfl
    | cons c cs ih =>
      intro h
      have hc : quoteChar c = [c] := by simpa [isPlain] using h c (by simp)
      simp [List.flatMap_cons, hc, ih fun x hx => h x (by simp [hx])]
  simp [quote, this]

end FederatedStorage.Text
