import Stricture.Text.Printable

/-!
# Quoted texts

The notation of string and byte literals. A text stands between single quotes, or between double
quotes when it holds a single quote and no double one. The quote, the backslash and every character
that cannot be shown are written with a backslash.
-/

namespace Stricture.Text

/-- One hexadecimal digit, in lower case. -/
def hexDigit (n : Nat) : Char :=
  (Nat.digitChar (n % 16))

/-- The last `width` hexadecimal digits of a number. -/
def hexDigits : Nat → Nat → List Char
  | 0, _ => []
  | width + 1, n => hexDigits width (n / 16) ++ [hexDigit n]

/-- A character by its code point: two digits, four or eight, the fewest that hold it. -/
def escapeCode (n : Nat) : List Char :=
  if n < 0x100 then '\\' :: 'x' :: hexDigits 2 n
  else if n < 0x10000 then '\\' :: 'u' :: hexDigits 4 n
  else '\\' :: 'U' :: hexDigits 8 n

/-- The short escapes, common to texts and bytes. -/
def shortEscape? (quote : Char) (c : Char) : Option (List Char) :=
  if c = quote ∨ c = '\\' then some ['\\', c]
  else if c = '\n' then some ['\\', 'n']
  else if c = '\r' then some ['\\', 'r']
  else if c = '\t' then some ['\\', 't']
  else none

/-- One character inside a quoted text. -/
def escapeChar (quote : Char) (c : Char) : List Char :=
  match shortEscape? quote c with
  | some written => written
  | none => if isPrintable c then [c] else escapeCode c.toNat

/-- The quote that needs the fewer escapes. -/
def chooseQuote (cs : List Char) : Char :=
  if '\'' ∈ cs ∧ '"' ∉ cs then '"' else '\''

/-- The text as a literal. -/
def quote (text : String) : String :=
  let cs := text.toList
  let q := chooseQuote cs
  String.ofList (q :: cs.flatMap (escapeChar q) ++ [q])

/-- One byte inside a byte literal: printable ASCII characters stand for themselves. -/
def escapeByte (quote : Char) (byte : UInt8) : List Char :=
  let c := Char.ofNat byte.toNat
  match shortEscape? quote c with
  | some written => written
  | none =>
    if 0x20 ≤ byte.toNat ∧ byte.toNat < 0x7F then [c] else '\\' :: 'x' :: hexDigits 2 byte.toNat

/-- The bytes as a literal. -/
def quoteBytes (bytes : List UInt8) : String :=
  let q := chooseQuote (bytes.map fun byte => Char.ofNat byte.toNat)
  String.ofList ('b' :: q :: bytes.flatMap (escapeByte q) ++ [q])

/-! ### Long literals

Between triple double quotes only backslashes, three double quotes in a row and a double quote at
the very end need an escape. -/

/-- The inside of a long literal. -/
def escapeLong : List Char → List Char
  | [] => []
  | '\\' :: rest => '\\' :: '\\' :: escapeLong rest
  | '"' :: '"' :: '"' :: rest => '"' :: '"' :: '\\' :: '"' :: escapeLong rest
  | ['"', '\n'] => ['\\', '"', '\n']
  | ['"'] => ['\\', '"']
  | c :: rest => c :: escapeLong rest

/-- The text as a long literal. One with a null character or a carriage return would not read back,
so it is quoted plainly. -/
def quoteLong (text : String) : String :=
  let cs := text.toList
  if '\x00' ∈ cs ∨ '\r' ∈ cs then quote text
  else String.ofList (['"', '"', '"'] ++ escapeLong cs ++ ['"', '"', '"'])

end Stricture.Text
