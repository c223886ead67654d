import LiveBinding.Text.MarkTable

/-!
# Quoted text

Interchange text puts a string between double quotes. A quote, a backslash and the control
characters below the blank are escaped; everything else stands for itself.
-/

namespace LiveBinding.Text

/-- One hexadecimal digit, in lower case. -/
def hexDigit (value : Nat) : Char := Nat.digitChar (value % 16)

/-- A character as it stands between double quotes. -/
def escapeChar (char : Char) : List Char :=
  match char with
  | '"' => ['\\', '"']
  | '\\' => ['\\', '\\']
  | '\x08' => ['\\', 'b']
  | '\x0c' => ['\\', 'f']
  | '\n' => ['\\', 'n']
  | '\r' => ['\\', 'r']
  | '\t' => ['\\', 't']
  | _ =>
    if char.toNat < 0x20 then
      ['\\', 'u', '0', '0', hexDigit (char.toNat / 16), hexDigit char.toNat]
    else [char]

/-- A text between double quotes. -/
def quote (text : String) : String :=
  String.ofList ('"' :: text.toList.flatMap escapeChar ++ ['"'])

/-- The digits of a code point in base sixteen. -/
def hexChars (code : Nat) : List Char := Nat.toDigits 16 code

/-- A word between double quotes as listings show it: a character that cannot be seen by itself is
shown by its code point. -/
def listed (word : String) : String :=
  String.ofList ('"' :: word.toList.flatMap (fun char =>
    if isHidden char then
      ['\\', 'u', '\x7b'] ++ hexChars char.toNat ++ ['\x7d']
    else escapeChar char) ++ ['"'])

/-- Texts with a separator between each two of them. -/
def join (separator : String) : List String → String
  | [] => ""
  | [text] => text
  | text :: rest => text ++ separator ++ join separator rest

end LiveBinding.Text
