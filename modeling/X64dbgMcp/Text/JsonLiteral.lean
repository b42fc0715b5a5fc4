import X64dbgMcp.Text.Utf8

/-!
# String literals of JSON

A literal is read by the grammar of RFC 8259, over characters.
-/

namespace X64dbgMcp.Text

/-- The value of a hexadecimal digit. -/
def hexValue (digit : Char) : Option Nat :=
  if '0' ≤ digit ∧ digit ≤ '9' then some (digit.toNat - '0'.toNat)
  else if 'a' ≤ digit ∧ digit ≤ 'f' then some (digit.toNat - 'a'.toNat + 10)
  else if 'A' ≤ digit ∧ digit ≤ 'F' then some (digit.toNat - 'A'.toNat + 10)
  else none

/-- The UTF-16 unit of four digits. -/
def hexUnit (first second third fourth : Char) : Option Nat :=
  (hexValue first).bind fun a => (hexValue second).bind fun b =>
    (hexValue third).bind fun c => (hexValue fourth).map fun d =>
      ((a * 16 + b) * 16 + c) * 16 + d

/-- What a character after a backslash stands for, `u` apart. -/
def shortEscape (mark : Char) : Option Char :=
  if mark = '"' then some '"'
  else if mark = '\\' then some '\\'
  else if mark = '/' then some '/'
  else if mark = 'b' then some '\x08'
  else if mark = 'f' then some '\x0c'
  else if mark = 'n' then some '\n'
  else if mark = 'r' then some '\r'
  else if mark = 't' then some '\t'
  else none

/-- The characters between the quotes.  A unit above the surrogates or below them is a
character, and a high surrogate needs a low one. -/
def readChars : List Char → Option (List Char)
  | [] => some []
  | '\\' :: 'u' :: a :: b :: c :: d :: rest =>
      (hexUnit a b c d).bind fun unit =>
        if unit < 0xd800 ∨ 0xdfff < unit then (readChars rest).map (Char.ofNat unit :: ·)
        else if 0xdbff < unit then none
        else
          match rest with
          | '\\' :: 'u' :: e :: f :: g :: h :: rest =>
              (hexUnit e f g h).bind fun low =>
                if 0xdc00 ≤ low ∧ low ≤ 0xdfff then
                  (readChars rest).map
                    (Char.ofNat (0x10000 + (unit - 0xd800) * 0x400 + (low - 0xdc00)) :: ·)
                else none
          | _ => none
  | '\\' :: mark :: rest =>
      (shortEscape mark).bind fun character => (readChars rest).map (character :: ·)
  | character :: rest =>
      if character.toNat < 0x20 ∨ character = '"' ∨ character = '\\' then none
      else (readChars rest).map (character :: ·)

attribute [grind =] readChars

/-- The value of a literal. -/
def readLiteral (text : String) : Option String :=
  match text.toList with
  | '"' :: rest =>
      if rest.getLast? = some '"' then (readChars rest.dropLast).map String.ofList else none
  | _ => none

theorem readChars_short {mark character : Char} (escape : shortEscape mark = some character)
    (rest : List Char) :
    readChars ('\\' :: mark :: rest) = (readChars rest).map (character :: ·) := by
  have other : mark ≠ 'u' := by
    rintro rfl
    cases escape
  rw [readChars]
  · rw [escape]
    rfl
  · intro a b c d rest same
    exact absurd same other

theorem readChars_unicode {a b c d : Char} {unit : Nat} (digits : hexUnit a b c d = some unit)
    (low : unit < 0xd800) (rest : List Char) :
    readChars ('\\' :: 'u' :: a :: b :: c :: d :: rest) =
      (readChars rest).map (Char.ofNat unit :: ·) := by
  rw [readChars, digits, Option.bind_some, if_pos (.inl low)]

theorem readChars_unescaped {character : Char} (printable : 0x20 ≤ character.toNat)
    (quote : character ≠ '"') (backslash : character ≠ '\\') (rest : List Char) :
    readChars (character :: rest) = (readChars rest).map (character :: ·) := by
  rw [readChars]
  · rw [if_neg]
    rintro (control | same | same)
    · omega
    · exact quote same
    · exact backslash same
  · intro a b c d rest same
    exact absurd same backslash
  · intro mark rest same
    exact absurd same backslash

theorem readLiteral_quoted {characters value : List Char}
    (reads : readChars characters = some value) :
    readLiteral (String.ofList ('"' :: characters ++ ['"'])) = some (String.ofList value) := by
  simp [readLiteral, reads]

end X64dbgMcp.Text
