import FrameRouter.Json.Reader

/-!
# Texts in a document

Both readers start behind the opening quote.  Reading a text for its content
asks that escaped surrogates come in pairs; passing over a text does not.
-/

namespace FrameRouter.Json

/-- The number of four hexadecimal digits. -/
def hexQuad? (a b c d : Char) : Option Nat := do
  let a ← Digits.value? 16 a
  let b ← Digits.value? 16 b
  let c ← Digits.value? 16 c
  let d ← Digits.value? 16 d
  return ((a * 16 + b) * 16 + c) * 16 + d

/-- The character of a one-letter escape. -/
def shortEscape? : Char → Option Char
  | '\x22' => some '\x22'
  | '\\' => some '\\'
  | '/' => some '/'
  | 'b' => some '\x08'
  | 'f' => some '\x0c'
  | 'n' => some '\n'
  | 'r' => some '\r'
  | 't' => some '\t'
  | _ => none

/-- Whether the number is the first of a surrogate pair. -/
def isLeading (value : Nat) : Bool := 0xd800 ≤ value && value ≤ 0xdbff

/-- Whether the number is the second of a surrogate pair. -/
def isTrailing (value : Nat) : Bool := 0xdc00 ≤ value && value ≤ 0xdfff

/-- The character of a surrogate pair. -/
def pairedCharacter (leading trailing : Nat) : Char :=
  Char.ofNat ((leading - 0xd800) * 0x400 + (trailing - 0xdc00) + 0x10000)

/-- Too little text for four digits: it ends early if fewer than four bytes are left. -/
def shortQuad (text : List Char) : Failure :=
  let size := text.foldl (fun size character => size + character.utf8Size) 0
  if size < 4 then .endOfText else .malformed

/-- Read a text up to its closing quote.  The first argument holds what was read, newest first. -/
def textFrom : List Char → List Char → Except Failure (String × List Char)
  | _, [] => .error .endOfText
  | done, '\x22' :: rest => .ok (String.ofList done.reverse, rest)
  | done, '\\' :: escaped =>
      match escaped with
      | [] => .error .endOfText
      | 'u' :: a :: b :: c :: d :: rest =>
          match hexQuad? a b c d with
          | none => .error .malformed
          | some value =>
              if isTrailing value then
                .error .malformed
              else if isLeading value then
                match rest with
                | [] => .error .endOfText
                | ['\\'] => .error .endOfText
                | '\\' :: 'u' :: e :: f :: g :: h :: after =>
                    match hexQuad? e f g h with
                    | none => .error .malformed
                    | some other =>
                        if isTrailing other then
                          textFrom (pairedCharacter value other :: done) after
                        else
                          .error .malformed
                | '\\' :: 'u' :: after => .error (shortQuad after)
                | _ => .error .malformed
              else
                textFrom (Char.ofNat value :: done) rest
      | 'u' :: rest => .error (shortQuad rest)
      | letter :: rest =>
          match shortEscape? letter with
          | some character => textFrom (character :: done) rest
          | none => .error .malformed
  | done, character :: rest =>
      if character.toNat < 0x20 then .error .malformed
      else textFrom (character :: done) rest

/-- Read a text for its content. -/
def readText : Reader String := textFrom []

def skipText : List Char → Except Failure (List Char)
  | [] => .error .endOfText
  | '\x22' :: rest => .ok rest
  | '\\' :: escaped =>
      match escaped with
      | [] => .error .endOfText
      | 'u' :: a :: b :: c :: d :: rest =>
          match hexQuad? a b c d with
          | none => .error .malformed
          | some _ => skipText rest
      | 'u' :: rest => .error (shortQuad rest)
      | letter :: rest =>
          match shortEscape? letter with
          | some _ => skipText rest
          | none => .error .malformed
  | character :: rest =>
      if character.toNat < 0x20 then .error .malformed else skipText rest

end FrameRouter.Json
