import FrameRouter.Text.Digits

/-!
# Document values and their text

Documents are written in a compact form and in an indented one.  The members
of an object keep the order in which they are given.
-/

namespace FrameRouter.Json

inductive Value where
  | null
  | boolean (value : Bool)
  | number (value : Nat)
  | text (content : String)
  | list (items : List Value)
  | object (members : List (String × Value))

namespace Value

def escape (character : Char) : List Char :=
  if character = '\x22' then ['\\', '\x22']
  else if character = '\\' then ['\\', '\\']
  else if character = '\x08' then ['\\', 'b']
  else if character = '\t' then ['\\', 't']
  else if character = '\n' then ['\\', 'n']
  else if character = '\x0c' then ['\\', 'f']
  else if character = '\r' then ['\\', 'r']
  else if character.toNat < 0x20 then
    ['\\', 'u'] ++ Digits.renderPadded 16 4 character.toNat
  else [character]

def quote (content : String) : List Char :=
  '\x22' :: content.toList.flatMap escape ++ ['\x22']

def truth (value : Bool) : List Char := (if value then "true" else "false").toList

mutual

/-- The compact form of a value. -/
def compact : Value → List Char
  | .null => "null".toList
  | .boolean value => truth value
  | .number value => Digits.render 10 value
  | .text content => quote content
  | .list items => '[' :: compactItems items ++ [']']
  | .object members => '\x7b' :: compactMembers members ++ ['\x7d']

/-- Values with commas between them. -/
def compactItems : List Value → List Char
  | [] => []
  | [item] => compact item
  | item :: next :: rest => compact item ++ ',' :: compactItems (next :: rest)

/-- Members with commas between them. -/
def compactMembers : List (String × Value) → List Char
  | [] => []
  | [(key, value)] => quote key ++ ':' :: compact value
  | (key, value) :: next :: rest =>
      quote key ++ ':' :: compact value ++ ',' :: compactMembers (next :: rest)

end

def newLine (depth : Nat) : List Char := '\n' :: List.replicate (2 * depth) ' '

mutual

/-- The indented form of a value at the given depth. -/
def indented (depth : Nat) : Value → List Char
  | .null => "null".toList
  | .boolean value => truth value
  | .number value => Digits.render 10 value
  | .text content => quote content
  | .list [] => ['[', ']']
  | .list (item :: rest) =>
      '[' :: indentedItems (depth + 1) (item :: rest) ++ newLine depth ++ [']']
  | .object [] => ['\x7b', '\x7d']
  | .object (member :: rest) =>
      '\x7b' :: indentedMembers (depth + 1) (member :: rest) ++ newLine depth ++ ['\x7d']

/-- Values on lines of their own. -/
def indentedItems (depth : Nat) : List Value → List Char
  | [] => []
  | [item] => newLine depth ++ indented depth item
  | item :: next :: rest =>
      newLine depth ++ indented depth item ++ ',' :: indentedItems depth (next :: rest)

/-- Members on lines of their own. -/
def indentedMembers (depth : Nat) : List (String × Value) → List Char
  | [] => []
  | [(key, value)] => newLine depth ++ quote key ++ ':' :: ' ' :: indented depth value
  | (key, value) :: next :: rest =>
      newLine depth ++ quote key ++ ':' :: ' ' :: indented depth value ++
        ',' :: indentedMembers depth (next :: rest)

end

def render (value : Value) : String := String.ofList value.compact

def renderIndented (value : Value) : String := String.ofList (value.indented 0)

end Value

end FrameRouter.Json
