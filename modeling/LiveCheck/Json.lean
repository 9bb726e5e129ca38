import LiveCheck.Text.Digits

/-!
JSON values and their text.

Settings sent by an editor and the messages exchanged with it are JSON. A number
written without fraction and exponent is an integer; any other number is kept as
it was written, since nothing here computes with it.
-/

namespace LiveCheck

/-- A JSON value. Objects keep their fields in the order of the text. -/
inductive Json where
  | null
  | bool (value : Bool)
  | integer (value : Int)
  | decimal (written : String)
  | text (value : String)
  | array (items : List Json)
  | object (fields : List (String × Json))

namespace Json

instance : Inhabited Json := ⟨.null⟩

instance : Coe String Json := ⟨.text⟩

instance : Coe Bool Json := ⟨.bool⟩

instance : Coe Nat Json := ⟨fun n => .integer n⟩

instance : Coe Int Json := ⟨.integer⟩

/-- The value of a field of an object; of two fields of one name the later counts. -/
def field? (json : Json) (name : String) : Option Json :=
  match json with
  | .object fields => (fields.reverse.find? (·.1 == name)).map (·.2)
  | _ => none

/-- The value of a field inside fields, by the names on the way to it. -/
def member? (json : Json) (path : List String) : Option Json :=
  path.foldlM field? json

/-- A value that is a text. -/
def toText? : Json → Option String
  | .text value => some value
  | _ => none

/-- A value that is an integer. -/
def toInt? : Json → Option Int
  | .integer value => some value
  | _ => none

/-- The items of a value that is an array. -/
def toItems? : Json → Option (List Json)
  | .array items => some items
  | _ => none

/-- An array of texts. -/
def texts (values : List String) : Json :=
  .array (values.map .text)

/-- The value of an absent or present member. -/
def ofOption (encode : α → Json) : Option α → Json
  | none => .null
  | some value => encode value

/-! ## Text of a value -/

/-- The escape `\uXXXX` of a code unit. -/
def unicodeEscape (n : Nat) : List Char :=
  ['\\', 'u', lowerDigit (n / 4096 % 16), lowerDigit (n / 256 % 16), lowerDigit (n / 16 % 16),
    lowerDigit (n % 16)]

/-- A character inside a quoted text. Control characters and the line and
paragraph separators are escaped, so that a value is always on one line. -/
def quoteChar (c : Char) : List Char :=
  match c with
  | '"' => ['\\', '"']
  | '\\' => ['\\', '\\']
  | '\n' => ['\\', 'n']
  | '\r' => ['\\', 'r']
  | '\t' => ['\\', 't']
  | c =>
    if c.toNat < 32 || (127 ≤ c.toNat && c.toNat < 160) || c.toNat == 8232 || c.toNat == 8233 then
      unicodeEscape c.toNat
    else [c]

/-- A text in quotes. -/
def quote (text : String) : String :=
  "\"" ++ String.ofList (text.toList.flatMap quoteChar) ++ "\""

mutual

/-- The text of a value, without blanks. -/
def render : Json → String
  | .null => "null"
  | .bool true => "true"
  | .bool false => "false"
  | .integer value => toString value
  | .decimal written => written
  | .text value => quote value
  | .array items => "[" ++ renderItems items ++ "]"
  | .object fields => "\x7b" ++ renderFields fields ++ "\x7d"

/-- The items of an array, separated by commas. -/
def renderItems : List Json → String
  | [] => ""
  | [item] => item.render
  | item :: rest => item.render ++ "," ++ renderItems rest

/-- The fields of an object, separated by commas. -/
def renderFields : List (String × Json) → String
  | [] => ""
  | [(name, value)] => quote name ++ ":" ++ value.render
  | (name, value) :: rest => quote name ++ ":" ++ value.render ++ "," ++ renderFields rest

end

end Json

end LiveCheck
