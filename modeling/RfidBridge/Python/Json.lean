import RfidBridge.Python.Exceptions
import RfidBridge.Python.Text

/-!
Decoded JSON values as the bridge inspects them: truth value, `str`, `int` and
dictionary lookup. How Python prints a container and which texts `int` reads are
parameters, because no decision of the bridge depends on them.
-/

namespace RfidBridge

/-- A float: its text, whether it is non-zero, and what `int` makes of it, which
raises ValueError on NaN and OverflowError on an infinity. -/
structure PyFloat where
  text : String
  nonzero : Bool
  truncated : Except ExceptionClass Int

inductive Json
  | null
  | bool (value : Bool)
  | int (value : Int)
  | float (value : PyFloat)
  | str (value : String)
  | list (items : List Json)
  | dict (fields : List (String × Json))

structure Builtins where
  /-- `str` of a list or dictionary. -/
  containerText : Json → String
  /-- `repr` of a string. -/
  reprText : String → String
  /-- `int` of a string, none where it raises ValueError. -/
  intOfText : String → Option Int
  /-- `str.upper`. -/
  upper : String → String
  /-- `str.lower`. -/
  lower : String → String

namespace Json

def truthy : Json → Bool
  | .null => false
  | .bool value => value
  | .int value => value != 0
  | .float value => value.nonzero
  | .str value => value != ""
  | .list items => !items.isEmpty
  | .dict fields => !fields.isEmpty

def text (py : Builtins) : Json → String
  | .null => "None"
  | .bool true => "True"
  | .bool false => "False"
  | .int value => toString value
  | .float value => value.text
  | .str value => value
  | .list items => py.containerText (.list items)
  | .dict fields => py.containerText (.dict fields)

/-- `str(value or "")`, where a missing key has no value. -/
def textOrEmpty (py : Builtins) : Option Json → String
  | some value => if value.truthy then value.text py else ""
  | none => ""

/-- `str(value or default)`. -/
def textOr (py : Builtins) (default : String) : Option Json → String
  | some value => if value.truthy then value.text py else default
  | none => default

/-- `int(value)`, where a missing key reads as None. -/
def toInt (py : Builtins) : Option Json → Except ExceptionClass Int
  | some (.bool value) => .ok (if value then 1 else 0)
  | some (.int value) => .ok value
  | some (.float value) => value.truncated
  | some (.str value) =>
      match py.intOfText value with
      | some n => .ok n
      | none => .error .valueError
  | some .null | some (.list _) | some (.dict _) | none => .error .typeError

/-- `payload.get(name)` on the fields of a dictionary. -/
def lookup (fields : List (String × Json)) (name : String) : Option Json :=
  (fields.find? fun field => field.1 == name).map Prod.snd

end Json

/-! `json.dumps` with the separators "," and ":", on texts, integers and objects. -/

def jsonHexDigit (n : Nat) : Char :=
  if n < 10 then .ofNat (48 + n) else .ofNat (87 + n)

def backslash : Char := .ofNat 92

/-- A UTF-16 unit as `dumps` escapes it. -/
def jsonEscape (unit : Nat) : List Char :=
  [backslash, 'u'] ++ [unit / 4096, unit / 256 % 16, unit / 16 % 16, unit % 16].map jsonHexDigit

def jsonChar (c : Char) : List Char :=
  match c.toNat with
  | 8 => [backslash, 'b']
  | 9 => [backslash, 't']
  | 10 => [backslash, 'n']
  | 12 => [backslash, 'f']
  | 13 => [backslash, 'r']
  | 34 | 92 => [backslash, c]
  | n =>
      if 32 ≤ n ∧ n ≤ 126 then [c]
      else if n < 0x10000 then jsonEscape n
      else jsonEscape (0xD800 + (n - 0x10000) / 0x400) ++
        jsonEscape (0xDC00 + (n - 0x10000) % 0x400)

def jsonText (text : String) : String :=
  "\"" ++ String.ofList (text.toList.flatMap jsonChar) ++ "\""

def jsonOptional {α : Type} [ToString α] (value : Option α) : String :=
  (value.map toString).getD "null"

/-- An object with the given texts as its values. -/
def jsonObject (fields : List (String × String)) : String :=
  "\x7b" ++ ",".intercalate (fields.map fun field => jsonText field.1 ++ ":" ++ field.2) ++ "\x7d"

end RfidBridge
