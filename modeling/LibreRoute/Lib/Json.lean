import Mathlib.Data.List.Basic

/-!
JSON values with the accessors of the JSON library the application reads
them with. An unquoted literal (a number or a truth value) is kept as its
text, since the accessors hand out text. An accessor that is used on a
value of another shape throws.
-/

namespace LibreRoute.Lib

inductive Json
  | null
  | literal (text : String)
  | string (text : String)
  | array (items : List Json)
  | object (fields : List (String × Json))

/-- The fields of an object, in the order they were written. -/
abbrev JsonObject := List (String × Json)

inductive JsonError
  | notAnObject
  | notAnArray
  | notAPrimitive
  | missing (key : String)
  deriving DecidableEq

namespace Json

mutual

protected def beq : Json → Json → Bool
  | .null, .null => true
  | .literal s, .literal t => s == t
  | .string s, .string t => s == t
  | .array l, .array m => beqItems l m
  | .object l, .object m => beqFields l m
  | _, _ => false

def beqItems : List Json → List Json → Bool
  | [], [] => true
  | a :: l, b :: m => a.beq b && beqItems l m
  | _, _ => false

def beqFields : List (String × Json) → List (String × Json) → Bool
  | [], [] => true
  | (k, a) :: l, (k', b) :: m => k == k' && a.beq b && beqFields l m
  | _, _ => false

end

/-- Two values are equal when they are written the same way. -/
instance : BEq Json := ⟨Json.beq⟩

def jsonObject : Json → Except JsonError JsonObject
  | .object fields => .ok fields
  | _ => .error .notAnObject

def jsonArray : Json → Except JsonError (List Json)
  | .array items => .ok items
  | _ => .error .notAnArray

/-- `element.jsonPrimitive.content`: the null literal has a content too. -/
def content : Json → Except JsonError String
  | .null => .ok "null"
  | .literal text => .ok text
  | .string text => .ok text
  | _ => .error .notAPrimitive

end Json

namespace JsonObject

/-- `obj[key]`. -/
def get (o : JsonObject) (key : String) : Option Json := List.lookup key o

def getValue (o : JsonObject) (key : String) : Except JsonError Json :=
  match o.get key with
  | some value => .ok value
  | none => .error (.missing key)

/-- `obj[key]?.jsonPrimitive?.content`. -/
def contentOf (o : JsonObject) (key : String) : Except JsonError (Option String) :=
  match o.get key with
  | some value => some <$> value.content
  | none => .ok none

end JsonObject

end LibreRoute.Lib
