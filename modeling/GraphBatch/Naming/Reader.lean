import GraphBatch.Json
import GraphBatch.Naming
import GraphBatch.Text.Quoted

namespace GraphBatch

namespace Json

def described : Json → String
  | .null => "null"
  | .bool true => "boolean `true`"
  | .bool false => "boolean `false`"
  | .number n => "integer `" ++ String.ofList (decimal n) ++ "`"
  | .string s => "string " ++ Text.quote s
  | .array _ => "sequence"
  | .object _ => "map"

end Json

namespace Policy

inductive ReadError
  | unknownName (name : String)
  | notNameOrObject (found : Json)
  | notOneKey
  | valueNotNull (found : Json)

def ReadError.message : ReadError → String
  | .unknownName name =>
    "unknown variant `" ++ name ++ "`, expected one of `trailing`, `first`, `all`"
  | .notNameOrObject found => "invalid type: " ++ found.described ++ ", expected string or map"
  | .notOneKey => "invalid value: map, expected map with a single key"
  | .valueNotNull found => "invalid type: " ++ found.described ++ ", expected unit"

/-- A word that stands where a policy should. -/
structure UnknownWord where
  word : String
  deriving DecidableEq

def UnknownWord.message (e : UnknownWord) : String :=
  "invalid variant: " ++ e.word

def ofWord (anyCase : Bool) (word : String) : Except UnknownWord Policy :=
  match if anyCase then ofNameAnyCase? word else ofName? word with
  | some policy => .ok policy
  | none => .error ⟨word⟩

def ofName (text : String) : Except ReadError Policy :=
  match ofName? text with
  | some policy => .ok policy
  | none => .error (.unknownName text)

def ofJson : Json → Except ReadError Policy
  | .string text => ofName text
  | .object [(key, value)] =>
    match ofName key, value with
    | .error e, _ => .error e
    | .ok policy, .null => .ok policy
    | .ok _, value => .error (.valueNotNull value)
  | .object _ => .error .notOneKey
  | other => .error (.notNameOrObject other)

end Policy

end GraphBatch
