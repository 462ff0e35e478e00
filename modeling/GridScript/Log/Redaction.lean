import GridScript.Json.Basic
import GridScript.Text.Case

namespace GridScript.Log

/-!
# Redaction

Values under a key that speaks of secrets are replaced, at every depth, and long
texts are cut. The items of an array inside an array stay as they are.
-/

open GridScript.Text

/-- Words that make a key sensitive, in any letter case and anywhere in the key. -/
def sensitiveWords : List String :=
  ["password", "passwd", "secret", "token", "api_key", "apikey", "authorization",
    "cookie", "session", "bearer", "dsn", "connection_string"]

/-- A word stands somewhere in a text, in any letter case. -/
def mentions (word : List Char) : List Char → Bool
  | [] => (foldedLength? word []).isSome
  | c :: rest => (foldedLength? word (c :: rest)).isSome || mentions word rest

/-- The key speaks of a secret. -/
def isSensitive (key : String) : Bool :=
  sensitiveWords.any fun word => mentions word.toList key.toList

/-- The longest text that is kept whole. -/
def maxTextLength : Nat := 256

/-- A text with what is beyond the greatest length cut off. -/
def shorten (s : String) : String :=
  if s.length ≤ maxTextLength then s
  else String.ofList (s.toList.take maxTextLength) ++ "...[truncated]"

/-- What stands in the place of a secret. -/
def redacted : Json :=
  .string "[REDACTED]"

mutual

/-- A value inside a redacted object. -/
def redactValue : Json → Json
  | .object members => .object (redactMembers members)
  | .array items => .array (redactItems items)
  | .string s => .string (shorten s)
  | j => j

/-- The items of a redacted array. -/
def redactItems : List Json → List Json
  | [] => []
  | .object members :: rest => .object (redactMembers members) :: redactItems rest
  | .string s :: rest => .string (shorten s) :: redactItems rest
  | j :: rest => j :: redactItems rest

/-- The members of a redacted object. -/
def redactMembers : List (String × Json) → List (String × Json)
  | [] => []
  | (key, value) :: rest =>
      (key, if isSensitive key then redacted else redactValue value) ::
        redactMembers rest

end

end GridScript.Log
