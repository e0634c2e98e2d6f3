import Mathlib.Data.List.Basic
import NovelAgent.Core.Sha256

/-!
# Compact JSON

The compact rendering that content addresses are taken over: no blanks
between tokens, non-ASCII characters left as they are, object fields in the
order they are given. Callers that need sorted keys list them sorted.
-/

namespace NovelAgent.Core.Json

/-- One character inside a string literal. -/
def escapeChar (c : Char) : List Char :=
  if c = '"' then ['\\', '"']
  else if c = '\\' then ['\\', '\\']
  else if c = '\n' then ['\\', 'n']
  else if c = '\r' then ['\\', 'r']
  else if c = '\t' then ['\\', 't']
  else if c.toNat = 8 then ['\\', 'b']
  else if c.toNat = 12 then ['\\', 'f']
  else if c.toNat < 32 then
    ['\\', 'u', '0', '0', Sha256.hexDigit (c.toNat / 16), Sha256.hexDigit c.toNat]
  else [c]

/-- The rendered values. -/
def string (s : String) : String :=
  "\"" ++ String.ofList (s.toList.flatMap escapeChar) ++ "\""

def number (n : Nat) : String := toString n

def array (items : List String) : String :=
  "[" ++ ",".intercalate items ++ "]"

def object (fields : List (String × String)) : String :=
  "\x7b" ++ ",".intercalate (fields.map fun field => string field.1 ++ ":" ++ field.2) ++ "\x7d"

example : object [("a", string "x\"y"), ("b", array [number 1, number 23])] =
    "\x7b\"a\":\"x\\\"y\",\"b\":[1,23]\x7d" := by decide +kernel

end NovelAgent.Core.Json
