import TradeOps.Lib.JsValue
import TradeOps.Lib.Json
import Mathlib.Data.List.Lex

/-!
# Canonical JSON text

The text of a JSON value without white space and with the fields of every object in the order of
their names, compared as JavaScript compares strings: by UTF-16 code units.
-/

namespace Json

open SortBy

/-- The UTF-16 code units of a character. -/
def codeUnits (ch : Char) : List Nat :=
  if ch.toNat < 0x10000 then [ch.toNat]
  else [0xd800 + (ch.toNat - 0x10000) / 0x400, 0xdc00 + (ch.toNat - 0x10000) % 0x400]

/-- What JavaScript compares when it compares strings. -/
def utf16 (text : String) : List Nat :=
  text.toList.flatMap codeUnits

/-- `JSON.stringify` of a name. -/
def quoted (name : String) : List Char :=
  JsValue.quoted (JsString.js name)

/-- The parts with commas between them. -/
def commaSeparated : List (List Char) → List Char
  | [] => []
  | [part] => part
  | part :: rest => part ++ [','] ++ commaSeparated rest

/-- The fields of an object, already printed, in the order of their names. -/
def objectText (fields : List (String × List Char)) : List Char :=
  ['\x7b'] ++ commaSeparated ((sortBy (fun f => utf16 f.1) fields).map fun f =>
    quoted f.1 ++ [':'] ++ f.2) ++ ['\x7d']

mutual

/-- The canonical text of a value. -/
def text : Json → List Char
  | .null => "null".toList
  | .bool true => "true".toList
  | .bool false => "false".toList
  | .num n => (toString n).toList
  | .str s => JsValue.quoted s
  | .arr items => ['['] ++ commaSeparated (itemTexts items) ++ [']']
  | .obj fields => objectText (fieldTexts fields)

def itemTexts : List Json → List (List Char)
  | [] => []
  | item :: rest => text item :: itemTexts rest

def fieldTexts : List (String × Json) → List (String × List Char)
  | [] => []
  | (name, value) :: rest => (name, text value) :: fieldTexts rest

end

def canonical (value : Json) : String := String.ofList value.text

end Json
