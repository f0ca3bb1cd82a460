import RpcSchema.ShortestDecimal
import RpcSchema.QuotedText

/-! What a TOML text says: values, and tables with their entries in order. Values keep
the extent at which they were written. -/
namespace RpcSchema

/-- A piece of a text, told by what is left of the text at its two ends. -/
structure Extent where
  start : Text
  stop : Text
deriving DecidableEq, Repr

namespace Toml

structure Key where
  name : Text
  extent : Extent
deriving DecidableEq, Repr

inductive FloatValue where
  | nan
  | infinite (negative : Bool)
  | decimal (negative : Bool) (magnitude : Decimal)
deriving DecidableEq, Repr

inductive Scalar where
  | string (text : Text)
  | integer (value : Int)
  | float (value : FloatValue)
  | boolean (value : Bool)
  /-- A date, a time of day, or both. -/
  | moment
deriving DecidableEq, Repr

/-- How a table came about, which decides what can be added to it. -/
inductive Origin where
  /-- Written between braces, and complete. -/
  | braces
  | header
  /-- Passed on the way by a longer header. -/
  | longerHeader
  /-- Passed on the way by a dotted key. -/
  | dottedKey
deriving DecidableEq, Repr

inductive Item where
  | scalar (value : Scalar) (extent : Extent)
  | array (items : List Item) (extent : Extent)
  /-- Tables under repeated headers, in order. -/
  | tables (items : List Item)
  /-- Tables passed on the way have no extent. -/
  | table (origin : Origin) (extent : Option Extent) (entries : List (Key × Item))

abbrev Entries := List (Key × Item)

namespace FloatValue

def text : FloatValue → Text
  | nan => "NaN".toList
  | infinite negative => (if negative then ['-'] else []) ++ "inf".toList
  | decimal negative magnitude => (if negative then ['-'] else []) ++ magnitude.shown

end FloatValue

def integerText : Int → Text
  | .ofNat n => Text.ofNat n
  | .negSucc n => '-' :: Text.ofNat (n + 1)

/-- A value as reports name it. -/
def Scalar.description : Scalar → Text
  | string text => "string ".toList ++ QuotedText.quoted text
  | integer value => "integer `".toList ++ integerText value ++ ['\x60']
  | float value => "floating point `".toList ++ value.text ++ ['\x60']
  | boolean value => "boolean `".toList ++ (if value then "true" else "false").toList ++ ['\x60']
  | moment => "map".toList

def Item.description : Item → Text
  | scalar value _ => value.description
  | array _ _ => "sequence".toList
  | tables _ => "sequence".toList
  | table _ _ _ => "map".toList

/-- Where an item stands. Tables under repeated headers reach from the first to the last. -/
def Item.extent? : Item → Option Extent
  | scalar _ extent => some extent
  | array _ extent => some extent
  | tables [] => none
  | tables (first :: rest) =>
    match first, (first :: rest).getLast? with
    | table _ (some a) _, some (table _ (some b) _) => some ⟨a.start, b.stop⟩
    | _, _ => none
  | table _ extent _ => extent

end Toml

end RpcSchema
