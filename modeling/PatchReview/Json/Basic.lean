import PatchReview.Json.Binary64
import PatchReview.Text.CodePoint

-- JSON values.  Whole numbers are exact; a number with a point or an exponent is a `Binary64`.
-- Objects keep the order in which their keys first appeared.  A text with half a pair of surrogates
-- is no text of characters, and held apart.
namespace PatchReview

inductive Json where
  | null
  | bool (value : Bool)
  | int (value : Int)
  | real (value : Binary64)
  | string (value : Text)
  | illFormed (points : List Text.CodePoint)
  | array (items : List Json)
  | object (fields : List (Text × Json))
  deriving Repr, Inhabited

namespace Json

def ofCodePoints (points : List Text.CodePoint) : Json :=
  if points.all Text.CodePoint.isChar then string (Text.ofCodePoints points) else illFormed points

def lookup (key : Text) : List (Text × Json) → Option Json
  | [] => none
  | (k, v) :: rest => if k = key then some v else lookup key rest

-- A later value of a key takes the place of the earlier one.
def put (key : Text) (value : Json) : List (Text × Json) → List (Text × Json)
  | [] => [(key, value)]
  | (k, v) :: rest => if k = key then (key, value) :: rest else (k, v) :: put key value rest

def field? (key : Text) : Json → Option Json
  | object fields => lookup key fields
  | _ => none

-- Null, false, zero and whatever is empty count as absent.
def isPresent : Json → Bool
  | null => false
  | bool b => b
  | int n => n != 0
  | real x => !x.isZero
  | string t => !t.isEmpty
  | illFormed points => !points.isEmpty
  | array items => !items.isEmpty
  | object fields => !fields.isEmpty

end Json
end PatchReview
