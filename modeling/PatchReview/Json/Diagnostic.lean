import PatchReview.Json.Basic
import PatchReview.Text.Quoted

-- JSON values inside messages: quoted texts, `None` for null, and the name of a value's kind.
namespace PatchReview.Json

def diagnosticReal : Binary64 → Text
  | .undefined => "nan"
  | .infinite negative => if negative then "-inf" else "inf"
  | .finite negative mantissa exponent =>
    (if negative then "-" else "") ++ Binary64.magnitude mantissa exponent

mutual

def diagnostic : Json → Text
  | null => "None"
  | bool b => if b then "True" else "False"
  | int n => Text.ofInt n
  | real x => diagnosticReal x
  | string t => Text.quoted t
  | illFormed points => Text.quotedPoints points
  | array [] => "[]"
  | array (item :: items) => "[" ++ diagnostic item ++ diagnosticItems items ++ "]"
  | object [] => "\x7b\x7d"
  | object ((name, value) :: fields) =>
    "\x7b" ++ Text.quoted name ++ ": " ++ diagnostic value ++ diagnosticFields fields ++ "\x7d"

def diagnosticItems : List Json → Text
  | [] => []
  | item :: items => ", " ++ diagnostic item ++ diagnosticItems items

def diagnosticFields : List (Text × Json) → Text
  | [] => []
  | (name, value) :: fields =>
    ", " ++ Text.quoted name ++ ": " ++ diagnostic value ++ diagnosticFields fields

end

-- A text shows as itself, anything else as in a diagnosis.
def display : Json → Text
  | string t => t
  | value => diagnostic value

def kind : Json → Text
  | null => "NoneType"
  | bool _ => "bool"
  | int _ => "int"
  | real _ => "float"
  | string _ | illFormed _ => "str"
  | array _ => "list"
  | object _ => "dict"

end PatchReview.Json
