import ResourceNames.Scalar.Decimal
import ResourceNames.Scalar.Integer

set_option autoImplicit false

/-! # Scalars

The values that a variable of a name can carry: integers of fixed width, floating-point numbers and
strings. Every scalar has one text, the segment of a name that stands for it, and a segment is read
as a scalar of a given type. -/

namespace ResourceNames

/-- The categories of scalars. -/
inductive ScalarKind
  | signedInteger
  | unsignedInteger
  | float
  | string
deriving DecidableEq

/-- The category in words. -/
def ScalarKind.description : ScalarKind → String
  | .signedInteger => "signed integer"
  | .unsignedInteger => "unsigned integer"
  | .float => "float"
  | .string => "string"

/-- The types of scalars. -/
inductive ScalarType
  | integer (type : IntegerType)
  | float (format : FloatFormat)
  | string
deriving DecidableEq

def ScalarType.kind : ScalarType → ScalarKind
  | .integer type => if type.signed then .signedInteger else .unsignedInteger
  | .float _ => .float
  | .string => .string

/-- A value together with its type. -/
inductive Scalar
  | integer (type : IntegerType) (number : type.Value)
  | float (format : FloatFormat) (number : Binary format)
  | string (text : String)
deriving DecidableEq

/-- Why a segment is no scalar of a type. -/
inductive ScalarError
  | integer (error : IntegerError)
  | float (error : FloatError)
deriving DecidableEq

/-- The error in words. -/
def ScalarError.message : ScalarError → String
  | .integer error => error.message
  | .float error => error.message

/-- The decimal text of an integer. -/
def integerText (number : Int) : String :=
  let digits := Nat.toDigits 10 number.natAbs
  String.ofList (if number < 0 then '-' :: digits else digits)

namespace Scalar

def type : Scalar → ScalarType
  | .integer type _ => .integer type
  | .float format _ => .float format
  | .string _ => .string

def kind (scalar : Scalar) : ScalarKind :=
  scalar.type.kind

/-- Whether the scalar counts as absent: a zero of either sign, or the empty string. -/
def isZero : Scalar → Bool
  | .integer _ number => number.val == 0
  | .float _ number => number.isZero
  | .string text => text.isEmpty

/-- The segment of a name that stands for the scalar. -/
def text : Scalar → String
  | .integer _ number => integerText number.val
  | .float _ number => number.text
  | .string text => text

end Scalar

namespace ScalarType

/-- The value that fields of the type start with. -/
def zero : ScalarType → Scalar
  | .integer type => .integer type type.zero
  | .float format => .float format (.zero false)
  | .string => .string ""

/-- Reads a segment as a scalar of the type. -/
def parse (type : ScalarType) (segment : String) : Except ScalarError Scalar :=
  match type with
  | .integer type => (type.parse segment).map (.integer type) |>.mapError .integer
  | .float format => (Binary.parse format segment).map (.float format) |>.mapError .float
  | .string => .ok (.string segment)

end ScalarType

end ResourceNames
