import ResourceNames.Binding.Error
import ResourceNames.PatternSet.Error
import ResourceNames.Record.Value

set_option autoImplicit false

/-! # Why a namer fails -/

namespace ResourceNames

/-- Why a namer cannot be made. -/
inductive ConfigurationError
  | patterns (error : PatternSetError)
  | binding (error : BindingError)
  /-- A pattern uses a key that no field of the record type binds. -/
  | missingBinding (key pattern type : String)
deriving DecidableEq

/-- The error in words. -/
def ConfigurationError.message : ConfigurationError → String
  | .patterns error => error.message
  | .binding error => error.message
  | .missingBinding key pattern type =>
      s!"pattern `{pattern}` uses key `{key}`, which no field of `{type}` binds"

/-- Why a value cannot stand in a name, or a segment cannot stand for a value. -/
inductive ValueFault
  /-- A zero, an empty string or nothing at all. -/
  | absent
  | malformed (error : ScalarError)
  /-- The user's own reason. -/
  | refused (reason : String)
deriving DecidableEq

/-- The fault in words. -/
def ValueFault.message : ValueFault → String
  | .absent => "value is zero or empty"
  | .malformed error => error.message
  | .refused reason => reason

/-- What is wrong with the value of one key. -/
inductive KeyError
  /-- The owner has no value for the key. -/
  | unbound (key owner : String)
  /-- The field of the key holds no scalar. -/
  | notScalar (key owner : String) (found : NonScalar)
  | invalidValue (key value : String) (fault : ValueFault)
deriving DecidableEq

/-- The error in words. -/
def KeyError.message : KeyError → String
  | .unbound key owner => s!"pattern key `{key}` is not bound to a field of `{owner}`"
  | .notScalar key owner found =>
      s!"field bound to `{key}` in `{owner}` is {found.description}, not a scalar"
  | .invalidValue key value fault => s!"invalid value `{value}` for `{key}`: {fault.message}"

/-- Which name of a record is meant: its own, or that of its parent. -/
inductive NameKind
  | own
  | parent
deriving DecidableEq

def NameKind.word : NameKind → String
  | .own => "name"
  | .parent => "parent"

/-- Why formatting or parsing fails. -/
inductive NamerError
  /-- No pattern matches the name. -/
  | invalidName (name : String)
  /-- No pattern's parent matches the text. -/
  | invalidParent (parent : String)
  | key (error : KeyError)
  /-- The set has no pattern with the index. -/
  | invalidIndex (index : Int)
  /-- No pattern that was tried can be filled. The last one that has a template for the kind of name
      says why. -/
  | noPatternFound (kind : NameKind) (type : String) (last : Option KeyError)
deriving DecidableEq

/-- The error in words. -/
def NamerError.message : NamerError → String
  | .invalidName name => s!"invalid name: `{name}` matches no pattern"
  | .invalidParent parent => s!"invalid parent: `{parent}` matches no parent pattern"
  | .key error => error.message
  | .invalidIndex index => s!"invalid pattern index: {integerText index}"
  | .noPatternFound kind type _ => s!"no suitable {kind.word} pattern found for `{type}`"

end ResourceNames
