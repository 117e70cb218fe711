import ResourceNames.Binding.Basic

set_option autoImplicit false

/-! # A cache of bindings

Bindings depend on nothing but the record type, so that they are made once for each type and kept.
A type that cannot be bound is not kept: every request for it fails anew. -/

namespace ResourceNames

variable {ι : Type}

/-- The kept bindings of one type. The serial number is the place in the order of making, and so
    tells the entries of a cache apart. -/
structure CacheEntry (ι : Type) where
  serial : Nat
  type : ι
  bindings : Bindings
deriving DecidableEq

/-- The bindings made so far, the latest first. -/
structure BindingCache (ι : Type) where
  entries : List (CacheEntry ι)
deriving DecidableEq

namespace BindingCache

def empty : BindingCache ι := ⟨[]⟩

/-- The number of types in the cache. -/
def size (cache : BindingCache ι) : Nat :=
  cache.entries.length

def isEmpty (cache : BindingCache ι) : Bool :=
  cache.entries.isEmpty

variable [DecidableEq ι]

/-- The kept bindings of a type. -/
def get? (cache : BindingCache ι) (type : ι) : Option (CacheEntry ι) :=
  cache.entries.find? fun entry => entry.type == type

/-- The bindings of a type, made and kept unless they are there already. -/
def request (cache : BindingCache ι) (schema : Schema ι) (type : ι) :
    Except BindingError (CacheEntry ι) × BindingCache ι :=
  match cache.get? type with
  | some entry => (.ok entry, cache)
  | none =>
    match schema.bindings type with
    | .ok bindings =>
      let entry := ⟨cache.size, type, bindings⟩
      (.ok entry, ⟨entry :: cache.entries⟩)
    | .error error => (.error error, cache)

end BindingCache

end ResourceNames
