import ResourceNames.Namer.Basic
import ResourceNames.Proofs.Binding
import ResourceNames.Proofs.PatternSet

set_option autoImplicit false

/-! # Namers that are made

What is known of the patterns and the bindings of a namer once it is made, and the namer of a small
library, on which the theorems about namers are tried. -/

namespace ResourceNames

namespace Namer

variable {ι : Type} [DecidableEq ι] {schema : Schema ι} {type : ι} {namer : Namer schema type}
  {patterns : List String} {options : Namer.Options}

theorem compile_eq_ok
    (h : compile schema type patterns options = .ok namer) :
    PatternSet.compile patterns options.extraPatterns = .ok namer.patterns ∧
      schema.bindings type = .ok namer.bindings := by
  rw [compile] at h
  obtain ⟨set, hset, h⟩ := bind_eq_ok_iff.1 h
  obtain ⟨bindings, hbindings, h⟩ := bind_eq_ok_iff.1 h
  rw [mapError_eq_ok_iff] at hset hbindings
  split at h
  · cases h
  · obtain rfl := Except.ok.inj h
    exact ⟨hset, hbindings⟩

theorem patterns_isValid
    (h : compile schema type patterns options = .ok namer) : namer.patterns.IsValid :=
  PatternSet.isValid_of_compile (compile_eq_ok h).1

theorem bindings_leadFrom (hschema : schema.IsDerived)
    (h : compile schema type patterns options = .ok namer) :
    namer.bindings.LeadFrom schema type :=
  Schema.leadFrom_bindings hschema (compile_eq_ok h).2

end Namer

/-! ## A small library -/

namespace Library

inductive Kind
  | book
  | shelf
deriving DecidableEq

/-- A book has a name, and may stand on a shelf. -/
def bookFields : List (RecordField (FieldType Kind)) :=
  [⟨"book", [], false, .scalar .string⟩,
    ⟨"note", [], true, .scalar .string⟩,
    ⟨"shelf", [], false, .optional (.boxed (.record .shelf))⟩]

/-- A shelf has a name, and the number of a floor, which may be below ground. -/
def shelfFields : List (RecordField (FieldType Kind)) :=
  [⟨"id", ["shelf"], false, .scalar .string⟩,
    ⟨"floor", [], false, .scalar (.integer ⟨true, .bits8⟩)⟩]

def newBook : List (Value Kind) :=
  [.scalar ScalarType.string.zero, .scalar ScalarType.string.zero,
    .absent (.boxed (.record .shelf))]

def newShelf : List (Value Kind) :=
  [.scalar ScalarType.string.zero, .scalar (ScalarType.integer ⟨true, .bits8⟩).zero]

def schema : Schema Kind where
  record
    | .book => .derived "Book" bookFields newBook
    | .shelf => .derived "Shelf" shelfFields newShelf
  types := [.book, .shelf]
  mem_types := by rintro (_ | _) <;> decide

theorem isDerived_schema : schema.IsDerived where
  derived := by
    rintro (_ | _)
    · exact ⟨"Book", bookFields, newBook, rfl⟩
    · exact ⟨"Shelf", shelfFields, newShelf, rfl⟩
  newRecord_typed := by
    rintro (_ | _)
    · exact .record (.cons (hasType_zero schema _) (.cons (hasType_zero schema _)
        (.cons (.absent _) .nil)))
    · exact .record (.cons (hasType_zero schema _) (.cons (hasType_zero schema _) .nil))

def patterns : List String :=
  ["books/\x7bbook\x7d", "shelves/\x7bshelf\x7d/books/\x7bbook\x7d",
    "floors/\x7bfloor\x7d/shelves/\x7bshelf\x7d/books/\x7bbook\x7d"]

def bookPattern : Pattern :=
  ⟨0, "books/\x7bbook\x7d", [.literal "books", .variable "book"]⟩

def shelfPattern : Pattern :=
  ⟨1, "shelves/\x7bshelf\x7d/books/\x7bbook\x7d",
    [.literal "shelves", .variable "shelf", .literal "books", .variable "book"]⟩

def floorPattern : Pattern :=
  ⟨2, "floors/\x7bfloor\x7d/shelves/\x7bshelf\x7d/books/\x7bbook\x7d",
    [.literal "floors", .variable "floor", .literal "shelves", .variable "shelf",
      .literal "books", .variable "book"]⟩

/-- The namer of books. -/
def bookNamer : Namer schema .book where
  patterns := ⟨#[bookPattern, shelfPattern, floorPattern]⟩
  bindings := ⟨[⟨"book", [0], .string, false, "book"⟩,
    ⟨"floor", [1, 1], .signedInteger, false, "floor"⟩, ⟨"shelf", [1, 0], .string, false, "id"⟩]⟩

theorem compile_bookNamer :
    Namer.compile schema .book patterns .standard = .ok bookNamer := by
  decide +kernel

/-- The namer of books by their names alone. -/
def rootNamer : Namer schema .book where
  patterns := ⟨#[bookPattern]⟩
  bindings := bookNamer.bindings

theorem compile_rootNamer :
    Namer.compile schema .book ["books/\x7bbook\x7d"] .standard = .ok rootNamer := by
  decide +kernel

/-- A book on a shelf below ground. -/
def shelved (shelf book : String) : Record Kind :=
  ⟨.book, [.scalar (.string book), .scalar (.string ""),
    .present (.boxed (.record .shelf
      [.scalar (.string shelf), .scalar (.integer ⟨true, .bits8⟩ ⟨-1, by decide⟩)]))]⟩

theorem typed_shelved (shelf book : String) : schema.Typed .book (shelved shelf book) :=
  .record (.cons (.scalar _) (.cons (.scalar _) (.cons (.present (.boxed (.record
    (.cons (.scalar _) (.cons (.scalar _) .nil))))) .nil)))

end Library

end ResourceNames
