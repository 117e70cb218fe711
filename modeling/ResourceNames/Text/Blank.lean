set_option autoImplicit false

/-! # Blanks

The characters with the Unicode property White_Space, and texts without blanks at their ends. -/

namespace ResourceNames.Text

/-- Whether a character has the property White_Space. The property has 25 characters. -/
def isBlank (c : Char) : Bool :=
  (0x9 ≤ c.toNat && c.toNat ≤ 0xD) || c.toNat == 0x20 || c.toNat == 0x85 || c.toNat == 0xA0 ||
    c.toNat == 0x1680 || (0x2000 ≤ c.toNat && c.toNat ≤ 0x200A) || c.toNat == 0x2028 ||
    c.toNat == 0x2029 || c.toNat == 0x202F || c.toNat == 0x205F || c.toNat == 0x3000

/-- The text without the blanks it starts and ends with. -/
def trimBlanks (text : List Char) : List Char :=
  ((text.dropWhile isBlank).reverse.dropWhile isBlank).reverse

example : trimBlanks " \u2003a b\u00a0".toList = "a b".toList := by decide

end ResourceNames.Text
