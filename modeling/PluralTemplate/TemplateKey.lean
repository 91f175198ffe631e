import PluralTemplate.Numeral
import PluralTemplate.Text.Blank

/-!
# Template keys

A template is known to the cache by a 64-bit digest of its bytes: starting from a fixed
word, each byte is mixed in by exclusive or, and the word is then multiplied by a fixed
prime.
-/

set_option autoImplicit false

namespace PluralTemplate

structure TemplateKey where
  digest : UInt64
  deriving DecidableEq, Hashable, Repr

namespace TemplateKey

/-- The digest of no bytes. -/
def basis : UInt64 := 0xCBF29CE484222325

def prime : UInt64 := 0x100000001B3

/-- Mix one more byte into a digest. -/
def absorb (digest : UInt64) (byte : UInt8) : UInt64 := (digest ^^^ byte.toUInt64) * prime

/-- The digest of a list of bytes. -/
def digestBytes (bytes : List UInt8) : UInt64 := bytes.foldl absorb basis

def ofTemplate (template : String) : TemplateKey := ⟨digestBytes template.toUTF8.toList⟩

/-- The key as it is shown, with sixteen hexadecimal digits. -/
def text (key : TemplateKey) : String :=
  let digits := Nat.toDigits 16 key.digest.toNat
  "TemplateKey(" ++ String.ofList (List.replicate (16 - digits.length) '0' ++ digits) ++ ")"

/-- The key as a plain number. -/
def number (key : TemplateKey) : Nat := key.digest.toNat

/-- The key that a plain number spells: digits without a sign or zeros in front, within 64
bits, with nothing around them but spaces, tabs and line ends. -/
def ofNumeral? (text : String) : Option TemplateKey :=
  let digits := Text.strip (fun c => c.isWhitespace) text.toList
  let number := Numeral.value digits
  if Numeral.isDigits digits ∧ (digits.head? ≠ some '0' ∨ digits = ['0']) ∧ number < UInt64.size
  then some ⟨UInt64.ofNat number⟩
  else none

end TemplateKey

end PluralTemplate
