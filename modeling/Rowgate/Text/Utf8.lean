/-
Reading bytes as text.

Two readers of UTF-8: the strict one refuses ill-formed bytes, the lenient one writes one
replacement character for each longest prefix of a character that breaks off. On well-formed bytes
they agree.
-/
set_option autoImplicit false

namespace Rowgate.Utf8

/-- The text that the bytes spell, if they are well formed. -/
def decode? (bytes : List UInt8) : Option String :=
  String.fromUTF8? bytes.toByteArray

/-- The bytes of a text. -/
def encode (s : String) : List UInt8 := s.toUTF8.data.toList

/-- The character that stands for bytes that spell none. -/
def replacement : Char := '\uFFFD'

/-- How many bytes follow a lead byte, and the range of the first of them. The ranges leave out
overlong spellings, surrogates and values past the last code point. -/
def follow? (lead : UInt8) : Option (Nat × UInt8 × UInt8) :=
  if lead < 0xC2 then none
  else if lead < 0xE0 then some (1, 0x80, 0xBF)
  else if lead = 0xE0 then some (2, 0xA0, 0xBF)
  else if lead = 0xED then some (2, 0x80, 0x9F)
  else if lead < 0xF0 then some (2, 0x80, 0xBF)
  else if lead = 0xF0 then some (3, 0x90, 0xBF)
  else if lead < 0xF4 then some (3, 0x80, 0xBF)
  else if lead = 0xF4 then some (3, 0x80, 0x8F)
  else none

def isContinuation (b : UInt8) : Bool := 0x80 ≤ b && b ≤ 0xBF

/-- The low six bits of a continuation byte. -/
def payload (b : UInt8) : Nat := b.toNat % 64

/-- The text that the bytes spell, with the replacement character for what is ill formed. -/
def decodeLenient : List UInt8 → List Char
  | [] => []
  | b₀ :: r₀ =>
    if b₀ < 0x80 then Char.ofNat b₀.toNat :: decodeLenient r₀ else
    match follow? b₀, r₀ with
    | none, r₀ => replacement :: decodeLenient r₀
    | some _, [] => [replacement]
    | some (n, low, high), b₁ :: r₁ =>
      if b₁ < low || high < b₁ then replacement :: decodeLenient (b₁ :: r₁)
      else if n = 1 then Char.ofNat (b₀.toNat % 32 * 64 + payload b₁) :: decodeLenient r₁
      else match r₁ with
        | [] => [replacement]
        | b₂ :: r₂ =>
          if !isContinuation b₂ then replacement :: decodeLenient (b₂ :: r₂)
          else if n = 2 then
            Char.ofNat ((b₀.toNat % 16 * 64 + payload b₁) * 64 + payload b₂) :: decodeLenient r₂
          else match r₂ with
            | [] => [replacement]
            | b₃ :: r₃ =>
              if !isContinuation b₃ then replacement :: decodeLenient (b₃ :: r₃)
              else
                Char.ofNat
                  (((b₀.toNat % 8 * 64 + payload b₁) * 64 + payload b₂) * 64 + payload b₃)
                  :: decodeLenient r₃

end Rowgate.Utf8
