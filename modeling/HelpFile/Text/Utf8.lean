import HelpFile.Text.Quoted

/-!
# Encoded texts

Texts as the octets of UTF-8. Reading is strict: it refuses surrogates, overlong forms and numbers
beyond the last character, and tells where the first malformed sequence stands.
-/
namespace HelpFile.Text

inductive MalformedReason where
  | startByte
  | continuationByte
  | endOfData
  deriving DecidableEq

structure Malformed where
  position : Nat
  octets : List UInt8
  reason : MalformedReason
  deriving DecidableEq

def MalformedReason.message : MalformedReason → String
  | startByte => "invalid start byte"
  | continuationByte => "invalid continuation byte"
  | endOfData => "unexpected end of data"

def Malformed.message (m : Malformed) : String :=
  let what :=
    match m.octets with
    | [b] => "byte 0x" ++ String.ofList (hex 2 b.toNat) ++ s!" in position {m.position}"
    | bs => s!"bytes in position {m.position}-{m.position + bs.length - 1}"
  s!"'utf-8' codec can't decode {what}: {m.reason.message}"

/-- How many octets follow a leading one, the range of the first of them, and the bits that the
leading octet contributes. -/
def leading? (b : UInt8) : Option (Nat × (Nat × Nat) × Nat) :=
  let n := b.toNat
  if n < 0x80 then some (0, (0x80, 0xBF), n)
  else if 0xC2 ≤ n && n ≤ 0xDF then some (1, (0x80, 0xBF), n - 0xC0)
  else if n = 0xE0 then some (2, (0xA0, 0xBF), 0)
  else if n = 0xED then some (2, (0x80, 0x9F), 0xD)
  else if 0xE1 ≤ n && n ≤ 0xEF then some (2, (0x80, 0xBF), n - 0xE0)
  else if n = 0xF0 then some (3, (0x90, 0xBF), 0)
  else if 0xF1 ≤ n && n ≤ 0xF3 then some (3, (0x80, 0xBF), n - 0xF0)
  else if n = 0xF4 then some (3, (0x80, 0x8F), 4)
  else none

structure Sequence where
  position : Nat
  octets : List UInt8
  missing : Nat
  range : Nat × Nat
  value : Nat

def decodeFrom (position : Nat) (begun : Option Sequence) : List UInt8 → Except Malformed Text
  | [] =>
    match begun with
    | none => .ok []
    | some s => .error ⟨s.position, s.octets, .endOfData⟩
  | b :: rest =>
    match begun with
    | none =>
      match leading? b with
      | none => .error ⟨position, [b], .startByte⟩
      | some (0, _, n) => (decodeFrom (position + 1) none rest).map (Char.ofNat n :: ·)
      | some (missing, range, value) =>
        decodeFrom (position + 1) (some { position, octets := [b], missing, range, value }) rest
    | some s =>
      if s.range.1 ≤ b.toNat && b.toNat ≤ s.range.2 then
        let value := s.value * 64 + b.toNat % 64
        if s.missing = 1 then
          (decodeFrom (position + 1) none rest).map (Char.ofNat value :: ·)
        else
          decodeFrom (position + 1)
            (some { s with
              octets := s.octets ++ [b], missing := s.missing - 1, range := (0x80, 0xBF), value })
            rest
      else .error ⟨s.position, s.octets, .continuationByte⟩

def decode (octets : List UInt8) : Except Malformed Text := decodeFrom 0 none octets

def encodeChar (c : Char) : List UInt8 :=
  let n := c.toNat
  if n < 0x80 then [n.toUInt8]
  else if n < 0x800 then [(0xC0 + n / 64).toUInt8, (0x80 + n % 64).toUInt8]
  else if n < 0x10000 then
    [(0xE0 + n / 4096).toUInt8, (0x80 + n / 64 % 64).toUInt8, (0x80 + n % 64).toUInt8]
  else
    [(0xF0 + n / 262144).toUInt8, (0x80 + n / 4096 % 64).toUInt8, (0x80 + n / 64 % 64).toUInt8,
      (0x80 + n % 64).toUInt8]

def encode (text : Text) : List UInt8 := text.flatMap encodeChar

end HelpFile.Text
