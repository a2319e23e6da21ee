/-!
UTF-8: the length of a text in bytes, the cutting of a text at a byte offset, and the decoding of
bytes with the place of the first fault.
-/
namespace BoundaryRules.Utf8

/-- Length in bytes. -/
def length : List Char → Nat
  | [] => 0
  | c :: text => c.utf8Size + length text

@[simp] theorem length_nil : length [] = 0 := rfl

@[simp] theorem length_cons (c : Char) (text : List Char) :
    length (c :: text) = c.utf8Size + length text := rfl

@[simp] theorem length_append (s t : List Char) : length (s ++ t) = length s + length t := by
  induction s with
  | nil => simp
  | cons c s ih => simp [ih, Nat.add_assoc]

@[simp] theorem length_reverse (s : List Char) : length s.reverse = length s := by
  induction s with
  | nil => rfl
  | cons c s ih => simp [ih, Nat.add_comm]

theorem length_pos_iff {text : List Char} : 0 < length text ↔ text ≠ [] := by
  cases text with
  | nil => simp
  | cons c _ => have := Char.utf8Size_pos c; simp; omega

/-- Cuts a text at a byte offset: what lies behind it, the nearest character first, and what lies
ahead. There is no cut inside a character or past the end. -/
def cutAt? (behind : List Char) : Nat → List Char → Option (List Char × List Char)
  | 0, ahead => some (behind, ahead)
  | _ + 1, [] => none
  | n + 1, c :: ahead =>
    if c.utf8Size ≤ n + 1 then cutAt? (c :: behind) (n + 1 - c.utf8Size) ahead else none

/-- The first byte sequence that is no character: where it starts, and how many bytes of it are
surely wrong. The width is absent when the bytes end inside a character. -/
structure Fault where
  index : Nat
  width : Option Nat
deriving DecidableEq, Repr

def Fault.message : Fault → String
  | ⟨index, some width⟩ => s!"invalid utf-8 sequence of {width} bytes from index {index}"
  | ⟨index, none⟩ => s!"incomplete utf-8 byte sequence from index {index}"

/-- Whether `b` continues a character. -/
def isContinuation (b : UInt8) : Bool := 0x80 ≤ b && b ≤ 0xBF

/-- Whether `second` may follow the first byte of a three-byte character: neither an overlong form
nor a surrogate. -/
def isSecondOfThree (first second : UInt8) : Bool :=
  isContinuation second && (first != 0xE0 || 0xA0 ≤ second) && (first != 0xED || second ≤ 0x9F)

/-- Whether `second` may follow the first byte of a four-byte character: neither an overlong form
nor above the last code point. -/
def isSecondOfFour (first second : UInt8) : Bool :=
  isContinuation second && (first != 0xF0 || 0x90 ≤ second) && (first != 0xF4 || second ≤ 0x8F)

/-- The character with the payload of `first` above the six-bit payloads of `more`. -/
def assemble (first : Nat) (more : List UInt8) : Char :=
  Char.ofNat (more.foldl (fun n b => n * 64 + b.toNat % 64) first)

/-- Decodes the bytes from position `index` on; `decoded` holds the characters before, the last
one first. -/
def decodeFrom (index : Nat) (decoded : List Char) : List UInt8 → Except Fault (List Char)
  | [] => .ok decoded.reverse
  | b :: rest =>
    if b < 0x80 then decodeFrom (index + 1) (Char.ofNat b.toNat :: decoded) rest
    else if 0xC2 ≤ b ∧ b ≤ 0xDF then
      match rest with
      | [] => .error ⟨index, none⟩
      | b₁ :: rest =>
        if isContinuation b₁ then
          decodeFrom (index + 2) (assemble (b.toNat % 32) [b₁] :: decoded) rest
        else .error ⟨index, some 1⟩
    else if 0xE0 ≤ b ∧ b ≤ 0xEF then
      match rest with
      | [] => .error ⟨index, none⟩
      | [b₁] => .error ⟨index, if isSecondOfThree b b₁ then none else some 1⟩
      | b₁ :: b₂ :: rest =>
        if !isSecondOfThree b b₁ then .error ⟨index, some 1⟩
        else if !isContinuation b₂ then .error ⟨index, some 2⟩
        else decodeFrom (index + 3) (assemble (b.toNat % 16) [b₁, b₂] :: decoded) rest
    else if 0xF0 ≤ b ∧ b ≤ 0xF4 then
      match rest with
      | [] => .error ⟨index, none⟩
      | [b₁] => .error ⟨index, if isSecondOfFour b b₁ then none else some 1⟩
      | [b₁, b₂] =>
        .error ⟨index, if !isSecondOfFour b b₁ then some 1
          else if isContinuation b₂ then none else some 2⟩
      | b₁ :: b₂ :: b₃ :: rest =>
        if !isSecondOfFour b b₁ then .error ⟨index, some 1⟩
        else if !isContinuation b₂ then .error ⟨index, some 2⟩
        else if !isContinuation b₃ then .error ⟨index, some 3⟩
        else decodeFrom (index + 4) (assemble (b.toNat % 8) [b₁, b₂, b₃] :: decoded) rest
    else .error ⟨index, some 1⟩

/-- Decodes bytes as a text. -/
def decode (bytes : List UInt8) : Except Fault (List Char) := decodeFrom 0 [] bytes

end BoundaryRules.Utf8
