/-!
# UTF-8

Decoding takes the shortest prefix that is a character, or else the longest prefix that could still
become one: that prefix is what a strict reading reports and what a lenient reading replaces by one
replacement character. `encode` is the inverse direction.
-/

namespace TypeDiscovery.Text.Utf8

/-- What stands at the start of a non-empty byte sequence. -/
inductive Chunk where
  /-- A character and the number of bytes it takes. -/
  | char (c : Char) (width : Nat)
  /-- Bytes that begin no character, whatever follows them. -/
  | invalid (width : Nat)
  /-- All remaining bytes, which a longer input could complete to a character. -/
  | incomplete

def isTail (b : UInt8) : Bool := 0x80 ≤ b && b ≤ 0xBF

/-- The low six bits of a continuation byte. -/
def tailBits (b : UInt8) : Nat := b.toNat % 64

/-- The bounds of the second byte, which rule out overlong forms, surrogates and numbers beyond
the last code point. -/
def secondBounds (first : UInt8) : UInt8 × UInt8 :=
  if first = 0xE0 then (0xA0, 0xBF)
  else if first = 0xED then (0x80, 0x9F)
  else if first = 0xF0 then (0x90, 0xBF)
  else if first = 0xF4 then (0x80, 0x8F)
  else (0x80, 0xBF)

def secondAllowed (first second : UInt8) : Bool :=
  (secondBounds first).1 ≤ second && second ≤ (secondBounds first).2

/-- The first chunk of `first :: rest`. -/
def chunk (first : UInt8) (rest : List UInt8) : Chunk :=
  if first < 0x80 then .char (Char.ofNat first.toNat) 1
  else if first < 0xC2 then .invalid 1
  else if first < 0xE0 then
    match rest with
    | [] => .incomplete
    | b :: _ =>
      if isTail b then .char (Char.ofNat (first.toNat % 32 * 64 + tailBits b)) 2 else .invalid 1
  else if first < 0xF0 then
    match rest with
    | [] => .incomplete
    | b :: rest =>
      if secondAllowed first b then
        match rest with
        | [] => .incomplete
        | c :: _ =>
          if isTail c then
            .char (Char.ofNat (first.toNat % 16 * 4096 + tailBits b * 64 + tailBits c)) 3
          else .invalid 2
      else .invalid 1
  else if first < 0xF5 then
    match rest with
    | [] => .incomplete
    | b :: rest =>
      if secondAllowed first b then
        match rest with
        | [] => .incomplete
        | c :: rest =>
          if isTail c then
            match rest with
            | [] => .incomplete
            | d :: _ =>
              if isTail d then
                .char (Char.ofNat (first.toNat % 8 * 262144 + tailBits b * 4096 + tailBits c * 64
                  + tailBits d)) 4
              else .invalid 3
          else .invalid 2
      else .invalid 1
  else .invalid 1

/-- Why bytes are not UTF-8. The index counts the bytes of the longest valid prefix. -/
inductive Fault where
  | invalid (width index : Nat)
  | incomplete (index : Nat)
  deriving DecidableEq

def Fault.message : Fault → String
  | .invalid width index => s!"invalid utf-8 sequence of {width} bytes from index {index}"
  | .incomplete index => s!"incomplete utf-8 byte sequence from index {index}"

/-- Strict decoding of bytes that stand at the given index. -/
def decodeFrom (index : Nat) : List UInt8 → Except Fault (List Char)
  | [] => .ok []
  | first :: rest =>
    match chunk first rest with
    | .char c width =>
      match decodeFrom (index + width) (rest.drop (width - 1)) with
      | .ok cs => .ok (c :: cs)
      | .error e => .error e
    | .invalid width => .error (.invalid width index)
    | .incomplete => .error (.incomplete index)
termination_by bytes => bytes.length
decreasing_by
  simp only [List.length_drop, List.length_cons]
  omega

/-- Strict decoding. -/
def decode (bytes : List UInt8) : Except Fault String :=
  (decodeFrom 0 bytes).map String.ofList

/-- Lenient decoding: each chunk that is no character becomes one replacement character. -/
def decodeLossy : List UInt8 → List Char
  | [] => []
  | first :: rest =>
    match chunk first rest with
    | .char c width => c :: decodeLossy (rest.drop (width - 1))
    | .invalid width => '\uFFFD' :: decodeLossy (rest.drop (width - 1))
    | .incomplete => ['\uFFFD']
termination_by bytes => bytes.length
decreasing_by
  all_goals
    simp only [List.length_drop, List.length_cons]
    omega

def encodeChar (c : Char) : List UInt8 :=
  let n := c.toNat
  if n < 0x80 then [n.toUInt8]
  else if n < 0x800 then [(0xC0 + n / 64).toUInt8, (0x80 + n % 64).toUInt8]
  else if n < 0x10000 then
    [(0xE0 + n / 4096).toUInt8, (0x80 + n / 64 % 64).toUInt8, (0x80 + n % 64).toUInt8]
  else
    [(0xF0 + n / 262144).toUInt8, (0x80 + n / 4096 % 64).toUInt8, (0x80 + n / 64 % 64).toUInt8,
      (0x80 + n % 64).toUInt8]

def encode (s : String) : List UInt8 := s.toList.flatMap encodeChar

end TypeDiscovery.Text.Utf8
