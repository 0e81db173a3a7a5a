/-!
# Deflated data

Compressed data is a stream of bits in blocks. A block is stored as it is, or written in two codes:
one for bytes, the block's end and the lengths of repetitions, one for how far back these reach.
`inflate` gives nothing for data that no compressor writes; of data that breaks off it gives what
could be read.
-/

namespace TypeDiscovery.Archive

abbrev Bits := List Bool

/-- The bits of bytes, the lowest bit of each byte first. -/
def bitsOf (bytes : List UInt8) : Bits :=
  bytes.flatMap fun b => (List.range 8).map b.toNat.testBit

/-- What reading a part of the stream comes to. -/
inductive Part (α : Type) where
  | done (value : α) (rest : Bits)
  | truncated
  | corrupt

namespace Part

def bind {α β : Type} (p : Part α) (f : α → Bits → Part β) : Part β :=
  match p with
  | done a rest => f a rest
  | truncated => truncated
  | corrupt => corrupt

end Part

/-- The number that bits denote, the lowest first. -/
def numberOf (bits : Bits) : Nat := bits.foldr (fun b n => 2 * n + b.toNat) 0

/-- A number of so many bits. -/
def number (width : Nat) (bits : Bits) : Part Nat :=
  let field := bits.take width
  if field.length < width then .truncated else .done (numberOf field) (bits.drop width)

/-! ### Codes -/

/-- A code in which shorter code words come first and those of one length are consecutive. -/
structure Code where
  /-- How many code words there are of each length, from length one on. -/
  counts : List Nat
  /-- The symbols in the order of their code words. -/
  symbols : Array Nat

/-- The code in which each symbol's word has the given length; zero stands for no word. -/
def Code.ofLengths (lengths : List Nat) : Code where
  counts := (List.range 15).map fun n => lengths.count (n + 1)
  symbols := ((List.range 15).flatMap fun n =>
    (lengths.zipIdx.filter (·.1 == n + 1)).map (·.2)).toArray

/-- The share of all words of 15 bits that a code's words begin. -/
def Code.share (c : Code) : Nat :=
  c.counts.foldl (fun total count => 2 * total + count) 0

/-- Whether every stream of bits starts with a word of the code. A code of one word at most is
admitted although it leaves bits without meaning. -/
def Code.isComplete (c : Code) : Bool := c.share == 32768 || c.symbols.size ≤ 1

/-- Reads one symbol. `first` is the first word of the current length and `index` the place of its
symbol. -/
def Code.symbol (c : Code) (bits : Bits) : Part Nat :=
  go c.counts 0 0 0 bits
where
  go : List Nat → Nat → Nat → Nat → Bits → Part Nat
    | [], _, _, _, _ => .corrupt
    | _ :: _, _, _, _, [] => .truncated
    | count :: counts, word, first, index, b :: rest =>
      let word := 2 * word + b.toNat
      if word < first + count then
        .done (c.symbols[index + (word - first)]?.getD 0) rest
      else go counts word (2 * (first + count)) (index + count) rest

/-- Lengths of repetitions: the least length of each symbol and its extra bits. -/
def lengthBases : List (Nat × Nat) :=
  [(3, 0), (4, 0), (5, 0), (6, 0), (7, 0), (8, 0), (9, 0), (10, 0), (11, 1), (13, 1), (15, 1),
    (17, 1), (19, 2), (23, 2), (27, 2), (31, 2), (35, 3), (43, 3), (51, 3), (59, 3), (67, 4),
    (83, 4), (99, 4), (115, 4), (131, 5), (163, 5), (195, 5), (227, 5), (258, 0)]

/-- Distances: the least distance of each symbol and its extra bits. -/
def distanceBases : List (Nat × Nat) :=
  [(1, 0), (2, 0), (3, 0), (4, 0), (5, 1), (7, 1), (9, 2), (13, 2), (17, 3), (25, 3), (33, 4),
    (49, 4), (65, 5), (97, 5), (129, 6), (193, 6), (257, 7), (385, 7), (513, 8), (769, 8),
    (1025, 9), (1537, 9), (2049, 10), (3073, 10), (4097, 11), (6145, 11), (8193, 12), (12289, 12),
    (16385, 13), (24577, 13)]

/-- A number given by a symbol and the extra bits after it. -/
def withExtra (bases : List (Nat × Nat)) (symbol : Nat) (bits : Bits) : Part Nat :=
  match bases[symbol]? with
  | none => .corrupt
  | some (least, width) => (number width bits).bind fun extra rest => .done (least + extra) rest

/-- The two codes of a block. -/
structure BlockCodes where
  lengths : Code
  distances : Code

/-- The codes of blocks that bring none of their own. -/
def fixedCodes : BlockCodes where
  lengths := .ofLengths (List.replicate 144 8 ++ List.replicate 112 9 ++ List.replicate 24 7
    ++ List.replicate 8 8)
  distances := .ofLengths (List.replicate 30 5)

/-! ### Codes that a block brings -/

/-- The order in which the lengths of the code for lengths are written. -/
def lengthOrder : List Nat := [16, 17, 18, 0, 8, 7, 9, 6, 10, 5, 11, 4, 12, 3, 13, 2, 14, 1, 15]

/-- So many numbers of so many bits. -/
def numbers (width : Nat) : Nat → Bits → Part (List Nat)
  | 0, bits => .done [] bits
  | count + 1, bits =>
    (number width bits).bind fun n rest =>
      (numbers width count rest).bind fun ns rest => .done (n :: ns) rest

/-- Reads so many code lengths; `known` holds those read, the last one first. Every step takes a
bit at least, which bounds the steps by `fuel`. -/
def codeLengths (code : Code) (total : Nat) : Nat → List Nat → Bits → Part (List Nat)
  | 0, _, _ => .truncated
  | fuel + 1, known, bits =>
    if known.length == total then .done known.reverse bits
    else
      (code.symbol bits).bind fun symbol rest =>
        let fill (length width least : Nat) : Part (List Nat) :=
          (number width rest).bind fun extra rest =>
            if known.length + least + extra ≤ total then
              codeLengths code total fuel (List.replicate (least + extra) length ++ known) rest
            else .corrupt
        if symbol < 16 then codeLengths code total fuel (symbol :: known) rest
        else if symbol == 16 then
          match known with
          | [] => .corrupt
          | length :: _ => fill length 2 3
        else if symbol == 17 then fill 0 3 3
        else fill 0 7 11

/-- The codes at the start of a block that brings its own. -/
def ownCodes (bits : Bits) : Part BlockCodes :=
  (number 5 bits).bind fun moreLengths rest =>
    (number 5 rest).bind fun moreDistances rest =>
      (number 4 rest).bind fun moreWidths rest =>
        (numbers 3 (moreWidths + 4) rest).bind fun widths rest =>
          let widthOf (symbol : Nat) := ((lengthOrder.zip widths).lookup symbol).getD 0
          let code := Code.ofLengths ((List.range 19).map widthOf)
          let lengthCount := moreLengths + 257
          if !code.isComplete then .corrupt
          else
            (codeLengths code (lengthCount + moreDistances + 1) (rest.length + 1) [] rest).bind
              fun all rest =>
                let lengths := Code.ofLengths (all.take lengthCount)
                let distances := Code.ofLengths (all.drop lengthCount)
                if lengthCount ≤ 286 && lengths.isComplete && distances.isComplete then
                  .done ⟨lengths, distances⟩ rest
                else .corrupt

/-! ### Blocks -/

/-- The output with so many bytes repeated from so far back; what is before the start is zero. -/
def repeatBack (distance : Nat) : Nat → Array UInt8 → Array UInt8
  | 0, out => out
  | count + 1, out =>
    let b := if distance ≤ out.size then out[out.size - distance]?.getD 0 else 0
    repeatBack distance count (out.push b)

/-- Reads symbols up to the end of the block, in at most `fuel` steps. -/
def symbols (codes : BlockCodes) : Nat → Array UInt8 → Bits → Array UInt8 × Part Unit
  | 0, out, _ => (out, .truncated)
  | fuel + 1, out, bits =>
    match codes.lengths.symbol bits with
    | .truncated => (out, .truncated)
    | .corrupt => (out, .corrupt)
    | .done symbol rest =>
      if symbol < 256 then symbols codes fuel (out.push symbol.toUInt8) rest
      else if symbol == 256 then (out, .done () rest)
      else
        let back : Part (Nat × Nat) :=
          (withExtra lengthBases (symbol - 257) rest).bind fun length rest =>
            (codes.distances.symbol rest).bind fun symbol rest =>
              (withExtra distanceBases symbol rest).bind fun distance rest =>
                .done (length, distance) rest
        match back with
        | .truncated => (out, .truncated)
        | .corrupt => (out, .corrupt)
        | .done (length, distance) rest =>
          symbols codes fuel (repeatBack distance length out) rest

/-- Reads so many bytes as they are. -/
def storedBytes : Nat → Array UInt8 → Bits → Array UInt8 × Part Unit
  | 0, out, bits => (out, .done () bits)
  | count + 1, out, bits =>
    match number 8 bits with
    | .done b rest => storedBytes count (out.push b.toUInt8) rest
    | .truncated => (out, .truncated)
    | .corrupt => (out, .corrupt)

/-- A block stored as it is starts at a full byte, with its length and the complement of that. -/
def storedBlock (out : Array UInt8) (bits : Bits) : Array UInt8 × Part Unit :=
  let header := (number 16 (bits.drop (bits.length % 8))).bind fun length rest =>
    (number 16 rest).bind fun complement rest => .done (length, complement) rest
  match header with
  | .done (length, complement) rest =>
    if length + complement == 0xFFFF then storedBytes length out rest else (out, .corrupt)
  | .truncated => (out, .truncated)
  | .corrupt => (out, .corrupt)

def codedBlock (codes : Part BlockCodes) (out : Array UInt8) : Array UInt8 × Part Unit :=
  match codes with
  | .done codes rest => symbols codes (rest.length + 1) out rest
  | .truncated => (out, .truncated)
  | .corrupt => (out, .corrupt)

/-- One block after its first bit. -/
def block (out : Array UInt8) (bits : Bits) : Array UInt8 × Part Unit :=
  match number 2 bits with
  | .done 0 rest => storedBlock out rest
  | .done 1 rest => codedBlock (.done fixedCodes rest) out
  | .done 2 rest => codedBlock (ownCodes rest) out
  | .truncated => (out, .truncated)
  | _ => (out, .corrupt)

/-- Reads blocks up to the last one, in at most `fuel` steps. -/
def blocks : Nat → Array UInt8 → Bits → Option (Array UInt8)
  | 0, out, _ => some out
  | _ + 1, out, [] => some out
  | fuel + 1, out, last :: rest =>
    match block out rest with
    | (out, .done _ rest) => if last then some out else blocks fuel out rest
    | (out, .truncated) => some out
    | (_, .corrupt) => none

/-- The bytes of deflated data. Every block takes a bit at least, so there are no more blocks than
bits. -/
def inflate (bytes : List UInt8) : Option (List UInt8) :=
  let bits := bitsOf bytes
  (blocks (bits.length + 1) #[] bits).map Array.toList

end TypeDiscovery.Archive
