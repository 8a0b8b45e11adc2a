/-!
# UTF-8

Reading a byte sequence as UTF-8.  `pieces` cuts it into the characters it spells and the stretches
that spell none, a stretch being the longest start of a well-formed character that the next byte
does not continue.  A text that must be valid is refused at its first such stretch (`decode`); a
text that need not be has one replacement character for each (`decodeLossy`).
-/

namespace TypedClient.Text.Utf8

/-- The bytes of a text. -/
def encode (text : List Char) : List UInt8 := text.flatMap String.utf8EncodeChar

/-- A character begun and not yet complete. -/
structure Begun where
  /-- The bits read so far. -/
  value : Nat
  /-- The least next byte that continues the character. -/
  low : Nat
  /-- The greatest next byte that continues the character. -/
  high : Nat
  /-- How many bytes are missing. -/
  missing : Nat
  /-- How many bytes have been read. -/
  width : Nat

/-- What a byte sequence is cut into. -/
inductive Piece where
  /-- A character. -/
  | char (c : Char)
  /-- Bytes that no character starts with. -/
  | broken (width : Nat)
  /-- A character that the end of the sequence cuts off. -/
  | cut (width : Nat)

/-- What a first byte begins: a character of its own, a longer character, or nothing. -/
def begin (b : UInt8) : Except Piece Begun :=
  let n := b.toNat
  if n < 0x80 then .error (.char (Char.ofNat n))
  else if n < 0xC2 then .error (.broken 1)
  else if n < 0xE0 then .ok ⟨n - 0xC0, 0x80, 0xBF, 1, 1⟩
  else if n < 0xF0 then
    .ok ⟨n - 0xE0, if n = 0xE0 then 0xA0 else 0x80, if n = 0xED then 0x9F else 0xBF, 2, 1⟩
  else if n < 0xF5 then
    .ok ⟨n - 0xF0, if n = 0xF0 then 0x90 else 0x80, if n = 0xF4 then 0x8F else 0xBF, 3, 1⟩
  else .error (.broken 1)

/-- The pieces of the bytes that follow an unfinished character, if there is one. -/
def piecesAfter : Option Begun → List UInt8 → List Piece
  | none, [] => []
  | some s, [] => [.cut s.width]
  | none, b :: rest =>
    match begin b with
    | .error piece => piece :: piecesAfter none rest
    | .ok s => piecesAfter (some s) rest
  | some s, b :: rest =>
    let n := b.toNat
    if s.low ≤ n ∧ n ≤ s.high then
      let value := s.value * 64 + (n - 0x80)
      if s.missing = 1 then .char (Char.ofNat value) :: piecesAfter none rest
      else piecesAfter (some ⟨value, 0x80, 0xBF, s.missing - 1, s.width + 1⟩) rest
    else
      match begin b with
      | .error piece => .broken s.width :: piece :: piecesAfter none rest
      | .ok s' => .broken s.width :: piecesAfter (some s') rest

/-- The pieces of a byte sequence. -/
def pieces (bytes : List UInt8) : List Piece := piecesAfter none bytes

/-- The text of a byte sequence, with U+FFFD for every piece that is no character. -/
def decodeLossy (bytes : List UInt8) : List Char :=
  (pieces bytes).map fun
    | .char c => c
    | _ => Char.ofNat 0xFFFD

/-- Where a byte sequence stops being UTF-8. -/
structure Flaw where
  /-- The number of valid bytes before it. -/
  index : Nat
  /-- The length of the flaw; `none` where the sequence ends inside a character. -/
  width : Option Nat
deriving DecidableEq

/-- The sentence that reports a flaw. -/
def Flaw.message (flaw : Flaw) : String :=
  match flaw.width with
  | some width =>
    "invalid utf-8 sequence of " ++ toString width ++ " bytes from index " ++ toString flaw.index
  | none => "incomplete utf-8 byte sequence from index " ++ toString flaw.index

/-- Collects the characters up to the first flaw; `index` counts the bytes before the pieces. -/
def decodePieces (index : Nat) : List Piece → Except Flaw (List Char)
  | [] => .ok []
  | .char c :: rest => (decodePieces (index + c.utf8Size) rest).map (c :: ·)
  | .broken width :: _ => .error ⟨index, some width⟩
  | .cut _ :: _ => .error ⟨index, none⟩

/-- The text of a byte sequence that is UTF-8. -/
def decode (bytes : List UInt8) : Except Flaw (List Char) := decodePieces 0 (pieces bytes)

end TypedClient.Text.Utf8
