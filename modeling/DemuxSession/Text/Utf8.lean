import DemuxSession.Bytes

/-!
# UTF-8, well-formed or not

A byte string is cut into pieces from left to right.  A piece is either one
well-formed sequence, which stands for a character, or a maximal ill-formed
subpart: a byte that begins no sequence, or the beginning of a sequence that the
next byte does not continue.  The text of a byte string shows each ill-formed
piece as one replacement character U+FFFD.

## Strategy

The cutting is done by an automaton that reads one byte at a time.  Between two
bytes it is either at the start of a piece or inside an unfinished sequence, and
then knows the range the next byte has to lie in.  The ranges are those of the
table of well-formed sequences: they exclude overlong forms, surrogates and
values above U+10FFFF already at the second byte, so a sequence that is finished
always stands for a character.
-/

namespace DemuxSession.Text.Utf8

/-- The bytes allowed at one place of a sequence, both ends included. -/
structure ByteRange where
  low : UInt8
  high : UInt8
  deriving DecidableEq

namespace ByteRange

def contains (range : ByteRange) (byte : UInt8) : Bool :=
  range.low ≤ byte && byte ≤ range.high

/-- The range of most bytes after the first. -/
def continuation : ByteRange := ⟨0x80, 0xBF⟩

end ByteRange

/-- What the first byte of a sequence announces: the bits it contributes to the
character, and the range of each byte to follow. -/
structure Announcement where
  bits : Nat
  following : List ByteRange

/-- The announcement of a first byte; none for a byte that begins no sequence. -/
def announcement? (byte : UInt8) : Option Announcement :=
  if byte < 0x80 then some ⟨byte.toNat, []⟩
  else if byte < 0xC2 then none
  else if byte < 0xE0 then some ⟨byte.toNat - 0xC0, [.continuation]⟩
  else if byte < 0xF0 then
    let second : ByteRange :=
      if byte = 0xE0 then ⟨0xA0, 0xBF⟩ else if byte = 0xED then ⟨0x80, 0x9F⟩ else .continuation
    some ⟨byte.toNat - 0xE0, [second, .continuation]⟩
  else if byte < 0xF5 then
    let second : ByteRange :=
      if byte = 0xF0 then ⟨0x90, 0xBF⟩ else if byte = 0xF4 then ⟨0x80, 0x8F⟩ else .continuation
    some ⟨byte.toNat - 0xF0, [second, .continuation, .continuation]⟩
  else none

/-- A piece of a byte string. -/
inductive Piece where
  /-- A well-formed sequence and the character it stands for. -/
  | scalar (character : Char)
  /-- A maximal ill-formed subpart. -/
  | illFormed
  deriving DecidableEq

namespace Piece

/-- The character shown for the piece. -/
def shown : Piece → Char
  | .scalar character => character
  | .illFormed => '\uFFFD'

/-- The character of a well-formed piece. -/
def scalar? : Piece → Option Char
  | .scalar character => some character
  | .illFormed => none

end Piece

/-- An unfinished sequence: the bits read so far, the range of the next byte, and
the ranges of the bytes after it. -/
structure Unfinished where
  bits : Nat
  expected : ByteRange
  later : List ByteRange

/-- Reads a byte at the start of a piece: the pieces it completes, and the
sequence it leaves unfinished. -/
def start (byte : UInt8) : List Piece × Option Unfinished :=
  match announcement? byte with
  | none => ([.illFormed], none)
  | some ⟨bits, []⟩ => ([.scalar (Char.ofNat bits)], none)
  | some ⟨bits, expected :: later⟩ => ([], some ⟨bits, expected, later⟩)

/-- Reads a byte inside an unfinished sequence.  A byte outside the expected
range ends the sequence as an ill-formed piece and starts the next one. -/
def Unfinished.extend (sequence : Unfinished) (byte : UInt8) : List Piece × Option Unfinished :=
  if sequence.expected.contains byte then
    let bits := sequence.bits * 64 + (byte.toNat - 0x80)
    match sequence.later with
    | [] => ([.scalar (Char.ofNat bits)], none)
    | expected :: later => ([], some ⟨bits, expected, later⟩)
  else
    let (pieces, next) := start byte
    (.illFormed :: pieces, next)

/-- The pieces of `bytes` when the automaton is at the start of a piece (`none`)
or inside an unfinished sequence. -/
def piecesFrom : Option Unfinished → Bytes → List Piece
  | none, [] => []
  | some _, [] => [.illFormed]
  | none, byte :: rest =>
    let (pieces, next) := start byte
    pieces ++ piecesFrom next rest
  | some sequence, byte :: rest =>
    let (pieces, next) := sequence.extend byte
    pieces ++ piecesFrom next rest

/-- The pieces of a byte string, from left to right. -/
def pieces (bytes : Bytes) : List Piece :=
  piecesFrom none bytes

/-- The text shown for a byte string. -/
def display (bytes : Bytes) : String :=
  String.ofList ((pieces bytes).map Piece.shown)

/-- The text of a byte string that is well-formed throughout. -/
def decode? (bytes : Bytes) : Option String :=
  ((pieces bytes).mapM Piece.scalar?).map String.ofList

/-- The bytes of a text. -/
def encode (text : String) : Bytes :=
  text.toList.flatMap String.utf8EncodeChar

end DemuxSession.Text.Utf8
