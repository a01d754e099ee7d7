/-!
# UTF-8

Encoding of characters as bytes, and the reading back. Reading splits any byte string into
characters and *flaws*: a flaw covers the longest run of bytes that begins a character without
completing one, or a single byte that cannot begin one. Strict reading stops at the first flaw and
says where it is; lenient reading puts U+FFFD in the place of each.
-/

namespace BusContract.Utf8

/-- The bytes of a text. -/
def encode (text : List Char) : List UInt8 :=
  text.flatMap String.utf8EncodeChar

/-- What is wrong with a run of bytes. -/
inductive Flaw where
  /-- The byte begins no character. -/
  | startByte
  /-- The byte after the run does not continue the character that the run begins. -/
  | continuationByte
  /-- The input ends inside a character. -/
  | truncated
  deriving Repr, DecidableEq

/-- What stands at the front of a byte string: a character or a flaw, with the number of bytes that
it takes beyond the first. -/
inductive Piece where
  | char (c : Char) (more : Nat)
  | flaw (why : Flaw) (more : Nat)
  deriving Repr, DecidableEq

/-- Does the byte continue a character? -/
def isContinuation (b : UInt8) : Bool := 0x80 ≤ b && b ≤ 0xbf

/-- The six bits that a continuation byte carries. -/
def payload (b : UInt8) : Nat := b.toNat % 0x40

/-- May `b` be the second byte of a character of three or four bytes begun by `lead`? The overlong
forms, the surrogates and the code points above U+10FFFF are excluded here. -/
def secondAllowed (lead b : UInt8) : Bool :=
  isContinuation b &&
    !(lead == 0xe0 && b < 0xa0) && !(lead == 0xed && b ≥ 0xa0) &&
    !(lead == 0xf0 && b < 0x90) && !(lead == 0xf4 && b ≥ 0x90)

/-- The piece at the front of `lead :: rest`. -/
def next (lead : UInt8) (rest : List UInt8) : Piece :=
  if lead < 0x80 then .char (Char.ofNat lead.toNat) 0
  else if lead < 0xc2 then .flaw .startByte 0
  else if lead < 0xe0 then
    match rest with
    | [] => .flaw .truncated 0
    | b :: _ =>
      if isContinuation b then .char (Char.ofNat (lead.toNat % 0x20 * 0x40 + payload b)) 1
      else .flaw .continuationByte 0
  else if lead < 0xf0 then
    match rest with
    | [] => .flaw .truncated 0
    | b :: rest =>
      if secondAllowed lead b then
        match rest with
        | [] => .flaw .truncated 1
        | c :: _ =>
          if isContinuation c then
            .char (Char.ofNat ((lead.toNat % 0x10 * 0x40 + payload b) * 0x40 + payload c)) 2
          else .flaw .continuationByte 1
      else .flaw .continuationByte 0
  else if lead < 0xf5 then
    match rest with
    | [] => .flaw .truncated 0
    | b :: rest =>
      if secondAllowed lead b then
        match rest with
        | [] => .flaw .truncated 1
        | c :: rest =>
          if isContinuation c then
            match rest with
            | [] => .flaw .truncated 2
            | d :: _ =>
              if isContinuation d then
                let front := (lead.toNat % 0x08 * 0x40 + payload b) * 0x40 + payload c
                .char (Char.ofNat (front * 0x40 + payload d)) 3
              else .flaw .continuationByte 2
          else .flaw .continuationByte 1
      else .flaw .continuationByte 0
  else .flaw .startByte 0

/-- The pieces of a byte string, in order. -/
def pieces : List UInt8 → List Piece
  | [] => []
  | lead :: rest =>
    let piece := next lead rest
    let more := match piece with
      | .char _ more => more
      | .flaw _ more => more
    piece :: pieces (rest.drop more)
termination_by bytes => bytes.length
decreasing_by simp only [List.length_drop, List.length_cons]; omega

/-- The first flaw of a byte string: its first byte, its place and its extent. -/
structure Fault where
  firstByte : UInt8
  /-- Offset of the first byte of the flaw. -/
  start : Nat
  /-- Offset of its last byte. -/
  last : Nat
  why : Flaw
  deriving Repr, DecidableEq

/-- Strict reading of the bytes that begin at offset `start`, giving the characters in reverse after
those already read. -/
def decodeFrom (start : Nat) (read : List Char) : List UInt8 → Except Fault (List Char)
  | [] => .ok read.reverse
  | lead :: rest =>
    match next lead rest with
    | .char c more => decodeFrom (start + 1 + more) (c :: read) (rest.drop more)
    | .flaw why more => .error ⟨lead, start, start + more, why⟩
termination_by bytes => bytes.length
decreasing_by simp only [List.length_drop, List.length_cons]; omega

/-- Strict reading: all characters, or the first flaw. -/
def decode (bytes : List UInt8) : Except Fault (List Char) :=
  decodeFrom 0 [] bytes

/-- Lenient reading: each flaw becomes one U+FFFD. -/
def decodeLenient (bytes : List UInt8) : List Char :=
  (pieces bytes).map fun
    | .char c _ => c
    | .flaw _ _ => '\ufffd'

/-- The wording of a flaw. -/
def Flaw.reason : Flaw → String
  | .startByte => "invalid start byte"
  | .continuationByte => "invalid continuation byte"
  | .truncated => "unexpected end of data"

/-- The message of a fault names the byte, or the range of bytes, and the reason. -/
def Fault.message (fault : Fault) : String :=
  if fault.start = fault.last then
    let digits := Nat.toDigits 16 fault.firstByte.toNat
    let byte := String.ofList (List.replicate (2 - digits.length) '0' ++ digits)
    s!"'utf-8' codec can't decode byte 0x{byte} in position {fault.start}: {fault.why.reason}"
  else
    s!"'utf-8' codec can't decode bytes in position {fault.start}-{fault.last}: {fault.why.reason}"

end BusContract.Utf8
