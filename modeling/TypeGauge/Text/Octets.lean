import TypeGauge.Text.Digit

/-!
# Texts in octets

Files hold texts in the eight-bit encoding of the character standard.  Decoding
refuses the first sequence of octets that encodes no character and says which
octets those are and what is wrong with them: the first octet starts no
character, a later one does not continue it, or the file ends too early.
-/

namespace TypeGauge.Text.Octets

/-- What is wrong with a sequence of octets. -/
inductive Cause where
  | start
  | continuation
  | ending
deriving DecidableEq, Repr, Inhabited

/-- The wording of a cause. -/
def Cause.message : Cause → String
  | .start => "invalid start byte"
  | .continuation => "invalid continuation byte"
  | .ending => "unexpected end of data"

/-- A sequence of octets that encodes no character. -/
structure Fault where
  /-- The offset of the first octet. -/
  offset : Nat
  /-- The first octet. -/
  first : UInt8
  /-- How many octets are meant. -/
  count : Nat
  cause : Cause
deriving DecidableEq, Repr, Inhabited

/-- The wording of a fault. -/
def Fault.message (fault : Fault) : String :=
  let place :=
    if fault.count == 1 then
      "byte 0x" ++ Digit.hexadecimal 2 fault.first.toNat ++ " in position " ++
        toString fault.offset
    else
      "bytes in position " ++ toString fault.offset ++ "-" ++
        toString (fault.offset + fault.count - 1)
  "'utf-8' codec can't decode " ++ place ++ ": " ++ fault.cause.message

/-- Whether an octet continues a character. -/
def continues (octet : UInt8) : Bool :=
  0x80 ≤ octet && octet ≤ 0xBF

/-- Whether the second octet may follow the first: it excludes overlong forms and surrogates. -/
def mayFollow (first second : UInt8) : Bool :=
  continues second &&
    !(first == 0xE0 && second < 0xA0) && !(first == 0xED && 0xA0 ≤ second) &&
    !(first == 0xF0 && second < 0x90) && !(first == 0xF4 && 0x90 ≤ second)

/-- The low six bits of a continuing octet. -/
def payload (octet : UInt8) : Nat :=
  octet.toNat % 64

/-- How many octets a character has that starts with the given one, zero for none. -/
def lengthFrom (first : UInt8) : Nat :=
  if first < 0x80 then 1
  else if first < 0xC2 then 0
  else if first < 0xE0 then 2
  else if first < 0xF0 then 3
  else if first < 0xF5 then 4
  else 0

/-- The character whose octets stand at the front, with its number of octets, or what is wrong. -/
def front (first : UInt8) (rest : List UInt8) : Except (Nat × Cause) (Char × Nat) :=
  let lead := first.toNat
  match lengthFrom first, rest with
  | 0, _ => .error (1, .start)
  | 1, _ => .ok (Char.ofNat lead, 1)
  | _, [] => .error (1, .ending)
  | 2, second :: _ =>
      if continues second then .ok (Char.ofNat (lead % 32 * 64 + payload second), 2)
      else .error (1, .continuation)
  | _, second :: rest =>
      if !mayFollow first second then .error (1, .continuation)
      else
        match lengthFrom first, rest with
        | _, [] => .error (2, .ending)
        | 3, third :: _ =>
            if continues third then
              .ok (Char.ofNat (lead % 16 * 4096 + payload second * 64 + payload third), 3)
            else .error (2, .continuation)
        | _, third :: rest =>
            if !continues third then .error (2, .continuation)
            else
              match rest with
              | [] => .error (3, .ending)
              | fourth :: _ =>
                  if continues fourth then
                    .ok (Char.ofNat (lead % 8 * 262144 + payload second * 4096 +
                      payload third * 64 + payload fourth), 4)
                  else .error (3, .continuation)

/-- Decode from an offset; the octets still to be skipped belong to the character just read. -/
def decodeFrom : (offset skip : Nat) → (done : List Char) → List UInt8 → Except Fault (List Char)
  | _, _, done, [] => .ok done.reverse
  | offset, skip + 1, done, _ :: rest => decodeFrom (offset + 1) skip done rest
  | offset, 0, done, first :: rest =>
      match front first rest with
      | .ok (character, size) => decodeFrom (offset + 1) (size - 1) (character :: done) rest
      | .error (count, cause) => .error ⟨offset, first, count, cause⟩

/-- Decode a sequence of octets. -/
def decode (octets : List UInt8) : Except Fault (List Char) :=
  decodeFrom 0 0 [] octets

/-- Replace each kind of line ending by a single line feed, from the front. -/
def unifyLinesFrom : (done : List Char) → List Char → List Char
  | done, [] => done.reverse
  | done, '\r' :: '\n' :: rest => unifyLinesFrom ('\n' :: done) rest
  | done, character :: rest =>
      unifyLinesFrom ((if character == '\r' then '\n' else character) :: done) rest

/-- Replace each kind of line ending by a single line feed. -/
def unifyLines (characters : List Char) : List Char :=
  unifyLinesFrom [] characters

/-- Decode a file's octets as text with unified line endings. -/
def decodeText (octets : List UInt8) : Except Fault (List Char) :=
  (decode octets).map unifyLines

end TypeGauge.Text.Octets
