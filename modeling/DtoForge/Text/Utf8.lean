import DtoForge.Text.Quoted

/-!
Texts as UTF-8 bytes. Decoding stops at the first ill-formed sequence and tells which bytes
cannot be decoded and why; it never gives a surrogate, so what a file holds is a string. A text
read from a file has its line ends unified. Encoding stops at the first surrogate.
-/

namespace DtoForge.Text

inductive Utf8Cause
  | invalidStart
  | invalidContinuation
  | unexpectedEnd
  deriving Repr, DecidableEq

/-- The first bytes that do not decode: `count` bytes from `position` on, the first being
`byte`. -/
structure Utf8Fault where
  cause : Utf8Cause
  position : Nat
  count : Nat
  byte : UInt8
  deriving Repr, DecidableEq

namespace Utf8Fault

def causeText : Utf8Cause → Text
  | .invalidStart => "invalid start byte"
  | .invalidContinuation => "invalid continuation byte"
  | .unexpectedEnd => "unexpected end of data"

def message (fault : Utf8Fault) : Text :=
  if fault.count = 1 then
    "'utf-8' codec can't decode byte 0x" ++ ofChars (hexDigits 2 fault.byte.toNat) ++
      " in position " ++ toString fault.position ++ ": " ++ causeText fault.cause
  else
    "'utf-8' codec can't decode bytes in position " ++ toString fault.position ++ "-" ++
      toString (fault.position + fault.count - 1) ++ ": " ++ causeText fault.cause

end Utf8Fault

def isContinuation (byte : UInt8) : Bool := 0x80 ≤ byte && byte < 0xc0

/-- The second bytes that may follow a lead byte: neither overlong forms, nor surrogates, nor
code points past the last plane. -/
def secondAllowed (lead second : UInt8) : Bool :=
  isContinuation second &&
    !(lead == 0xe0 && second < 0xa0) && !(lead == 0xed && 0xa0 ≤ second) &&
    !(lead == 0xf0 && second < 0x90) && !(lead == 0xf4 && 0x90 ≤ second)

def continuationCount? (lead : UInt8) : Option Nat :=
  if 0xc2 ≤ lead && lead < 0xe0 then some 1
  else if 0xe0 ≤ lead && lead < 0xf0 then some 2
  else if 0xf0 ≤ lead && lead < 0xf5 then some 3
  else none

def payload (byte : UInt8) : Nat := byte.toNat % 64

/-- Decodes the bytes from `position` on; `decoded` holds the earlier characters, last first. -/
def decodeUtf8From (position : Nat) (decoded : List Char) :
    List UInt8 → Except Utf8Fault (List Char)
  | [] => .ok decoded.reverse
  | lead :: rest =>
    let fault (cause : Utf8Cause) (count : Nat) : Except Utf8Fault (List Char) :=
      .error ⟨cause, position, count, lead⟩
    if lead < 0x80 then decodeUtf8From (position + 1) (Char.ofNat lead.toNat :: decoded) rest
    else
      match continuationCount? lead, rest with
      | none, _ => fault .invalidStart 1
      | some _, [] => fault .unexpectedEnd 1
      | some 1, second :: rest =>
        if secondAllowed lead second then
          let code := lead.toNat % 32 * 64 + payload second
          decodeUtf8From (position + 2) (Char.ofNat code :: decoded) rest
        else fault .invalidContinuation 1
      | some 2, second :: rest =>
        if secondAllowed lead second then
          match rest with
          | [] => fault .unexpectedEnd 2
          | third :: rest =>
            if isContinuation third then
              let code := (lead.toNat % 16 * 64 + payload second) * 64 + payload third
              decodeUtf8From (position + 3) (Char.ofNat code :: decoded) rest
            else fault .invalidContinuation 2
        else fault .invalidContinuation 1
      | some _, second :: rest =>
        if secondAllowed lead second then
          match rest with
          | [] => fault .unexpectedEnd 2
          | third :: rest =>
            if isContinuation third then
              match rest with
              | [] => fault .unexpectedEnd 3
              | fourth :: rest =>
                if isContinuation fourth then
                  let code := ((lead.toNat % 8 * 64 + payload second) * 64 + payload third) * 64 +
                    payload fourth
                  decodeUtf8From (position + 4) (Char.ofNat code :: decoded) rest
                else fault .invalidContinuation 3
            else fault .invalidContinuation 2
        else fault .invalidContinuation 1

/-- Every line end, be it a carriage return, a line feed or both, becomes one line feed. -/
def unifyLineEnds : List Char → List Char
  | [] => []
  | '\r' :: '\n' :: rest => '\n' :: unifyLineEnds rest
  | '\r' :: rest => '\n' :: unifyLineEnds rest
  | c :: rest => c :: unifyLineEnds rest

def decodeFile (bytes : List UInt8) : Except Utf8Fault String :=
  (decodeUtf8From 0 [] bytes).map fun chars => String.ofList (unifyLineEnds chars)

/-- The first code point without bytes, and how many surrogates stand in a row from there. -/
structure EncodeFault where
  point : CodePoint
  position : Nat
  count : Nat
  deriving Repr, DecidableEq

def EncodeFault.message (fault : EncodeFault) : Text :=
  if fault.count = 1 then
    "'utf-8' codec can't encode character '" ++ ofChars (codeEscape fault.point.toNat) ++
      "' in position " ++ toString fault.position ++ ": surrogates not allowed"
  else
    "'utf-8' codec can't encode characters in position " ++ toString fault.position ++ "-" ++
      toString (fault.position + fault.count - 1) ++ ": surrogates not allowed"

def isCharacter : CodePoint → Bool := CodePoint.isChar fun _ => true

/-- A surrogate that stands for one byte which is no UTF-8, as the names of files have them. -/
def isByteEscape : CodePoint → Bool
  | .char _ => false
  | .surrogate offset => 0x480 ≤ offset.val && offset.val < 0x500

/-- What keeps a text from being encoded, counted from `position`. -/
def encodeFault? (hasBytes : CodePoint → Bool) (position : Nat) :
    List CodePoint → Option EncodeFault
  | [] => none
  | c :: rest =>
    if hasBytes c then encodeFault? hasBytes (position + 1) rest
    else some ⟨c, position, 1 + (rest.takeWhile (!isCharacter ·)).length⟩

/-- An escaped byte is the last byte of its code. -/
def pointBytes : CodePoint → List UInt8
  | .char c => String.utf8EncodeChar c
  | .surrogate offset => [UInt8.ofNat offset.val]

def byteCount (text : Text) : Nat := (text.toList.flatMap pointBytes).length

def encodeUtf8 (text : Text) : Except EncodeFault (List UInt8) :=
  match encodeFault? isCharacter 0 text.toList with
  | some fault => .error fault
  | none => .ok (text.toList.flatMap pointBytes)

/-- The bytes of a text that has no surrogates by its type. -/
def stringBytes (string : String) : List UInt8 := string.toList.flatMap String.utf8EncodeChar

theorem encode_fault_eq_none_iff (hasBytes : CodePoint → Bool) (position : Nat)
    (points : List CodePoint) :
    encodeFault? hasBytes position points = none ↔ ∀ c ∈ points, hasBytes c = true := by
  induction points generalizing position with
  | nil => simp [encodeFault?]
  | cons c rest induction =>
      rw [encodeFault?, List.forall_mem_cons]
      cases hasBytes c with
      | false => simp
      | true => simpa using induction (position + 1)

theorem encode_error_iff {text : Text} :
    (∃ fault, encodeUtf8 text = .error fault) ↔ ∃ offset, .surrogate offset ∈ text.toList := by
  have whole := encode_fault_eq_none_iff isCharacter 0 text.toList
  unfold encodeUtf8
  cases found : encodeFault? isCharacter 0 text.toList with
  | none =>
      refine iff_of_false (fun ⟨fault, impossible⟩ => nomatch impossible) ?_
      rintro ⟨offset, held⟩
      cases whole.mp found _ held
  | some fault =>
      refine iff_of_true ⟨fault, rfl⟩ ?_
      rw [found] at whole
      apply Classical.byContradiction
      intro characters
      cases whole.mpr fun c held =>
        match c with
        | .char d => rfl
        | .surrogate offset => absurd ⟨offset, held⟩ characters

end DtoForge.Text
