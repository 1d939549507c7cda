/-
# UTF-8

Texts as bytes and back.  Reading cuts the bytes into characters and malformed pieces, each
malformed piece being as long as it could still have become a character; a strict reader
refuses such pieces and a lenient one shows the replacement character for each.
-/

namespace QueueClient.Utf8

/-- The bytes of a text. -/
def encode (s : String) : List UInt8 := s.toList.flatMap String.utf8EncodeChar

/-- How many bytes the character has that starts with this byte; zero if none does. -/
def width (b : UInt8) : Nat :=
  if b < 0x80 then 1
  else if b < 0xc2 then 0
  else if b < 0xe0 then 2
  else if b < 0xf0 then 3
  else if b < 0xf5 then 4
  else 0

/-- Whether a byte continues a character. -/
def isContinuation (b : UInt8) : Bool := 0x80 ≤ b && b ≤ 0xbf

/-- Whether `c` may stand second in the character that `b` starts: no longer form than needed, no
surrogate, nothing beyond the last code point. -/
def isSecond (b c : UInt8) : Bool :=
  isContinuation c &&
    (if b == 0xe0 then 0xa0 ≤ c
      else if b == 0xed then c ≤ 0x9f
      else if b == 0xf0 then 0x90 ≤ c
      else if b == 0xf4 then c ≤ 0x8f
      else true)

/-- The six bits that a continuation byte carries. -/
def payload (b : UInt8) : Nat := b.toNat % 64

/-- The character that starts with `b` and goes on with bytes of `rest`, or `none` if that is
malformed; with it, how many bytes of `rest` belong to the character or malformed piece. -/
def first (b : UInt8) (rest : List UInt8) : Option Char × Nat :=
  match width b, rest with
  | 1, _ => (some (Char.ofNat b.toNat), 0)
  | 2, c :: _ =>
    if isSecond b c then (some (Char.ofNat (b.toNat % 32 * 64 + payload c)), 1) else (none, 0)
  | 3, c :: rest' =>
    if isSecond b c then
      match rest' with
      | d :: _ =>
        if isContinuation d then
          (some (Char.ofNat (b.toNat % 16 * 4096 + payload c * 64 + payload d)), 2)
        else (none, 1)
      | [] => (none, 1)
    else (none, 0)
  | 4, c :: rest' =>
    if isSecond b c then
      match rest' with
      | d :: rest'' =>
        if isContinuation d then
          match rest'' with
          | e :: _ =>
            if isContinuation e then
              (some (Char.ofNat
                (b.toNat % 8 * 262144 + payload c * 4096 + payload d * 64 + payload e)), 3)
            else (none, 2)
          | [] => (none, 2)
        else (none, 1)
      | [] => (none, 1)
    else (none, 0)
  | _, _ => (none, 0)

/-- The characters of a byte sequence, with `none` for each malformed piece. -/
def scan : List UInt8 → List (Option Char)
  | [] => []
  | b :: rest => (first b rest).1 :: scan (rest.drop (first b rest).2)
termination_by bytes => bytes.length
decreasing_by
  simp only [List.length_drop, List.length_cons]
  omega

/-- The text that bytes spell, if they are well formed. -/
def decode? (bytes : List UInt8) : Option String :=
  ((scan bytes).mapM id).map String.ofList

/-- The text that bytes spell, with the replacement character for each malformed piece. -/
def decodeLossy (bytes : List UInt8) : String :=
  String.ofList ((scan bytes).map (·.getD '\ufffd'))

end QueueClient.Utf8
