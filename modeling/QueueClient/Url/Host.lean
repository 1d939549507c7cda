/-
# Hosts

The host of a URL is a name or an address.  Addresses are kept as numbers: four bytes make one
number, sixteen bytes eight.  An address of the second kind is written with its longest run of
two or more zeros left out.
-/
import QueueClient.Url.Percent

namespace QueueClient

/-- What a URL names as its host. -/
inductive Host where
  /-- A name, possibly empty. -/
  | domain (name : String)
  /-- An address of 32 bits. -/
  | ipv4 (address : Nat)
  /-- An address of eight 16-bit numbers. -/
  | ipv6 (numbers : List Nat)
deriving DecidableEq, Inhabited

namespace Host

/-! ## Addresses of 32 bits -/

/-- A number in an address: decimal, octal behind `0`, hexadecimal behind `0x`. -/
def ipv4Number? (cs : List Char) : Option Nat :=
  match cs with
  | [] => none
  | '0' :: 'x' :: rest => Text.numeral? 16 rest
  | '0' :: 'X' :: rest => Text.numeral? 16 rest
  | '0' :: c :: rest => Text.numeral? 8 (c :: rest)
  | _ => Text.numeral? 10 cs

/-- Whether the last label of a name makes it an address or a failed one. -/
def endsInNumber (cs : List Char) : Bool :=
  let labels := (cs.splitOn '.').reverse
  let check := fun (last : List Char) =>
    (!last.isEmpty && last.all Char.isDigit) || (ipv4Number? last).isSome
  match labels with
  | [] :: last :: _ => check last
  | [[]] => false
  | last :: _ => check last
  | [] => false

/-- The address that dotted numbers stand for: each but the last is a byte, the last fills what is
left. -/
def ipv4? (cs : List Char) : Option Nat := do
  let labels := cs.splitOn '.'
  let labels := if labels.getLast? = some [] then labels.dropLast else labels
  if labels.length > 4 then none
  let numbers ← labels.mapM ipv4Number?
  let last ← numbers.getLast?
  let front := numbers.dropLast
  if front.any (255 < ·) then none
  if last ≥ Nat.pow 256 (4 - front.length) then none
  some (front.zipIdx.foldl (fun acc (n, i) => acc + n * Nat.pow 256 (3 - i)) last)

/-- The dotted form. -/
def ipv4Text (a : Nat) : String :=
  ".".intercalate
    ([a / 16_777_216 % 256, a / 65_536 % 256, a / 256 % 256, a % 256].map fun n => toString n)

/-! ## Addresses of 128 bits -/

/-- Four dotted decimal bytes without leading zeros, as two 16-bit numbers. -/
def ipv4Tail? (cs : List Char) : Option (List Nat) := do
  let parts := cs.splitOn '.'
  let bytes ← parts.mapM fun p => do
    if p.isEmpty || p.length > 3 || (p.length > 1 && p.head? == some '0') then none
    if !p.all Char.isDigit then none
    let n ← Text.numeral? 10 p
    if n ≤ 255 then some n else none
  match bytes with
  | [a, b, c, d] => some [a * 256 + b, c * 256 + d]
  | _ => none

/-- The numbers of an address.  `numbers` are those read so far, latest first; `gap` is how many
of them stood up to the double colon, whose own zero is counted. -/
def ipv6Numbers? (numbers : List Nat) (gap : Option Nat) :
    Nat → List Char → Option (List Nat × Option Nat)
  | 0, _ => none
  | _ + 1, [] => some (numbers.reverse, gap)
  | fuel + 1, cs =>
    if numbers.length = 8 then none
    else if cs.head? = some ':' then
      if gap.isSome then none
      else ipv6Numbers? (0 :: numbers) (some (numbers.length + 1)) fuel cs.tail
    else
      let digits := (cs.take 4).takeWhile Text.isHexDigit
      let rest := cs.drop digits.length
      match rest with
      | '.' :: _ =>
        if digits.isEmpty || numbers.length > 6 then none
        else (ipv4Tail? cs).map fun tail => (numbers.reverse ++ tail, gap)
      | ':' :: [] => none
      | ':' :: rest' =>
        if digits.isEmpty then none
        else do
          let n ← Text.numeral? 16 digits
          ipv6Numbers? (n :: numbers) gap fuel rest'
      | [] => do
          let n ← Text.numeral? 16 digits
          some ((n :: numbers).reverse, gap)
      | _ => none

/-- The address that colon-separated hexadecimal numbers stand for. -/
def ipv6? (cs : List Char) : Option (List Nat) := do
  let (numbers, gap) ←
    match cs with
    | ':' :: ':' :: rest => ipv6Numbers? [0] (some 1) (rest.length + 1) rest
    | ':' :: _ => none
    | _ => ipv6Numbers? [] none (cs.length + 1) cs
  match gap with
  | some g =>
    some (numbers.take g ++ List.replicate (8 - numbers.length) 0 ++ numbers.drop g)
  | none => if numbers.length = 8 then some numbers else none

/-- The longest run of at least two zeros, the first of equally long ones: its start and length. -/
def longestZeros (numbers : List Nat) : Option (Nat × Nat) :=
  let runs := (List.range numbers.length).map fun i =>
    (i, ((numbers.drop i).takeWhile (· == 0)).length)
  let best := runs.foldl (fun (b : Nat × Nat) r => if r.2 > b.2 then r else b) (0, 1)
  if best.2 ≥ 2 then some best else none

/-- The colon-separated form. -/
def ipv6Text (numbers : List Nat) : String :=
  let hex := fun (ns : List Nat) =>
    ":".intercalate (ns.map fun n => String.ofList (Nat.toDigits 16 n))
  match longestZeros numbers with
  | some (start, len) => hex (numbers.take start) ++ "::" ++ hex (numbers.drop (start + len))
  | none => hex numbers

/-- The host as it stands in a URL. -/
def text : Host → String
  | domain name => name
  | ipv4 a => ipv4Text a
  | ipv6 ns => "[" ++ ipv6Text ns ++ "]"

end Host

end QueueClient
