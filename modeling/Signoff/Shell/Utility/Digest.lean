import Signoff.Shell.Utility.Options

/-!
# Digests and printable forms of files

A digest of a file is a short number that hardly any other file shares. Three kinds cut the bytes
into blocks of 64 and stir each block into a few words; the last one is a remainder of polynomials.
-/

namespace Signoff.Shell

namespace Digest

/-- Turns the bits of a word to the left. -/
def turned (x : UInt32) (n : UInt32) : UInt32 := (x <<< n) ||| (x >>> (32 - n))

/-- Text with its length in bits at its end, in whole blocks of 64 bytes. -/
def filled (bigFirst : Bool) (bytes : List UInt8) : List UInt8 :=
  let size := bytes.length
  let gap := (119 - size % 64) % 64
  let length := (List.range 8).map fun k => UInt8.ofNat (8 * size / Nat.pow 256 k % 256)
  bytes ++ 128 :: List.replicate gap 0 ++ if bigFirst then length.reverse else length

/-- Bytes as words of four. -/
def wordsOf (bigFirst : Bool) : List UInt8 → List UInt32
  | a :: b :: c :: d :: rest =>
    let word (w x y z : UInt8) : UInt32 :=
      (w.toUInt32 <<< 24) ||| (x.toUInt32 <<< 16) ||| (y.toUInt32 <<< 8) ||| z.toUInt32
    (if bigFirst then word a b c d else word d c b a) :: wordsOf bigFirst rest
  | _ => []

/-- Rows of 16 words. -/
def blocksOf : Nat → List UInt32 → List (Array UInt32)
  | 0, _ => []
  | fuel + 1, ws => if ws.isEmpty then [] else (ws.take 16).toArray :: blocksOf fuel (ws.drop 16)

def blocks (bigFirst : Bool) (bytes : List UInt8) : List (Array UInt32) :=
  let ws := wordsOf bigFirst (filled bigFirst bytes)
  blocksOf (ws.length + 1) ws

def bytesOfWord (bigFirst : Bool) (x : UInt32) : List UInt8 :=
  let parts := [(x >>> 24).toUInt8, (x >>> 16).toUInt8, (x >>> 8).toUInt8, x.toUInt8]
  if bigFirst then parts else parts.reverse

def hexDigit (n : Nat) : Char := Char.ofNat (if n < 10 then 48 + n else 87 + n)

def hexText (bytes : List UInt8) : Octets :=
  bytes.flatMap fun b => [hexDigit (b.toNat / 16), hexDigit (b.toNat % 16)]

/-- The first 32 bits behind the point of the root of a number, for an exponent of the root. -/
def rootBits (power n : Nat) : UInt32 :=
  -- the greatest number whose power does not exceed the scaled number
  let scaled := n * Nat.pow 2 (32 * power)
  let root := (List.range 36).reverse.foldl (fun r k =>
    let next := r + Nat.pow 2 k
    if Nat.pow next power ≤ scaled then next else r) 0
  UInt32.ofNat (root % Nat.pow 2 32)

def isPrime (n : Nat) : Bool := 2 ≤ n && (List.range n).all fun k => k < 2 || n % k != 0

def primes : List Nat := (List.range 312).filter isPrime

/-! ## The first kind -/

def sineWord (k : Nat) : UInt32 :=
  UInt32.ofNat ((Float.sin (Float.ofNat (k + 1))).abs * 4294967296.0).floor.toUInt64.toNat

def firstTurns : List UInt32 :=
  let four (row : List UInt32) : List UInt32 := row ++ row ++ row ++ row
  four [7, 12, 17, 22] ++ four [5, 9, 14, 20] ++ four [4, 11, 16, 23] ++ four [6, 10, 15, 21]

def firstSteps : List (Nat × UInt32 × UInt32) :=
  (firstTurns.zipIdx).map fun (turn, k) => (k, turn, sineWord k)

abbrev Four := UInt32 × UInt32 × UInt32 × UInt32

def stirFirst (steps : List (Nat × UInt32 × UInt32)) (start : Four) (block : Array UInt32) : Four :=
  let (a, b, c, d) := steps.foldl (fun ((a, b, c, d) : Four) (k, turn, word) =>
    let (f, g) := if k < 16 then ((b &&& c) ||| (~~~b &&& d), k)
      else if k < 32 then ((d &&& b) ||| (~~~d &&& c), (5 * k + 1) % 16)
      else if k < 48 then (b ^^^ c ^^^ d, (3 * k + 5) % 16)
      else (c ^^^ (b ||| ~~~d), 7 * k % 16)
    let x := f + a + word + (block[g]?).getD 0
    (d, b + turned x turn, b, c)) start
  (start.1 + a, start.2.1 + b, start.2.2.1 + c, start.2.2.2 + d)

/-- The digest of 16 bytes. -/
def first (bytes : List UInt8) : List UInt8 :=
  let steps := firstSteps
  let (a, b, c, d) := (blocks false bytes).foldl (stirFirst steps)
    ((0x67452301, 0xefcdab89, 0x98badcfe, 0x10325476) : Four)
  [a, b, c, d].flatMap (bytesOfWord false)

/-! ## The second and third kind -/

/-- A block drawn out to more words, each from some in front of it. -/
def drawn (count : Nat) (next : Array UInt32 → Nat → UInt32) (block : Array UInt32) :
    Array UInt32 :=
  (List.range (count - 16)).foldl (fun ws k => ws.push (next ws (k + 16))) block

def at_ (ws : Array UInt32) (k : Nat) : UInt32 := (ws[k]?).getD 0

abbrev Five := UInt32 × UInt32 × UInt32 × UInt32 × UInt32

def stirSecond (start : Five) (block : Array UInt32) : Five :=
  let ws := drawn 80 (fun ws k =>
    turned (at_ ws (k - 3) ^^^ at_ ws (k - 8) ^^^ at_ ws (k - 14) ^^^ at_ ws (k - 16)) 1) block
  let (a, b, c, d, e) := (List.range 80).foldl (fun ((a, b, c, d, e) : Five) k =>
    let (f, word) : UInt32 × UInt32 :=
      if k < 20 then ((b &&& c) ||| (~~~b &&& d), 0x5a827999)
      else if k < 40 then (b ^^^ c ^^^ d, 0x6ed9eba1)
      else if k < 60 then ((b &&& c) ||| (b &&& d) ||| (c &&& d), 0x8f1bbcdc)
      else (b ^^^ c ^^^ d, 0xca62c1d6)
    (turned a 5 + f + e + word + at_ ws k, a, turned b 30, c, d)) start
  (start.1 + a, start.2.1 + b, start.2.2.1 + c, start.2.2.2.1 + d, start.2.2.2.2 + e)

/-- The digest of 20 bytes. -/
def second (bytes : List UInt8) : List UInt8 :=
  let (a, b, c, d, e) := (blocks true bytes).foldl stirSecond
    ((0x67452301, 0xefcdab89, 0x98badcfe, 0x10325476, 0xc3d2e1f0) : Five)
  [a, b, c, d, e].flatMap (bytesOfWord true)

def stirThird (constants : List UInt32) (start : Array UInt32) (block : Array UInt32) :
    Array UInt32 :=
  let back (x n : UInt32) : UInt32 := turned x (32 - n)
  let ws := drawn 64 (fun ws k =>
    let x := at_ ws (k - 15)
    let y := at_ ws (k - 2)
    at_ ws (k - 16) + (back x 7 ^^^ back x 18 ^^^ (x >>> 3)) + at_ ws (k - 7) +
      (back y 17 ^^^ back y 19 ^^^ (y >>> 10))) block
  let stirred := (constants.zipIdx).foldl (fun (h : Array UInt32) (word, k) =>
    let (a, b, c, e, f, g) := (at_ h 0, at_ h 1, at_ h 2, at_ h 4, at_ h 5, at_ h 6)
    let x := at_ h 7 + (back e 6 ^^^ back e 11 ^^^ back e 25) + ((e &&& f) ^^^ (~~~e &&& g)) +
      word + at_ ws k
    let y := (back a 2 ^^^ back a 13 ^^^ back a 22) + ((a &&& b) ^^^ (a &&& c) ^^^ (b &&& c))
    #[x + y, a, b, c, at_ h 3 + x, e, f, g]) start
  (start.zip stirred).map fun (x, y) => x + y

/-- The digest of 32 bytes. -/
def third (bytes : List UInt8) : List UInt8 :=
  let constants := primes.map (rootBits 3)
  let start := ((primes.take 8).map (rootBits 2)).toArray
  ((blocks true bytes).foldl (stirThird constants) start).toList.flatMap (bytesOfWord true)

/-! ## The remainder of polynomials -/

def shiftRemainder (remainder : UInt32) (byte : UInt8) : UInt32 :=
  (List.range 8).foldl (fun (r : UInt32) _ =>
    if r &&& 0x80000000 = 0 then r <<< 1 else (r <<< 1) ^^^ 0x04c11db7)
    (remainder ^^^ (byte.toUInt32 <<< 24))

/-- The bytes of a number, the lowest first. -/
def bytesOfCount (fuel n : Nat) : List UInt8 :=
  match fuel with
  | 0 => []
  | fuel + 1 => if n = 0 then [] else UInt8.ofNat (n % 256) :: bytesOfCount fuel (n / 256)

def remainder (bytes : List UInt8) : Nat :=
  (~~~((bytes ++ bytesOfCount 9 bytes.length).foldl shiftRemainder 0)).toNat

end Digest

namespace Utility

def digestKinds : OptionKinds :=
  ⟨"bctw", "", [("binary", 'b'), ("check", 'c'), ("tag", 'T'), ("text", 't'), ("quiet", 'q'),
    ("status", 's'), ("warn", 'w')]⟩

/-- One line of a list of digests is right. -/
def checkLine (d : Desk) (digest : List UInt8 → List UInt8) (line : Octets) :
    Option (Octets × Except Fault Bool) :=
  let wanted := line.takeWhile (· != ' ')
  let name := line.drop (wanted.length + 2)
  if name.isEmpty then none
  else some (name, (d.content name).map fun cs =>
    Digest.hexText (digest (bytesOf cs)) == wanted.map Char.toLower)

def checkDigests (d : Desk) (utility : String) (digest : List UInt8 → List UInt8) (o : Options)
    (list : Octets) : Ended :=
  let lines := (linesOf list).filterMap (checkLine d digest)
  let shown := lines.flatMap fun (name, r) => match r with
    | .ok true => if o.has 'q' || o.has 's' then [] else name ++ octets ": OK\n"
    | .ok false => if o.has 's' then [] else name ++ octets ": FAILED\n"
    | .error _ => if o.has 's' then [] else name ++ octets ": FAILED open or read\n"
  let missing := lines.filterMap fun (name, r) => match r with
    | .error fault => some (aboutFile utility name fault ++ ['\n'])
    | _ => none
  let wrong := lines.countP fun (_, r) => match r with
    | .ok fits => !fits
    | .error _ => false
  let counted (n : Nat) (one many : String) : Octets :=
    if n = 0 || o.has 's' then []
    else octets s!"{utility}: WARNING: {n} " ++ octets (if n = 1 then one else many) ++ ['\n']
  (d.done shown (if wrong = 0 && missing.isEmpty then 0 else 1)).warn (missing.flatten ++
    counted missing.length "listed file could not be read" "listed files could not be read" ++
    counted wrong "computed checksum did NOT match" "computed checksums did NOT match")

/-- Prints the digests of files, or checks such a list. -/
def digests (d : Desk) (utility title : String) (digest : List UInt8 → List UInt8)
    (args : List Octets) : Ended :=
  digestKinds.use d utility 1 args fun o =>
    let names := Desk.orInput o.operands
    d.gather names (names.map fun name => match d.content name with
      | .error fault => d.complain (aboutFile utility name fault) 1
      | .ok cs =>
        if o.has 'c' then checkDigests d utility digest o cs
        else
          let text := Digest.hexText (digest (bytesOf cs))
          d.done (if o.has 'T' then octets s!"{title} (" ++ name ++ octets ") = " ++ text ++ ['\n']
            else text ++ (if o.has 'b' then [' ', '*'] else [' ', ' ']) ++ name ++ ['\n']) 0)

/-- Prints remainders and sizes of files. -/
def cksum (d : Desk) (args : List Octets) : Ended :=
  (⟨"", "", []⟩ : OptionKinds).use d "cksum" 1 args fun o =>
  let args := o.operands
  let names := Desk.orInput args
  d.gather names (names.map fun name => match d.content name with
    | .error fault => d.complain (aboutFile "cksum" name fault) 1
    | .ok cs =>
      let title := if args.isEmpty then [] else ' ' :: name
      d.done (Text.digitsOf (Digest.remainder (bytesOf cs)) ++ ' ' :: Text.digitsOf cs.length ++
        title ++ ['\n']) 0)

/-! ## Printable forms -/

def letters64 : Octets :=
  "ABCDEFGHIJKLMNOPQRSTUVWXYZabcdefghijklmnopqrstuvwxyz0123456789+/".toList

/-- Three bytes become four letters. -/
def encode64 : List UInt8 → Octets
  | [] => []
  | a :: rest =>
    let n := a.toNat * 65536 + (rest[0]?.getD 0).toNat * 256 + (rest[1]?.getD 0).toNat
    let letter (k : Nat) : Char := (letters64[n / Nat.pow 64 k % 64]?).getD '='
    match rest with
    | [] => [letter 3, letter 2, '=', '=']
    | [_] => [letter 3, letter 2, letter 1, '=']
    | _ :: _ :: more => letter 3 :: letter 2 :: letter 1 :: letter 0 :: encode64 more

/-- Four letters become up to three bytes; the text up to what is no such row, and whether all of it
was taken. -/
def decode64 : Octets → Octets × Bool
  | [] => ([], true)
  | a :: b :: c :: d :: rest =>
    match letters64.idxOf? a, letters64.idxOf? b with
    | some i, some j =>
      let byte (n : Nat) : Char := Char.ofNat (n % 256)
      let front := byte (i * 4 + j / 16)
      match letters64.idxOf? c, letters64.idxOf? d with
      | some k, some l =>
        let (more, fine) := decode64 rest
        (front :: byte (j * 16 + k / 4) :: byte (k * 64 + l) :: more, fine)
      | some k, none =>
        if d = '=' then
          let (more, fine) := decode64 rest
          (front :: byte (j * 16 + k / 4) :: more, fine)
        else ([front, byte (j * 16 + k / 4)], false)
      | none, _ =>
        if c = '=' && d = '=' then
          let (more, fine) := decode64 rest
          (front :: more, fine)
        else ([front], false)
    | _, _ => ([], false)
  | [a, b, c] =>
    match letters64.idxOf? a, letters64.idxOf? b, letters64.idxOf? c with
    | some i, some j, some k =>
      ([Char.ofNat ((i * 4 + j / 16) % 256), Char.ofNat ((j * 16 + k / 4) % 256)], false)
    | _, _, _ => ([], false)
  | [a, b] =>
    match letters64.idxOf? a, letters64.idxOf? b with
    | some i, some j => ([Char.ofNat ((i * 4 + j / 16) % 256)], false)
    | _, _ => ([], false)
  | _ => ([], false)

/-- Cuts a text into rows. -/
def rows (width : Nat) : Nat → Octets → List Octets
  | 0, _ => []
  | fuel + 1, cs => if cs.isEmpty then [] else cs.take width :: rows width fuel (cs.drop width)

def base64Kinds : OptionKinds :=
  ⟨"di", "w", [("decode", 'd'), ("ignore-garbage", 'i'), ("wrap", 'w')]⟩

def base64 (d : Desk) (args : List Octets) : Ended :=
  base64Kinds.use d "base64" 1 args fun o =>
    let names := Desk.orInput o.operands
    d.refuseExtra "base64" 1 1 o.operands <| match d.content (names.head?.getD ['-']) with
    | .error fault => d.complain (aboutFile "base64" (names.head?.getD []) fault) 1
    | .ok cs =>
      let e : Ended := if o.has 'd' then
          let letters := cs.filter fun c =>
            if o.has 'i' then letters64.contains c || c == '=' else c != '\n'
          let (text, fine) := decode64 letters
          (d.done text (if fine then 0 else 1)).warn
            (if fine then [] else octets "base64: invalid input\n")
        else
          let text := encode64 (bytesOf cs)
          let width := ((o.value? 'w').bind count?).getD 76
          d.done (if width = 0 then text else unlines (rows width (text.length + 1) text)) 0
      { e with restOfInput := d.inputAfter names }

end Utility

end Signoff.Shell
