import InlineRemote.Text.Parts

/-! # Digests of data

Data is filled up to whole blocks, its length in bits at the end; a digest is what the blocks make of a
row of words, one after the other.  The constants are the first bits of roots of primes and of sines,
and are computed exactly. -/
namespace InlineRemote.Shell

namespace Digest

def root (power bits n : Nat) : Nat :=
  (List.range bits).reverse.foldl (fun r i => if (r + 1 <<< i).pow power ≤ n then r + 1 <<< i else r) 0

def fraction (power bits n : Nat) : Nat :=
  root power (bits + 16) (n <<< (power * bits)) % 1 <<< bits

def primes : List Nat :=
  ((List.range 410).drop 2).filter fun n => ((List.range n).drop 2).all fun d => n % d ≠ 0

def plus (bits : Nat) (xs : List Nat) : Nat :=
  xs.foldl (· + ·) 0 % 1 <<< bits

def turned (bits k x : Nat) : Nat :=
  (x <<< k) % 1 <<< bits ||| x >>> (bits - k)

def inverse (bits x : Nat) : Nat :=
  1 <<< bits - 1 - x

def choose (bits x y z : Nat) : Nat :=
  (x &&& y) ^^^ (inverse bits x &&& z)

def majority (x y z : Nat) : Nat :=
  (x &&& y) ^^^ (x &&& z) ^^^ (y &&& z)

def bytes : Nat → Nat → List Nat
  | 0, _ => []
  | n + 1, x => x % 256 :: bytes n (x / 256)

def ofBytes (bs : List Nat) : Nat :=
  bs.foldr (fun b n => b + 256 * n) 0

/-- How words are written. -/
structure Words where
  bits : Nat
  /-- Whether the lowest byte of a word is the first one. -/
  lowFirst : Bool

namespace Words

def write (w : Words) (x : Nat) : List Nat :=
  let bs := bytes (w.bits / 8) x
  if w.lowFirst then bs else bs.reverse

def read (w : Words) (bs : List Nat) : Nat :=
  ofBytes (if w.lowFirst then bs else bs.reverse)

/-- The blocks of data, each of sixteen words.  After the data come a one, noughts, and its length in
bits. -/
def blocks (w : Words) (s : List Nat) : List (List Nat) :=
  let size := 2 * w.bits
  let tail := w.bits / 4
  let room := (size - (s.length + 1 + tail) % size) % size
  let length := bytes tail (8 * s.length)
  let whole := s ++ [128] ++ List.replicate room 0 ++ if w.lowFirst then length else length.reverse
  (Text.parts size whole).map fun b => (Text.parts (w.bits / 8) b).map w.read

end Words

/-! ## Four or five words with one schedule -/

/-- So many sines of whole numbers, as their first 32 bits without sign; the bits of the numbers that
are summed up leave room for them. -/
def sines (count : Nat) : List Nat :=
  let unit : Int := (1 <<< 256 : Nat)
  let sine (x : Nat) : Int :=
    let step (acc : Int × Int) (k : Nat) : Int × Int :=
      let (sum, term) := acc
      (sum + term, -(term * (x * x : Nat)) / (((2 * k + 2) * (2 * k + 3) : Nat) : Int))
    ((List.range 200).foldl step (0, unit * x)).1
  (List.range count).map fun i => (sine (i + 1)).natAbs <<< 32 >>> 256

def startWords : List Nat :=
  [0x67452301, 0xefcdab89, 0x98badcfe, 0x10325476, 0xc3d2e1f0]

def md5 (s : List Nat) : List Nat :=
  let w : Words := ⟨32, true⟩
  let table := (sines 64).toArray
  let turns := #[#[7, 12, 17, 22], #[5, 9, 14, 20], #[4, 11, 16, 23], #[6, 10, 15, 21]]
  let block (h : List Nat) (m : List Nat) : List Nat :=
    let m := m.toArray
    let step (row : Nat × Nat × Nat × Nat) (i : Nat) : Nat × Nat × Nat × Nat :=
      let (a, b, c, d) := row
      let (mix, k) :=
        match i / 16 with
        | 0 => (choose 32 b c d, i)
        | 1 => (choose 32 d b c, 5 * i + 1)
        | 2 => (b ^^^ c ^^^ d, 3 * i + 5)
        | _ => (c ^^^ (b ||| inverse 32 d), 7 * i)
      let sum := plus 32 [a, mix, table.getD i 0, m.getD (k % 16) 0]
      (d, plus 32 [b, turned 32 ((turns.getD (i / 16) #[]).getD (i % 4) 0) sum], b, c)
    let start (i : Nat) : Nat := h[i]?.getD 0
    let (a, b, c, d) := (List.range 64).foldl step (start 0, start 1, start 2, start 3)
    (h.zip [a, b, c, d]).map fun (x, y) => plus 32 [x, y]
  ((w.blocks s).foldl block (startWords.take 4)).flatMap w.write

/-- The digest of five words. -/
def sha1 (s : List Nat) : List Nat :=
  let w : Words := ⟨32, false⟩
  let constants := #[2, 3, 5, 10].map fun n => root 2 34 (n <<< 60)
  let block (h : List Nat) (m : List Nat) : List Nat :=
    let widen (ws : Array Nat) (i : Nat) : Array Nat :=
      let at_ (k : Nat) : Nat := ws.getD (i + 16 - k) 0
      ws.push (turned 32 1 (at_ 3 ^^^ at_ 8 ^^^ at_ 14 ^^^ at_ 16))
    let schedule := (List.range 64).foldl widen m.toArray
    let step (row : List Nat) (i : Nat) : List Nat :=
      match row with
      | [a, b, c, d, e] =>
        let mix :=
          match i / 20 with
          | 0 => choose 32 b c d
          | 2 => majority b c d
          | _ => b ^^^ c ^^^ d
        let next := plus 32 [turned 32 5 a, mix, e, constants.getD (i / 20) 0, schedule.getD i 0]
        [next, a, turned 32 30 b, c, d]
      | _ => row
    let out := (List.range 80).foldl step h
    (h.zip out).map fun (x, y) => plus 32 [x, y]
  ((w.blocks s).foldl block startWords).flatMap w.write

/-! ## Eight words -/

/-- A digest of eight words. -/
structure Family where
  bits : Nat
  rounds : Nat
  /-- How far words are turned in a round, and in the schedule; there the last amount shifts. -/
  first : List Nat
  second : List Nat
  older : List Nat
  newer : List Nat

namespace Family

def short : Family := ⟨32, 64, [2, 13, 22], [6, 11, 25], [7, 18, 3], [17, 19, 10]⟩

def long : Family := ⟨64, 80, [28, 34, 39], [14, 18, 41], [1, 8, 7], [19, 61, 6]⟩

def mixed (f : Family) (amounts : List Nat) (x : Nat) : Nat :=
  amounts.foldl (fun y k => y ^^^ turned f.bits (f.bits - k) x) 0

/-- A word turned to the right by two amounts and shifted by a third, all put together. -/
def spread (f : Family) (amounts : List Nat) (x : Nat) : Nat :=
  f.mixed (amounts.take 2) x ^^^ x >>> (amounts[2]?.getD 0)

/-- The digest that starts with some words and keeps so many of them. -/
def digest (f : Family) (start : List Nat) (kept : Nat) (s : List Nat) : List Nat :=
  let w : Words := ⟨f.bits, false⟩
  let constants := ((primes.take f.rounds).map (fraction 3 f.bits)).toArray
  let block (h : List Nat) (m : List Nat) : List Nat :=
    let widen (ws : Array Nat) (i : Nat) : Array Nat :=
      let at_ (k : Nat) : Nat := ws.getD (i + 16 - k) 0
      ws.push (plus f.bits [at_ 16, f.spread f.older (at_ 15), at_ 7, f.spread f.newer (at_ 2)])
    let schedule := (List.range (f.rounds - 16)).foldl widen m.toArray
    let step (row : List Nat) (i : Nat) : List Nat :=
      match row with
      | [a, b, c, d, e, g, h, k] =>
        let t := plus f.bits
          [k, f.mixed f.second e, choose f.bits e g h, constants.getD i 0, schedule.getD i 0]
        [plus f.bits [t, f.mixed f.first a, majority a b c], a, b, c, plus f.bits [d, t], e, g, h]
      | _ => row
    let out := (List.range f.rounds).foldl step h
    (h.zip out).map fun (x, y) => plus f.bits [x, y]
  (((w.blocks s).foldl block start).take kept).flatMap w.write

end Family

def sha224 : List Nat → List Nat :=
  Family.short.digest (((primes.take 16).drop 8).map fun p => fraction 2 64 p % 1 <<< 32) 7

def sha256 : List Nat → List Nat :=
  Family.short.digest ((primes.take 8).map (fraction 2 32)) 8

def sha384 : List Nat → List Nat :=
  Family.long.digest (((primes.take 16).drop 8).map (fraction 2 64)) 6

def sha512 : List Nat → List Nat :=
  Family.long.digest ((primes.take 8).map (fraction 2 64)) 8

def text (digest : List Nat) : String :=
  String.ofList (digest.flatMap fun b => [Nat.digitChar (b / 16), Nat.digitChar (b % 16)])

/-! ## Sums -/

def remainder (s : List Nat) : Nat :=
  let shift (r : Nat) (_ : Nat) : Nat :=
    if r &&& 0x80000000 ≠ 0 then ((r <<< 1) % 1 <<< 32) ^^^ 0x04c11db7 else r <<< 1
  let step (r b : Nat) : Nat := (List.range 8).foldl shift (r ^^^ b <<< 24)
  let length := (bytes 8 s.length).reverse.dropWhile (· = 0)
  inverse 32 ((s ++ length.reverse).foldl step 0)

def turnedSum (s : List Nat) : Nat :=
  s.foldl (fun r b => plus 16 [turned 16 15 r, b]) 0

def foldedSum (s : List Nat) : Nat :=
  let n := plus 32 s
  let r := n % 65536 + n / 65536
  r % 65536 + r / 65536

end Digest

end InlineRemote.Shell
