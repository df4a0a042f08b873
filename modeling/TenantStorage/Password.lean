/-!
# Passwords from a stream of random words

A password has eight characters, two of them digits and six of them letters, in any order.  It is made
from 64-bit words: each choice among `n` possibilities takes the upper half of a product with
`n` and rejects the words that would make some choices more likely than others.

* `Words.below` — a number below `n`, from the words themselves or from their lower halves.
* `Password.generate` — two digits and six letters, then shuffled.
* `SplitMix.words` — a deterministic stream of words.
-/

namespace TenantStorage

/-- What is left of a stream of random words.  Nothing can be drawn when it has run out. -/
abbrev Words := List UInt64

namespace Words

/-- The number of binary digits of `n`. -/
def bitLength (n : Nat) : Nat := if n = 0 then 0 else Nat.log2 n + 1

/-- The largest lower half of a product that is accepted, for words of `bits` bits: the largest multiple of
    `n` by a power of two that fits, less one. -/
def zone (bits n : Nat) : Nat := n * Nat.pow 2 (bits - bitLength n) - 1

/-- A number below `n` from the first word whose product with `n` has an accepted lower half.  Of each word the
    lowest `bits` bits count. -/
def below (bits n : Nat) : Words → Option (Nat × Words)
  | [] => none
  | word :: rest =>
    let size := Nat.pow 2 bits
    let product := word.toNat % size * n
    if product % size ≤ zone bits n then some (product / size, rest) else below bits n rest

end Words

namespace Password

/-- The number of characters. -/
def length : Nat := 8

/-- The number of digits. -/
def digitCount : Nat := 2

/-- The digits to choose from. -/
def digits : List Char := "0123456789".toList

/-- The letters to choose from. -/
def letters : List Char := "abcdefghijklmnopqrstuvwxyzABCDEFGHIJKLMNOPQRSTUVWXYZ".toList

/-- Chooses `count` characters independently. -/
def choose (alphabet : List Char) : (count : Nat) → Words → Option (List Char × Words)
  | 0, words => some ([], words)
  | count + 1, words => do
    let (i, words) ← words.below 64 alphabet.length
    let c ← alphabet[i]?
    let (rest, words) ← choose alphabet count words
    return (c :: rest, words)

/-- Exchanges two positions. -/
def swap (cs : List Char) (i j : Nat) : List Char :=
  match cs[i]?, cs[j]? with
  | some a, some b => (cs.set i b).set j a
  | _, _ => cs

/-- Exchanges position `i` with one at or before it, then goes on with the position before, down to 1. -/
def shuffle : (i : Nat) → List Char → Words → Option (List Char × Words)
  | 0, cs, words => some (cs, words)
  | i + 1, cs, words => do
    let (j, words) ← words.below 32 (i + 2)
    shuffle i (swap cs (i + 1) j) words

/-- A password, and the words that are left. -/
def generate (words : Words) : Option (String × Words) := do
  let (ds, words) ← choose digits digitCount words
  let (ls, words) ← choose letters (length - digitCount) words
  let (cs, words) ← shuffle (length - 1) (ds ++ ls) words
  return (String.ofList cs, words)

/-- Several passwords in a row, and the words that are left. -/
def generateMany : (count : Nat) → Words → Option (List String × Words)
  | 0, words => some ([], words)
  | count + 1, words => do
    let (first, words) ← generate words
    let (rest, words) ← generateMany count words
    return (first :: rest, words)

/-- Whether a text looks like a generated password: eight ASCII characters, two digits and six letters. -/
def hasShape (text : String) : Bool :=
  let cs := text.toList
  cs.length == length && cs.countP Char.isDigit == digitCount &&
    cs.countP Char.isAlpha == length - digitCount

end Password

namespace SplitMix

/-- The word of a state. -/
def mix (state : UInt64) : UInt64 :=
  let z := (state ^^^ (state >>> 30)) * 0xBF58476D1CE4E5B9
  let z := (z ^^^ (z >>> 27)) * 0x94D049BB133111EB
  z ^^^ (z >>> 31)

/-- The first `count` words after a seed. -/
def words (seed : UInt64) : (count : Nat) → Words
  | 0 => []
  | count + 1 =>
    let state := seed + 0x9E3779B97F4A7C15
    mix state :: words state count

/-- The `index`-th of a sequence of passwords that are all drawn from words of their own. -/
def password (seed : UInt64) (index : Nat) : String :=
  match Password.generate (words (seed + UInt64.ofNat index * 0xD1B54A32D192ED03) 512) with
  | some (password, _) => password
  | none => ""

end SplitMix

end TenantStorage
