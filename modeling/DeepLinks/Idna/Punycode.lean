import DeepLinks.Text.Pieces

/-!
# Punycode

The ASCII form of a label: its ASCII characters, a hyphen if there are any, and then, for the
other characters in ascending order, the distances between the places where a decoder inserts
them, as numbers of variable length to base 36. Each loop has a measure of its own: the number
that is written, or the digits that remain to be read.
-/

namespace DeepLinks.Idna.Punycode

def digitChar (d : Nat) : Char :=
  if d < 26 then Char.ofNat ('a'.toNat + d) else Char.ofNat ('0'.toNat + d - 26)

def digit? (c : Char) : Option Nat :=
  if 'a' ≤ c ∧ c ≤ 'z' then some (c.toNat - 'a'.toNat)
  else if '0' ≤ c ∧ c ≤ '9' then some (c.toNat - '0'.toNat + 26)
  else none

/-- The least digit that continues a number, at the position that the multiple `k` of 36 gives. -/
def threshold (bias k : Nat) : Nat :=
  if k ≤ bias then 1 else if bias + 26 ≤ k then 26 else k - bias

theorem one_le_threshold (bias k : Nat) : 1 ≤ threshold bias k := by
  simp only [threshold]; split
  · omega
  · split <;> omega

theorem threshold_le (bias k : Nat) : threshold bias k ≤ 26 := by
  simp only [threshold]; split
  · omega
  · split <;> omega

/-- Divides a distance by 35 until it is small, and counts 36 for each division. -/
def scale (delta : Nat) : Nat × Nat :=
  if delta ≤ 455 then (delta, 0)
  else
    let r := scale (delta / 35)
    (r.1, r.2 + 36)
termination_by delta

/-- The bias after a distance, given how many characters stand now. -/
def adapt (delta count : Nat) (first : Bool) : Nat :=
  let damped := if first then delta / 700 else delta / 2
  let r := scale (damped + damped / count)
  r.2 + 36 * r.1 / (r.1 + 38)

/-- The digits of a number from position `k` on. -/
def digits (bias k n : Nat) : List Char :=
  let t := threshold bias k
  if n < t then [digitChar n]
  else digitChar (t + (n - t) % (36 - t)) :: digits bias (k + 36) ((n - t) / (36 - t))
termination_by n
decreasing_by
  have := one_le_threshold bias k
  have := Nat.div_le_self (n - threshold bias k) (36 - threshold bias k)
  omega

structure Encoder where
  output : List Char
  delta : Nat
  bias : Nat
  /-- How many characters of the label are written. -/
  written : Nat

/-- Passes a character of the label while characters with code `code` are being written. -/
def Encoder.pass (basic code : Nat) (e : Encoder) (c : Char) : Encoder :=
  if c.toNat < code then { e with delta := e.delta + 1 }
  else if c.toNat = code then
    { output := e.output ++ digits e.bias 36 e.delta
      delta := 0
      bias := adapt e.delta (e.written + 1) (e.written == basic)
      written := e.written + 1 }
  else e

/-- Writes the characters with the given codes, in ascending order; `next` is the least code that
may come. -/
def Encoder.run (label : List Char) (basic : Nat) : List Nat → Nat → Encoder → Encoder
  | [], _, e => e
  | code :: codes, next, e =>
    let e := { e with delta := e.delta + (code - next) * (e.written + 1) }
    let e := label.foldl (pass basic code) e
    run label basic codes (code + 1) { e with delta := e.delta + 1 }

def encode (label : List Char) : List Char :=
  let basic := label.filter (·.toNat < 0x80)
  let codes := ((label.filter (0x80 ≤ ·.toNat)).map Char.toNat).mergeSort.eraseDups
  let e := Encoder.run label basic.length codes 0x80 ⟨[], 0, 72, basic.length⟩
  basic ++ (if basic.isEmpty then [] else ['-']) ++ e.output

/-- Numbers and weights stay below this bound. -/
def bound : Nat := 0x100000000

/-- Reads one number: adds its digits by weight to `n`, and leaves what follows. -/
def readNumber? (bias : Nat) : List Char → Nat → Nat → Nat → Option (Nat × List Char)
  | [], _, _, _ => none
  | c :: cs, k, weight, n =>
    match digit? c with
    | none => none
    | some d =>
      let t := threshold bias k
      let n := n + d * weight
      if bound ≤ n then none
      else if d < t then some (n, cs)
      else if bound ≤ weight * (36 - t) then none
      else readNumber? bias cs (k + 36) (weight * (36 - t)) n

theorem length_readNumber? {bias : Nat} {cs : List Char} {k weight n : Nat}
    {r : Nat × List Char} (h : readNumber? bias cs k weight n = some r) :
    r.2.length < cs.length := by
  induction cs generalizing k weight n with
  | nil => simp [readNumber?] at h
  | cons c cs ih =>
    simp only [readNumber?] at h
    split at h
    · simp at h
    · split at h
      · simp at h
      · split at h
        · rw [← Option.some.inj h]; simp
        · split at h
          · simp at h
          · have := ih h; simp; omega

structure Decoder where
  output : List Char
  code : Nat
  place : Nat
  bias : Nat

/-- Reads numbers and inserts a character for each. -/
def Decoder.run (d : Decoder) (cs : List Char) : Option (List Char) :=
  if cs = [] then some d.output
  else
    match _h : readNumber? d.bias cs 36 1 d.place with
    | none => none
    | some (n, rest) =>
      let count := d.output.length + 1
      let code := d.code + n / count
      let place := n % count
      if code.isValidChar then
        run
          { output := d.output.insertIdx place (Char.ofNat code)
            code
            place := place + 1
            bias := adapt (n - d.place) count (d.place == 0) } rest
      else none
termination_by cs.length
decreasing_by exact length_readNumber? _h

/-- The label that an ASCII form, without its mark, stands for. -/
def decode? (s : List Char) : Option (List Char) :=
  let extended := s.reverse.takeWhile (· ≠ '-')
  let basic := s.take (s.length - extended.length - 1)
  let rest := if basic.isEmpty then s else extended.reverse
  if basic.all (·.toNat < 0x80) then Decoder.run ⟨basic, 0x80, 0, 72⟩ rest else none

end DeepLinks.Idna.Punycode
