import Folio.Text.Hexadecimal

/-!
# Socket addresses

A socket address is an address and a port: `127.0.0.1:8080`, `[::1]:8080`, `[fe80::1%3]:80`.

* `readNumber`: a bounded number in a given base.
* `readIpv4`, `readIpv6`: the two kinds of addresses.
* **`isSocketAddress`**: is a text a socket address, from end to end?
-/

namespace Folio.SocketAddress

/-- The value of a digit in base ten or sixteen. -/
def digit? (base : Nat) (c : Char) : Option Nat :=
  let n := hexDigit c
  if (c == '0' || n > 0) && n < base then some n else none

/-- A number of at most `limit`, with at most `maxDigits` digits if that is given; the digits
must not begin with a needless zero unless `zeros` allows it. -/
def readNumber (base limit : Nat) (maxDigits : Option Nat) (zeros : Bool) (cs : List Char) :
    Option (Nat × List Char) :=
  let digits := cs.takeWhile fun c => (digit? base c).isSome
  let value := digits.foldl (fun n c => n * base + (digit? base c).getD 0) 0
  if digits.isEmpty || value > limit then none
  else if maxDigits.any (digits.length > ·) then none
  else if !zeros && digits.head? == some '0' && digits.length > 1 then none
  else some (value, cs.drop digits.length)

/-- The character `c`. -/
def readGiven (c : Char) : List Char → Option (List Char)
  | [] => none
  | d :: rest => if c = d then some rest else none

/-- One part of a dotted address. -/
def readOctet (cs : List Char) : Option (Nat × List Char) :=
  readNumber 10 255 (some 3) false cs

/-- An address of four parts. -/
def readIpv4 (cs : List Char) : Option (List Char) := do
  let (_, cs) ← readOctet cs
  let cs ← readGiven '.' cs
  let (_, cs) ← readOctet cs
  let cs ← readGiven '.' cs
  let (_, cs) ← readOctet cs
  let cs ← readGiven '.' cs
  let (_, cs) ← readOctet cs
  return cs

/-- Up to `room` groups, the first without a colon before it if `first`. The answer tells how many
were read and whether the last two were written as a dotted address. -/
def readGroups (first : Bool) : Nat → List Char → Nat × Bool × List Char
  | 0, cs => (0, false, cs)
  | room + 1, cs =>
    let opened := if first then some cs else readGiven ':' cs
    let dotted := if room = 0 then none else opened.bind readIpv4
    match dotted with
    | some rest => (2, true, rest)
    | none =>
      match opened.bind (readNumber 16 0xFFFF (some 4) true) with
      | none => (0, false, cs)
      | some (_, rest) =>
        let (n, ended, rest) := readGroups false room rest
        (n + 1, ended, rest)

/-- An address of eight groups, some of which a double colon may stand for. -/
def readIpv6 (cs : List Char) : Option (List Char) :=
  let (n, dotted, rest) := readGroups true 8 cs
  if n = 8 then some rest
  else if dotted then none
  else do
    let rest ← readGiven ':' rest
    let rest ← readGiven ':' rest
    let (_, _, rest) := readGroups true (7 - n) rest
    return rest

/-- A colon and a port. -/
def readPort (cs : List Char) : Option (List Char) := do
  let cs ← readGiven ':' cs
  let (_, cs) ← readNumber 10 0xFFFF none true cs
  return cs

/-- A percent sign and a scope, if there is one. -/
def readScope (cs : List Char) : List Char :=
  match (readGiven '%' cs).bind (readNumber 10 0xFFFFFFFF none true) with
  | some (_, rest) => rest
  | none => cs

/-- An address of the first kind with its port. -/
def readV4 (cs : List Char) : Option (List Char) :=
  (readIpv4 cs).bind readPort

/-- An address of the second kind between brackets, with its port. -/
def readV6 (cs : List Char) : Option (List Char) := do
  let cs ← readGiven '[' cs
  let cs ← readIpv6 cs
  let cs ← readGiven ']' (readScope cs)
  readPort cs

/-- **Is the text a socket address?** -/
def isSocketAddress (text : String) : Bool :=
  let cs := text.toList
  match readV4 cs with
  | some rest => rest.isEmpty
  | none => readV6 cs == some []

end Folio.SocketAddress
