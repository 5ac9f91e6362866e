import FieldFilter.Text.Pieces

/-! Punycode, which writes any name in ASCII letters, digits and hyphens. The ASCII characters come
first. The others follow, after the last hyphen, as numbers of varying length; each number says how
far to go on to the next insertion, which counts first the places in the name and then the code
points.
-/

namespace FieldFilter.Url.Punycode

def base : Nat := 36

/-- The value of a digit: a letter in either case, then the decimal digits. -/
def digit? (n : Nat) : Option Nat :=
  if 0x61 ≤ n ∧ n ≤ 0x7A then some (n - 0x61)
  else if 0x41 ≤ n ∧ n ≤ 0x5A then some (n - 0x41)
  else if 0x30 ≤ n ∧ n ≤ 0x39 then some (n - 0x30 + 26)
  else none

/-- The least digit after which a number goes on, at a place of the number. -/
def threshold (bias place : Nat) : Nat :=
  if place ≤ bias then 1 else if bias + 26 ≤ place then 26 else place - bias

/-- A distance scaled down, and how much the bias grows by it. -/
def scaled (distance growth : Nat) : Nat × Nat :=
  if 455 < distance then scaled (distance / 35) (growth + base) else (distance, growth)
termination_by distance
decreasing_by omega

/-- The bias after a distance, with `count` characters in the name. -/
def adapted (distance count : Nat) (isFirst : Bool) : Nat :=
  let halved := if isFirst then distance / 700 else distance / 2
  let (distance, growth) := scaled (halved + halved / count) 0
  growth + base * distance / (distance + 38)

/-- One number, from its lowest digit on, and the digits after it. -/
def readNumber? (bias place weight sum : Nat) : List Nat → Option (Nat × List Nat)
  | [] => none
  | c :: rest =>
    match digit? c with
    | none => none
    | some d =>
      if d < threshold bias place then some (sum + d * weight, rest)
      else
        readNumber? bias (place + base) (weight * (base - threshold bias place))
          (sum + d * weight) rest

/-- A number uses up a digit at least. -/
theorem length_lt_of_readNumber? {bias place weight sum n : Nat} {digits rest : List Nat}
    (h : readNumber? bias place weight sum digits = some (n, rest))
    : rest.length < digits.length := by
  induction digits generalizing place weight sum with
  | nil => simp [readNumber?] at h
  | cons c digits ih =>
    simp only [readNumber?] at h
    split at h
    · cases h
    · split at h
      · cases h
        simp
      · exact Nat.lt_trans (ih h) (by simp)

def isCharacter (n : Nat) : Bool :=
  n < 0xD800 || (0xDFFF < n && n < 0x110000)

/-- The name after the insertions that some digits spell, of which the first is sought from a code
point and a place on. -/
def insertAll (bias code place : Nat) (name digits : List Nat) : Option (List Nat) :=
  if digits.isEmpty then some name
  else match h : readNumber? bias base 1 0 digits with
    | none => none
    | some (distance, rest) =>
      have : rest.length < digits.length := length_lt_of_readNumber? h
      let count := name.length + 1
      let position := place + distance
      let code := code + position / count
      if isCharacter code then
        insertAll (adapted distance count (place = 0)) code (position % count + 1)
          (name.insertIdx (position % count) code) rest
      else none
termination_by digits.length

/-- The texts before and after the last hyphen; a hyphen in front is no separator. -/
def splitBasic (cs : List Nat) : List Nat × List Nat :=
  match Text.splitBefore (· == 0x2D) cs.reverse with
  | (digits, _ :: c :: basic) => ((c :: basic).reverse, digits.reverse)
  | _ => ([], cs)

def decode? (cs : List Nat) : Option (List Nat) :=
  let (basic, digits) := splitBasic cs
  if basic.all (· < 0x80) then insertAll 72 128 0 basic digits else none

end FieldFilter.Url.Punycode
