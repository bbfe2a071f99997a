import Clearance.Text.LowerTable

/-!
# Lower-casing

Lower-casing of a whole text. Every letter is mapped by the table, with two exceptions. `İ` becomes
an `i` and a combining dot. A capital sigma becomes the final form `ς` when it ends a word: the last
character that counts before it is a letter with a case, and the next one that counts after it is
not.
-/

namespace Clearance.Text

/-- Whether one of the runs holds the character. -/
def inRuns (runs : List (Nat × Nat)) (c : Char) : Bool :=
  runs.any fun (first, last) => first ≤ c.toNat && c.toNat ≤ last

/-- Whether the letter lies on the run. -/
def CaseRun.covers (r : CaseRun) (n : Nat) : Bool :=
  r.first ≤ n && n ≤ r.last && (n - r.first) % r.stride == 0

/-- The lower case of one letter, taken by itself. -/
def lowerLetter (c : Char) : List Char :=
  if c.toNat == 0x130 then ['i', '\u0307']
  else match caseRuns.find? (·.covers c.toNat) with
    | some r => [Char.ofNat (c.toNat + r.shift).toNat]
    | none => [c]

/-- Whether the first character that counts is a letter with a case. -/
def meetsCased (s : List Char) : Bool :=
  match s.dropWhile (inRuns unseenRuns) with
  | [] => false
  | c :: _ => inRuns casedRuns c

/-- Lower-cases `s`, which stands after the reverse of `before`. -/
def lowerAfter (before : List Char) : List Char → List Char
  | [] => []
  | c :: rest =>
    let here :=
      if c.toNat == 0x3A3 then
        if meetsCased before && !meetsCased rest then ['ς'] else ['σ']
      else lowerLetter c
    here ++ lowerAfter (c :: before) rest

/-- The text in lower case. -/
def lower (s : List Char) : List Char :=
  lowerAfter [] s

end Clearance.Text
