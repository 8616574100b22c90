import BookLinks.Text.CaseTables
import BookLinks.Text.Cased
/-! Case conversion of text: case folding for caseless comparison, lower case with the final
form of the capital sigma, upper case, and the simple lower case that patterns use when they
ignore case. -/
namespace BookLinks.Text

namespace CaseRun

/-- The image of `n` under the run, when the run covers `n`. -/
def image? (r : CaseRun) (n : Nat) : Option Nat :=
  if r.first ≤ n ∧ n ≤ r.last ∧ (n - r.first) % r.stride = 0 then
    some (Int.toNat (n + r.shift))
  else none

/-- The image of `n` under the first run of `runs` that covers it. -/
def lookup (runs : Array CaseRun) (n : Nat) : Option Nat :=
  runs.findSome? (fun r => r.image? n)

end CaseRun

/-- Maps one character by a pair of tables: several-character results first, then runs. -/
def mapChar (runs : Array CaseRun) (expansions : List (Nat × List Nat)) (c : Char) :
    List Char :=
  match expansions.lookup c.toNat with
  | some ns => ns.map Char.ofNat
  | none =>
    match CaseRun.lookup runs c.toNat with
    | some n => [Char.ofNat n]
    | none => [c]

def foldChar (c : Char) : List Char := mapChar foldRuns foldExpansions c

def upperChar (c : Char) : List Char := mapChar upperRuns upperExpansions c

def simpleLower (c : Char) : Char :=
  match CaseRun.lookup simpleLowerRuns c.toNat with
  | some n => Char.ofNat n
  | none => c

/-- Case folding of a text, character by character. -/
def caseFold (cs : List Char) : List Char := cs.flatMap foldChar

/-- Upper case of a text, character by character. -/
def upperCase (cs : List Char) : List Char := cs.flatMap upperChar

/-- A capital sigma takes its final form when a cased character comes before it and none
after it, case-ignorable characters being skipped on both sides. -/
def sigmaIsFinal (before after : List Char) : Bool :=
  (match before.dropWhile isCaseIgnorable with
    | c :: _ => isCased c
    | [] => false) &&
  (match after.dropWhile isCaseIgnorable with
    | c :: _ => !isCased c
    | [] => true)

/-- Lower case of the text `rest`, where `before` is the text already passed, reversed. -/
def lowerFrom : List Char → List Char → List Char
  | _, [] => []
  | before, c :: rest =>
    let here :=
      if c = 'Σ' then [if sigmaIsFinal before rest then 'ς' else 'σ']
      else mapChar lowerRuns lowerExpansions c
    here ++ lowerFrom (c :: before) rest

def lowerCase (cs : List Char) : List Char := lowerFrom [] cs

def String.lower (s : String) : String := String.ofList (lowerCase s.toList)

end BookLinks.Text
