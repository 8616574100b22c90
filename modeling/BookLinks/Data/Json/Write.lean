import BookLinks.Data.Value
/-! Writing values as JSON text. Strings are written in ASCII: quote, backslash and the
usual control characters get short escapes, every other character outside space to tilde
a `\u` escape of four lower-case hexadecimal digits, a pair of them beyond the basic plane.
Layout is compact with a space after each comma and colon, or indented with one item per
line; keys may be sorted. -/
namespace BookLinks.Data.Json

structure Layout where
  /-- Spaces per level, or none for text on one line. -/
  indent : Option Nat
  /-- Whether the entries of a mapping are written in the order of their keys. -/
  sortKeys : Bool
  deriving Repr

/-- One line, entries in their own order. -/
def Layout.compact : Layout := ⟨none, false⟩

def hex4 (n : Nat) : List Char :=
  let d (k : Nat) : Char := Nat.digitChar ((n / Nat.pow 16 k) % 16)
  [d 3, d 2, d 1, d 0]

def escapeChar (c : Char) : List Char :=
  match c with
  | '"' => ['\\', '"']
  | '\\' => ['\\', '\\']
  | '\n' => ['\\', 'n']
  | '\r' => ['\\', 'r']
  | '\t' => ['\\', 't']
  | '\x08' => ['\\', 'b']
  | '\x0c' => ['\\', 'f']
  | _ =>
    let n := c.toNat
    if 0x20 ≤ n ∧ n ≤ 0x7E then [c]
    else if n < 0x10000 then '\\' :: 'u' :: hex4 n
    else
      let m := n - 0x10000
      '\\' :: 'u' :: hex4 (0xD800 + m / 0x400) ++ '\\' :: 'u' :: hex4 (0xDC00 + m % 0x400)

def quote (s : String) : String :=
  String.ofList ('"' :: s.toList.flatMap escapeChar ++ ['"'])

/-- The text of a key: strings as they are, other keys as their JSON scalar text. -/
def keyText : Value → String
  | .str s => s
  | .bool true => "true"
  | .bool false => "false"
  | .null => "null"
  | .int n => Decimal.intText n
  | .float x => Decimal.floatText .data x
  | _ => ""

/-- Brackets around written items, on one line or one item per line. -/
def wrap (layout : Layout) (depth : Nat) (open_ close : String) (parts : List String) : String :=
  match layout.indent with
  | none => open_ ++ ", ".intercalate parts ++ close
  | some n =>
    let inner := "\n" ++ String.ofList (List.replicate (n * (depth + 1)) ' ')
    let outer := "\n" ++ String.ofList (List.replicate (n * depth) ' ')
    open_ ++ inner ++ ("," ++ inner).intercalate parts ++ outer ++ close

/-- The text of a value at nesting `depth`. -/
def render (layout : Layout) (depth : Nat) : Value → String
  | .null => "null"
  | .bool true => "true"
  | .bool false => "false"
  | .int n => Decimal.intText n
  | .float x => Decimal.floatText .data x
  | .str s => quote s
  | .bytes _ => "null"
  | .date _ _ _ => "null"
  | .stamp _ => "null"
  | .list [] => "[]"
  | .list items =>
    wrap layout depth "[" "]" (items.attach.map (fun ⟨v, _⟩ => render layout (depth + 1) v))
  | .map [] => "{}"
  | .map entries =>
    let parts := entries.attach.map (fun ⟨(k, v), _⟩ => (keyText k, render layout (depth + 1) v))
    let parts := if layout.sortKeys then parts.mergeSort (fun a b => decide (a.1 ≤ b.1))
      else parts
    wrap layout depth "\x7b" "\x7d" (parts.map (fun p => quote p.1 ++ ": " ++ p.2))
termination_by v => sizeOf v
decreasing_by
  · have := List.sizeOf_lt_of_mem ‹_›
    simp only [Value.list.sizeOf_spec]; omega
  · have := List.sizeOf_lt_of_mem ‹_›
    simp only [Value.map.sizeOf_spec, Prod.mk.sizeOf_spec] at this ⊢; omega

def write (layout : Layout) (v : Value) : String := render layout 0 v

end BookLinks.Data.Json
