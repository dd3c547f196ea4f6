import ScriptLint.Text.Offset

/-! A place in a source text together with what follows it. -/

namespace ScriptLint.Syntax

structure Scan where
  offset : Nat
  rest : List Char
  -- more than the number of characters of the text, for readers that take any number of them
  fuel : Nat
  deriving Repr, Inhabited

namespace Scan

def ofText (text : String) : Scan := ⟨0, text.toList, text.toList.length + 1⟩

def next (scan : Scan) : Scan :=
  match scan.rest with
  | [] => scan
  | c :: rest => { scan with offset := scan.offset + c.utf8Size, rest }

def drop (count : Nat) (scan : Scan) : Scan :=
  match count with
  | 0 => scan
  | count + 1 => scan.next.drop count

def past? (wanted : List Char) (scan : Scan) : Option Scan :=
  match wanted, scan.rest with
  | [], _ => some scan
  | _, [] => none
  | w :: more, c :: _ => if w = c then scan.next.past? more else none

def takeWhile (kind : Char → Bool) (scan : Scan) : List Char × Scan := go scan.rest scan.offset []
where
  go : List Char → Nat → List Char → List Char × Scan
    | [], offset, reversed => (reversed.reverse, { scan with offset, rest := [] })
    | c :: rest, offset, reversed =>
      if kind c then go rest (offset + c.utf8Size) (c :: reversed)
      else (reversed.reverse, { scan with offset, rest := c :: rest })

def skipWhile (kind : Char → Bool) (scan : Scan) : Scan := (scan.takeWhile kind).2

end Scan
end ScriptLint.Syntax
