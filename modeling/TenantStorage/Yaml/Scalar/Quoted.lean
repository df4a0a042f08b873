import TenantStorage.Text.Hex
import TenantStorage.Yaml.Scalar.Plain
import TenantStorage.Yaml.Token

/-!
# Quoted scalars

* In single quotes, a quote is written twice and nothing else is special.
* In double quotes, a backslash starts an escape: of a character, of a code point by its hexadecimal
  digits, or of a line end, which it makes disappear.
-/

namespace TenantStorage.Yaml

namespace Quoted

/-- The character of an escape by letter. -/
def escaped? : Char → Option Char
  | '0' => some '\x00'
  | 'a' => some '\x07'
  | 'b' => some '\x08'
  | 't' | '\t' => some '\t'
  | 'n' => some '\n'
  | 'v' => some '\x0b'
  | 'f' => some '\x0c'
  | 'r' => some '\r'
  | 'e' => some '\x1b'
  | ' ' => some ' '
  | '"' => some '"'
  | '/' => some '/'
  | '\\' => some '\\'
  | 'N' => some '\u0085'
  | '_' => some '\u00a0'
  | 'L' => some '\u2028'
  | 'P' => some '\u2029'
  | _ => none

/-- How many digits an escape by number has. -/
def digits? : Char → Option Nat
  | 'x' => some 2
  | 'u' => some 4
  | 'U' => some 8
  | _ => none

/-- The character with a code point that is written in hexadecimal digits. -/
def numbered? (digits : List Char) : Option Char := do
  let values ← digits.mapM Text.hexValue?
  let n := values.foldl (fun n d => 16 * n + d) 0
  if h : n.isValidChar then some (Char.ofNatAux n h) else none

/-- Reads on in a scalar in single quotes. -/
def readSingle : List Char → Mark → (text : List Char) → Gap → Option Scanned
  | [], _, _, _ => none
  | c :: rest, mark, text, gap =>
    if atBoundary mark (c :: rest) then none
    else if isBlank c then readSingle rest mark.next text (gap.blank c)
    else if isBreak c then readSingle rest mark.nextLine text (gap.newline c)
    else
      let text := gap.fold.reverse ++ text
      if c == '\'' then
        match rest with
        | '\'' :: rest => readSingle rest (mark.advance 2) ('\'' :: text) .empty
        | _ => some ⟨String.ofList text.reverse, ⟨rest, mark.next⟩, false⟩
      else readSingle rest (mark.after c) (c :: text) .empty

/-- Reads on in a scalar in double quotes. -/
def readDouble (cs : List Char) (mark : Mark) (text : List Char) (gap : Gap) : Option Scanned :=
  match cs with
  | [] => none
  | c :: rest =>
    if atBoundary mark (c :: rest) then none
    else if isBlank c then readDouble rest mark.next text (gap.blank c)
    else if isBreak c then readDouble rest mark.nextLine text (gap.newline c)
    else
      let text := gap.fold.reverse ++ text
      if c == '"' then some ⟨String.ofList text.reverse, ⟨rest, mark.next⟩, false⟩
      else if c == '\\' then
        match rest with
        | [] => none
        | e :: rest =>
          if isBreak e then readDouble rest mark.next.nextLine text .escaped
          else
            match digits? e with
            | some n =>
              if (rest.take n).length < n then none
              else
                match numbered? (rest.take n) with
                | some x => readDouble (rest.drop n) (mark.advance (2 + n)) (x :: text) .empty
                | none => none
            | none =>
              match escaped? e with
              | some x => readDouble rest (mark.advance 2) (x :: text) .empty
              | none => none
      else readDouble rest (mark.after c) (c :: text) .empty
termination_by cs.length

/-- Reads the quoted scalar at the cursor, which stands at the opening quote. -/
def scan (style : Style) (cursor : Cursor) : Option Scanned :=
  let inside := cursor.advance 1
  if style = .singleQuoted then readSingle inside.rest inside.mark [] .empty
  else readDouble inside.rest inside.mark [] .empty

end Quoted

end TenantStorage.Yaml
