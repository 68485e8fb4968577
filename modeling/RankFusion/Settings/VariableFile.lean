import RankFusion.Text.Digit

/-!
This module contains files of variables. A line declares a variable with or without a text, which
may be in quotation marks and may refer to other variables. A line that declares nothing is left
out.
-/

namespace RankFusion.VariableFile

def isSpace (c : Char) : Bool := isBlank c || (0x1c ≤ c.toNat && c.toNat ≤ 0x1f)

def isGap (c : Char) : Bool := isSpace c && c != '\n'

def unifyBreaks : List Char → List Char
  | '\r' :: '\n' :: cs => '\n' :: unifyBreaks cs
  | '\r' :: cs => '\n' :: unifyBreaks cs
  | c :: cs => c :: unifyBreaks cs
  | [] => []

def dropLine (cs : List Char) : List Char := (cs.dropWhile (· != '\n')).drop 1

def dropExport : List Char → List Char
  | 'e' :: 'x' :: 'p' :: 'o' :: 'r' :: 't' :: c :: cs =>
    if isGap c then cs.dropWhile isGap else 'e' :: 'x' :: 'p' :: 'o' :: 'r' :: 't' :: c :: cs
  | cs => cs

/--
The name of a variable and what follows it. A comment has none. If there is no name, only what is
there is returned.
-/
def readName : List Char → Except (List Char) (Option String × List Char)
  | '#' :: cs => .ok (none, '#' :: cs)
  | '\'' :: cs =>
    match cs.takeWhile (· != '\''), cs.dropWhile (· != '\'') with
    | c :: name, _ :: rest => .ok (some (String.ofList (c :: name)), rest)
    | _, _ => .error ('\'' :: cs)
  | cs =>
    let isName (c : Char) : Bool := c != '=' && c != '#' && !isSpace c
    match cs.takeWhile isName with
    | [] => .error cs
    | name => .ok (some (String.ofList name), cs.dropWhile isName)

/--
The text up to a quotation mark and what follows that. A backslash keeps a quotation mark from
ending the text, if another one does.
-/
def quotedBody (mark : Char) : List Char → Option (List Char × List Char)
  | [] => none
  | [c] => if c = mark then some ([], []) else none
  | c :: d :: cs =>
    if c = mark then some ([], d :: cs)
    else if c = '\\' ∧ d = mark then
      match quotedBody mark cs with
      | some (body, rest) => some (c :: d :: body, rest)
      | none => some ([c], cs)
    else (quotedBody mark (d :: cs)).map fun (body, rest) => (c :: body, rest)

/--
The character that a letter behind a backslash stands for. Between single quotation marks there are
only the backslash and that mark.
-/
def escape? (mark letter : Char) : Option Char :=
  if letter = '\\' ∨ letter = '\'' then some letter
  else if mark = '\'' then none
  else
    match letter with
    | '"' => some '"'
    | 'a' => some '\x07'
    | 'b' => some '\x08'
    | 'f' => some '\x0c'
    | 'n' => some '\n'
    | 'r' => some '\r'
    | 't' => some '\t'
    | 'v' => some '\x0b'
    | _ => none

def unescape (mark : Char) : List Char → List Char
  | '\\' :: c :: cs =>
    match escape? mark c with
    | some x => x :: unescape mark cs
    | none => '\\' :: unescape mark (c :: cs)
  | c :: cs => c :: unescape mark cs
  | [] => []

def dropComment : List Char → List Char
  | [] => []
  | c :: cs =>
    if isSpace c && (cs.dropWhile isSpace).head? == some '#' then [] else c :: dropComment cs

def trimEnd (cs : List Char) : List Char := (cs.reverse.dropWhile isSpace).reverse

/--
The text of a variable and what follows it. If there is none, only what is there is returned.
-/
def readText (cs : List Char) : Except (List Char) (List Char × List Char) :=
  let quoted (mark : Char) (body : List Char) : Except (List Char) (List Char × List Char) :=
    match quotedBody mark body with
    | some (body, rest) => .ok (unescape mark body, rest)
    | none => .error cs
  match cs with
  | '\'' :: body => quoted '\'' body
  | '"' :: body => quoted '"' body
  | cs => .ok (trimEnd (dropComment (cs.takeWhile (· != '\n'))), cs.dropWhile (· != '\n'))

def endLine (cs : List Char) : Except (List Char) (List Char) :=
  match cs.dropWhile isGap with
  | [] => .ok []
  | '\n' :: rest => .ok rest
  | '#' :: rest => .ok (dropLine rest)
  | _ => .error cs

/--
A declaration, if the line has one, and what follows it. If the line is none, only the part of it
that cannot be read and what follows are returned.
-/
def readDeclaration (cs : List Char) :
    Except (List Char) (Option (String × Option String) × List Char) := do
  let (name, cs) ← readName (dropExport cs)
  let (text, cs) ← match cs.dropWhile isGap with
    | '=' :: cs => (readText (cs.dropWhile isGap)).map fun (text, rest) =>
        (some (String.ofList text), rest)
    | cs => .ok (none, cs)
  return (name.map fun name => (name, text), ← endLine cs)

def declarations : (count : Nat) → List Char → List (String × Option String)
  | 0, _ => []
  | n + 1, cs =>
    match cs.dropWhile isSpace with
    | [] => []
    | cs =>
      match readDeclaration cs with
      | .ok (some d, rest) => d :: declarations n rest
      | .ok (none, rest) => declarations n rest
      | .error rest => declarations n (dropLine rest)

def reference? (cs : List Char) : Option (List Char × List Char × List Char) :=
  let isName (c : Char) : Bool := c != '\x7d' && c != ':'
  let name := cs.takeWhile isName
  match cs.dropWhile isName with
  | '\x7d' :: rest => some (name, [], rest)
  | ':' :: '-' :: more =>
    match more.dropWhile (· != '\x7d') with
    | _ :: rest => some (name, more.takeWhile (· != '\x7d'), rest)
    | [] => none
  | _ => none

/--
A text with its references replaced, of which only as many characters as the count count. Without a
variable of the name the text that stands in for it is taken.
-/
def expand (textOf? : String → Option String) : (count : Nat) → List Char → List Char
  | 0, cs => cs
  | _, [] => []
  | n + 1, '$' :: '\x7b' :: cs =>
    match reference? cs with
    | some (name, standIn, rest) =>
      ((textOf? (String.ofList name)).map String.toList).getD standIn ++ expand textOf? n rest
    | none => '$' :: expand textOf? n ('\x7b' :: cs)
  | n + 1, c :: cs => c :: expand textOf? n cs

/--
A list of names and data with another one. One of the same name keeps its place.
-/
def define {α : Type} (name : String) (x : α) : List (String × α) → List (String × α)
  | [] => [(name, x)]
  | d :: ds => if d.1 == name then (name, x) :: ds else d :: define name x ds

/--
The text of a variable that was declared before, or else in an environment. A variable without a
text has the empty one.
-/
def textOf? (declared : List (String × Option String)) (environment : List (String × String))
    (name : String) : Option String :=
  match declared.lookup name with
  | some text => some (text.getD "")
  | none => environment.lookup name

def read (environment : List (String × String)) (text : String) : List (String × Option String) :=
  let cs := unifyBreaks text.toList
  (declarations (cs.length + 1) cs).foldl (fun declared d =>
    let text := d.2.map fun text =>
      String.ofList (expand (textOf? declared environment) text.length text.toList)
    define d.1 text declared) []

end RankFusion.VariableFile
