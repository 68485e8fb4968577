import RankFusion.Error

/-!
This module contains the files that settings can be in, and how a path leads to them.
-/

namespace RankFusion

/--
The files of the current directory: the text under each name. There is nothing else in it.
-/
abbrev Files := List (String × String)

namespace Files

inductive Place where
  | file (text : String)
  | directory
  /-- The path goes on behind a file. -/
  | behindFile
  | nothing

/--
What is at the end of some steps, which start in the current directory or in another one. Nothing
but directories is known to be elsewhere.
-/
def walk (files : Files) (isCurrent : Bool) : List String → Place
  | [] => .directory
  | name :: rest =>
    if name = "" ∨ name = "." then walk files isCurrent rest
    else if name = ".." then walk files false rest
    else
      match if isCurrent then files.lookup name else none with
      | some text => if rest.isEmpty then .file text else .behindFile
      | none => .nothing

/--
What is at the end of a path. The empty path leads nowhere.
-/
def place (files : Files) (path : String) : Place :=
  match path.splitOn "/" with
  | [""] => .nothing
  | "" :: rest => files.walk false rest
  | names => files.walk true names

/--
What is at the end of a path without its empty steps. The empty path is the current directory.
-/
def cleanPlace (files : Files) (path : String) : Place :=
  let names := path.splitOn "/"
  files.walk (names.length ≤ 1 || names.head? != some "")
    (names.filter fun name => name != "" && name != ".")

/--
The path that a datum shows. Each byte of a byte string counts as a character.
-/
def path? : Value → Option String
  | .text s => some s
  | .bytes bs => some (String.ofList (bs.map fun b => Char.ofNat b.toNat))
  | _ => none

/--
Whether something is at the end of a path. A number may stand for an open file, but none is open.
-/
def isPresent (files : Files) (v : Value) : Except Failure Bool :=
  match path? v with
  | some path =>
    match files.place path with
    | .file _ | .directory => .ok true
    | .behindFile | .nothing => .ok false
  | none =>
    match v with
    | .bool _ => .ok false
    | .int n =>
      if 0x80000000 ≤ n then .error (.file .largeNumber)
      else if n < -0x80000000 then .error (.file .smallNumber)
      else .ok false
    | v => .error (.file (.notLocation v.kindName))

def read (files : Files) (v : Value) : Except Failure String :=
  match path? v with
  | some path =>
    if path.toList.contains '\x00' then .error (.file .nullCharacter)
    else
      match files.place path with
      | .file text => .ok text
      | .directory => .error (.file (.directory v))
      | .behindFile => .error (.file (.behindFile v))
      | .nothing => .error (.file (.missing v))
  | none =>
    match v with
    | .int n =>
      if n < -0x80000000 ∨ 0x80000000 ≤ n then .error (.file (.notPath v.kindName))
      else if n < 0 then .error (.file .negativeNumber)
      else .error (.file .notOpen)
    | v => .error (.file (.notPath v.kindName))

end Files

end RankFusion
