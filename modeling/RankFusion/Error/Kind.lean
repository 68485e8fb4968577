/-!
This module contains the kinds of errors and the relation that says which kind is a special case of
which.
-/

namespace RankFusion

/--
The kinds of errors. A caller tells errors apart by kind only.
-/
inductive ErrorKind where
  /-- Any error. -/
  | exception
  /-- Any error of this library. -/
  | library
  /-- Malformed or missing configuration. -/
  | configuration
  /-- A failed query operation. -/
  | query
  /-- Results that cannot be fused. -/
  | fusion
  /-- A parameter outside its range. -/
  | invalidParameter
  /-- A column that a batch lacks. -/
  | missingColumn
  /-- A column of a type that cannot be merged or reordered. -/
  | unsupportedColumnType
  /-- A failed sub-search. -/
  | subSearch
  /-- A sub-search that took too long. -/
  | searchTimeout
  /-- A missing key. -/
  | key
  /-- An operand of the wrong kind. -/
  | type
  /-- An operand of the right kind and an unfit value. -/
  | value
  /-- A number that a conversion cannot hold. -/
  | overflow
  /-- A position outside a sequence. -/
  | index
  /-- A missing attribute. -/
  | noAttribute
  /-- A failure of the system that the program runs on. -/
  | system
  /-- A missing file. -/
  | fileNotFound
  /-- A directory in the place of a file. -/
  | isDirectory
  /-- A file in the place of a directory. -/
  | notDirectory
  /-- An attempt to change what is fixed. -/
  | frozen
  /-- A failure during a run. -/
  | runtime
  /-- An elapsed deadline. -/
  | timeout
  /-- Columnar data that do not fit their type. -/
  | dataInvalid
  /-- Columnar data of the wrong kind. -/
  | dataType
  /-- A row position outside a column. -/
  | dataIndex
  /-- An operation that the columnar format lacks. -/
  | dataNotImplemented
  /-- A request or a setting that breaks its rules. -/
  | validation
  /-- An environment value that cannot be read. -/
  | settings
  deriving DecidableEq, Repr

namespace ErrorKind

def parents : ErrorKind → List ErrorKind
  | exception => []
  | library => [exception]
  | configuration => [library]
  | query => [library]
  | fusion => [query]
  | invalidParameter => [fusion, value]
  | missingColumn => [fusion, key]
  | unsupportedColumnType => [fusion, type]
  | subSearch => [query]
  | searchTimeout => [subSearch]
  | dataInvalid => [value]
  | dataType => [type]
  | dataIndex => [index]
  | dataNotImplemented => [runtime]
  | validation => [value]
  | settings => [value]
  | frozen => [noAttribute]
  | fileNotFound | isDirectory | notDirectory => [system]
  | _ => [exception]

def ancestorsWithin (steps : Nat) (k : ErrorKind) : List ErrorKind :=
  match steps with
  | 0 => [k]
  | n + 1 => k :: (k.parents.flatMap (ancestorsWithin n))

/--
The kind itself and every kind it is a special case of. No kind is more than five steps below the
most general one.
-/
def ancestors (k : ErrorKind) : List ErrorKind := ancestorsWithin 5 k

/--
Whether a handler for the second kind also takes errors of the first.
-/
def isA (k other : ErrorKind) : Bool := other ∈ k.ancestors

end ErrorKind

end RankFusion
