import RankFusion.Error.Kind
import RankFusion.Error.Issue

/-!
This module contains the causes of failures, their kinds and their texts.
-/

namespace RankFusion

inductive ParameterFault where
  /-- A number that has to be greater than zero is not. -/
  | notPositive (name : String) (value : Value)
  /-- A number that has to be zero or greater is not. -/
  | negative (name : String) (value : Value)
  /-- The fusion constant is not greater than zero. -/
  | fusionConstant (value : Value)
  /-- The share of the vector side is not between zero and one. -/
  | share (value : Value)
  /-- A rank weight is not between zero and one. -/
  | rankWeight (name : String) (value : Value)
  /-- The rank weights do not sum to one. -/
  | weightSum (total : Value)
  /-- There is no strategy of this name. -/
  | unknownMethod (method : Value)
  /-- The parameters are not those of the strategy, or not numbers. -/
  | methodParameters (method : String) (cause : String)
  /-- There is no distance metric of this name. -/
  | unknownDistance (value : Value)
  /-- The bounds of adaptive probing are out of order. -/
  | probeOrder (minimum maximum : Value)
  /-- The bounds on the distance are out of order. -/
  | rangeOrder (lower upper : Value)
  /-- The query is not a text. -/
  | queryKind (kind : String)
  /-- The query vector has no components. -/
  | emptyVector
  /-- The strategy of a query is not one. -/
  | notReranker (kind : String)
  /-- A projection is neither a list nor a mapping. -/
  | projectionKind (kind : String)
  /-- An additional query vector differs in dimension. -/
  | dimension (actual expected : Nat)

def ParameterFault.shown : ParameterFault → List Value
  | notPositive _ value | negative _ value | fusionConstant value | share value
  | rankWeight _ value | weightSum value | unknownMethod value | unknownDistance value => [value]
  | probeOrder minimum maximum => [minimum, maximum]
  | rangeOrder lower upper => [lower, upper]
  | _ => []

def ParameterFault.message : ParameterFault → String
  | notPositive name value => name ++ " must be positive, got " ++ value.plain
  | negative name value => name ++ " must be non-negative, got " ++ value.plain
  | fusionConstant value => "k must be greater than 0, got " ++ value.plain
  | share value => "weight must be between 0 and 1, got " ++ value.plain
  | rankWeight name value => name ++ " must be between 0.0 and 1.0, got " ++ value.plain
  | weightSum total => "weight_vector + weight_fts must equal 1.0, got " ++ total.plain
  | unknownMethod method =>
    "Unsupported rerank method: " ++ method.plain ++ ". Supported methods: rrf, linear, mrr"
  | methodParameters method cause => "Invalid parameters for " ++ method ++ " reranker: " ++ cause
  | unknownDistance value => "Unsupported distance type: " ++ value.plain
  | probeOrder minimum maximum =>
    "minimum_nprobes (" ++ minimum.plain ++ ") must be <= maximum_nprobes (" ++ maximum.plain ++ ")"
  | rangeOrder lower upper =>
    "distance_range lower bound (" ++ lower.plain ++ ") must be < upper bound (" ++
      upper.plain ++ ")"
  | queryKind kind => "query must be a string, got " ++ kind
  | emptyVector => "vector must contain at least one dimension"
  | notReranker kind => "reranker must be a Reranker, got " ++ kind
  | projectionKind kind => "select expects a list or a dict, got " ++ kind
  | dimension actual expected =>
    s!"Additional query vector has dimension {actual}, expected {expected}"

inductive ColumnFault where
  /-- No column, or more than one, has the name. -/
  | missing (column : String) (available : List String)
  /-- The column has a type that cannot be merged or reordered. -/
  | unsupported (column type : String)
  /-- The row identifiers are not 64 bit unsigned integers. -/
  | rowIdType (type : String)
  /-- A distance or score is not a number. -/
  | notNumeric (column type : String)
  /-- The two sides of a merge give a column different types. -/
  | mismatch (column first second : String)

def ColumnFault.message : ColumnFault → String
  | missing column available =>
    "Expected column '" ++ column ++ "' not found. Found columns: [" ++
      ", ".intercalate available ++ "]"
  | unsupported column type =>
    "Reranker does not support Arrow type '" ++ type ++ "' (column '" ++ column ++
      "'). Supported types: UInt64, Int32, Int64, Float, Double, String, Boolean."
  | rowIdType type => "Row identifier column '_rowid' must be uint64, got '" ++ type ++ "'"
  | notNumeric column type => "Column '" ++ column ++ "' must be numeric, got '" ++ type ++ "'"
  | mismatch column first second =>
    "Column '" ++ column ++ "' has mismatched types across result sets: '" ++ first ++ "' vs '" ++
      second ++ "'"

def ColumnFault.kind : ColumnFault → ErrorKind
  | missing .. => .missingColumn
  | _ => .unsupportedColumnType

inductive OperandFault where
  /-- The two kinds have no order. -/
  | unordered (operator left right : String)
  /-- The kind has no conversion to a number. -/
  | notNumber (kind : String)
  /-- The kind has no conversion to an integer. -/
  | notWhole (kind : String)
  /-- The kind is no text. -/
  | notText (kind : String)
  /-- The text is not a number. -/
  | notNumeral (value : Value)
  /-- The integer is beyond the largest double precision value. -/
  | tooLargeForReal
  /-- The quotient of two integers is beyond the largest double precision value. -/
  | quotientTooLarge
  /-- The integer is beyond the 64 bit range of a conversion. -/
  | tooLargeForWord
  /-- The integer is beyond the largest size of a sequence. -/
  | tooLargeForSize
  /-- An infinity has no integer. -/
  | infiniteInteger
  /-- NaN has no integer. -/
  | nanInteger
  /-- The text is not an integer in the notation of a base. -/
  | notIntegral (value : Value) (base : Nat := 10)
  /-- The text shows an integer with more digits than the limit. -/
  | tooManyDigits (limit count : Nat)
  /-- A text would have to show an integer with more digits than the limit. -/
  | unprintable (limit : Nat)
  /-- There is no such year. -/
  | noYear (number : Nat)
  /-- A part of a date or a time of the day is not in its range. -/
  | momentPart (part range : String)
  /-- The month has no such day. -/
  | dayOfMonth
  /-- A time differs by a day or more from that at the first meridian. -/
  | zoneOffset (minutes : Int)
  /-- The number is that of no character. -/
  | noCharacter
  /-- The integer is beyond the 32 bit range of a conversion. -/
  | tooLargeForCharacter
  /-- Nested lists agree in length on the outer levels only, where they are of the given shape. -/
  | ragged (shape : List Nat)
  /-- Lists are nested in more levels than the limit. -/
  | tooDeep (limit : Nat)
  /-- The kind is not an integer. -/
  | notInteger
  /-- A fractional number stands where an integer is needed. -/
  | fractionalIndex (kind : String)
  /-- The kind has no length. -/
  | noLength (kind : String)
  /-- The kind has no items. -/
  | notIterable (kind : String)
  /-- The kind cannot be a key. -/
  | unhashable (kind : String)
  /-- A kind without items stands where a pair is needed. -/
  | notUnpackable (kind : String)
  /-- A pair has too few items. -/
  | tooFewItems (expected actual : Nat)
  /-- A pair has too many items. -/
  | tooManyItems (expected : Nat)
  /-- A call has a keyword that is no parameter. -/
  | unexpectedKeyword (callee keyword : String)
  /-- A call gives a parameter twice. -/
  | repeatedArgument (callee parameter : String)
  /-- The keywords of a call are no texts. -/
  | keywordKind
  /-- A call lacks a parameter. -/
  | missingArgument (callee parameter : String)
  /-- A call has more arguments than it takes, the least and the most number of which are given. -/
  | tooManyArguments (callee : String) (least most actual : Nat)
  /-- A mapping lacks a key. -/
  | missingKey (key : String)
  /-- An enumeration has no such member. -/
  | notMember (value : Value) (enumeration : String)
  /-- A kind has no such attribute. -/
  | missingAttribute (kind name : String)
  /-- A new column has a wrong number of values. -/
  | columnLength (column : String) (values rows : Nat)
  /-- A capacity is not positive. -/
  | capacity (value : Value)
  /-- The number of workers is not positive. -/
  | workers
  /-- The pool of workers takes no more work. -/
  | closedPool
  /-- The field is fixed. -/
  | frozenField (name : String)
  /-- An attribute belongs to a kind and not to its values. -/
  | sharedAttribute (kind name : String)
  /-- An attribute is computed. -/
  | noSetter (kind name : String)
  /-- An attribute cannot be written. -/
  | readOnly (name kind : String)
  /-- The class of a value is no other datum. -/
  | notClass (name kind : String)
  /-- The attributes of a value are no other datum than a mapping. -/
  | notAttributes (name kind : String)
  /-- The kind has no parts under names. -/
  | notKeyed (kind : String)
  /-- A mapping lacks a position as a key. -/
  | missingPosition (position : Nat)
  /-- A table of scores lacks a row identifier. -/
  | missingId (id : Int)
  /-- The operands have no sum or difference. -/
  | noArithmetic (operator left right : String)
  /-- The kind has no rounding. -/
  | noRounding (kind : String)

def OperandFault.shown : OperandFault → List Value
  | notMember value _ | capacity value => [value]
  | _ => []

/--
A number of minutes that is not zero inside an error text: the days, rounded down, and the seconds
that are left.
-/
def durationText (minutes : Int) : String :=
  let days := minutes / (24 * 60)
  let seconds := 60 * (minutes % (24 * 60))
  let parts := (if days = 0 then [] else [s!"days={days}"]) ++
    (if seconds = 0 then [] else [s!"seconds={seconds}"])
  "datetime.timedelta(" ++ ", ".intercalate parts ++ ")"

/--
The number of characters that an error text shows of a text that is no integer.
-/
def shownLength : Nat := 200

def shapeText : List Nat → String
  | [n] => s!"({n},)"
  | ns => "(" ++ ", ".intercalate (ns.map toString) ++ ")"

def OperandFault.message : OperandFault → String
  | unordered operator left right =>
    "'" ++ operator ++ "' not supported between instances of '" ++ left ++ "' and '" ++ right ++ "'"
  | notNumber kind => "float() argument must be a string or a real number, not '" ++ kind ++ "'"
  | notWhole kind =>
    "int() argument must be a string, a bytes-like object or a real number, not '" ++ kind ++ "'"
  | notText kind => "expected string or bytes-like object, got '" ++ kind ++ "'"
  | notNumeral value => "could not convert string to float: " ++ value.render
  | tooLargeForReal => "int too large to convert to float"
  | quotientTooLarge => "integer division result too large for a float"
  | tooLargeForWord => "Python int too large to convert to C long"
  | tooLargeForSize => "Python int too large to convert to C ssize_t"
  | infiniteInteger => "cannot convert float infinity to integer"
  | nanInteger => "cannot convert float NaN to integer"
  | notIntegral value base =>
    s!"invalid literal for int() with base {base}: " ++
      String.ofList (value.render.toList.take shownLength)
  | tooManyDigits limit count =>
    s!"Exceeds the limit ({limit} digits) for integer string conversion: value has {count} " ++
      "digits; use sys.set_int_max_str_digits() to increase the limit"
  | unprintable limit =>
    s!"Exceeds the limit ({limit} digits) for integer string conversion; use " ++
      "sys.set_int_max_str_digits() to increase the limit"
  | noYear number => s!"year {number} is out of range"
  | momentPart part range => part ++ " must be in " ++ range
  | dayOfMonth => "day is out of range for month"
  | zoneOffset minutes =>
    "offset must be a timedelta strictly between -timedelta(hours=24) and timedelta(hours=24), " ++
      "not " ++ durationText minutes ++ "."
  | noCharacter => "chr() arg not in range(0x110000)"
  | tooLargeForCharacter => "Python int too large to convert to C int"
  | ragged shape =>
    "setting an array element with a sequence. The requested array has an inhomogeneous shape " ++
      s!"after {shape.length} dimensions. The detected shape was " ++ shapeText shape ++
      " + inhomogeneous part."
  | tooDeep limit =>
    "setting an array element with a sequence. The requested array would exceed the maximum " ++
      s!"number of dimension of {limit}."
  | notInteger => "an integer is required"
  | fractionalIndex kind => "'" ++ kind ++ "' object cannot be interpreted as an integer"
  | noLength kind => "object of type '" ++ kind ++ "' has no len()"
  | notIterable kind => "'" ++ kind ++ "' object is not iterable"
  | notUnpackable kind => "cannot unpack non-iterable " ++ kind ++ " object"
  | unhashable kind => "unhashable type: '" ++ kind ++ "'"
  | tooFewItems expected actual =>
    s!"not enough values to unpack (expected {expected}, got {actual})"
  | tooManyItems expected => s!"too many values to unpack (expected {expected})"
  | unexpectedKeyword callee keyword =>
    callee ++ "() got an unexpected keyword argument '" ++ keyword ++ "'"
  | repeatedArgument callee parameter =>
    callee ++ "() got multiple values for argument '" ++ parameter ++ "'"
  | keywordKind => "keywords must be strings"
  | missingArgument callee parameter =>
    callee ++ "() missing 1 required positional argument: '" ++ parameter ++ "'"
  | tooManyArguments callee least most actual =>
    let takes := if least = most then toString most else s!"from {least} to {most}"
    let noun := if least = most ∧ most = 1 then "argument" else "arguments"
    callee ++ "() takes " ++ takes ++ " positional " ++ noun ++ s!" but {actual} were given"
  | missingKey key => quoted key
  | notMember value enumeration => value.render ++ " is not a valid " ++ enumeration
  | missingAttribute kind name =>
    "'" ++ kind ++ "' object has no attribute '" ++ name ++ "'"
  | columnLength column values rows => s!"Column '{column}' has {values} values for {rows} rows"
  | capacity value => "max_size must be positive, got " ++ value.plain
  | workers => "max_workers must be greater than 0"
  | closedPool => "cannot schedule new futures after shutdown"
  | frozenField name => "cannot assign to field " ++ quoted name
  | sharedAttribute kind name =>
    quoted name ++ " is a ClassVar of \x60" ++ kind ++ "\x60 and cannot be set on an instance. " ++
      "If you want to set a value on the class, use \x60" ++ kind ++ "." ++ name ++ " = value\x60."
  | noSetter kind name => "property '" ++ name ++ "' of '" ++ kind ++ "' object has no setter"
  | readOnly name kind => "attribute '" ++ name ++ "' of '" ++ kind ++ "' objects is not writable"
  | notClass name kind => name ++ " must be set to a class, not '" ++ kind ++ "' object"
  | notAttributes name kind => name ++ " must be set to a dictionary, not a '" ++ kind ++ "'"
  | notKeyed "str" => "string indices must be integers, not 'str'"
  | notKeyed "list" => "list indices must be integers or slices, not str"
  | notKeyed "bytes" => "byte indices must be integers or slices, not str"
  | notKeyed kind => "'" ++ kind ++ "' object is not subscriptable"
  | missingPosition position => toString position
  | missingId id => toString id
  | noArithmetic operator left right =>
    "unsupported operand type(s) for " ++ operator ++ ": '" ++ left ++ "' and '" ++ right ++ "'"
  | noRounding kind => "type " ++ kind ++ " doesn't define __round__ method"

def OperandFault.kind : OperandFault → ErrorKind
  | notNumeral _ | nanInteger | notIntegral .. | noYear _ | momentPart .. | dayOfMonth
  | notMember .. | tooFewItems .. | tooManyItems _ | columnLength .. | capacity _ | ragged _
  | tooDeep _ | tooManyDigits .. | unprintable _ | zoneOffset _ | noCharacter | workers => .value
  | tooLargeForReal | quotientTooLarge | tooLargeForWord | tooLargeForSize | tooLargeForCharacter
  | infiniteInteger => .overflow
  | missingKey _ | missingPosition _ | missingId _ => .key
  | missingAttribute .. | sharedAttribute .. | noSetter .. | readOnly .. => .noAttribute
  | closedPool => .runtime
  | frozenField _ => .frozen
  | _ => .type

inductive SearchFault where
  | noVector
  | noQueryText
  | severalTextColumns (columns : Value)
  | computedColumn (expression : String)
  | rowIdKey (collection : String)
  | failed (side cause : String)

def SearchFault.shown : SearchFault → List Value
  | severalTextColumns columns => [columns]
  | _ => []

def SearchFault.message : SearchFault → String
  | noVector => "Vector search requires a query vector"
  | noQueryText => "Full-text search requires a query string"
  | severalTextColumns columns =>
    "Milvus full-text search runs on a single sparse field, got " ++ columns.plain
  | computedColumn expression =>
    "Milvus does not support computed columns, got '" ++ expression ++ "'"
  | rowIdKey collection =>
    "Row identifiers require an integer primary key in '" ++ collection ++ "'"
  | failed side cause => side ++ " search failed: " ++ cause

/--
Columnar data that an operation cannot take. Their texts are the columnar format's own, except
those that also reach the log of a query.
-/
inductive DataFault where
  /-- A row position is outside the column. -/
  | rowPosition
  /-- A slice starts before the first row. -/
  | negativeOffset
  /-- A slice bound is not an integer. -/
  | sliceBound (kind : String)
  /-- The type has no order. -/
  | unsortable
  /-- A field is looked up by a name that occurs more than once. -/
  | ambiguousField
  /-- A datum does not fit the type. -/
  | invalid
  /-- A datum is of the wrong kind for the type. -/
  | wrongKind
  /-- An integer is outside the range of the type. -/
  | outOfRange
  /-- NaN stands where an integer is needed. -/
  | nanInteger
  /-- The name of a field is not a text. -/
  | fieldName (kind : String)

def DataFault.kind : DataFault → ErrorKind
  | rowPosition => .dataIndex
  | negativeOffset => .index
  | sliceBound _ => .type
  | unsortable => .dataNotImplemented
  | ambiguousField => .key
  | invalid => .dataInvalid
  | wrongKind => .dataType
  | outOfRange => .overflow
  | nanInteger => .value
  | fieldName _ => .type

def DataFault.message : DataFault → String
  | sliceBound kind => (OperandFault.fractionalIndex kind).message
  | fieldName kind => "expected bytes, " ++ kind ++ " found"
  | _ => ""

inductive FileFault where
  | missing (path : Value)
  | directory (path : Value)
  /-- The path goes on behind a file. -/
  | behindFile (path : Value)
  /-- The path contains the character that ends paths. -/
  | nullCharacter
  /-- The kind is no path. -/
  | notPath (kind : String)
  /-- The kind is no path, and no number of an open file. -/
  | notLocation (kind : String)
  /-- No open file has the number. -/
  | notOpen
  /-- No open file has a negative number. -/
  | negativeNumber
  /-- The number is beyond the 32 bit range. -/
  | largeNumber
  | smallNumber

def FileFault.message : FileFault → String
  | missing path => "[Errno 2] No such file or directory: " ++ path.render
  | directory path => "[Errno 21] Is a directory: " ++ path.render
  | behindFile path => "[Errno 20] Not a directory: " ++ path.render
  | nullCharacter => "embedded null byte"
  | notPath kind => "expected str, bytes or os.PathLike object, not " ++ kind
  | notLocation kind =>
    "stat: path should be string, bytes, os.PathLike or integer, not " ++ kind
  | notOpen => "[Errno 9] Bad file descriptor"
  | negativeNumber => "negative file descriptor"
  | largeNumber => "fd is greater than maximum"
  | smallNumber => "fd is less than minimum"

def FileFault.kind : FileFault → ErrorKind
  | missing _ => .fileNotFound
  | directory _ => .isDirectory
  | behindFile _ => .notDirectory
  | nullCharacter | negativeNumber => .value
  | notPath _ | notLocation _ => .type
  | notOpen => .system
  | largeNumber | smallNumber => .overflow

inductive SettingsFault where
  | malformedFile (name : String)
  | notMapping (name kind : String)
  | malformedSection (name source : String)
  | unreadableField (name source : String)
  /-- A file stands where a directory is needed. -/
  | secretsFile

def SettingsFault.message : SettingsFault → String
  | malformedFile name => "Invalid YAML in " ++ name
  | notMapping name kind =>
    "Settings file " ++ name ++ " must contain a mapping, got " ++ kind
  | malformedSection name source =>
    "error parsing value for field \"" ++ name ++ "\" from source \"" ++ source ++ "\""
  | unreadableField name source =>
    "error getting value for field \"" ++ name ++ "\" from source \"" ++ source ++ "\""
  | secretsFile => "secrets_dir must reference a directory, not a file"

def SettingsFault.kind : SettingsFault → ErrorKind
  | malformedSection .. | unreadableField .. | secretsFile => .settings
  | _ => .configuration

inductive Failure where
  | parameter (fault : ParameterFault)
  | column (fault : ColumnFault)
  | operand (fault : OperandFault)
  | search (fault : SearchFault)
  /-- A sub-search on one side was not answered within the given number of seconds. -/
  | timedOut (side : String) (seconds : Value)
  | data (fault : DataFault)
  | file (fault : FileFault)
  | settings (fault : SettingsFault)
  /-- A request or settings with issues. -/
  | invalid (issues : List Issue)
  /-- An error that was raised outside the library. -/
  | raised (kind : ErrorKind) (text : String)

namespace Failure

def kind : Failure → ErrorKind
  | parameter _ => .invalidParameter
  | column fault => fault.kind
  | operand fault => fault.kind
  | search _ => .subSearch
  | timedOut .. => .searchTimeout
  | data fault => fault.kind
  | file fault => fault.kind
  | settings fault => fault.kind
  | invalid _ => .validation
  | raised kind _ => kind

def message : Failure → String
  | parameter fault => fault.message
  | column fault => fault.message
  | operand fault => fault.message
  | search fault => fault.message
  | timedOut side seconds => side ++ " search timed out after " ++ seconds.plain ++ " seconds"
  | data fault => fault.message
  | file fault => fault.message
  | settings fault => fault.message
  | invalid _ => ""
  | raised kind text => if kind = .key then quoted text else text

def shown : Failure → List Value
  | parameter fault => fault.shown
  | operand fault => fault.shown
  | search fault => fault.shown
  | timedOut _ seconds => [seconds]
  | _ => []

def unprintable : Failure := operand (.unprintable Numeral.digitLimit)

/--
A failure whose text is made where it occurs. If the text cannot show its data, that is the failure.
-/
def worded (f : Failure) : Failure := if f.shown.all Value.isPrintable then f else unprintable

/--
The failure of an error of a given kind that was raised outside with a given text. A missing column
is named by the text.
-/
def ofRaised (kind : ErrorKind) (text : String) : Failure :=
  if kind = .missingColumn then column (.missing text []) else raised kind text

end Failure

end RankFusion
