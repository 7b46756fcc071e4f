import LayerTwo.Abi.Packing
import LayerTwo.Payload.ParseError
import LayerTwo.Schema.Checked

/-! Everything that can go wrong, by its cause. Each failure has one message, unless it shows an
integer that has too many digits for that. -/
namespace LayerTwo

/-- The input of a model has issues. -/
structure ValidationError where
  kind : Kind
  issues : List Schema.Issue

/-- Why a contract interface is not loaded. -/
inductive LoadFault where
  | unknown (name : Value)
  | unhashable (typeName : String)

def unhashableMessage (typeName : String) : String := "unhashable type: '" ++ typeName ++ "'"

def LoadFault.message? : LoadFault → Option String
  | .unknown name => do
    return "Unknown contract interface: " ++ (← name.text?) ++
      " (known: " ++ ", ".intercalate (Abi.Interface.all.map (·.name)) ++ ")"
  | .unhashable typeName => some (unhashableMessage typeName)

inductive EncodingFault where
  | load (interface : Value) (fault : LoadFault)
  | pack (fault : Abi.PackFault)

/-- A call of the given function that could not be encoded. -/
structure EncodingError where
  function : Value
  fault : EncodingFault

def EncodingError.message? (error : EncodingError) : Option String :=
  match error.fault with
  | .load interface fault => do
    return "Failed to load " ++ (← interface.text?) ++ " ABI: " ++ (← fault.message?)
  | .pack _ => do return "Failed to pack " ++ (← error.function.text?) ++ " function"

/-- A value of the right type that cannot be used. -/
inductive BadValue where
  | address (fault : Address.Fault)
  | negativeQuantity (value : Value)
  | unknownInterface (name : Value)
  | noBridge
  | unknownNetwork (name : Value) (known : List String)
  | integerLiteral (value : Value)
  | integerTooLong (digits : Nat)
  | unprintable
  | integerOfNan
  | negativeCount
  | byteOutOfRange
  | variableName
  | nullByte

/-- The characters that are shown of a literal that is no integer, and the bytes that it is made of
if it is a byte string. -/
def literalWidth : Nat := 200

def BadValue.message? : BadValue → Option String
  | .address fault => fault.message?
  | .negativeQuantity value => do
    return "Quantity must be non-negative, got " ++ (← value.text?)
  | .unknownInterface name => LoadFault.message? (.unknown name)
  | .noBridge => some "Token withdrawal requires bridge_address or a default L2 bridge"
  | .unknownNetwork name known => do
    return "Unknown network: " ++ (← name.text?) ++ ". Available networks: " ++
      ", ".intercalate known
  | .integerLiteral value => do
    return "invalid literal for int() with base 10: " ++
      String.ofList ((← value.literal?).toList.take literalWidth)
  | .integerTooLong digits => some (Decimal.unreadMessage digits)
  | .unprintable => some Decimal.unwrittenMessage
  | .integerOfNan => some "cannot convert float NaN to integer"
  | .negativeCount => some "negative count"
  | .byteOutOfRange => some "bytes must be in range(0, 256)"
  | .variableName => some "illegal environment variable name"
  | .nullByte => some "embedded null byte"

/-- A value of a type that does not support what is asked of it. -/
inductive BadType where
  | unhashable (typeName : String)
  | incomparable (typeName : String)
  | notInteger (typeName : String)
  | notNumeric (typeName : String)
  | notSubscriptable (typeName : String)
  | textIndex
  | sequenceIndex (typeName : String)
  | notAssignable (typeName : String)
  | notIterable (typeName : String)
  | textAsBytes
  | notBytes (typeName : String)
  | notBytesLike
  | notCallable (typeName : String)
  | notText (typeName : String)

def BadType.message : BadType → String
  | .unhashable typeName => unhashableMessage typeName
  | .incomparable typeName =>
    "'<' not supported between instances of '" ++ typeName ++ "' and 'int'"
  | .notInteger typeName => "'" ++ typeName ++ "' object cannot be interpreted as an integer"
  | .notNumeric typeName =>
    "int() argument must be a string, a bytes-like object or a real number, not '" ++
      typeName ++ "'"
  | .notSubscriptable typeName => "'" ++ typeName ++ "' object is not subscriptable"
  | .textIndex => "string indices must be integers, not 'str'"
  | .sequenceIndex typeName => typeName ++ " indices must be integers or slices, not str"
  | .notAssignable typeName => "'" ++ typeName ++ "' object does not support item assignment"
  | .notIterable typeName => "'" ++ typeName ++ "' object is not iterable"
  | .textAsBytes => "string argument without an encoding"
  | .notBytes typeName => "cannot convert '" ++ typeName ++ "' object to bytes"
  | .notBytesLike => "a bytes-like object is required, not 'str'"
  | .notCallable typeName => "'" ++ typeName ++ "' object is not callable"
  | .notText typeName => "str expected, not " ++ typeName

/-- A number beyond what can be represented. -/
inductive BadNumber where
  | integerOfInfinity
  | byteCount
  | byteString

def BadNumber.message : BadNumber → String
  | .integerOfInfinity => "cannot convert float infinity to integer"
  | .byteCount => "cannot fit 'int' into an index-sized integer"
  | .byteString => "byte string is too large"

inductive Failure where
  | parse (error : ParseError)
  | encoding (error : EncodingError)
  | invalid (error : ValidationError)
  | badValue (cause : BadValue)
  | badType (cause : BadType)
  | badNumber (cause : BadNumber)
  | undecodable (fault : Text.DecodeFault)
  | missingKey (key : String)
  | noAttribute (typeName member : String)
  | tooDeep
  | outOfMemory
  | invalidArgument

/-- The issues of an input are reported one by one; their common message counts them. -/
def Failure.message? : Failure → Option String
  | .parse error => error.message?
  | .encoding error => error.message?
  | .invalid error =>
    some (toString error.issues.length ++ " validation errors for " ++ error.kind.title)
  | .badValue cause => cause.message?
  | .badType cause => some cause.message
  | .badNumber cause => some cause.message
  | .undecodable fault => some fault.message
  | .missingKey key => some (Value.quote key)
  | .noAttribute typeName member =>
    some ("'" ++ typeName ++ "' object has no attribute '" ++ member ++ "'")
  | .tooDeep => some "nested too deeply"
  | .outOfMemory => some ""
  | .invalidArgument => some "[Errno 22] Invalid argument"

/-- A failure over a value that cannot be shown is of the same kind as the failure to show it, and
has the message of that one. -/
def Failure.message (failure : Failure) : String :=
  failure.message?.getD Decimal.unwrittenMessage

def LoadFault.failure : LoadFault → Failure
  | .unknown name => .badValue (.unknownInterface name)
  | .unhashable typeName => .badType (.unhashable typeName)

/-- The outcome of checking the input of a model of the given kind. -/
def Schema.Checked.result {α : Type} (kind : Kind) : Checked α → Except Failure α
  | .ok a => .ok a
  | .faulty issues => .error (.invalid ⟨kind, issues⟩)

end LayerTwo
