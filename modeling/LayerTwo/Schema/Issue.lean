import LayerTwo.Address

/-! What can be wrong with the input of a model. An issue is a fault and the path to the value it is
about; all issues of an input are reported together. -/
namespace LayerTwo.Schema

inductive Step where
  | key (name : String)
  | index (i : Nat)
deriving DecidableEq

/-- A rule of the domain that a well-typed input breaks. -/
inductive Refusal where
  | address (fault : Address.Fault)
  | nativeAsToken
  | mixedFees

/-- A value that cannot be shown gives way to the reason. -/
def Refusal.message : Refusal → String
  | .address fault => fault.message?.getD Decimal.unwrittenMessage
  | .nativeAsToken => "The zero address denotes the native currency, use NATIVE_CURRENCY"
  | .mixedFees => "gas_price cannot be combined with gas_fee_cap or gas_tip_cap"

inductive Fault where
  | missing | frozen
  | intType | intParsing | intTooLong | intFraction | intNotFinite | negative
  | stringType | stringNotUtf8 | bytesType | tupleType | dictType
  | modelType (kind : Kind)
  | wrongConstant (expected : String)
  | unknownTag (tag : Value) | noTag | untagged
  | refused (refusal : Refusal)

def Fault.code : Fault → String
  | .missing => "missing"
  | .frozen => "frozen_instance"
  | .intType => "int_type"
  | .intParsing => "int_parsing"
  | .intTooLong => "int_parsing_size"
  | .intFraction => "int_from_float"
  | .intNotFinite => "finite_number"
  | .negative => "greater_than_equal"
  | .stringType => "string_type"
  | .stringNotUtf8 => "string_unicode"
  | .bytesType => "bytes_type"
  | .tupleType => "tuple_type"
  | .dictType => "dict_type"
  | .modelType _ => "model_type"
  | .wrongConstant _ => "literal_error"
  | .unknownTag _ => "union_tag_invalid"
  | .noTag => "union_tag_not_found"
  | .untagged => "model_attributes_type"
  | .refused _ => "value_error"

def Fault.message : Fault → String
  | .missing => "Field required"
  | .frozen => "Instance is frozen"
  | .intType => "Input should be a valid integer"
  | .intParsing => "Input should be a valid integer, unable to parse string as an integer"
  | .intTooLong => "Unable to parse input string as an integer, exceeded maximum size"
  | .intFraction => "Input should be a valid integer, got a number with a fractional part"
  | .intNotFinite => "Input should be a finite number"
  | .negative => "Input should be greater than or equal to 0"
  | .stringType => "Input should be a valid string"
  | .stringNotUtf8 => "Input should be a valid string, unable to parse raw data as a unicode string"
  | .bytesType => "Input should be a valid bytes"
  | .tupleType => "Input should be a valid tuple"
  | .dictType => "Input should be a valid dictionary"
  | .modelType kind => "Input should be a valid dictionary or instance of " ++ kind.title
  | .wrongConstant expected => "Input should be '" ++ expected ++ "'"
  | .unknownTag tag =>
    "Input tag '" ++ tag.text?.getD ("<unprintable " ++ tag.typeName ++ " object>") ++
      "' found using 'kind' does not match any of the expected tags: 'native', 'erc20'"
  | .noTag => "Unable to extract tag using discriminator 'kind'"
  | .untagged => "Input should be a valid dictionary or object to extract fields from"
  | .refused refusal => "Value error, " ++ refusal.message

structure Issue where
  path : List Step
  fault : Fault

end LayerTwo.Schema
