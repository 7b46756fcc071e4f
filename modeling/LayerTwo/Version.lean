import LayerTwo.Failure
import LayerTwo.Toml.Document

/-! The version of the library: the one that is installed, else the one that the project file of a
checkout declares, else a fixed one. -/
namespace LayerTwo

def Toml.Item.typeName : Toml.Item → String
  | .text _ => "str"
  | .integer _ => "int"
  | .float _ => "float"
  | .boolean _ => "bool"
  | .moment .date _ => "datetime.date"
  | .moment .time _ => "datetime.time"
  | .moment .dateTime _ => "datetime.datetime"
  | .array _ => "list"
  | .table _ => "dict"

/-- What stands at a name. -/
def Toml.Item.member (name : String) : Toml.Item → Except Failure Toml.Item
  | .table entries =>
    match entries.lookup name with
    | some item => .ok item
    | none => .error (.missingKey name)
  | .text _ => .error (.badType .textIndex)
  | .array _ => .error (.badType (.sequenceIndex "list"))
  | item => .error (.badType (.notSubscriptable item.typeName))

namespace Version

def fallback : String := "0.1.0"

/-- What is missing gives way to the fixed version. -/
def orFallback : Except Failure Toml.Item → Except Failure Toml.Item
  | .error (.missingKey _) => .ok (.text fallback)
  | result => result

/-- What a document holds at the version of its project. -/
def ofTable (table : Toml.Table) : Except Failure Toml.Item :=
  orFallback ((Toml.Item.table table).member "project" >>= Toml.Item.member "version")

/-- The version that a project file declares, whatever its form. A file that is no TOML document
gives way to the fixed version; one that is no text at all does not. -/
def declared (file : List UInt8) : Except Failure Toml.Item :=
  match Text.strictUtf8 file with
  | .error fault => .error (.undecodable fault)
  | .ok text =>
    match Toml.read text.toList with
    | .error .malformed => .ok (.text fallback)
    | .error (.tooLong digits) => .error (.badValue (.integerTooLong digits))
    | .error .tooDeep => .error .tooDeep
    | .ok table => ofTable table

def resolve (installed? : Option String) (projectFile? : Option (List UInt8)) :
    Except Failure Toml.Item :=
  match installed?, projectFile? with
  | some version, _ => .ok (.text version)
  | none, some file => declared file
  | none, none => .ok (.text fallback)

end Version

end LayerTwo
