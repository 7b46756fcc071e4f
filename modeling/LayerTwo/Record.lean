import LayerTwo.Failure

/-! A model as its kind and its named fields. A record that comes from a checked model keeps what
the check established; a changed copy of it promises nothing about the values it holds. Changes that
name no field stay with a copy as extras: an extra hides the member of its name. -/
namespace LayerTwo

/-- The members that the operations on a model go through. -/
inductive Member where
  | params | rpc | call | options | copy | duplicate | configuration
deriving DecidableEq

def Member.name : Member → String
  | .params => "to_tx_params"
  | .rpc => "to_rpc"
  | .call => "to_call_msg"
  | .options => "_gas_fields"
  | .copy => "model_copy"
  | .duplicate => "__copy__"
  | .configuration => "model_config"

structure Record where
  kind : Kind
  fields : Entries
  extras : Entries := []

namespace Record

/-- The value of a field. Every record has all fields of its kind. -/
def get (record : Record) (name : String) : Value := (record.fields.lookup name).getD .null

def toValue (record : Record) : Value := .model record.kind record.fields

/-- The extra that hides a member. -/
def hidden? (record : Record) (member : Member) : Option Value := record.extras.lookup member.name

/-- Goes to a member. No extra can stand for it. -/
def call (record : Record) (member : Member) : Except Failure Unit :=
  match record.hidden? member with
  | none => .ok ()
  | some value => .error (.badType (.notCallable value.typeName))

theorem call_eq_ok {record : Record} (bare : record.extras = []) (member : Member) :
    record.call member = .ok () := by
  simp [call, hidden?, bare]

/-- Goes to the configuration, for which a table can stand. -/
def configure (record : Record) : Except Failure Unit :=
  match record.hidden? .configuration with
  | none | some (.dict _) => .ok ()
  | some value => .error (.noAttribute value.typeName "get")

/-- The record with some fields replaced; what is no field of it joins the extras. -/
def update (record : Record) (changes : Entries) : Record :=
  { record with
    fields := record.fields.map fun (name, value) => (name, (changes.lookup name).getD value)
    extras := record.extras.insertAll
      (changes.filter fun change => (record.fields.lookup change.1).isNone) }

def copy (record : Record) (changes : Entries) : Except Failure Record := do
  record.call .copy
  record.call .duplicate
  if !changes.isEmpty then record.configure
  return record.update changes

end Record

end LayerTwo
